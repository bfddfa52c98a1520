import Mathlib.Logic.Function.Basic
import NetGuardian.Foundation.LabelledRun

/-!
# Tasks that share a log

Several tasks, each a step system of its own, add to one log and see what the others
add.  A task joins at some time and finds what has been written by then.  Seen from
one task, a run of all of them is a run of its own in which the others speak up from
time to time; if it is known what each of them may say, then it is known what the one
task has to expect.
-/

namespace SharedLog

open LabelledRun

/-- A task: how it starts on a log, its steps, its view of the log, and the label with
which it sees what somebody else has added. -/
structure Member (State Label Event : Type*) where
  join : List Event → State
  step : State → Label → Option State
  log : State → List Event
  hears : Event → Label

/-- The log, and the tasks that have joined. -/
structure Gathering {Index : Type*} (State : Index → Type*) (Event : Type*) where
  log : List Event
  joined : ∀ index, Option (State index)

inductive Move {Index : Type*} (Label : Index → Type*) where
  | join (index : Index)
  | act (index : Index) (label : Label index)

variable {Index Event : Type*} {State Label : Index → Type*}

/-- The task sees some events, one after the other. -/
def Member.hearAll {State Label : Type*} (member : Member State Label Event)
    (events : List Event) (state : State) : State :=
  events.foldl (fun state event => (member.step state (member.hears event)).getD state)
    state

def empty : Gathering State Event where
  log := []
  joined := fun _ => none

/-- One task joins, or takes a step of its own; all others hear what it adds. -/
def step [DecidableEq Index] (members : ∀ index, Member (State index) (Label index) Event)
    (gathering : Gathering State Event) : Move Label → Option (Gathering State Event)
  | .join index =>
      match gathering.joined index with
      | some _ => none
      | none =>
          some { gathering with
            joined := Function.update gathering.joined index
              (some ((members index).join gathering.log)) }
  | .act index label =>
      match gathering.joined index with
      | none => none
      | some state =>
          ((members index).step state label).map fun next =>
            let news := ((members index).log next).drop gathering.log.length
            { log := gathering.log ++ news
              joined := Function.update
                (fun other => (gathering.joined other).map
                  ((members other).hearAll news)) index (some next) }

/-- Nobody pretends that somebody else has spoken. -/
def Internal (members : ∀ index, Member (State index) (Label index) Event) :
    Gathering State Event → Move Label → Prop
  | _, .join _ => True
  | _, .act index label => ∀ event, label ≠ (members index).hears event

/-- Somebody else may say this. -/
def Others (speaks : Index → Event → Prop) (index : Index) (event : Event) : Prop :=
  ∃ other, other ≠ index ∧ speaks other event

/-- Tasks join on the log as it is, say what they may say, and hear what others may
say. -/
structure Lawful (members : ∀ index, Member (State index) (Label index) Event)
    (speaks : Index → Event → Prop) : Prop where
  joins : ∀ index log, (members index).log ((members index).join log) = log
  distinct : ∀ index, Function.Injective (members index).hears
  hears : ∀ index state event, Others speaks index event →
    ∃ next, (members index).step state ((members index).hears event) = some next ∧
      (members index).log next = (members index).log state ++ [event]
  tells : ∀ index state label next, (∀ event, label ≠ (members index).hears event) →
    (members index).step state label = some next →
      ∃ events, (members index).log next = (members index).log state ++ events ∧
        ∀ event ∈ events, speaks index event

/-- The steps that a task takes itself, and what it hears from others. -/
def Attentive (members : ∀ index, Member (State index) (Label index) Event)
    (speaks : Index → Event → Prop) (index : Index) (_ : State index)
    (label : Label index) : Prop :=
  ∀ event, label = (members index).hears event → Others speaks index event

/-- The log as one task knows it: all of it comes from others before it joins, and
then it is what a run of its own has led to. -/
structure Known (members : ∀ index, Member (State index) (Label index) Event)
    (speaks : Index → Event → Prop) (gathering : Gathering State Event) (index : Index) :
    Prop where
  absent : gathering.joined index = none → ∀ event ∈ gathering.log,
    Others speaks index event
  present : ∀ state, gathering.joined index = some state →
    (members index).log state = gathering.log ∧
      ∃ before labels, (∀ event ∈ before, Others speaks index event) ∧
        Guarded (members index).step (Attentive members speaks index)
          ((members index).join before) labels state

section Projection

variable {members : ∀ index, Member (State index) (Label index) Event}
variable {speaks : Index → Event → Prop}

/-- Listening is a run, which the task goes through without steps of its own. -/
theorem hearAll_run (lawful : Lawful members speaks) {index : Index}
    {first state : State index} {labels : List (Label index)} (events : List Event)
    (others : ∀ event ∈ events, Others speaks index event)
    (run : Guarded (members index).step (Attentive members speaks index) first labels
      state) :
    (members index).log ((members index).hearAll events state) =
        (members index).log state ++ events ∧
      ∃ more, Guarded (members index).step (Attentive members speaks index) first more
        ((members index).hearAll events state) := by
  induction events generalizing state labels with
  | nil => exact ⟨(List.append_nil _).symm, labels, run⟩
  | cons event events ih =>
      obtain ⟨next, heard, log⟩ := lawful.hears index state event
        (others event List.mem_cons_self)
      have attentive : Attentive members speaks index state
          ((members index).hears event) := by
        intro same heardAs
        rw [← lawful.distinct index heardAs]
        exact others event List.mem_cons_self
      have listening : (members index).hearAll (event :: events) state =
          (members index).hearAll events next := by
        rw [Member.hearAll, List.foldl_cons, heard]
        rfl
      obtain ⟨logs, more, extended⟩ := ih
        (fun later member => others later (List.mem_cons_of_mem _ member))
        (run.extend attentive heard)
      rw [listening]
      refine ⟨?_, more, extended⟩
      rw [logs, log, List.append_assoc]
      rfl

theorem known_empty (index : Index) : Known members speaks empty index where
  absent _ event none := by cases none
  present state here := by cases here

variable [DecidableEq Index] {gathering next : Gathering State Event}

theorem known_join (lawful : Lawful members speaks) {joining : Index}
    (known : ∀ index, Known members speaks gathering index)
    (taken : step members gathering (.join joining) = some next) (index : Index) :
    Known members speaks next index := by
  rw [step] at taken
  split at taken
  · cases taken
  · next notYet =>
      cases taken
      by_cases same : index = joining
      · subst same
        constructor
        · intro absent
          simp only [Function.update_self] at absent
          cases absent
        · intro state here
          simp only [Function.update_self] at here
          cases here
          exact ⟨lawful.joins index gathering.log, gathering.log, [],
            (known index).absent notYet, .start⟩
      · constructor
        · intro absent
          simp only [ne_eq, same, not_false_eq_true, Function.update_of_ne] at absent
          exact (known index).absent absent
        · intro state here
          simp only [ne_eq, same, not_false_eq_true, Function.update_of_ne] at here
          exact (known index).present state here

theorem known_act (lawful : Lawful members speaks) {acting : Index}
    {label : Label acting} (known : ∀ index, Known members speaks gathering index)
    (own : Internal members gathering (.act acting label))
    (taken : step members gathering (.act acting label) = some next) (index : Index) :
    Known members speaks next index := by
  rw [step] at taken
  split at taken
  · cases taken
  · next state before =>
      obtain ⟨after, stepped, rfl⟩ := Option.map_eq_some_iff.mp taken
      obtain ⟨current, earlier, labels, early, run⟩ := (known acting).present state before
      obtain ⟨news, grown, spoken⟩ := lawful.tells acting state label after own stepped
      have added : ((members acting).log after).drop gathering.log.length = news := by
        rw [grown, current, List.drop_left]
      dsimp only
      rw [added]
      by_cases same : index = acting
      · subst same
        constructor
        · intro absent
          simp only [Function.update_self] at absent
          cases absent
        · intro state here
          simp only [Function.update_self] at here
          cases here
          refine ⟨by rw [grown, current], earlier, _, early, run.extend ?_ stepped⟩
          exact fun event pretended => absurd pretended (own event)
      · have fromActing : ∀ event ∈ news, Others speaks index event :=
          fun event member => ⟨acting, Ne.symm same, spoken event member⟩
        constructor
        · intro absent
          simp only [ne_eq, same, not_false_eq_true, Function.update_of_ne,
            Option.map_eq_none_iff] at absent
          intro event member
          rcases List.mem_append.mp member with old | new
          · exact (known index).absent absent event old
          · exact fromActing event new
        · intro listening here
          simp only [ne_eq, same, not_false_eq_true, Function.update_of_ne] at here
          obtain ⟨was, joined, rfl⟩ := Option.map_eq_some_iff.mp here
          obtain ⟨log, first, taken, outside, own⟩ := (known index).present was joined
          obtain ⟨heard, more, extended⟩ := hearAll_run lawful news fromActing own
          exact ⟨by rw [heard, log], first, more, outside, extended⟩

/-- In every run of all tasks, every task knows the log. -/
theorem known_run (lawful : Lawful members speaks) {moves : List (Move Label)}
    (run : Guarded (step members) (Internal members) empty moves gathering)
    (index : Index) : Known members speaks gathering index := by
  refine run.invariant (fun gathering => ∀ index, Known members speaks gathering index)
    known_empty ?_ index
  intro gathering move next known own taken
  cases move with
  | join joining => exact known_join lawful known taken
  | act acting label => exact known_act lawful known own taken

end Projection

end SharedLog
