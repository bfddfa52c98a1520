import NetGuardian.Foundation.LabelledRun
import Mathlib.Logic.Function.Iterate

/-!
# Cooperative tasks over non-reentrant mutexes

An asynchronous program is a set of tasks.  A task is resumed at an await
point and runs to its next one without interruption.  At some await points it
waits for a mutex, and it may keep guards of mutexes across later await points.
Mutexes are not reentrant: a mutex cannot be acquired while a guard of it is
alive, whoever holds that guard.

A `Program` gives these data for one kind of task; what the environment answers
at a resumption is part of the label.  Pools of tasks interleave arbitrarily.
-/

namespace CooperativeTasks

open LabelledRun

/-- One kind of task: where it may be started, the mutex its next segment
acquires, the guards that are alive at an await point, and the segment itself. -/
structure Program (Mutex Shared Frame Answer : Type*) where
  entry : Frame → Bool
  awaits : Frame → Option Mutex
  guards : Frame → List Mutex
  resume : Shared → Frame → Answer → Option (Shared × Frame)

/-- The shared state and the tasks that have been started. -/
structure Pool (Shared Frame : Type*) where
  shared : Shared
  tasks : List Frame

/-- A task is started, or one that exists is resumed. -/
inductive Label (Frame Answer : Type*) where
  | start (frame : Frame)
  | advance (index : Nat) (answer : Answer)

variable {Mutex Shared Frame Answer : Type*}

/-- No live guard of any task blocks the acquisition the task waits for. -/
def Available (program : Program Mutex Shared Frame Answer)
    (tasks : List Frame) (frame : Frame) : Prop :=
  ∀ mutex, program.awaits frame = some mutex →
    ∀ task ∈ tasks, mutex ∉ program.guards task

/-- The task waits for a mutex while a guard of that mutex is its own. -/
def SelfBlocked (program : Program Mutex Shared Frame Answer)
    (frame : Frame) : Prop :=
  ∃ mutex, program.awaits frame = some mutex ∧ mutex ∈ program.guards frame

instance [DecidableEq Mutex] (program : Program Mutex Shared Frame Answer)
    (tasks : List Frame) (frame : Frame) :
    Decidable (Available program tasks frame) :=
  match equality : program.awaits frame with
  | none => isTrue fun mutex awaited => by simp [equality] at awaited
  | some mutex =>
      decidable_of_iff (∀ task ∈ tasks, mutex ∉ program.guards task)
        (by simp [Available, equality])

instance [DecidableEq Mutex] (program : Program Mutex Shared Frame Answer)
    (frame : Frame) : Decidable (SelfBlocked program frame) :=
  match equality : program.awaits frame with
  | none => isFalse fun ⟨mutex, awaited, _⟩ => by simp [equality] at awaited
  | some mutex =>
      decidable_of_iff (mutex ∈ program.guards frame)
        (by simp [SelfBlocked, equality])

/-- A task that waits for its own guard is in the way of itself. -/
theorem SelfBlocked.not_available {program : Program Mutex Shared Frame Answer}
    {tasks : List Frame} {frame : Frame}
    (blocked : SelfBlocked program frame) (member : frame ∈ tasks) :
    ¬ Available program tasks frame := by
  obtain ⟨mutex, awaited, held⟩ := blocked
  exact fun available => available mutex awaited frame member held

/-- One step of a pool. -/
def step [DecidableEq Mutex] (program : Program Mutex Shared Frame Answer)
    (pool : Pool Shared Frame) : Label Frame Answer → Option (Pool Shared Frame)
  | .start frame =>
      if program.entry frame then
        some { pool with tasks := pool.tasks ++ [frame] }
      else none
  | .advance index answer =>
      match pool.tasks[index]? with
      | none => none
      | some frame =>
          if Available program pool.tasks frame then
            (program.resume pool.shared frame answer).map fun next =>
              ⟨next.1, pool.tasks.set index next.2⟩
          else none

section Pools

variable [DecidableEq Mutex] {program : Program Mutex Shared Frame Answer}
variable {pool next : Pool Shared Frame}

/-- Everything a start can do. -/
theorem step_start {frame : Frame}
    (taken : step program pool (.start frame) = some next) :
    program.entry frame = true ∧
      next = { pool with tasks := pool.tasks ++ [frame] } := by
  simp only [step] at taken
  split at taken
  · next entry =>
      cases taken
      exact ⟨entry, rfl⟩
  · cases taken

/-- Everything a resumption can do. -/
theorem step_advance {index : Nat} {answer : Answer}
    (taken : step program pool (.advance index answer) = some next) :
    ∃ frame shared resumed, pool.tasks[index]? = some frame ∧
      Available program pool.tasks frame ∧
      program.resume pool.shared frame answer = some (shared, resumed) ∧
      next = ⟨shared, pool.tasks.set index resumed⟩ := by
  simp only [step] at taken
  cases found : pool.tasks[index]? with
  | none => simp [found] at taken
  | some frame =>
      simp only [found] at taken
      by_cases available : Available program pool.tasks frame
      · rw [if_pos available, Option.map_eq_some_iff] at taken
        obtain ⟨⟨shared, resumed⟩, resumption, rfl⟩ := taken
        exact ⟨frame, shared, resumed, rfl, available, resumption, rfl⟩
      · simp [available] at taken

/-- A step that does not resume a task leaves that task where it is. -/
theorem step_untouched {label : Label Frame Answer} {index : Nat} {frame : Frame}
    (here : pool.tasks[index]? = some frame)
    (untouched : ∀ answer, label ≠ .advance index answer)
    (taken : step program pool label = some next) :
    next.tasks[index]? = some frame := by
  cases label with
  | start entered =>
      obtain ⟨_, rfl⟩ := step_start taken
      obtain ⟨below, _⟩ := List.getElem?_eq_some_iff.mp here
      change (pool.tasks ++ [entered])[index]? = some frame
      rw [List.getElem?_append_left below, here]
  | advance other answer =>
      obtain ⟨_, _, resumed, _, _, _, rfl⟩ := step_advance taken
      have apart : other ≠ index := by
        rintro rfl
        exact untouched answer rfl
      change (pool.tasks.set other resumed)[index]? = some frame
      rw [List.getElem?_set_ne apart, here]

/-- Rely and guarantee: an invariant of the shared state together with a
property of every task is kept when each segment establishes both for itself
and preserves the property of every other task. -/
theorem pool_invariant (Good : Shared → Prop) (Fits : Shared → Frame → Prop)
    {guard : Pool Shared Frame → Label Frame Answer → Prop}
    {labels : List (Label Frame Answer)}
    (run : Guarded (step program) guard pool labels next)
    (goodInit : Good pool.shared)
    (fitsInit : ∀ frame ∈ pool.tasks, Fits pool.shared frame)
    (entering : ∀ pool frame, Good pool.shared → program.entry frame = true →
      guard pool (.start frame) → Fits pool.shared frame)
    (own : ∀ pool index answer frame shared resumed, Good pool.shared →
      pool.tasks[index]? = some frame → Available program pool.tasks frame →
      Fits pool.shared frame → guard pool (.advance index answer) →
      program.resume pool.shared frame answer = some (shared, resumed) →
      Good shared ∧ Fits shared resumed)
    (others : ∀ before frame answer shared resumed other, Good before →
      Fits before frame →
      program.resume before frame answer = some (shared, resumed) →
      Fits before other → Fits shared other) :
    Good next.shared ∧ ∀ frame ∈ next.tasks, Fits next.shared frame := by
  refine run.invariant
    (fun pool => Good pool.shared ∧
      ∀ frame ∈ pool.tasks, Fits pool.shared frame)
    ⟨goodInit, fitsInit⟩ ?_
  rintro before label after ⟨good, fits⟩ guarded taken
  cases label with
  | start frame =>
      obtain ⟨entry, rfl⟩ := step_start taken
      refine ⟨good, fun task member => ?_⟩
      rcases List.mem_append.mp member with old | new
      · exact fits task old
      · rw [List.mem_singleton.mp new]
        exact entering before _ good entry guarded
  | advance index answer =>
      obtain ⟨frame, shared, resumed, found, available, resumption, rfl⟩ :=
        step_advance taken
      have fit := fits frame (List.mem_of_getElem? found)
      obtain ⟨goodAfter, fitAfter⟩ :=
        own _ _ _ _ _ _ good found available fit guarded resumption
      refine ⟨goodAfter, fun other member => ?_⟩
      rcases List.mem_or_eq_of_mem_set member with old | rfl
      · exact others _ _ _ _ _ _ good fit resumption (fits other old)
      · exact fitAfter

/-- A property of a single task that its own segments keep. -/
theorem task_invariant (Own : Frame → Prop)
    {guard : Pool Shared Frame → Label Frame Answer → Prop}
    {labels : List (Label Frame Answer)} {index : Nat}
    (run : Guarded (step program) guard pool labels next)
    (initially : ∃ frame, pool.tasks[index]? = some frame ∧ Own frame)
    (kept : ∀ shared frame answer after resumed, Own frame →
      program.resume shared frame answer = some (after, resumed) → Own resumed) :
    ∃ frame, next.tasks[index]? = some frame ∧ Own frame := by
  refine run.invariant
    (fun pool => ∃ frame, pool.tasks[index]? = some frame ∧ Own frame)
    initially ?_
  rintro before label after ⟨frame, here, own⟩ _ taken
  by_cases resumes : ∃ answer, label = .advance index answer
  · obtain ⟨answer, rfl⟩ := resumes
    obtain ⟨moved, shared, resumed, found, _, resumption, rfl⟩ :=
      step_advance taken
    obtain ⟨below, _⟩ := List.getElem?_eq_some_iff.mp here
    rw [here] at found
    cases found
    refine ⟨resumed, ?_, kept _ _ _ _ _ own resumption⟩
    exact List.getElem?_set_self below
  · exact ⟨frame, step_untouched here (not_exists.mp resumes) taken, own⟩

/-- A task that waits for a mutex it holds never moves again, whatever the
other tasks do. -/
theorem selfBlocked_forever {guard : Pool Shared Frame → Label Frame Answer → Prop}
    {labels : List (Label Frame Answer)} {index : Nat} {frame : Frame}
    (run : Guarded (step program) guard pool labels next)
    (present : pool.tasks[index]? = some frame)
    (blocked : SelfBlocked program frame) :
    next.tasks[index]? = some frame := by
  refine run.invariant (fun pool => pool.tasks[index]? = some frame)
    present ?_
  intro before label after here _ taken
  apply step_untouched here _ taken
  rintro answer rfl
  obtain ⟨moved, _, _, found, available, _, _⟩ := step_advance taken
  rw [here] at found
  cases found
  exact blocked.not_available (List.mem_of_getElem? here) available

end Pools

section Solo

variable [DecidableEq Mutex]

/-- One step of a task that runs alone, the environment answering as a
function of the await point.  A task that cannot move stays where it is. -/
def soloStep (program : Program Mutex Shared Frame Answer)
    (answers : Frame → Answer) (state : Shared × Frame) : Shared × Frame :=
  if SelfBlocked program state.2 then state
  else (program.resume state.1 state.2 (answers state.2)).getD state

/-- The state of a task that runs alone after some number of steps. -/
def solo (program : Program Mutex Shared Frame Answer)
    (answers : Frame → Answer) (start : Shared × Frame) (steps : Nat) :
    Shared × Frame :=
  (soloStep program answers)^[steps] start

variable {program : Program Mutex Shared Frame Answer}
variable {answers : Frame → Answer} {start : Shared × Frame}

theorem solo_succ (steps : Nat) :
    solo program answers start (steps + 1) =
      soloStep program answers (solo program answers start steps) :=
  Function.iterate_succ_apply' _ _ _

theorem solo_add (earlier later : Nat) :
    solo program answers start (later + earlier) =
      solo program answers (solo program answers start earlier) later :=
  Function.iterate_add_apply _ _ _ _

/-- A task that can be resumed takes its step. -/
theorem soloStep_of_resume {state next : Shared × Frame}
    (free : ¬ SelfBlocked program state.2)
    (resumption :
      program.resume state.1 state.2 (answers state.2) = some next) :
    soloStep program answers state = next := by
  rw [soloStep, if_neg free, resumption, Option.getD_some]

/-- A task that cannot move stays where it is for good. -/
theorem solo_of_stuck {state : Shared × Frame} {reached : Nat}
    (here : solo program answers start reached = state)
    (stuck : soloStep program answers state = state) {later : Nat}
    (after : reached ≤ later) :
    solo program answers start later = state := by
  obtain ⟨more, rfl⟩ := Nat.exists_eq_add_of_le' after
  rw [solo_add, here]
  exact Function.iterate_fixed stuck more

/-- A task that runs alone comes to rest in one state at most. -/
theorem solo_stuck_unique {one other : Shared × Frame} {first second : Nat}
    (atOne : solo program answers start first = one)
    (atOther : solo program answers start second = other)
    (oneStuck : soloStep program answers one = one)
    (otherStuck : soloStep program answers other = other) : one = other := by
  rw [← solo_of_stuck atOne oneStuck (Nat.le_max_left first second)]
  exact solo_of_stuck atOther otherStuck (Nat.le_max_right first second)

/-- The invariant rule for a task that runs alone. -/
theorem solo_invariant {Inv : Shared → Frame → Prop}
    (initially : Inv start.1 start.2)
    (kept : ∀ shared frame after resumed, Inv shared frame →
      ¬ SelfBlocked program frame →
      program.resume shared frame (answers frame) = some (after, resumed) →
      Inv after resumed)
    (steps : Nat) :
    Inv (solo program answers start steps).1
      (solo program answers start steps).2 := by
  induction steps with
  | zero => exact initially
  | succ steps ih =>
      rw [solo_succ, soloStep]
      split
      · exact ih
      · next free =>
          cases resumption : program.resume
              (solo program answers start steps).1
              (solo program answers start steps).2
              (answers (solo program answers start steps).2) with
          | none => exact ih
          | some moved => exact kept _ _ _ _ ih free resumption

/-- A task alone in a pool can do what it does when it runs alone. -/
theorem solo_is_run (steps : Nat) :
    ∃ labels, Run (step program) ⟨start.1, [start.2]⟩ labels
      ⟨(solo program answers start steps).1,
        [(solo program answers start steps).2]⟩ := by
  induction steps with
  | zero => exact ⟨[], .start⟩
  | succ steps ih =>
      obtain ⟨labels, run⟩ := ih
      rw [solo_succ, soloStep]
      split
      · exact ⟨labels, run⟩
      · next free =>
          generalize solo program answers start steps = state at run free
          obtain ⟨shared, frame⟩ := state
          cases resumption : program.resume shared frame (answers frame) with
          | none => exact ⟨labels, run⟩
          | some moved =>
              have available : Available program [frame] frame := by
                intro mutex awaited task member held
                rw [List.mem_singleton.mp member] at held
                exact free ⟨mutex, awaited, held⟩
              have taken : step program ⟨shared, [frame]⟩
                  (.advance 0 (answers frame)) =
                    some ⟨moved.1, [moved.2]⟩ := by
                simp [step, available, resumption]
              exact ⟨_, run.extend trivial taken⟩

end Solo

end CooperativeTasks
