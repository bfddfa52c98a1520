import NetGuardian.Foundation.LabelledRun
import Mathlib.Algebra.BigOperators.Group.Finset.Basic
import Mathlib.Logic.Function.Basic

/-!
# Calls around a try-lock

Several tasks share a state that consists of atomic variables and of a part
under one lock.  A call first works on the atomic variables, one step at a time,
then tries the lock, runs its body and leaves.  A call that finds the lock taken
fails: its task stops there for good, with the atomic steps done and the body
not.

The lock makes the bodies exclude each other.  It does not make the calls
succeed: that takes a schedule in which no call tries the lock while another one
is inside.
-/

namespace TryLock

open LabelledRun

/-- The calls on a shared state.  An atomic step says whether the call goes on.
The environment, such as a clock, is read in the body. -/
structure Protocol (Shared Call Env : Type*) where
  steps : Call → List (Shared → Shared × Bool)
  body : Call → Env → Shared → Shared

/-- Where a task stands.  A call that has done all of its steps tries the lock
next. -/
inductive Phase (Call : Type*) where
  | idle
  | working (call : Call) (done : Nat)
  | inside (call : Call)
  | leaving (call : Call)
  | failed (call : Call)

structure State (Shared Call Task : Type*) where
  shared : Shared
  holder : Option Task
  phase : Task → Phase Call

/-- A task begins a call, or takes its next step. -/
inductive Label (Call Env Task : Type*) where
  | call (task : Task) (call : Call)
  | advance (task : Task) (env : Env)

variable {Shared Call Env Task : Type*}

/-- All tasks are idle and the lock is free. -/
def State.quiet (shared : Shared) : State Shared Call Task :=
  ⟨shared, none, fun _ => .idle⟩

/-- Between a successful try of the lock and its release. -/
def Phase.Inside : Phase Call → Prop
  | .inside _ | .leaving _ => True
  | .idle | .working _ _ | .failed _ => False

def State.move [DecidableEq Task] (state : State Shared Call Task) (task : Task)
    (phase : Phase Call) : State Shared Call Task :=
  { state with phase := Function.update state.phase task phase }

def step [DecidableEq Task] (protocol : Protocol Shared Call Env)
    (state : State Shared Call Task) :
    Label Call Env Task → Option (State Shared Call Task)
  | .call task call =>
      match state.phase task with
      | .idle => some (state.move task (.working call 0))
      | _ => none
  | .advance task env =>
      match state.phase task with
      | .idle | .failed _ => none
      | .working call done =>
          match (protocol.steps call)[done]? with
          | some act =>
              let result := act state.shared
              some ({ state with shared := result.1 }.move task
                (if result.2 then .working call (done + 1) else .idle))
          | none =>
              match state.holder with
              | none =>
                  some ({ state with holder := some task }.move task
                    (.inside call))
              | some _ => some (state.move task (.failed call))
      | .inside call =>
          some ({ state with shared := protocol.body call env state.shared }.move
            task (.leaving call))
      | .leaving _ => some ({ state with holder := none }.move task .idle)

section Steps

variable [DecidableEq Task] {protocol : Protocol Shared Call Env}
variable {state next : State Shared Call Task} {label : Label Call Env Task}

/-- Everything a step can do. -/
inductive Moves (protocol : Protocol Shared Call Env)
    (state : State Shared Call Task) :
    Label Call Env Task → State Shared Call Task → Prop
  | begin {task : Task} (call : Call) (idle : state.phase task = .idle) :
      Moves protocol state (.call task call) (state.move task (.working call 0))
  | work {task : Task} {env : Env} {call : Call} {done : Nat}
      {act : Shared → Shared × Bool}
      (phase : state.phase task = .working call done)
      (found : (protocol.steps call)[done]? = some act) :
      Moves protocol state (.advance task env)
        ({ state with shared := (act state.shared).1 }.move task
          (if (act state.shared).2 then .working call (done + 1) else .idle))
  | enter {task : Task} {env : Env} {call : Call} {done : Nat}
      (phase : state.phase task = .working call done)
      (worked : (protocol.steps call)[done]? = none)
      (free : state.holder = none) :
      Moves protocol state (.advance task env)
        ({ state with holder := some task }.move task (.inside call))
  | fail {task holder : Task} {env : Env} {call : Call} {done : Nat}
      (phase : state.phase task = .working call done)
      (worked : (protocol.steps call)[done]? = none)
      (taken : state.holder = some holder) :
      Moves protocol state (.advance task env) (state.move task (.failed call))
  | run {task : Task} (env : Env) {call : Call}
      (phase : state.phase task = .inside call) :
      Moves protocol state (.advance task env)
        ({ state with shared := protocol.body call env state.shared }.move task
          (.leaving call))
  | leave {task : Task} {env : Env} {call : Call}
      (phase : state.phase task = .leaving call) :
      Moves protocol state (.advance task env)
        ({ state with holder := none }.move task .idle)

theorem moves_of_step (taken : step protocol state label = some next) :
    Moves protocol state label next := by
  cases label with
  | call task call =>
      cases phase : state.phase task with
      | idle =>
          simp only [step, phase, Option.some.injEq] at taken
          exact taken ▸ .begin call phase
      | working | inside | leaving | failed => simp [step, phase] at taken
  | advance task env =>
      cases phase : state.phase task with
      | idle | failed => simp [step, phase] at taken
      | working call done =>
          cases found : (protocol.steps call)[done]? with
          | some act =>
              simp only [step, phase, found, Option.some.injEq] at taken
              exact taken ▸ .work phase found
          | none =>
              cases holder : state.holder with
              | none =>
                  simp only [step, phase, found, holder,
                    Option.some.injEq] at taken
                  exact taken ▸ .enter phase found holder
              | some other =>
                  simp only [step, phase, found, holder,
                    Option.some.injEq] at taken
                  exact taken ▸ .fail phase found holder
      | inside call =>
          simp only [step, phase, Option.some.injEq] at taken
          exact taken ▸ .run env phase
      | leaving call =>
          simp only [step, phase, Option.some.injEq] at taken
          exact taken ▸ .leave phase

@[simp]
theorem State.move_phase_self (task : Task) (phase : Phase Call) :
    (state.move task phase).phase task = phase := by
  simp [State.move]

theorem State.move_phase_other {task other : Task} (different : other ≠ task)
    (phase : Phase Call) :
    (state.move task phase).phase other = state.phase other := by
  simp [State.move, different]

@[simp]
theorem State.move_holder (task : Task) (phase : Phase Call) :
    (state.move task phase).holder = state.holder := rfl

@[simp]
theorem State.move_shared (task : Task) (phase : Phase Call) :
    (state.move task phase).shared = state.shared := rfl

end Steps

section Exclusion

/-- The holder of the lock is the one task that is inside. -/
def Exclusive (state : State Shared Call Task) : Prop :=
  ∀ task, (state.phase task).Inside ↔ state.holder = some task

theorem Exclusive.quiet (shared : Shared) :
    Exclusive (State.quiet shared : State Shared Call Task) := by
  intro task
  simp [State.quiet, Phase.Inside]

variable [DecidableEq Task] {protocol : Protocol Shared Call Env}
variable {state next first last : State Shared Call Task}
variable {label : Label Call Env Task} {labels : List (Label Call Env Task)}

/-- A task that does not hold the lock moves outside of it. -/
theorem Exclusive.move_outside (exclusive : Exclusive state) {task : Task}
    (outside : ¬ (state.phase task).Inside) {phase : Phase Call}
    (stays : ¬ phase.Inside) (shared : Shared) :
    Exclusive ({ state with shared := shared }.move task phase) := by
  intro other
  by_cases same : other = task
  · subst same
    rw [State.move_phase_self]
    exact iff_of_false stays ((exclusive other).not.mp outside)
  · rw [State.move_phase_other same]
    exact exclusive other

theorem Exclusive.step (exclusive : Exclusive state)
    (taken : step protocol state label = some next) : Exclusive next := by
  cases moves_of_step taken with
  | begin call idle =>
      exact exclusive.move_outside (by simp [idle, Phase.Inside])
        (by simp [Phase.Inside]) state.shared
  | @work _ _ _ _ act phase found =>
      refine exclusive.move_outside (by simp [phase, Phase.Inside]) ?_ _
      split <;> simp [Phase.Inside]
  | fail phase worked held =>
      exact exclusive.move_outside (by simp [phase, Phase.Inside])
        (by simp [Phase.Inside]) state.shared
  | @enter task _ _ _ phase worked free =>
      intro other
      by_cases same : other = task
      · subst same
        simp [Phase.Inside]
      · rw [State.move_phase_other same]
        have outside := (exclusive other).not.mpr (by simp [free])
        refine iff_of_false outside ?_
        intro equal
        exact same (Option.some.inj equal).symm
  | @run task _ _ phase =>
      have held : state.holder = some task :=
        (exclusive task).mp (by simp [phase, Phase.Inside])
      intro other
      by_cases same : other = task
      · subst same
        simp [Phase.Inside, held]
      · rw [State.move_phase_other same]
        exact exclusive other
  | @leave task _ _ phase =>
      have held : state.holder = some task :=
        (exclusive task).mp (by simp [phase, Phase.Inside])
      intro other
      by_cases same : other = task
      · subst same
        simp [Phase.Inside]
      · rw [State.move_phase_other same]
        refine iff_of_false ((exclusive other).not.mpr ?_) (by simp)
        rw [held]
        intro equal
        exact same (Option.some.inj equal).symm

/-- No call has failed. -/
def NoFailure (state : State Shared Call Task) : Prop :=
  ∀ task call, state.phase task ≠ .failed call

/-- A call that tries the lock finds no other call inside. -/
def Apart (protocol : Protocol Shared Call Env) (state : State Shared Call Task)
    (label : Label Call Env Task) : Prop :=
  ∀ task env call done, label = .advance task env →
    state.phase task = .working call done →
      (protocol.steps call).length ≤ done →
        ∀ other, ¬ (state.phase other).Inside

theorem NoFailure.move (noFailure : NoFailure state) (task : Task)
    {phase : Phase Call} (working : ∀ call, phase ≠ .failed call)
    (shared : Shared) (holder : Option Task) :
    NoFailure (State.move ⟨shared, holder, state.phase⟩ task phase) := by
  intro other call
  by_cases same : other = task
  · subst same
    rw [State.move_phase_self]
    exact working call
  · rw [State.move_phase_other same]
    exact noFailure other call

theorem NoFailure.step (noFailure : NoFailure state)
    (exclusive : Exclusive state) (apart : Apart protocol state label)
    (taken : step protocol state label = some next) : NoFailure next := by
  cases moves_of_step taken with
  | begin call idle => exact noFailure.move _ (by simp) _ _
  | work phase found =>
      refine noFailure.move _ ?_ _ _
      intro call
      split <;> simp
  | enter phase worked free => exact noFailure.move _ (by simp) _ _
  | @fail _ holder _ _ _ phase worked held =>
      have inside : (state.phase holder).Inside := (exclusive holder).mpr held
      exact absurd inside (apart _ _ _ _ rfl phase
        (List.getElem?_eq_none_iff.mp worked) holder)
  | run env phase => exact noFailure.move _ (by simp) _ _
  | leave phase => exact noFailure.move _ (by simp) _ _

/-- A call that finds another one inside fails. -/
theorem failure_of_not_apart (exclusive : Exclusive state)
    (overlap : ¬ Apart protocol state label)
    (taken : step protocol state label = some next) : ¬ NoFailure next := by
  unfold Apart at overlap
  push Not at overlap
  obtain ⟨task, env, call, done, rfl, phase, worked, other, inside⟩ := overlap
  have held := (exclusive other).mp inside
  have finished : (protocol.steps call)[done]? = none :=
    List.getElem?_eq_none_iff.mpr worked
  simp only [step, phase, finished, held, Option.some.injEq] at taken
  intro noFailure
  apply noFailure task call
  rw [← taken, State.move_phase_self]

/-- A task that has failed takes no more steps. -/
theorem not_noFailure_step (failed : ¬ NoFailure state)
    (taken : step protocol state label = some next) : ¬ NoFailure next := by
  unfold NoFailure at failed
  push Not at failed
  obtain ⟨task, call, stopped⟩ := failed
  have others : ∀ {mover : Task} {phase : Phase Call} {shared : Shared}
      {holder : Option Task}, state.phase mover ≠ .failed call →
        ¬ NoFailure (State.move ⟨shared, holder, state.phase⟩ mover phase) := by
    intro mover phase shared holder working noFailure
    have different : task ≠ mover := fun same => working (same ▸ stopped)
    apply noFailure task call
    rw [State.move_phase_other different]
    exact stopped
  cases moves_of_step taken with
  | begin _ phase | work phase | enter phase | fail phase | run _ phase
  | leave phase => exact others (by simp [phase])

/-- A run has no failure exactly when every call that tried the lock found no
other call inside. -/
theorem noFailure_iff_apart (shared : Shared)
    (run : Run (step protocol) (State.quiet shared) labels last) :
    NoFailure last ↔
      Guarded (step protocol) (Apart protocol) (State.quiet shared) labels
        last :=
  run.good_iff_guarded Exclusive NoFailure (Exclusive.quiet shared)
    (fun _ _ => by simp [State.quiet])
    (fun _ _ _ exclusive => exclusive.step)
    (fun _ _ _ exclusive noFailure apart => noFailure.step exclusive apart)
    (fun _ _ _ exclusive => failure_of_not_apart exclusive)
    (fun _ _ _ _ => not_noFailure_step)

end Exclusion

section Accounts

variable [DecidableEq Task] [Fintype Task] {Amount : Type*} [AddCommGroup Amount]
variable {protocol : Protocol Shared Call Env}
variable {state next first last : State Shared Call Task}
variable {label : Label Call Env Task} {labels : List (Label Call Env Task)}

/-- What the shared state is ahead of a balance is owed by the calls that are
under way or have failed. -/
structure Balanced (protocol : Protocol Shared Call Env)
    (credit : Shared → Amount) (debt : Phase Call → Amount) : Prop where
  begin : ∀ call, debt (.working call 0) = debt .idle
  work : ∀ call done act shared, (protocol.steps call)[done]? = some act →
    credit (act shared).1 +
        debt (if (act shared).2 then .working call (done + 1) else .idle) =
      credit shared + debt (.working call done)
  enter : ∀ call done, (protocol.steps call)[done]? = none →
    debt (.inside call) = debt (.working call done)
  fail : ∀ call done, (protocol.steps call)[done]? = none →
    debt (.failed call) = debt (.working call done)
  run : ∀ call env shared,
    credit (protocol.body call env shared) + debt (.leaving call) =
      credit shared + debt (.inside call)
  leave : ∀ call, debt .idle = debt (.leaving call)

/-- The credit and all debts. -/
def total (credit : Shared → Amount) (debt : Phase Call → Amount)
    (state : State Shared Call Task) : Amount :=
  credit state.shared + ∑ task, debt (state.phase task)

variable {credit : Shared → Amount} {debt : Phase Call → Amount}

/-- One task moves, and the credit changes with its debt. -/
theorem total_move (task : Task) (phase : Phase Call) (shared : Shared)
    (holder : Option Task)
    (same : credit shared + debt phase =
      credit state.shared + debt (state.phase task)) :
    total credit debt (State.move ⟨shared, holder, state.phase⟩ task phase) =
      total credit debt state := by
  have others : ∀ other ∈ Finset.univ.erase task,
      debt ((State.move ⟨shared, holder, state.phase⟩ task phase).phase other) =
        debt (state.phase other) := by
    intro other member
    rw [State.move_phase_other (Finset.ne_of_mem_erase member)]
  rw [total, total, ← Finset.add_sum_erase _ _ (Finset.mem_univ task),
    ← Finset.add_sum_erase _ _ (Finset.mem_univ task),
    Finset.sum_congr rfl others, State.move_phase_self, State.move_shared,
    ← add_assoc, ← add_assoc, same]

theorem Balanced.step (balanced : Balanced protocol credit debt)
    (taken : step protocol state label = some next) :
    total credit debt next = total credit debt state := by
  cases moves_of_step taken with
  | begin call idle =>
      exact total_move _ _ _ _ (by rw [idle, balanced.begin])
  | work phase found =>
      exact total_move _ _ _ _ (by rw [phase, balanced.work _ _ _ _ found])
  | enter phase worked free =>
      exact total_move _ _ _ _ (by rw [phase, balanced.enter _ _ worked])
  | fail phase worked held =>
      exact total_move _ _ _ _ (by rw [phase, balanced.fail _ _ worked])
  | run env phase =>
      exact total_move _ _ _ _ (by rw [phase, balanced.run])
  | leave phase =>
      exact total_move _ _ _ _ (by rw [phase, balanced.leave])

theorem Balanced.run_eq (balanced : Balanced protocol credit debt)
    (run : Run (TryLock.step protocol) first labels last) :
    total credit debt last = total credit debt first :=
  run.invariant (fun state => total credit debt state = total credit debt first)
    rfl fun _ _ _ same _ taken => (balanced.step taken).trans same

end Accounts

section Alone

variable (protocol : Protocol Shared Call Env)

/-- Some atomic steps in a row, and whether the call goes on after them. -/
def workAll : List (Shared → Shared × Bool) → Shared → Shared × Bool
  | [], shared => (shared, true)
  | act :: rest, shared =>
      if (act shared).2 then workAll rest (act shared).1
      else ((act shared).1, false)

/-- What a call does that no other call disturbs. -/
def Protocol.alone (call : Call) (env : Env) (shared : Shared) : Shared :=
  let worked := workAll (protocol.steps call) shared
  if worked.2 then protocol.body call env worked.1 else worked.1

variable [DecidableEq Task]

/-- The rest of an undisturbed call whose first steps are done. -/
theorem exec_rest (task : Task) (call : Call) (env : Env)
    (rest : List (Shared → Shared × Bool)) :
    ∀ (done : Nat) (state : State Shared Call Task),
      (protocol.steps call).drop done = rest →
      state.phase task = .working call done → state.holder = none →
      ∃ count, exec (step protocol) state
          (List.replicate count (.advance task env)) =
        some ({ state with
          shared := if (workAll rest state.shared).2 then
              protocol.body call env (workAll rest state.shared).1
            else (workAll rest state.shared).1 }.move task .idle) := by
  induction rest with
  | nil =>
      intro done state remaining phase free
      have worked : (protocol.steps call)[done]? = none :=
        List.getElem?_eq_none_iff.mpr (List.drop_eq_nil_iff.mp remaining)
      refine ⟨3, ?_⟩
      simp [exec, List.replicate, step, phase, worked, free, workAll, State.move]
  | cons act rest ih =>
      intro done state remaining phase free
      have found : (protocol.steps call)[done]? = some act := by
        rw [← List.head?_drop, remaining, List.head?_cons]
      have next : (protocol.steps call).drop (done + 1) = rest := by
        rw [← List.tail_drop, remaining, List.tail_cons]
      cases goes : (act state.shared).2 with
      | true =>
          let moved := { state with shared := (act state.shared).1 }.move task
            (.working call (done + 1))
          obtain ⟨count, finished⟩ := ih (done + 1) moved next (by simp [moved])
            free
          refine ⟨count + 1, ?_⟩
          rw [List.replicate_succ, exec, List.foldlM_cons]
          simp only [step, phase, found, goes]
          rw [exec] at finished
          simpa [moved, workAll, goes, State.move] using finished
      | false =>
          refine ⟨1, ?_⟩
          simp [exec, List.replicate, step, phase, found, goes, workAll]

/-- An idle task can make a whole call undisturbed. -/
theorem exec_alone (task : Task) (call : Call) (env : Env)
    (state : State Shared Call Task) (idle : state.phase task = .idle)
    (free : state.holder = none) :
    ∃ count, exec (step protocol) state
        (.call task call :: List.replicate count (.advance task env)) =
      some { state with shared := protocol.alone call env state.shared } := by
  obtain ⟨count, finished⟩ := exec_rest protocol task call env _ 0
    (state.move task (.working call 0)) rfl (by simp) free
  refine ⟨count, ?_⟩
  have settled : Function.update state.phase task .idle = state.phase := by
    rw [← idle, Function.update_eq_self]
  rw [exec, List.foldlM_cons]
  rw [exec] at finished
  simpa [step, idle, State.move, Protocol.alone, settled] using finished

end Alone

end TryLock
