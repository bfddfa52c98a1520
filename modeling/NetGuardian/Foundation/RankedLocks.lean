import NetGuardian.Foundation.CooperativeTasks
import NetGuardian.Foundation.LogSimulation
import Mathlib.Algebra.GroupWithZero.Nat

/-!
# Mutexes in order

Where every task waits for mutexes that rank above those it holds, the only task that
can be in the way of all others is one that is in the way of itself.  Where moreover
every segment brings its task nearer to its end, the tasks of a pool take no more
steps than they have left, and they can always be resumed until all of them have
finished, or one of them waits for itself.
-/

namespace CooperativeTasks

open LabelledRun

variable {Mutex Shared Frame Answer : Type*}

/-- A task that does not wait for a mutex of its own waits for one that ranks above
its own. -/
def Ranked (program : Program Mutex Shared Frame Answer) (rank : Mutex → Nat) : Prop :=
  ∀ frame mutex, program.awaits frame = some mutex → ¬ SelfBlocked program frame →
    ∀ held ∈ program.guards frame, rank held < rank mutex

/-- Who has finished holds nothing, and who has not can be resumed. -/
structure Lively (program : Program Mutex Shared Frame Answer)
    (finished : Frame → Prop) : Prop where
  released : ∀ frame, finished frame → program.guards frame = []
  resumes : ∀ shared frame answer, ¬ finished frame →
    (program.resume shared frame answer).isSome = true

/-- All tasks have finished, or one waits for itself. -/
def AtRest (program : Program Mutex Shared Frame Answer) (finished : Frame → Prop)
    (tasks : List Frame) : Prop :=
  (∀ task ∈ tasks, finished task) ∨ ∃ task ∈ tasks, SelfBlocked program task

def Label.isStart : Label Frame Answer → Bool
  | .start _ => true
  | .advance _ _ => false

/-- Every segment that the guard admits brings its task nearer to its end, and the
guard admits some answer to every task. -/
structure Nearing (program : Program Mutex Shared Frame Answer)
    (guard : Pool Shared Frame → Label Frame Answer → Prop) (left : Frame → Nat) :
    Prop where
  segment : ∀ pool index answer frame after next, guard pool (.advance index answer) →
    pool.tasks[index]? = some frame →
    program.resume pool.shared frame answer = some (after, next) → left next < left frame
  admits : ∀ pool index, ∃ answer, guard pool (.advance index answer)

/-- What the tasks have left, together. -/
def remaining (left : Frame → Nat) (tasks : List Frame) : Nat :=
  (tasks.map left).sum

section Progress

variable {program : Program Mutex Shared Frame Answer} {rank : Mutex → Nat}
variable {finished : Frame → Prop} {tasks : List Frame}

/-- Somebody holds what a task waits for in vain. -/
theorem exists_holder {task : Frame} (blocked : ¬ Available program tasks task) :
    ∃ mutex, program.awaits task = some mutex ∧
      ∃ holder ∈ tasks, mutex ∈ program.guards holder := by
  simpa [Available] using blocked

/-- The holder of a mutex that somebody waits for waits for one that ranks higher;
this ends at the latest with the highest mutex. -/
theorem exists_available {top : Nat} (ranked : Ranked program rank)
    (highest : ∀ mutex, rank mutex ≤ top) (lively : Lively program finished)
    (free : ∀ task ∈ tasks, ¬ SelfBlocked program task) {frame : Frame}
    (member : frame ∈ tasks) (unfinished : ¬ finished frame) :
    ∃ task ∈ tasks, ¬ finished task ∧ Available program tasks task := by
  have climb : ∀ (steps : Nat) (task : Frame), task ∈ tasks → ¬ finished task →
      (∀ mutex, program.awaits task = some mutex → top < rank mutex + steps) →
        ∃ task ∈ tasks, ¬ finished task ∧ Available program tasks task := by
    intro steps
    induction steps with
    | zero =>
        intro task here unfinished near
        refine ⟨task, here, unfinished, fun mutex awaited => ?_⟩
        exact absurd (near mutex awaited) (Nat.not_lt.mpr (highest mutex))
    | succ steps ih =>
        intro task here unfinished near
        by_cases available : Available program tasks task
        · exact ⟨task, here, unfinished, available⟩
        · obtain ⟨mutex, awaited, holder, there, holds⟩ := exists_holder available
          have holding : ¬ finished holder := by
            intro done
            rw [lively.released holder done] at holds
            cases holds
          refine ih holder there holding fun next waits => ?_
          have above := ranked holder next waits (free holder there) mutex holds
          have close := near mutex awaited
          omega
  exact climb (top + 1) frame member unfinished fun mutex _ => by omega

variable [DecidableEq Mutex]

/-- A pool that is not at rest has a task that can move, whatever it is answered. -/
theorem exists_advance {top : Nat} (ranked : Ranked program rank)
    (highest : ∀ mutex, rank mutex ≤ top) (lively : Lively program finished)
    {pool : Pool Shared Frame} (moving : ¬ AtRest program finished pool.tasks) :
    ∃ index, ∀ answer, (step program pool (.advance index answer)).isSome = true := by
  obtain ⟨notAll, free⟩ := not_or.mp moving
  obtain ⟨frame, member, unfinished⟩ : ∃ task ∈ pool.tasks, ¬ finished task := by
    simpa using notAll
  have unblocked : ∀ task ∈ pool.tasks, ¬ SelfBlocked program task :=
    fun task here blocked => free ⟨task, here, blocked⟩
  obtain ⟨task, here, working, available⟩ :=
    exists_available ranked highest lively unblocked member unfinished
  obtain ⟨index, found⟩ := List.mem_iff_getElem?.mp here
  refine ⟨index, fun answer => ?_⟩
  rw [step, found]
  dsimp only
  rw [if_pos available, Option.isSome_map]
  exact lively.resumes pool.shared task answer working

end Progress

section Ending

variable [DecidableEq Mutex] {program : Program Mutex Shared Frame Answer}
variable {guard : Pool Shared Frame → Label Frame Answer → Prop} {left : Frame → Nat}
variable {pool next : Pool Shared Frame} {labels : List (Label Frame Answer)}

theorem remaining_set {tasks : List Frame} {index : Nat} {frame resumed : Frame}
    (here : tasks[index]? = some frame) (less : left resumed < left frame) :
    remaining left (tasks.set index resumed) + 1 ≤ remaining left tasks := by
  induction tasks generalizing index with
  | nil => cases here
  | cons first tasks ih =>
      cases index with
      | zero =>
          cases here
          simp only [remaining, List.set_cons_zero, List.map_cons, List.sum_cons]
          omega
      | succ index =>
          have shorter := ih here
          simp only [remaining, List.set_cons_succ, List.map_cons, List.sum_cons]
            at shorter ⊢
          omega

theorem remaining_advance (nearing : Nearing program guard left) {index : Nat}
    {answer : Answer} (admitted : guard pool (.advance index answer))
    (taken : step program pool (.advance index answer) = some next) :
    remaining left next.tasks + 1 ≤ remaining left pool.tasks := by
  obtain ⟨frame, shared, resumed, found, _, resumption, rfl⟩ := step_advance taken
  exact remaining_set found (nearing.segment _ _ _ _ _ _ admitted found resumption)

/-- No schedule takes more steps than the started tasks have had in them. -/
theorem length_add_remaining_le {shared : Shared} {most : Nat}
    (nearing : Nearing program guard left)
    (entry : ∀ frame, program.entry frame = true → left frame ≤ most)
    (run : Guarded (step program) guard ⟨shared, []⟩ labels pool) :
    labels.length + remaining left pool.tasks ≤
      (most + 1) * labels.countP Label.isStart := by
  induction run with
  | start => exact Nat.zero_le _
  | @extend labels state next label before admitted taken ih =>
      rw [List.length_append, List.length_singleton, List.countP_append,
        List.countP_singleton, Nat.mul_add]
      cases label with
      | start frame =>
          obtain ⟨entered, rfl⟩ := step_start taken
          have bounded := entry frame entered
          have more : remaining left (state.tasks ++ [frame]) =
              remaining left state.tasks + left frame := by
            simp [remaining]
          simp only [more, Label.isStart, if_true]
          omega
      | advance index answer =>
          have nearer := remaining_advance nearing admitted taken
          simp only [Label.isStart, Bool.false_eq_true, if_false]
          omega

/-- The tasks of a pool can be resumed until it is at rest. -/
theorem comes_to_rest {finished : Frame → Prop} {rank : Mutex → Nat} {top : Nat}
    (nearing : Nearing program guard left) (ranked : Ranked program rank)
    (highest : ∀ mutex, rank mutex ≤ top) (lively : Lively program finished)
    (pool : Pool Shared Frame) :
    ∃ labels rest, Guarded (step program) guard pool labels rest ∧
      (∀ label ∈ labels, label.isStart = false) ∧
      AtRest program finished rest.tasks := by
  generalize size : remaining left pool.tasks = steps
  induction steps using Nat.strongRecOn generalizing pool with
  | _ steps ih =>
      by_cases atRest : AtRest program finished pool.tasks
      · exact ⟨[], pool, .start, by simp, atRest⟩
      · obtain ⟨index, moves⟩ := exists_advance ranked highest lively atRest
        obtain ⟨answer, admitted⟩ := nearing.admits pool index
        obtain ⟨next, taken⟩ := Option.isSome_iff_exists.mp (moves answer)
        have nearer := remaining_advance nearing admitted taken
        obtain ⟨labels, rest, run, resumptions, still⟩ := ih _ (by omega) next rfl
        refine ⟨[.advance index answer] ++ labels, rest, ?_, ?_, still⟩
        · exact (Guarded.start.extend admitted taken).append run
        · intro label member
          rcases List.mem_append.mp member with first | later
          · rw [List.mem_singleton.mp first]
            rfl
          · exact resumptions label later

end Ending

end CooperativeTasks
