import Mathlib.Algebra.Order.Group.Multiset
import Mathlib.Tactic.Abel
import NetGuardian.Foundation.SoleHolder

/-!
# Ghost histories

What the segments of a program do may leave no trace in the shared state.  A
recording program carries a list of what they have done beside that state.  The
recording never gets into the way of a run, so an invariant of the recording
program speaks about the runs of the program itself.
-/

namespace CooperativeTasks

open LabelledRun

variable {Mutex Shared Frame Answer Item Key : Type*}

/-- The program, with a list of what its segments emit. -/
def Program.recording (program : Program Mutex Shared Frame Answer)
    (emits : Shared → Frame → Answer → List Item) :
    Program Mutex (Shared × List Item) Frame Answer where
  entry := program.entry
  awaits := program.awaits
  guards := program.guards
  resume shared frame answer :=
    (program.resume shared.1 frame answer).map fun next =>
      ((next.1, shared.2 ++ emits shared.1 frame answer), next.2)

/-- The pool without its history. -/
def Pool.forget (pool : Pool (Shared × List Item) Frame) : Pool Shared Frame :=
  ⟨pool.shared.1, pool.tasks⟩

section Recording

variable {program : Program Mutex Shared Frame Answer}
variable {emits : Shared → Frame → Answer → List Item}

theorem recording_resume {shared after : Shared × List Item}
    {frame following : Frame} {answer : Answer}
    (resumption : (program.recording emits).resume shared frame answer =
      some (after, following)) :
    program.resume shared.1 frame answer = some (after.1, following) ∧
      after.2 = shared.2 ++ emits shared.1 frame answer := by
  obtain ⟨next, resumed, same⟩ := Option.map_eq_some_iff.mp resumption
  cases same
  exact ⟨resumed, rfl⟩

/-- Keys are handed over as before when the history gets some of them too. -/
theorem HandsOver.recording {waiting : Shared → List Key}
    {owns : Frame → Option Key} (keyOf : Item → Key)
    (entry : ∀ frame, program.entry frame = true → owns frame = none)
    (resume : ∀ shared frame answer after next,
      program.resume shared frame answer = some (after, next) →
        (waiting after : Multiset Key) + ((owns next).toList : Multiset Key) +
            ((emits shared frame answer).map keyOf : Multiset Key) ≤
          (waiting shared : Multiset Key) +
            ((owns frame).toList : Multiset Key)) :
    HandsOver (program.recording emits)
      (fun shared => waiting shared.1 ++ shared.2.map keyOf) owns where
  entry := entry
  resume shared frame answer after next resumption := by
    obtain ⟨resumed, grown⟩ := recording_resume resumption
    have smaller := resume _ _ _ _ _ resumed
    rw [grown, List.map_append, ← Multiset.coe_add, ← Multiset.coe_add,
      ← Multiset.coe_add]
    calc (waiting after.1 : Multiset Key) +
          ((shared.2.map keyOf : Multiset Key) +
            ((emits shared.1 frame answer).map keyOf : Multiset Key)) +
          ((owns next).toList : Multiset Key)
        = (waiting after.1 : Multiset Key) + ((owns next).toList : Multiset Key) +
            ((emits shared.1 frame answer).map keyOf : Multiset Key) +
            (shared.2.map keyOf : Multiset Key) := by abel
      _ ≤ (waiting shared.1 : Multiset Key) +
            ((owns frame).toList : Multiset Key) +
            (shared.2.map keyOf : Multiset Key) :=
          Multiset.add_le_add_iff_right.mpr smaller
      _ = (waiting shared.1 : Multiset Key) + (shared.2.map keyOf : Multiset Key) +
            ((owns frame).toList : Multiset Key) := by abel

section Runs

variable [DecidableEq Mutex] {labels : List (Label Frame Answer)}
variable {guard : Pool Shared Frame → Label Frame Answer → Prop}

theorem recording_step {pool next : Pool Shared Frame} {label : Label Frame Answer}
    (taken : step program pool label = some next) (items : List Item) :
    ∃ more, step (program.recording emits) ⟨(pool.shared, items), pool.tasks⟩
      label = some ⟨(next.shared, more), next.tasks⟩ := by
  cases label with
  | start frame =>
      obtain ⟨entry, rfl⟩ := step_start taken
      refine ⟨items, ?_⟩
      rw [step, if_pos (show (program.recording emits).entry frame = true from entry)]
  | advance index answer =>
      obtain ⟨frame, shared, resumed, found, available, resumption, rfl⟩ :=
        step_advance taken
      refine ⟨items ++ emits pool.shared frame answer, ?_⟩
      simp only [step, found, Program.recording, resumption, Option.map_some]
      exact if_pos available

/-- Every run is a run of the recording program. -/
theorem recording_run {first last : Pool Shared Frame}
    (run : Guarded (step program) guard first labels last) (items : List Item) :
    ∃ more, Guarded (step (program.recording emits))
      (fun pool label => guard pool.forget label)
      ⟨(first.shared, items), first.tasks⟩ labels
      ⟨(last.shared, more), last.tasks⟩ := by
  induction run with
  | start => exact ⟨items, .start⟩
  | extend _ guarded taken ih =>
      obtain ⟨more, before⟩ := ih
      obtain ⟨most, step⟩ := recording_step taken more
      exact ⟨most, before.extend guarded step⟩

end Runs

end Recording

end CooperativeTasks
