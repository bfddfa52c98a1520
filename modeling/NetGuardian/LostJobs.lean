import NetGuardian.SelfDeadlock

/-!
# Jobs that the executor loses

`dequeue` takes the job out of the queue, and every later `update_status` looks
for a job that is no longer there.  Whatever `execute_next` decides about the
job is therefore decided about its local copy only, which is dropped when the
call returns.
-/

namespace NetGuardian

open CooperativeTasks

/-- The ids in the queue are distinct, and the job of the call is not there. -/
def JobAbsent (system : System) : Frame → Prop
  | .execute point => system.queue.ids.Nodup ∧
      ∀ job, point.job? = some job → job.id ∉ system.queue.ids
  | .control _ _ => False

section Calls

variable {work : Work} {system : System}

/-- From the dequeue on, the job of the call is not in the queue. -/
theorem jobAbsent_callState (distinct : system.queue.ids.Nodup) (steps : Nat) :
    JobAbsent (callState work system steps).1
      (callState work system steps).2 := by
  apply solo_invariant
  · refine ⟨distinct, ?_⟩
    intro job working
    cases working
  · intro shared frame after resumed absent _ resumption
    cases frame with
    | control call point => exact absent.elim
    | execute point =>
        obtain ⟨next, rfl, segment⟩ := Frame.resume_execute resumption
        obtain ⟨distinctIds, notThere⟩ := absent
        rcases (executeStep_segment segment).ids with
          ⟨rfl, ⟨rfl, rfl⟩ | ⟨job, rest, taken, rfl, rfl⟩⟩ |
          ⟨before, job, worked, works, sameId, sameQueue⟩
        · refine ⟨distinctIds, ?_⟩
          intro job working
          cases working
        · refine ⟨distinctIds.sublist (QueueManager.dequeue_ids taken), ?_⟩
          intro dequeued working
          cases working
          exact QueueManager.dequeue_id_notMem distinctIds taken
        · refine ⟨sameQueue ▸ distinctIds, ?_⟩
          intro current working
          rw [works] at working
          cases working
          rw [sameQueue, sameId]
          exact notThere before worked

/-- When the call returns with a job, the queue does not know the job. -/
theorem get_eq_none_of_returned (distinct : system.queue.ids.Nodup)
    {steps : Nat} {job : Job}
    (returned : (callState work system steps).2 =
      .execute (.returned (some job))) :
    (callState work system steps).1.queue.get job.id = none := by
  have absent := @jobAbsent_callState work system distinct steps
  rw [returned] at absent
  exact QueueManager.get_eq_none_of_notMem _ (absent.2 job rfl)

end Calls

/-- When the call returns with a job, the queue has that job with the status
that the call decided. -/
def KeepsOutcome (work : Work) (system : System) : Prop :=
  ∀ steps job, (callState work system steps).2 =
      .execute (.returned (some job)) →
    ∃ kept, (callState work system steps).1.queue.get job.id = some kept ∧
      kept.status = job.status

/-- The outcome is kept only where there is none: no job is waiting, or the
call blocks on itself before it returns. -/
theorem keepsOutcome_iff (work : Work) (system : System)
    (reachable : system.queue.Reachable) :
    KeepsOutcome work system ↔
      (∀ job ∈ system.queue.jobs, job.status ≠ .pending) ∨
        WorkFails work system := by
  rw [← QueueManager.dequeue_eq_none]
  constructor
  · intro keeps
    cases taken : system.queue.dequeue with
    | none => exact .inl rfl
    | some next =>
        rcases @reaches_final work system _ _ taken with
          ⟨fails, _⟩ | ⟨_, after, job, steps, returned⟩
        · exact .inr fails
        · have frame : (callState work system steps).2 =
              .execute (.returned (some job)) := by rw [returned]
          obtain ⟨kept, found, _⟩ := keeps steps job frame
          rw [get_eq_none_of_returned reachable.ids_nodup frame] at found
          cases found
  · intro noReturn steps job frame
    have here : Reaches work system (callState work system steps).1
        (.returned (some job)) := ⟨steps, by rw [← frame]⟩
    rcases noReturn with empty | fails
    · have same := here.final_unique (reaches_returned_none empty) trivial
        trivial
      cases same.2
    · have ⟨_, _, _, _, taken, _⟩ := fails
      rcases @reaches_final work system _ _ taken with
        ⟨_, after, blocked, err, there⟩ | ⟨succeeds, _⟩
      · have same := here.final_unique there trivial trivial
        cases same.2
      · exact absurd fails succeeds

theorem keepsOutcome_iff_exit_zero :
    KeepsOutcome (exitsWith 0) (oneJob ["tool"]) ↔
      (∀ job ∈ (oneJob ["tool"]).queue.jobs, job.status ≠ .pending) ∨
        WorkFails (exitsWith 0) (oneJob ["tool"]) :=
  keepsOutcome_iff (exitsWith 0) (oneJob ["tool"]) (oneJob_reachable ["tool"])

/-- The process of the only job exits with code zero, the call returns with the
completed job, and the queue is empty. -/
theorem successful_job_lost :
    ((callState (exitsWith 0) (oneJob ["tool"]) 8).1.queue.jobs = []) ∧
      ¬ KeepsOutcome (exitsWith 0) (oneJob ["tool"]) := by
  refine ⟨rfl, ?_⟩
  intro keeps
  obtain ⟨kept, found, _⟩ := keeps 8 _ rfl
  cases found

end NetGuardian
