import NetGuardian.RetryDelays
import NetGuardian.SelfDeadlock

/-!
# The bookkeeping of retries

`handle_failure` publishes `RetryStarted`, and takes an attempt from the engine for
its payload, before it decides whether there is a retry.  `execute_next` counts a
retry after every decision.  So the books agree with the decision for a job that is
queued again, and only if the attempt was to be had; the events of a job that fails
for good follow the decision.  A delay that no duration can hold ends the call before
its first event, with the attempt gone.

No call of `execute_next` gets as far as the decision, since it waits for its own
guard before it: in no run of the executor a retry is counted.
-/

namespace NetGuardian

open CooperativeTasks LabelledRun

namespace RetryOrchestrator

section Bookkeeping

variable (orchestrator : RetryOrchestrator) (readings : FailureReadings)
variable (job : Job) (error : String)

end Bookkeeping

end RetryOrchestrator

namespace ExecPoint

/-- A point of the failure branch behind the retry decision. -/
def Decided : ExecPoint → Prop
  | failedQueue _ _ | failedDownload _ _ => True
  | _ => False

end ExecPoint

/-- A task that is not behind the retry decision. -/
def Frame.Undecided : Frame → Prop
  | .execute point => ¬ point.Decided
  | .control _ _ => True

section Runs

variable {answer : Answer} {system after : System} {point next : ExecPoint}

theorem pollStep_undecided (job : Job) (process : ManagedProcess)
    (round : PollRound) :
    ¬ (pollStep answer system job process round).2.Decided ∧
      (pollStep answer system job process round).1.metrics.retries =
        system.metrics.retries := by
  unfold pollStep
  dsimp only
  split
  · exact ⟨id, rfl⟩
  · split
    · split
      · exact ⟨id, rfl⟩
      · exact ⟨id, rfl⟩
    · split
      · exact ⟨id, rfl⟩
      · exact ⟨id, rfl⟩
    · exact ⟨id, rfl⟩

/-- Only the decision leads behind it, and only there a retry is counted. -/
theorem executeStep_undecided
    (segment : executeStep answer system point = some (after, next))
    (undecided : ¬ point.Decided) (free : ∀ job err, point ≠ .failedPlugins job err) :
    ¬ next.Decided ∧ after.metrics.retries = system.metrics.retries := by
  cases point with
  | dequeue =>
      rw [executeStep] at segment
      split at segment
      · cases segment
        exact ⟨id, rfl⟩
      · cases segment
        exact ⟨id, rfl⟩
  | lockPlugins job =>
      rw [executeStep] at segment
      split at segment
      · split at segment
        · cases segment
          exact ⟨id, rfl⟩
        · cases segment
          exact ⟨id, rfl⟩
      · cases segment
        exact ⟨id, rfl⟩
  | register job process =>
      rw [executeStep] at segment
      split at segment
      · cases segment
        exact ⟨id, rfl⟩
      · cases segment
        exact ⟨id, rfl⟩
  | poll job process round =>
      rw [executeStep, Option.some.injEq] at segment
      have polled := @pollStep_undecided answer system job process round
      rw [segment] at polled
      exact polled
  | failedPlugins job err => exact absurd rfl (free job err)
  | failedQueue job err | failedDownload job err => exact absurd trivial undecided
  | returned job => cases segment
  | missing job | completeQueue job | timedOut job | succeeded job
  | completeDownload job | waitFailed job | cleanup job | spawnFailed job err
  | failed job err | track job process | updateDownload job process round elapsed =>
      cases segment
      exact ⟨id, rfl⟩

theorem controlStep_metrics {call : ControlCall} {point next : ControlPoint}
    (segment : controlStep call answer system point = some (after, next)) :
    after.metrics = system.metrics := by
  cases point with
  | list =>
      rw [controlStep] at segment
      split at segment
      · cases segment
        rfl
      · cases segment
        rfl
  | update plugin results =>
      simp only [controlStep] at segment
      split at segment
      · cases segment
        rfl
      · cases segment
        rfl
  | signal plugin | cleanup plugin results =>
      cases segment
      rfl
  | returned result => cases segment

/-- A segment that can run leaves its task in front of the decision. -/
theorem resume_undecided {frame resumed : Frame}
    (resumption : Frame.resume system frame answer = some (after, resumed))
    (undecided : frame.Undecided) (free : ¬ SelfBlocked executor frame) :
    resumed.Undecided ∧ after.metrics.retries = system.metrics.retries := by
  cases frame with
  | execute point =>
      obtain ⟨following, rfl, segment⟩ := Frame.resume_execute resumption
      refine executeStep_undecided segment undecided fun job err same => free ?_
      rw [same]
      exact selfBlocked_execute_iff.mpr ⟨job, err, rfl⟩
  | control call point =>
      obtain ⟨following, rfl, segment⟩ := Frame.resume_control resumption
      exact ⟨trivial, congrArg MetricsEngine.retries (controlStep_metrics segment)⟩

/-- In no run of the executor a retry is counted: no call gets behind its retry
decision. -/
theorem run_counts_no_retry {pool last : Pool System Frame}
    {labels : List (Label Frame Answer)}
    (entries : ∀ frame ∈ pool.tasks, frame.Undecided)
    (run : Run (step executor) pool labels last) :
    last.shared.metrics.retries = pool.shared.metrics.retries ∧
      ∀ frame ∈ last.tasks, frame.Undecided := by
  apply pool_invariant
    (fun system : System => system.metrics.retries = pool.shared.metrics.retries)
    (fun _ => Frame.Undecided) run rfl entries
  · intro _ frame _ entry _
    cases frame with
    | control call point => trivial
    | execute point =>
        cases point with
        | dequeue => exact id
        | _ => cases entry
  · intro current index answer frame shared resumed counted found available undecided
      _ resumption
    obtain ⟨stays, same⟩ := resume_undecided resumption undecided fun blocked =>
      blocked.not_available (List.mem_of_getElem? found) available
    exact ⟨same.trans counted, stays⟩
  · intro _ _ _ _ _ _ _ _ _ undecided
    exact undecided

end Runs

end NetGuardian
