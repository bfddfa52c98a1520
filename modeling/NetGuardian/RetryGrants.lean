import NetGuardian.FailureCount
import NetGuardian.QueueHistory
import NetGuardian.SharedRetryBudget

/-!
# How many retries a job gets

Two paths lead a failed job back to `Pending`.  `retry_failed` compares the
retry count with the maximum and then raises it; `handle_failure` raises it
first.  On the second path a job is therefore retried once less than its maximum
says.
-/

namespace NetGuardian

/-- An orchestrator and one job that it handles. -/
structure FailingJob where
  orchestrator : RetryOrchestrator
  job : Job

namespace FailingJob

/-- The job runs again and fails with an error. -/
def fail (failing : FailingJob) (failure : FailureReadings × String) :
    FailingJob :=
  let handled := failing.orchestrator.handleFailure failure.1
    { failing.job with status := .running } failure.2
  ⟨handled.orchestrator, handled.job⟩

/-- The status of the job after each of its failures. -/
def statuses : FailingJob → List (FailureReadings × String) → List JobStatus
  | _, [] => []
  | failing, failure :: failures =>
      (failing.fail failure).job.status :: statuses (failing.fail failure) failures

/-- After `count` failures that were all counted by the engine and by the job. -/
structure After (budget : Nat) (policy : RetryPolicy) (maxRetries count : Nat)
    (failing : FailingJob) : Prop where
  attempt : failing.orchestrator.engine.state.attempt = count
  budget : failing.orchestrator.engine.state.maxRetries = budget
  policy : failing.orchestrator.engine.state.policy = policy
  counted : failing.orchestrator.engine.state.consecutiveFailures = count
  closed : failing.orchestrator.engine.state.circuitState = .closed
  retryCount : failing.job.retryCount = count
  maxRetries : failing.job.maxRetries = maxRetries

section Failures

variable {budget maxRetries count : Nat} {policy : RetryPolicy}
variable {failing : FailingJob} {failure : FailureReadings × String}

theorem handleFailure_counts (orchestrator : RetryOrchestrator)
    (readings : FailureReadings) (job : Job) (error : String) :
    (orchestrator.handleFailure readings job error).job.retryCount =
        addU32 job.retryCount 1 ∧
      (orchestrator.handleFailure readings job error).job.maxRetries =
        job.maxRetries := by
  simp only [RetryOrchestrator.handleFailure]
  split
  · exact ⟨rfl, rfl⟩
  · split <;> exact ⟨rfl, rfl⟩

/-- A failure that the engine could have retried counts once everywhere. -/
theorem After.fail (reached : failing.After budget policy maxRetries count)
    (retryable : (FailureClass.classify failure.2).isRetryable = true)
    (budgetFits : budget < 2 ^ 32) (withinBudget : count + 1 < budget)
    (belowThreshold : count + 1 < policy.circuitThreshold) :
    (failing.fail failure).After budget policy maxRetries (count + 1) := by
  let recorded := failing.orchestrator.engine.state.recordFailure
    failure.1.recordedAt failure.2
  let next := recorded.nextDelay failure.1.delayAt failure.1.jitter
  have engine : (failing.fail failure).orchestrator.engine.state = next.1 := by
    rw [FailingJob.fail, RetryOrchestrator.handleFailure_orchestrator]
    rfl
  have counted : recorded.consecutiveFailures = count + 1 := by
    have grown := RetryState.recordFailure_consecutiveFailures
      failing.orchestrator.engine.state failure.1.recordedAt failure.2
      (by rw [reached.counted]; omega)
    rw [reached.counted, retryable] at grown
    exact grown
  have closed : recorded.circuitState = .closed := by
    apply (RetryState.recordFailure_closed_iff _ _ _).mpr
    refine ⟨reached.closed, ?_⟩
    change recorded.consecutiveFailures < _
    rw [counted, reached.policy]
    exact belowThreshold
  obtain ⟨attempts, stillClosed⟩ := recorded.nextDelay_of_closed
    failure.1.delayAt failure.1.jitter closed
  obtain ⟨retryCount, sameMax⟩ := handleFailure_counts failing.orchestrator
    failure.1 { failing.job with status := .running } failure.2
  have recordedAttempt : recorded.attempt = count := reached.attempt
  have recordedBudget : recorded.maxRetries = budget := reached.budget
  constructor
  · rw [engine, attempts, recordedAttempt, recordedBudget]
    omega
  · rw [engine, RetryState.nextDelay_maxRetries]
    exact reached.budget
  · rw [engine, RetryState.nextDelay_policy]
    exact reached.policy
  · rw [engine, (recorded.nextDelay_counts _ _).1]
    exact counted
  · rw [engine]
    exact stillClosed
  · refine retryCount.trans ?_
    change addU32 failing.job.retryCount 1 = count + 1
    rw [reached.retryCount]
    exact Nat.mod_eq_of_lt (by omega)
  · exact sameMax.trans reached.maxRetries

/-- The job is queued again as long as its raised retry count is below its
maximum. -/
theorem After.status (reached : (failing.fail failure).After budget policy
      maxRetries (count + 1))
    (before : failing.job.retryCount = count)
    (sameMax : failing.job.maxRetries = maxRetries)
    (retryable : (FailureClass.classify failure.2).isRetryable = true)
    (fits : count + 1 < 2 ^ 32) (withinBudget : count + 1 < budget) :
    (failing.fail failure).job.status =
      if count + 1 < maxRetries then .pending else .failed failure.2 := by
  have granted : (failing.fail failure).orchestrator.engine.shouldRetry
      failure.1.decidedAt = true := by
    simp [RetryEngine.shouldRetry, reached.attempt, reached.budget, withinBudget,
      RetryState.circuitAllowsRetry, reached.closed]
  have raised : addU32 failing.job.retryCount 1 = count + 1 := by
    rw [before]
    exact Nat.mod_eq_of_lt fits
  have pending := RetryOrchestrator.handleFailure_pending_iff failing.orchestrator
    failure.1 { failing.job with status := .running } failure.2
  have other := RetryOrchestrator.handleFailure_status failing.orchestrator
    failure.1 { failing.job with status := .running } failure.2
  change (failing.fail failure).job.status = .pending ↔ _ at pending
  change (failing.fail failure).job.status = .pending ∨
    (failing.fail failure).job.status = .failed failure.2 at other
  have left : (failing.fail failure).job.status = .pending ↔
      count + 1 < maxRetries := by
    rw [pending, ← raised, ← sameMax]
    exact ⟨fun all => all.2.2, fun below => ⟨retryable, granted, below⟩⟩
  by_cases below : count + 1 < maxRetries
  · rw [if_pos below]
    exact left.mpr below
  · rw [if_neg below]
    exact other.resolve_left fun isPending => below (left.mp isPending)

/-- The statuses of a job whose failures all could have been retried. -/
theorem statuses_eq {failures : List (FailureReadings × String)}
    (reached : failing.After budget policy maxRetries count)
    (retryable : ∀ failure ∈ failures,
      (FailureClass.classify failure.2).isRetryable = true)
    (budgetFits : budget < 2 ^ 32)
    (withinBudget : count + failures.length < budget)
    (belowThreshold : count + failures.length < policy.circuitThreshold) :
    failing.statuses failures = (failures.zipIdx count).map fun entry =>
      if entry.2 + 1 < maxRetries then .pending else .failed entry.1.2 := by
  induction failures generalizing failing count with
  | nil => rfl
  | cons failure failures ih =>
      rw [List.length_cons] at withinBudget belowThreshold
      have retryFirst := retryable failure List.mem_cons_self
      have next := reached.fail retryFirst budgetFits (by omega) (by omega)
      have status := next.status reached.retryCount reached.maxRetries retryFirst
        (by omega) (by omega)
      have rest := ih next
        (fun later member => retryable later (List.mem_cons_of_mem _ member))
        (by omega) (by omega)
      rw [statuses, status, rest, List.zipIdx_cons, List.map_cons]

end Failures

end FailingJob

/-- The status of a job in the queue after each failure and the `retry_failed`
that follows it. -/
def Job.requeuedStatuses : Job → List String → List JobStatus
  | _, [] => []
  | job, reason :: reasons =>
      let requeued := QueueManager.retried { job with status := .failed reason }
      requeued.status :: requeuedStatuses requeued reasons

/-- `retry_failed` grants every retry up to the maximum, and none after it. -/
theorem Job.requeuedStatuses_eq {job : Job} {reasons : List String} {count : Nat}
    (fits : job.maxRetries < 2 ^ 32)
    (reached : job.retryCount = count ∨
      job.maxRetries ≤ job.retryCount ∧ job.maxRetries ≤ count) :
    job.requeuedStatuses reasons = (reasons.zipIdx count).map fun entry =>
      if entry.2 < job.maxRetries then .pending else .failed entry.1 := by
  induction reasons generalizing job count with
  | nil => rfl
  | cons reason reasons ih =>
      let failed : Job := { job with status := .failed reason }
      let requeued := QueueManager.retried failed
      rw [List.zipIdx_cons, List.map_cons]
      change requeued.status :: requeued.requeuedStatuses reasons = _
      by_cases below : job.retryCount < job.maxRetries
      · have counted : job.retryCount = count := by omega
        have raised : addU32 job.retryCount 1 = count + 1 := by
          rw [counted]
          exact Nat.mod_eq_of_lt (by omega)
        have granted : requeued =
            { failed with
              retryCount := addU32 job.retryCount 1
              status := .pending } :=
          if_pos (decide_eq_true below)
        have sameMax : requeued.maxRetries = job.maxRetries := by rw [granted]
        have rest := @ih requeued (count + 1) (by rw [sameMax]; exact fits)
          (.inl (by rw [granted]; exact raised))
        rw [rest, sameMax, if_pos (by rw [← counted]; exact below), granted]
      · have kept : requeued = failed :=
          if_neg fun retryable => below (of_decide_eq_true retryable)
        have sameMax : requeued.maxRetries = job.maxRetries := by rw [kept]
        have sameCount : requeued.retryCount = job.retryCount := by rw [kept]
        have rest := @ih requeued (count + 1) (by rw [sameMax]; exact fits)
          (by rw [sameMax, sameCount]; omega)
        rw [rest, sameMax, if_neg (by dsimp only; omega), kept]

theorem count_pending_zipIdx {Failure : Type*} (reason : Failure → String)
    (failures : List Failure) (bound start : Nat) :
    ((failures.zipIdx start).map fun entry =>
      if entry.2 < bound then JobStatus.pending
      else .failed (reason entry.1)).count .pending =
        min failures.length (bound - start) := by
  induction failures generalizing start with
  | nil => simp
  | cons failure failures ih =>
      rw [List.zipIdx_cons, List.map_cons, List.count_cons, ih, List.length_cons]
      by_cases below : start < bound
      · simp [below]
        omega
      · simp [below]
        omega

namespace FailingJob

/-- What the maximum promises: the job is queued again after each of that many
failures and has failed after any further one, as with `retry_failed`. -/
def GrantsConfigured (failing : FailingJob)
    (failures : List (FailureReadings × String)) : Prop :=
  (failing.statuses failures = failures.zipIdx.map fun entry =>
      if entry.2 < failing.job.maxRetries then .pending
      else .failed entry.1.2) ∧
    (failing.statuses failures).count .pending =
      (failing.job.requeuedStatuses (failures.map Prod.snd)).count .pending

/-- The orchestrator grants one retry less than the maximum, the queue as many
as the maximum says. -/
theorem handleFailure_grants_one_less (maxRetries budget : Nat)
    (policy : RetryPolicy) (job : Job)
    (failures : List (FailureReadings × String))
    (positive : 1 ≤ maxRetries) (budgetFits : budget < 2 ^ 32)
    (budgetExceeds : maxRetries + 1 < budget)
    (thresholdExceeds : maxRetries + 1 < policy.circuitThreshold)
    (configured : job.maxRetries = maxRetries) (firstFailure : job.retryCount = 0)
    (length : failures.length = maxRetries + 1)
    (retryable : ∀ failure ∈ failures,
      (FailureClass.classify failure.2).isRetryable = true) :
    let failing : FailingJob := ⟨.new budget policy, job⟩
    ¬ failing.GrantsConfigured failures ∧
      (failing.statuses failures = failures.zipIdx.map fun entry =>
        if entry.2 + 1 < maxRetries then .pending else .failed entry.1.2) ∧
      (failing.statuses failures).count .pending = maxRetries - 1 ∧
      (job.requeuedStatuses (failures.map Prod.snd)).count .pending =
        maxRetries := by
  intro failing
  have start : failing.After budget policy maxRetries 0 :=
    ⟨rfl, rfl, rfl, rfl, rfl, firstFailure, configured⟩
  have statuses := statuses_eq start retryable budgetFits (by omega) (by omega)
  have granted : (failing.statuses failures).count .pending = maxRetries - 1 := by
    have shifted : (fun entry : (FailureReadings × String) × Nat =>
        if entry.2 + 1 < maxRetries then JobStatus.pending
        else .failed entry.1.2) = fun entry =>
          if entry.2 < maxRetries - 1 then .pending else .failed entry.1.2 := by
      funext entry
      exact if_congr (by omega) rfl rfl
    rw [statuses, shifted, count_pending_zipIdx, length]
    omega
  have requeued : (job.requeuedStatuses (failures.map Prod.snd)).count .pending =
      maxRetries := by
    rw [Job.requeuedStatuses_eq (by omega) (.inl firstFailure), configured]
    refine (count_pending_zipIdx id _ _ _).trans ?_
    rw [List.length_map, length]
    omega
  refine ⟨?_, statuses, granted, requeued⟩
  rintro ⟨_, same⟩
  change _ = (job.requeuedStatuses (failures.map Prod.snd)).count .pending at same
  rw [granted, requeued] at same
  omega

/-- A job that may be retried once, on a fresh orchestrator with room for five
attempts. -/
def retryOnce : FailingJob where
  orchestrator := .new 5 .default
  job := { Job.new 1 0 "curl" "" "curl" [] .normal with maxRetries := 1 }

def twoTimeouts : List (FailureReadings × String) :=
  [(⟨0, 0, 0, 0, 0⟩, "timeout"), (⟨0, 0, 0, 0, 0⟩, "timeout")]

theorem handleFailure_grants_one_less_retryOnce :
    ¬ retryOnce.GrantsConfigured twoTimeouts ∧
      (retryOnce.statuses twoTimeouts = twoTimeouts.zipIdx.map fun entry =>
        if entry.2 + 1 < 1 then .pending else .failed entry.1.2) ∧
      (retryOnce.statuses twoTimeouts).count .pending = 1 - 1 ∧
      (retryOnce.job.requeuedStatuses (twoTimeouts.map Prod.snd)).count .pending =
        1 :=
  handleFailure_grants_one_less 1 5 .default retryOnce.job twoTimeouts (by decide)
    (by decide) (by decide) (by decide) rfl rfl rfl (by decide)

/-- The job is not retried at all. -/
theorem retryOnce_not_retried :
    retryOnce.statuses twoTimeouts = [.failed "timeout", .failed "timeout"] ∧
      retryOnce.job.requeuedStatuses (twoTimeouts.map Prod.snd) =
        [.pending, .failed "timeout"] ∧
      ¬ retryOnce.GrantsConfigured twoTimeouts := by
  have statuses : retryOnce.statuses twoTimeouts =
      [.failed "timeout", .failed "timeout"] := by rfl
  have requeued : retryOnce.job.requeuedStatuses (twoTimeouts.map Prod.snd) =
      [.pending, .failed "timeout"] := by rfl
  refine ⟨statuses, requeued, ?_⟩
  rintro ⟨_, same⟩
  rw [statuses, requeued] at same
  exact absurd same (by decide)

end FailingJob

end NetGuardian
