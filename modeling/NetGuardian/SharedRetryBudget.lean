import NetGuardian.Orchestrator
import NetGuardian.RetryDelays

/-!
# One retry budget for all jobs

The engine's attempt counter is raised by the failures of every job.  A success
closes the circuit and clears the count of consecutive failures, but it leaves
the attempt counter alone, and nothing in the orchestrator calls `reset`.  So
the counter never goes down, and the first failure of a new job is retried only
while two attempts of the shared budget are left, and if the delay of the attempt is
one that a duration can hold.
-/

namespace NetGuardian

namespace RetryState

variable (state : RetryState)

theorem nextDelay_attempt_le (now : Nat) (jitter : ℚ) :
    state.attempt ≤ (state.nextDelay now jitter).1.attempt := by
  unfold nextDelay
  split
  · exact le_rfl
  · split
    · exact le_rfl
    · exact Nat.le_succ _

theorem nextDelay_attempt_le_succ (now : Nat) (jitter : ℚ) :
    (state.nextDelay now jitter).1.attempt ≤ state.attempt + 1 := by
  unfold nextDelay
  split
  · exact Nat.le_succ _
  · split
    · exact Nat.le_succ _
    · exact le_rfl

/-- A closed circuit hands out an attempt as long as there is one. -/
theorem nextDelay_of_closed (now : Nat) (jitter : ℚ)
    (closed : state.circuitState = .closed) :
    (state.nextDelay now jitter).1.attempt =
        min (state.attempt + 1) (max state.attempt state.maxRetries) ∧
      (state.nextDelay now jitter).1.circuitState = .closed := by
  have allowed : state.circuitAllowsRetry now = true := by
    simp [circuitAllowsRetry, closed]
  unfold nextDelay
  by_cases spent : state.maxRetries ≤ state.attempt
  · rw [if_pos spent]
    exact ⟨by change state.attempt = _; omega, closed⟩
  · rw [if_neg spent, allowed]
    exact ⟨by change state.attempt + 1 = _; omega, closed⟩

end RetryState

namespace RetryOrchestrator

section History

variable (orchestrator : RetryOrchestrator) (history : List JobEnd)

theorem apply_maxRetries (ended : JobEnd) :
    (orchestrator.apply ended).engine.state.maxRetries =
      orchestrator.engine.state.maxRetries := by
  cases ended with
  | failure readings job error =>
      rw [apply, runFailure_orchestrator]
      exact RetryState.nextDelay_maxRetries _ _ _
  | success job stamp => rfl

theorem apply_policy (ended : JobEnd) :
    (orchestrator.apply ended).engine.state.policy =
      orchestrator.engine.state.policy := by
  cases ended with
  | failure readings job error =>
      rw [apply, runFailure_orchestrator]
      exact RetryState.nextDelay_policy _ _ _
  | success job stamp => rfl

/-- Every failure costs at most one attempt, whichever job it belongs to. -/
theorem apply_attempt (ended : JobEnd) :
    orchestrator.engine.state.attempt ≤
        (orchestrator.apply ended).engine.state.attempt ∧
      (orchestrator.apply ended).engine.state.attempt ≤
        orchestrator.engine.state.attempt + if ended.isFailure then 1 else 0 := by
  cases ended with
  | failure readings job error =>
      rw [apply, runFailure_orchestrator]
      let recorded :=
        orchestrator.engine.state.recordFailure readings.recordedAt error
      exact ⟨recorded.nextDelay_attempt_le readings.delayAt readings.jitter,
        recorded.nextDelay_attempt_le_succ readings.delayAt readings.jitter⟩
  | success job stamp => exact ⟨le_rfl, le_rfl⟩

theorem foldl_apply_maxRetries :
    (history.foldl apply orchestrator).engine.state.maxRetries =
      orchestrator.engine.state.maxRetries := by
  induction history generalizing orchestrator with
  | nil => rfl
  | cons ended history ih => rw [List.foldl_cons, ih, apply_maxRetries]

theorem foldl_apply_policy :
    (history.foldl apply orchestrator).engine.state.policy =
      orchestrator.engine.state.policy := by
  induction history generalizing orchestrator with
  | nil => rfl
  | cons ended history ih => rw [List.foldl_cons, ih, apply_policy]

/-- Over a whole history the counter only grows, by at most the number of
failures. -/
theorem foldl_apply_attempt :
    orchestrator.engine.state.attempt ≤
        (history.foldl apply orchestrator).engine.state.attempt ∧
      (history.foldl apply orchestrator).engine.state.attempt ≤
        orchestrator.engine.state.attempt + history.countP JobEnd.isFailure := by
  induction history generalizing orchestrator with
  | nil => exact ⟨le_rfl, le_rfl⟩
  | cons ended history ih =>
      have first := orchestrator.apply_attempt ended
      have rest := ih (orchestrator.apply ended)
      rw [List.foldl_cons, List.countP_cons]
      exact ⟨first.1.trans rest.1, by omega⟩

/-- A budget that is used up stays used up, for every job to come. -/
theorem remaining_foldl_apply_le :
    (history.foldl apply orchestrator).engine.state.remaining ≤
      orchestrator.engine.state.remaining := by
  have grown := (foldl_apply_attempt orchestrator history).1
  simp only [RetryState.remaining, foldl_apply_maxRetries]
  omega

end History

section FirstFailure

variable {orchestrator : RetryOrchestrator} {job : Job} {error : String}
variable (readings : FailureReadings)

end FirstFailure

/-- Two jobs of one plugin, as a client creates them, and the end of the first:
one timeout, then success. -/
def firstDownload : Job :=
  Job.new 1 0 "curl" "first" "curl" [] .normal

def oneTimeout : List JobEnd :=
  [.failure ⟨0, 0, 0, 0, 0⟩ firstDownload "timeout"]

/-- With a multiplier of minus two the attempt of the second job has a negative
delay, and the call panics with four attempts left. -/
example :
    let settled := (oneTimeout ++ [JobEnd.success firstDownload 0]).foldl apply
      (new 5 (.exponentialBackoff (Duration.fromSecs 1) (-2) (Duration.fromSecs 60)))
    settled.engine.state.remaining = 4 ∧
      settled.DelayPanics ⟨0, 0, 0, 0, 0⟩ "timeout" := by
  decide +kernel

/-- On a fresh orchestrator it is enough that the other jobs failed at most
`maxRetries - 2` times altogether. -/
theorem two_le_remaining_of_few_failures (maxRetries : Nat)
    (policy : RetryPolicy) (history : List JobEnd)
    (few : history.countP JobEnd.isFailure + 2 ≤ maxRetries) :
    2 ≤ (history.foldl apply (new maxRetries policy)).engine.state.remaining := by
  have grown := (foldl_apply_attempt (new maxRetries policy) history).2
  have fresh : (new maxRetries policy).engine.state.attempt = 0 := rfl
  have budget : (new maxRetries policy).engine.state.maxRetries =
      maxRetries := rfl
  simp only [RetryState.remaining, foldl_apply_maxRetries]
  omega

end RetryOrchestrator

end NetGuardian
