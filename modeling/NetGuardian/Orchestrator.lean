import NetGuardian.EventBus
import NetGuardian.RetryEngine
import Mathlib.Data.List.Count

/-!
# The retry orchestrator

The orchestrator decides what becomes of a job whose process has ended.  All
jobs share its single retry engine.
-/

namespace NetGuardian

structure RetryOrchestrator where
  engine : RetryEngine
deriving DecidableEq

/-- What `handle_failure` reads from outside: the clock at its three questions
to the engine, the random part of the delay, and the wall clock. -/
structure FailureReadings where
  recordedAt : Nat
  delayAt : Nat
  decidedAt : Nat
  jitter : ℚ
  stamp : Nat

/-- The result of handling the end of a job. -/
structure Handled where
  orchestrator : RetryOrchestrator
  job : Job
  published : List NetGuardianEvent

/-- A call of `handle_failure`: what it leaves behind, and whether it has returned
or has panicked over the delay. -/
structure FailureCall where
  handled : Handled
  returned : Bool

namespace FailureCall

end FailureCall

namespace RetryOrchestrator

def new (maxRetries : Nat) (policy : RetryPolicy) : RetryOrchestrator where
  engine := .new maxRetries policy

def updateNetwork (orchestrator : RetryOrchestrator)
    (latencyMs packetLossPct : ℚ) : RetryOrchestrator where
  engine := orchestrator.engine.withNetworkConditions latencyMs packetLossPct

/-- `as_millis` of a delay that `Duration::from_secs_f64` has taken. -/
def delayMillis (secs : ℚ) : Nat :=
  (secs * 1000000000 + 1 / 2).floor.toNat / 1000000 % 2 ^ 64

/-- `handle_failure` where `next_retry` returns.  `runFailure` is the call with its
panic; the engine that it leaves is the same. -/
def handleFailure (orchestrator : RetryOrchestrator)
    (readings : FailureReadings) (job : Job) (error : String) : Handled :=
  let failureClass := FailureClass.classify error
  let recorded := orchestrator.engine.recordFailure readings.recordedAt error
  let counted := { job with retryCount := addU32 job.retryCount 1 }
  let next := recorded.nextRetry readings.delayAt readings.jitter
  let started := NetGuardianEvent.retryStarted
    { jobId := counted.id
      attempt := counted.retryCount
      delayMs := (next.2.map delayMillis).getD 0
      failureClass := failureClass.debug
      error := error
      timestamp := readings.stamp }
  let failed := { counted with status := .failed error }
  let jobFailed := NetGuardianEvent.jobFailed
    (failed.eventPayload (some error) failed.progress readings.stamp)
  let exhausted := NetGuardianEvent.retryExhausted failed.id failed.retryCount
    error
  if !failureClass.isRetryable then
    ⟨⟨next.1⟩, failed, [started, jobFailed, exhausted]⟩
  else if !next.1.shouldRetry readings.decidedAt ||
      decide (counted.maxRetries ≤ counted.retryCount) then
    ⟨⟨next.1⟩, failed, [started, exhausted, jobFailed]⟩
  else ⟨⟨next.1⟩, { counted with status := .pending }, [started]⟩

/-- The delay that is computed for the payload of `RetryStarted` makes
`next_retry` panic. -/
def DelayPanics (orchestrator : RetryOrchestrator) (readings : FailureReadings)
    (error : String) : Prop :=
  (orchestrator.engine.recordFailure readings.recordedAt error).Panics
    readings.delayAt readings.jitter

instance (orchestrator : RetryOrchestrator) (readings : FailureReadings)
    (error : String) : Decidable (orchestrator.DelayPanics readings error) :=
  inferInstanceAs (Decidable (RetryEngine.Panics _ _ _))

/-- `handle_failure`.  A panic comes before the first publication and before the
status is set, but after the failure has been counted and the attempt taken. -/
def runFailure (orchestrator : RetryOrchestrator) (readings : FailureReadings)
    (job : Job) (error : String) : FailureCall :=
  if orchestrator.DelayPanics readings error then
    let recorded := orchestrator.engine.recordFailure readings.recordedAt error
    let next := recorded.nextRetry readings.delayAt readings.jitter
    ⟨⟨⟨next.1⟩, { job with retryCount := addU32 job.retryCount 1 }, []⟩, false⟩
  else ⟨orchestrator.handleFailure readings job error, true⟩

def handleSuccess (orchestrator : RetryOrchestrator) (job : Job)
    (stamp : Nat) : Handled :=
  let completed := { job with status := .completed }
  ⟨⟨orchestrator.engine.recordSuccess⟩, completed,
    [.jobCompleted (completed.eventPayload none (.finite 100) stamp)]⟩

def nextRetryDelay (orchestrator : RetryOrchestrator) (now : Nat)
    (jitter : ℚ) : RetryOrchestrator × Option ℚ :=
  let next := orchestrator.engine.nextRetry now jitter
  (⟨next.1⟩, next.2)

end RetryOrchestrator

/-- The end of one job, as the executor reports it. -/
inductive JobEnd where
  | failure (readings : FailureReadings) (job : Job) (error : String)
  | success (job : Job) (stamp : Nat)

namespace JobEnd

def isFailure : JobEnd → Bool
  | failure _ _ _ => true
  | success _ _ => false

end JobEnd

namespace RetryOrchestrator

/-- The orchestrator after one job has ended, also if the call has panicked. -/
def apply (orchestrator : RetryOrchestrator) : JobEnd → RetryOrchestrator
  | .failure readings job error =>
      (orchestrator.runFailure readings job error).handled.orchestrator
  | .success job stamp => (orchestrator.handleSuccess job stamp).orchestrator

section Handlers

variable (orchestrator : RetryOrchestrator) (readings : FailureReadings)
variable (job : Job) (error : String)

theorem handleFailure_orchestrator :
    (orchestrator.handleFailure readings job error).orchestrator =
      ⟨((orchestrator.engine.recordFailure readings.recordedAt error).nextRetry
        readings.delayAt readings.jitter).1⟩ := by
  simp only [handleFailure]
  split
  · rfl
  · split <;> rfl

/-- A retry is granted exactly when the failure can be retried, the engine
still allows it, and the job has retries of its own left. -/
theorem handleFailure_pending_iff :
    (orchestrator.handleFailure readings job error).job.status = .pending ↔
      (FailureClass.classify error).isRetryable = true ∧
        (orchestrator.handleFailure readings job error
          ).orchestrator.engine.shouldRetry readings.decidedAt = true ∧
        addU32 job.retryCount 1 < job.maxRetries := by
  rw [handleFailure_orchestrator]
  simp only [handleFailure]
  cases (FailureClass.classify error).isRetryable with
  | false => simp
  | true =>
      cases ((orchestrator.engine.recordFailure readings.recordedAt
          error).nextRetry readings.delayAt readings.jitter).1.shouldRetry
            readings.decidedAt with
      | false => simp
      | true =>
          by_cases spent : job.maxRetries ≤ addU32 job.retryCount 1
          · simp [spent]
          · simp [spent, Nat.lt_of_not_le spent]

/-- Otherwise the job has failed with the error that was reported. -/
theorem handleFailure_status :
    (orchestrator.handleFailure readings job error).job.status = .pending ∨
      (orchestrator.handleFailure readings job error).job.status =
        .failed error := by
  simp only [handleFailure]
  split
  · exact .inr rfl
  · split
    · exact .inr rfl
    · exact .inl rfl

@[simp]
theorem handleFailure_identity :
    (orchestrator.handleFailure readings job error).job.identity =
      job.identity := by
  simp only [handleFailure]
  split
  · rfl
  · split <;> rfl

/-- The engine keeps what it has counted, whether the call returns or panics. -/
theorem runFailure_orchestrator :
    (orchestrator.runFailure readings job error).handled.orchestrator =
      ⟨((orchestrator.engine.recordFailure readings.recordedAt error).nextRetry
        readings.delayAt readings.jitter).1⟩ := by
  rw [runFailure]
  split
  · rfl
  · exact orchestrator.handleFailure_orchestrator readings job error

end Handlers

end RetryOrchestrator

end NetGuardian
