import NetGuardian.RetryEngine
import Mathlib.Data.List.DropRight

/-!
# The breaker and its failure count

The breaker moves between open and half-open by the clock, and its counter
moves by the text of the failures.  Over a whole run the two agree: the counter
holds the number of retryable failures since the last success, and the circuit
is closed exactly while that number is below the threshold.
-/

namespace NetGuardian

namespace RetryOp

def isSuccess : RetryOp → Bool
  | recordSuccess => true
  | _ => false

def isFailure : RetryOp → Bool
  | recordFailure _ => true
  | _ => false

/-- A failure that `record_failure` counts. -/
def isRetryableFailure : RetryOp → Bool
  | recordFailure errorMsg => (FailureClass.classify errorMsg).isRetryable
  | _ => false

end RetryOp

/-- The calls after the last `record_success`, or all of them. -/
def sinceSuccess (calls : List (Nat × RetryOp)) : List (Nat × RetryOp) :=
  calls.rtakeWhile fun call => !call.2.isSuccess

def failuresSinceSuccess (calls : List (Nat × RetryOp)) : Nat :=
  (sinceSuccess calls).countP fun call => call.2.isFailure

def retryableSinceSuccess (calls : List (Nat × RetryOp)) : Nat :=
  (sinceSuccess calls).countP fun call => call.2.isRetryableFailure

section Counting

variable {calls : List (Nat × RetryOp)} {call : Nat × RetryOp}

theorem sinceSuccess_append_success (succeeded : call.2.isSuccess = true) :
    sinceSuccess (calls ++ [call]) = [] := by
  simp [sinceSuccess, succeeded]

theorem sinceSuccess_append_other (notSuccess : call.2.isSuccess = false) :
    sinceSuccess (calls ++ [call]) = sinceSuccess calls ++ [call] := by
  simp [sinceSuccess, notSuccess]

theorem failuresSinceSuccess_append_other
    (notSuccess : call.2.isSuccess = false) :
    failuresSinceSuccess (calls ++ [call]) =
      failuresSinceSuccess calls + call.2.isFailure.toNat := by
  rw [failuresSinceSuccess, sinceSuccess_append_other notSuccess,
    List.countP_append, List.countP_singleton]
  cases call.2.isFailure <;> rfl

theorem retryableSinceSuccess_append_other
    (notSuccess : call.2.isSuccess = false) :
    retryableSinceSuccess (calls ++ [call]) =
      retryableSinceSuccess calls + call.2.isRetryableFailure.toNat := by
  rw [retryableSinceSuccess, sinceSuccess_append_other notSuccess,
    List.countP_append, List.countP_singleton]
  cases call.2.isRetryableFailure <;> rfl

theorem retryableSinceSuccess_le :
    retryableSinceSuccess calls ≤ failuresSinceSuccess calls := by
  apply List.countP_mono_left
  intro call _ retryable
  obtain ⟨now, operation⟩ := call
  cases operation <;> simp_all [RetryOp.isFailure, RetryOp.isRetryableFailure]

end Counting

namespace RetryState

variable (state : RetryState)

/-- The transition leaves `Closed` exactly when the count has reached the
threshold, and never enters it. -/
theorem nextCircuitState_closed_iff (now : Nat) :
    state.nextCircuitState now = .closed ↔
      state.circuitState = .closed ∧
        state.consecutiveFailures < state.policy.circuitThreshold := by
  unfold nextCircuitState
  cases circuit : state.circuitState with
  | closed =>
      by_cases reached :
          state.policy.circuitThreshold ≤ state.consecutiveFailures
      · simp [reached]
      · simp [reached, Nat.lt_of_not_le reached]
  | opened openedAt =>
      by_cases cooled : state.policy.circuitCooldown ≤
          Instant.elapsed openedAt now
      · simp [cooled]
      · simp [cooled]
  | halfOpen =>
      by_cases counted : 1 ≤ state.consecutiveFailures
      · simp [counted]
      · simp [counted]

theorem recordFailure_closed_iff (now : Nat) (errorMsg : String) :
    (state.recordFailure now errorMsg).circuitState = .closed ↔
      state.circuitState = .closed ∧
        (state.recordFailure now errorMsg).consecutiveFailures <
          state.policy.circuitThreshold :=
  nextCircuitState_closed_iff _ now

theorem recordFailure_consecutiveFailures (now : Nat) (errorMsg : String)
    (fits : state.consecutiveFailures + 1 < 2 ^ 32) :
    (state.recordFailure now errorMsg).consecutiveFailures =
      state.consecutiveFailures +
        (FailureClass.classify errorMsg).isRetryable.toNat := by
  change (if _ then _ else _) = _
  cases retryable : (FailureClass.classify errorMsg).isRetryable with
  | true =>
      rw [if_pos rfl, addU32, Nat.mod_eq_of_lt fits]
      rfl
  | false => rfl

theorem nextDelay_counts (now : Nat) (jitter : ℚ) :
    (state.nextDelay now jitter).1.consecutiveFailures =
        state.consecutiveFailures ∧
      (state.nextDelay now jitter).1.circuitState = state.circuitState := by
  unfold nextDelay
  split
  · exact ⟨rfl, rfl⟩
  · split <;> exact ⟨rfl, rfl⟩

end RetryState

namespace RetryEngine

variable {engine : RetryEngine} {calls : List (Nat × RetryOp)}
variable {call : Nat × RetryOp}

theorem apply_policy :
    (engine.apply call).state.policy = engine.state.policy := by
  obtain ⟨now, operation⟩ := call
  cases operation with
  | nextRetry jitter => exact engine.state.nextDelay_policy now jitter
  | _ => rfl

theorem foldl_apply_policy (calls : List (Nat × RetryOp)) :
    (calls.foldl apply engine).state.policy = engine.state.policy := by
  induction calls generalizing engine with
  | nil => rfl
  | cons call calls ih => rw [List.foldl_cons, ih, apply_policy]

/-- Only the two `record` calls touch the counter or the circuit. -/
theorem apply_counts_of_neither (notSuccess : call.2.isSuccess = false)
    (notFailure : call.2.isFailure = false) :
    (engine.apply call).state.consecutiveFailures =
        engine.state.consecutiveFailures ∧
      (engine.apply call).state.circuitState = engine.state.circuitState := by
  obtain ⟨now, operation⟩ := call
  cases operation with
  | recordFailure errorMsg => simp [RetryOp.isFailure] at notFailure
  | recordSuccess => simp [RetryOp.isSuccess] at notSuccess
  | nextRetry jitter => exact engine.state.nextDelay_counts now jitter
  | shouldRetry => exact ⟨rfl, rfl⟩
  | reset => exact ⟨rfl, rfl⟩
  | withNetworkConditions latencyMs packetLossPct => exact ⟨rfl, rfl⟩

theorem apply_of_success (succeeded : call.2.isSuccess = true) :
    engine.apply call = engine.recordSuccess := by
  obtain ⟨now, operation⟩ := call
  cases operation <;> simp_all [RetryOp.isSuccess, apply]

/-- `Open` and `HalfOpen` are left for `Closed` by one call only. -/
theorem isSuccess_of_apply_closed
    (tripped : engine.state.circuitState ≠ .closed)
    (closes : (engine.apply call).state.circuitState = .closed) :
    call.2 = .recordSuccess := by
  obtain ⟨now, operation⟩ := call
  cases operation with
  | recordSuccess => rfl
  | recordFailure errorMsg =>
      have wasClosed :=
        ((engine.state.recordFailure_closed_iff now errorMsg).mp closes).1
      exact absurd wasClosed tripped
  | nextRetry jitter =>
      have same := (engine.state.nextDelay_counts now jitter).2
      exact absurd (same.symm.trans closes) tripped
  | shouldRetry => exact absurd closes tripped
  | reset => exact absurd closes tripped
  | withNetworkConditions latencyMs packetLossPct =>
      exact absurd closes tripped

/-- What the breaker's state says about the calls made so far. -/
structure Counts (engine : RetryEngine) (policy : RetryPolicy)
    (calls : List (Nat × RetryOp)) : Prop where
  policy_eq : engine.state.policy = policy
  consecutiveFailures_eq :
    engine.state.consecutiveFailures = retryableSinceSuccess calls
  closed_iff :
    engine.state.circuitState = .closed ↔
      retryableSinceSuccess calls < policy.circuitThreshold

namespace Counts

variable {policy : RetryPolicy}

theorem new (maxRetries : Nat) (thresholdPos : 1 ≤ policy.circuitThreshold) :
    Counts (.new maxRetries policy) policy [] where
  policy_eq := rfl
  consecutiveFailures_eq := rfl
  closed_iff := iff_of_true rfl thresholdPos

theorem apply_success (policyEq : engine.state.policy = policy)
    (thresholdPos : 1 ≤ policy.circuitThreshold)
    (succeeded : call.2.isSuccess = true) :
    Counts (engine.apply call) policy (calls ++ [call]) := by
  have none : retryableSinceSuccess (calls ++ [call]) = 0 := by
    rw [retryableSinceSuccess, sinceSuccess_append_success succeeded]
    rfl
  rw [apply_of_success succeeded]
  constructor
  · exact policyEq
  · exact none.symm
  · rw [none]
    exact iff_of_true rfl thresholdPos

theorem apply_neither (counts : Counts engine policy calls)
    (notSuccess : call.2.isSuccess = false)
    (notFailure : call.2.isFailure = false) :
    Counts (engine.apply call) policy (calls ++ [call]) := by
  have notRetryable : call.2.isRetryableFailure = false := by
    obtain ⟨now, operation⟩ := call
    cases operation <;>
      simp_all [RetryOp.isFailure, RetryOp.isRetryableFailure]
  have sameCount : retryableSinceSuccess (calls ++ [call]) =
      retryableSinceSuccess calls := by
    rw [retryableSinceSuccess_append_other notSuccess, notRetryable]
    rfl
  obtain ⟨sameFailures, sameCircuit⟩ :=
    apply_counts_of_neither notSuccess notFailure
  constructor
  · rw [apply_policy, counts.policy_eq]
  · rw [sameFailures, counts.consecutiveFailures_eq, sameCount]
  · rw [sameCircuit, counts.closed_iff, sameCount]

theorem recordFailure (counts : Counts engine policy calls)
    (now : Nat) (errorMsg : String)
    (few : retryableSinceSuccess calls + 1 < 2 ^ 32) :
    Counts (engine.recordFailure now errorMsg) policy
      (calls ++ [(now, .recordFailure errorMsg)]) := by
  have counted : (engine.state.recordFailure now errorMsg).consecutiveFailures =
      retryableSinceSuccess (calls ++ [(now, .recordFailure errorMsg)]) := by
    rw [RetryState.recordFailure_consecutiveFailures,
      counts.consecutiveFailures_eq, retryableSinceSuccess_append_other rfl]
    · rfl
    · rw [counts.consecutiveFailures_eq]
      exact few
  have grows : retryableSinceSuccess calls ≤
      retryableSinceSuccess (calls ++ [(now, .recordFailure errorMsg)]) := by
    rw [retryableSinceSuccess_append_other rfl]
    exact Nat.le_add_right _ _
  constructor
  · exact counts.policy_eq
  · exact counted
  · change (engine.state.recordFailure now errorMsg).circuitState = _ ↔ _
    rw [RetryState.recordFailure_closed_iff, counts.closed_iff, counted,
      counts.policy_eq]
    omega

end Counts

/-- Every run from a new engine keeps the count, as long as the counter does
not wrap. -/
theorem counts_of_run {policy : RetryPolicy} (maxRetries : Nat)
    (thresholdPos : 1 ≤ policy.circuitThreshold)
    (few : failuresSinceSuccess calls < 2 ^ 32) :
    Counts (calls.foldl apply (.new maxRetries policy)) policy calls := by
  induction calls using List.reverseRecOn with
  | nil => exact .new maxRetries thresholdPos
  | append_singleton calls call ih =>
      rw [List.foldl_append, List.foldl_cons, List.foldl_nil]
      cases success : call.2.isSuccess with
      | true =>
          exact .apply_success (foldl_apply_policy calls) thresholdPos success
      | false =>
          rw [failuresSinceSuccess_append_other success] at few
          have counts := ih (by omega)
          cases failure : call.2.isFailure with
          | false => exact counts.apply_neither success failure
          | true =>
              obtain ⟨now, operation⟩ := call
              cases operation <;> simp [RetryOp.isFailure] at failure
              rename_i errorMsg
              have bound := @retryableSinceSuccess_le calls
              simp only [RetryOp.isFailure, Bool.toNat_true] at few
              exact counts.recordFailure now errorMsg (by omega)

/-- After any run the counter is the number of retryable failures since the
last success, the circuit is closed exactly below the threshold, and the next
call closes a circuit that is not closed only if it records a success. -/
theorem breaker_follows_count (maxRetries : Nat) (policy : RetryPolicy)
    (calls : List (Nat × RetryOp))
    (thresholdPos : 1 ≤ policy.circuitThreshold)
    (few : failuresSinceSuccess calls < 2 ^ 32) :
    let engine := calls.foldl apply (.new maxRetries policy)
    engine.state.consecutiveFailures = retryableSinceSuccess calls ∧
      (engine.state.circuitState = .closed ↔
        retryableSinceSuccess calls < policy.circuitThreshold) ∧
      ∀ call : Nat × RetryOp, engine.state.circuitState ≠ .closed →
        (engine.apply call).state.circuitState = .closed →
          call.2 = .recordSuccess := by
  intro engine
  have counts : Counts engine policy calls :=
    counts_of_run maxRetries thresholdPos few
  refine ⟨counts.consecutiveFailures_eq, counts.closed_iff, ?_⟩
  intro call tripped closes
  exact isSuccess_of_apply_closed tripped closes

/-- Two failures of either kind after a success, the second of them counted. -/
def mixedCalls : List (Nat × RetryOp) :=
  [(0, .recordFailure "timeout"), (1, .recordSuccess),
    (2, .recordFailure "404 Not Found"), (3, .nextRetry 0),
    (4, .recordFailure "connection refused")]

theorem breaker_follows_count_mixedCalls :
    (mixedCalls.foldl apply (.new 3 .default)).state.consecutiveFailures =
        retryableSinceSuccess mixedCalls ∧
      ((mixedCalls.foldl apply (.new 3 .default)).state.circuitState =
          .closed ↔
        retryableSinceSuccess mixedCalls < 5) ∧
      ∀ call : Nat × RetryOp,
        (mixedCalls.foldl apply (.new 3 .default)).state.circuitState ≠
            .closed →
          ((mixedCalls.foldl apply (.new 3 .default)).apply
              call).state.circuitState = .closed →
            call.2 = .recordSuccess :=
  breaker_follows_count 3 .default mixedCalls (by decide) (by decide)

end RetryEngine

end NetGuardian
