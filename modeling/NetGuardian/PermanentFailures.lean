import NetGuardian.OpenCircuit

/-!
# Permanent failures and the breaker

`record_failure` does not count a permanent failure.  The circuit is updated in
any case, by the count of the earlier failures and by the clock, so that a
permanent failure can still end a cooldown or open a circuit that probes.
-/

namespace NetGuardian

namespace RetryState

variable {state : RetryState} {now : Nat} {errorMsg : String}

/-- Neither the circuit nor the count has moved. -/
def SameBreaker (before after : RetryState) : Prop :=
  after.circuitState = before.circuitState ∧
    after.consecutiveFailures = before.consecutiveFailures

/-- The circuit has no transition to make at that time: it is closed with a
threshold that is not zero, or it is cooling down, or it probes and no failure is
counted. -/
structure AtRest (state : RetryState) (now : Nat) : Prop where
  closed : state.circuitState = .closed → 1 ≤ state.policy.circuitThreshold
  opened : ∀ openedAt, state.circuitState = .opened openedAt →
    Instant.elapsed openedAt now < state.policy.circuitCooldown
  halfOpen : state.circuitState = .halfOpen → state.consecutiveFailures = 0

/-- A permanent failure makes the transition that is due without it. -/
theorem recordFailure_of_permanent
    (permanent : FailureClass.classify errorMsg = .permanent) :
    (state.recordFailure now errorMsg).consecutiveFailures =
        state.consecutiveFailures ∧
      (state.recordFailure now errorMsg).circuitState =
        state.nextCircuitState now := by
  have notRetryable : (FailureClass.classify errorMsg).isRetryable = false := by
    rw [permanent]
    rfl
  simp [recordFailure, updateCircuitState, notRetryable, nextCircuitState]

/-- A closed circuit is below its threshold, unless that is zero. -/
def ClosedBelow (state : RetryState) : Prop :=
  state.circuitState = .closed → state.consecutiveFailures = 0 ∨
    state.consecutiveFailures < state.policy.circuitThreshold

theorem nextCircuitState_eq_iff (below : state.ClosedBelow) :
    state.nextCircuitState now = state.circuitState ↔ state.AtRest now := by
  cases circuit : state.circuitState with
  | closed =>
      rw [nextCircuitState_closed_iff, and_iff_right circuit]
      have count := below circuit
      constructor
      · intro fewer
        exact ⟨fun _ => by omega, by simp [circuit], by simp [circuit]⟩
      · intro rest
        have threshold := rest.closed circuit
        omega
  | opened openedAt =>
      rw [nextCircuitState, circuit]
      dsimp only
      constructor
      · intro same
        split at same
        · cases same
        · next cooling =>
            refine ⟨by simp [circuit], ?_, by simp [circuit]⟩
            intro since opened
            rw [circuit] at opened
            cases opened
            exact Nat.lt_of_not_le cooling
      · intro rest
        rw [if_neg (Nat.not_le.mpr (rest.opened openedAt circuit))]
  | halfOpen =>
      rw [nextCircuitState, circuit]
      dsimp only
      constructor
      · intro same
        split at same
        · cases same
        · next uncounted =>
            exact ⟨by simp [circuit], by simp [circuit], fun _ => by omega⟩
      · intro rest
        rw [rest.halfOpen circuit]
        rfl

end RetryState

namespace RetryEngine

open RetryState

theorem closedBelow_apply {engine : RetryEngine} (below : engine.state.ClosedBelow)
    (call : Nat × RetryOp) : (engine.apply call).state.ClosedBelow := by
  obtain ⟨now, operation⟩ := call
  cases operation with
  | recordFailure errorMsg =>
      intro closed
      exact .inr ((engine.state.recordFailure_closed_iff now errorMsg).mp closed).2
  | recordSuccess => exact fun _ => .inl rfl
  | nextRetry jitter =>
      obtain ⟨sameCount, sameCircuit⟩ := engine.state.nextDelay_counts now jitter
      have samePolicy := engine.state.nextDelay_policy now jitter
      intro closed
      change (engine.state.nextDelay now jitter).1.consecutiveFailures = 0 ∨
        (engine.state.nextDelay now jitter).1.consecutiveFailures <
          (engine.state.nextDelay now jitter).1.policy.circuitThreshold
      rw [sameCount, samePolicy]
      exact below (sameCircuit.symm.trans closed)
  | shouldRetry => exact below
  | reset => exact below
  | withNetworkConditions latencyMs packetLossPct => exact below

theorem closedBelow_run (maxRetries : Nat) (policy : RetryPolicy)
    (calls : List (Nat × RetryOp)) :
    (calls.foldl apply (new maxRetries policy)).state.ClosedBelow := by
  induction calls using List.reverseRecOn with
  | nil => exact fun _ => .inl rfl
  | append_singleton calls call ih =>
      rw [List.foldl_append]
      exact closedBelow_apply ih call

/-- In every reachable state a permanent failure leaves the breaker as it is
exactly if the breaker has no transition to make at that time. -/
theorem permanent_sameBreaker_iff (maxRetries : Nat) (policy : RetryPolicy)
    (calls : List (Nat × RetryOp)) (now : Nat) {errorMsg : String}
    (permanent : FailureClass.classify errorMsg = .permanent) :
    let state := (calls.foldl apply (new maxRetries policy)).state
    state.SameBreaker (state.recordFailure now errorMsg) ↔ state.AtRest now := by
  intro state
  obtain ⟨sameCount, moved⟩ :=
    @recordFailure_of_permanent state now errorMsg permanent
  rw [SameBreaker, sameCount, moved, and_iff_left rfl]
  exact nextCircuitState_eq_iff (closedBelow_run maxRetries policy calls)

/-- A timeout, which opens the circuit of `oneStrike` for thirty seconds. -/
def oneTimeout : List (Nat × RetryOp) := [(0, .recordFailure "timeout")]

theorem permanent_sameBreaker_iff_oneTimeout :
    let state := (oneTimeout.foldl apply (new 5 oneStrike)).state
    state.SameBreaker (state.recordFailure (Duration.fromSecs 1) "404 Not Found") ↔
      state.AtRest (Duration.fromSecs 1) :=
  permanent_sameBreaker_iff 5 oneStrike oneTimeout (Duration.fromSecs 1) (by decide)

/-- After the cooldown, a missing page half-opens the circuit. -/
theorem missing_page_half_opens :
    let state := (oneTimeout.foldl apply (new 5 oneStrike)).state
    FailureClass.classify "404 Not Found" = .permanent ∧
      state.circuitState = .opened 0 ∧
      (state.recordFailure (Duration.fromSecs 30) "404 Not Found").circuitState =
        .halfOpen ∧
      ¬ state.SameBreaker
        (state.recordFailure (Duration.fromSecs 30) "404 Not Found") := by
  intro state
  have halfOpen : (state.recordFailure (Duration.fromSecs 30)
      "404 Not Found").circuitState = .halfOpen := by rfl
  refine ⟨by decide, rfl, halfOpen, ?_⟩
  rintro ⟨same, _⟩
  rw [halfOpen] at same
  cases same

end RetryEngine

end NetGuardian
