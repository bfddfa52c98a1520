import NetGuardian.RetryEngine

/-!
# The circuit breaker over time

The breaker is described twice in the code.  `circuit_allows_retry` treats an
open circuit whose cooldown is over as permission to probe; the transition out
of `Open` is made only when the next failure is recorded.  That failure is the
failed probe itself, and it moves the circuit to `HalfOpen`, where retries are
allowed, instead of opening it again.
-/

namespace NetGuardian

namespace RetryState

variable {state : RetryState}

theorem recordFailure_circuitState (now : Nat) (errorMsg : String) :
    (state.recordFailure now errorMsg).circuitState =
      RetryState.nextCircuitState
        { state with
          consecutiveFailures :=
            if (FailureClass.classify errorMsg).isRetryable then
              addU32 state.consecutiveFailures 1
            else state.consecutiveFailures }
        now :=
  rfl

/-- A failure recorded after the cooldown half-opens the circuit. -/
theorem recordFailure_of_cooled {openedAt now : Nat}
    (opened : state.circuitState = .opened openedAt)
    (cooled : openedAt + state.policy.circuitCooldown ≤ now)
    (errorMsg : String) :
    (state.recordFailure now errorMsg).circuitState = .halfOpen := by
  rw [recordFailure_circuitState]
  have elapsed : state.policy.circuitCooldown ≤
      Instant.elapsed openedAt now := by
    simp only [Instant.elapsed]
    omega
  simp [nextCircuitState, opened, elapsed]

/-- A failure recorded during the cooldown leaves the circuit as it is. -/
theorem recordFailure_of_cooling {openedAt now : Nat}
    (opened : state.circuitState = .opened openedAt)
    (cooling : Instant.elapsed openedAt now < state.policy.circuitCooldown)
    (errorMsg : String) :
    (state.recordFailure now errorMsg).circuitState = .opened openedAt := by
  rw [recordFailure_circuitState]
  simp [nextCircuitState, opened, Nat.not_le.mpr cooling]

end RetryState

namespace RetryEngine

/-- After the failure recorded at `now`, nothing is permitted for one whole
cooldown, whatever is called in between short of `record_success`. -/
def ProbeReopens (engine : RetryEngine) (now : Nat)
    (errorMsg : String) : Prop :=
  ∀ (calls : List (Nat × RetryOp)) (later : Nat) (jitter : ℚ),
    (∀ call ∈ calls, call.2 ≠ .recordSuccess) →
      (now :: (calls.map Prod.fst ++ [later])).Pairwise (· ≤ ·) →
        later < now + engine.state.policy.circuitCooldown →
          let after := calls.foldl apply (engine.recordFailure now errorMsg)
          (after.nextRetry later jitter).2 = none ∧
            after.shouldRetry later = false

variable {engine : RetryEngine}

/-- A spent budget of zero permits nothing at all. -/
theorem probeReopens_of_maxRetries_zero (now : Nat) (errorMsg : String)
    (noBudget : engine.state.maxRetries = 0) :
    engine.ProbeReopens now errorMsg := by
  intro calls later jitter _ _ _ after
  have budget : after.state.maxRetries = 0 := by
    rw [foldl_apply_maxRetries]
    exact noBudget
  have refused : after.shouldRetry later = false := by
    simp [shouldRetry, budget]
  have silent : (after.nextRetry later jitter).2.isSome = false := by
    rw [nextRetry_isSome, refused]
  exact ⟨by simpa using silent, refused⟩

/-- The half-open circuit grants the next request as soon as an attempt is
available, which `reset` provides. -/
theorem not_probeReopens_of_cooled {openedAt now : Nat}
    (opened : engine.state.circuitState = .opened openedAt)
    (cooled : openedAt + engine.state.policy.circuitCooldown ≤ now)
    (errorMsg : String)
    (cooldownPos : 0 < engine.state.policy.circuitCooldown)
    (budgetPos : 0 < engine.state.maxRetries) :
    ¬ engine.ProbeReopens now errorMsg := by
  intro reopens
  have halfOpen := RetryState.recordFailure_of_cooled opened cooled errorMsg
  have refused := (reopens [(now, .reset)] now 0 (by simp) (by simp)
    (by omega)).2
  have granted : ((engine.recordFailure now errorMsg).reset).shouldRetry now =
      true := by
    have allowed : ((engine.state.recordFailure now errorMsg).reset
        ).circuitAllowsRetry now = true := by
      simp [RetryState.circuitAllowsRetry, RetryState.reset, halfOpen]
    simp only [shouldRetry, reset, recordFailure, allowed, Bool.and_true]
    exact decide_eq_true budgetPos
  change ((engine.recordFailure now errorMsg).reset).shouldRetry now = false
    at refused
  rw [granted] at refused
  cases refused

/-- A failed probe shuts the breaker again only where nothing could have been
permitted anyway: with an empty cooldown or without any retry budget. -/
theorem probeReopens_iff {openedAt now : Nat} (errorMsg : String)
    (opened : engine.state.circuitState = .opened openedAt)
    (cooled : openedAt + engine.state.policy.circuitCooldown ≤ now) :
    engine.ProbeReopens now errorMsg ↔
      engine.state.policy.circuitCooldown = 0 ∨
        engine.state.maxRetries = 0 := by
  constructor
  · intro reopens
    by_contra neither
    rw [not_or] at neither
    exact not_probeReopens_of_cooled opened cooled errorMsg
      (Nat.pos_of_ne_zero neither.1) (Nat.pos_of_ne_zero neither.2) reopens
  · rintro (noCooldown | noBudget)
    · intro calls later jitter _ ordered within
      rw [List.pairwise_cons] at ordered
      have atLeast := ordered.1 later (by simp)
      omega
    · exact probeReopens_of_maxRetries_zero now errorMsg noBudget

/-- A breaker that one timeout at time zero has opened for thirty seconds. -/
def tripped : RetryEngine :=
  (RetryEngine.new 5 (.smart (Duration.fromSecs 1) 2 (Duration.fromSecs 60) 1
    (Duration.fromSecs 30))).recordFailure 0 "timeout"

theorem probeReopens_iff_tripped :
    tripped.ProbeReopens (Duration.fromSecs 30) "timeout" ↔
      Duration.fromSecs 30 = 0 ∨ (5 : Nat) = 0 :=
  @probeReopens_iff tripped 0 (Duration.fromSecs 30) "timeout" rfl
    (Nat.le_refl _)

/-- The probe fails thirty seconds later and the next request is granted at
once. -/
theorem tripped_not_probeReopens :
    tripped.state.circuitState = .opened 0 ∧
      (tripped.recordFailure (Duration.fromSecs 30) "timeout").shouldRetry
        (Duration.fromSecs 30) = true ∧
      ¬ tripped.ProbeReopens (Duration.fromSecs 30) "timeout" :=
  ⟨rfl, rfl, not_probeReopens_of_cooled rfl (Nat.le_refl _) "timeout"
    (by decide) (by decide)⟩

end RetryEngine

end NetGuardian
