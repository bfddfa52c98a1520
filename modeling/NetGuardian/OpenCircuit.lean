import NetGuardian.CircuitBreaker
import NetGuardian.FailureCount

/-!
# The open circuit

While the cooldown of an open circuit lasts, only `record_success` touches the
circuit: a further failure finds the circuit open and leaves it as it is, with
the time at which it opened.  No retry is granted during that time.
-/

namespace NetGuardian

/-- A circuit that opens does so at the time of the transition. -/
theorem RetryState.nextCircuitState_opens {state : RetryState} {now since : Nat}
    (notOpen : ∀ since, state.circuitState ≠ .opened since)
    (opened : state.nextCircuitState now = .opened since) : since = now := by
  unfold nextCircuitState at opened
  split at opened
  · split at opened
    · exact (CircuitState.opened.inj opened).symm
    · cases opened
  · next earlier circuit => exact absurd circuit (notOpen earlier)
  · split at opened
    · exact (CircuitState.opened.inj opened).symm
    · cases opened

namespace RetryEngine

/-- The call opens the circuit, from `Closed` or from `HalfOpen`. -/
def Opens (engine : RetryEngine) (call : Nat × RetryOp) : Prop :=
  (∀ since, engine.state.circuitState ≠ .opened since) ∧
    ∃ since, (engine.apply call).state.circuitState = .opened since

/-- Nothing is granted, and asking changes nothing. -/
def Blocks (engine : RetryEngine) (now : Nat) : Prop :=
  engine.shouldRetry now = false ∧
    ∀ jitter, engine.nextRetry now jitter = (engine, none)

section Cooling

variable {engine : RetryEngine} {openedAt : Nat}

theorem Opens.circuitState {call : Nat × RetryOp} (opens : engine.Opens call) :
    (engine.apply call).state.circuitState = .opened call.1 := by
  obtain ⟨notOpen, since, opened⟩ := opens
  obtain ⟨now, operation⟩ := call
  cases operation with
  | recordFailure errorMsg =>
      have transition :=
        @RetryState.recordFailure_circuitState engine.state now errorMsg
      have atNow : since = now := by
        refine RetryState.nextCircuitState_opens ?_ (transition.symm.trans opened)
        exact notOpen
      rw [opened, atNow]
  | recordSuccess => cases opened
  | nextRetry jitter =>
      have same := (engine.state.nextDelay_counts now jitter).2
      exact absurd (same.symm.trans opened) (notOpen since)
  | shouldRetry => exact absurd opened (notOpen since)
  | reset => exact absurd opened (notOpen since)
  | withNetworkConditions latencyMs packetLossPct =>
      exact absurd opened (notOpen since)

/-- During the cooldown every call but `record_success` leaves the circuit open
since the same time. -/
theorem circuitState_apply_of_cooling {call : Nat × RetryOp}
    (opened : engine.state.circuitState = .opened openedAt)
    (cooling : Instant.elapsed openedAt call.1 <
      engine.state.policy.circuitCooldown)
    (notSuccess : call.2 ≠ .recordSuccess) :
    (engine.apply call).state.circuitState = .opened openedAt := by
  obtain ⟨now, operation⟩ := call
  cases operation with
  | recordFailure errorMsg =>
      exact RetryState.recordFailure_of_cooling opened cooling errorMsg
  | recordSuccess => exact absurd rfl notSuccess
  | nextRetry jitter =>
      exact ((engine.state.nextDelay_counts now jitter).2).trans opened
  | shouldRetry => exact opened
  | reset => exact opened
  | withNetworkConditions latencyMs packetLossPct => exact opened

theorem circuitState_foldl_of_cooling {calls : List (Nat × RetryOp)}
    (opened : engine.state.circuitState = .opened openedAt)
    (cooling : ∀ call ∈ calls, Instant.elapsed openedAt call.1 <
      engine.state.policy.circuitCooldown)
    (noSuccess : ∀ call ∈ calls, call.2 ≠ .recordSuccess) :
    (calls.foldl apply engine).state.circuitState = .opened openedAt := by
  induction calls generalizing engine with
  | nil => exact opened
  | cons call calls ih =>
      have kept := circuitState_apply_of_cooling opened
        (cooling call List.mem_cons_self) (noSuccess call List.mem_cons_self)
      apply ih kept
      · intro later member
        rw [apply_policy]
        exact cooling later (List.mem_cons_of_mem _ member)
      · intro later member
        exact noSuccess later (List.mem_cons_of_mem _ member)

/-- An open circuit blocks during its cooldown. -/
theorem blocks_of_cooling {now : Nat}
    (opened : engine.state.circuitState = .opened openedAt)
    (cooling : Instant.elapsed openedAt now <
      engine.state.policy.circuitCooldown) : engine.Blocks now := by
  have closedOff : engine.state.circuitAllowsRetry now = false := by
    simp [RetryState.circuitAllowsRetry, opened, Nat.not_le.mpr cooling]
  refine ⟨by simp [shouldRetry, closedOff], fun jitter => ?_⟩
  have unchanged : engine.state.nextDelay now jitter = (engine.state, none) := by
    simp [RetryState.nextDelay, closedOff]
  simp [nextRetry, unchanged]

end Cooling

/-- In every run, a circuit that opens blocks for its whole cooldown, whatever
is called in between short of `record_success`. -/
theorem open_circuit_blocks (maxRetries : Nat) (policy : RetryPolicy)
    (calls more : List (Nat × RetryOp)) (call : Nat × RetryOp) (later : Nat)
    (opens : (calls.foldl apply (new maxRetries policy)).Opens call)
    (ordered : (call.1 :: (more.map Prod.fst ++ [later])).Pairwise (· ≤ ·))
    (within : later - call.1 < policy.circuitCooldown)
    (noSuccess : ∀ other ∈ more, other.2 ≠ .recordSuccess) :
    ((calls ++ call :: more).foldl apply (new maxRetries policy)).Blocks
      later := by
  let before := calls.foldl apply (new maxRetries policy)
  have policyEq : (before.apply call).state.policy = policy := by
    rw [apply_policy]
    exact foldl_apply_policy calls
  have reached : (calls ++ call :: more).foldl apply (new maxRetries policy) =
      more.foldl apply (before.apply call) := by
    rw [List.foldl_append, List.foldl_cons]
  have cooling : ∀ other ∈ more, Instant.elapsed call.1 other.1 <
      (before.apply call).state.policy.circuitCooldown := by
    intro other member
    rw [List.pairwise_cons, List.pairwise_append] at ordered
    have notLater : other.1 ≤ later :=
      ordered.2.2.2 _ (List.mem_map_of_mem member) later List.mem_cons_self
    rw [policyEq, Instant.elapsed]
    omega
  have opened := circuitState_foldl_of_cooling opens.circuitState cooling
    noSuccess
  rw [reached]
  apply blocks_of_cooling opened
  rw [foldl_apply_policy, policyEq]
  exact within

/-- A policy whose circuit opens at the first failure, for thirty seconds. -/
def oneStrike : RetryPolicy :=
  .smart (Duration.fromSecs 1) 2 (Duration.fromSecs 60) 1 (Duration.fromSecs 30)

/-- Another failure and a reset during the cooldown. -/
def stillFailing : List (Nat × RetryOp) :=
  [(Duration.fromSecs 5, .recordFailure "timeout"), (Duration.fromSecs 6, .reset)]

theorem open_circuit_blocks_oneStrike :
    (([] ++ (0, RetryOp.recordFailure "timeout") :: stillFailing).foldl apply
      (new 5 oneStrike)).Blocks (Duration.fromSecs 10) :=
  open_circuit_blocks 5 oneStrike [] stillFailing (0, .recordFailure "timeout")
    (Duration.fromSecs 10)
    ⟨by simp [new, RetryState.new], 0, by rfl⟩ (by decide) (by decide) (by decide)

end RetryEngine

end NetGuardian
