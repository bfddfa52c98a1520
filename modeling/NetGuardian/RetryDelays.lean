import NetGuardian.RetryBudget
import NetGuardian.Foundation.CappedGrowth
import Mathlib.Tactic.GCongr
import Mathlib.Tactic.Positivity

/-!
# Retry delays

The last three policies share one final expression: a growing base is cut off at
`max_delay`, and the jitter is added behind the cut.  The base grows with every
attempt and with whatever the policy takes for worse conditions.
-/

namespace NetGuardian

open CappedGrowth

theorem Duration.asSecsF64_nonneg (duration : Nat) : 0 ≤ Duration.asSecsF64 duration := by
  unfold asSecsF64
  positivity

namespace RetryState

variable {state : RetryState} {maxDelay : Nat}

/-- What `calculate_delay` cuts off, for the last three policies. -/
def base (state : RetryState) : ℚ :=
  match state.policy with
  | .immediate | .fixed _ => 0
  | .exponentialBackoff initial multiplier _ => state.backoff initial multiplier
  | .adaptive initial multiplier _ latencyWeight lossWeight =>
      state.backoff initial multiplier *
        (1 + min (state.lastLatencyMs / 100) 5 * latencyWeight +
          min (state.lastPacketLossPct / 20) 5 * lossWeight)
  | .smart initial multiplier _ _ _ =>
      state.backoff initial multiplier *
        (match state.circuitState with
          | .halfOpen => 2
          | _ => 1) *
        (1 + min (state.consecutiveFailures : ℚ) 10 * (1 / 2) +
          min (state.lastPacketLossPct / 10) 3)

theorem calculateDelay_eq (cap : state.policy.maxDelay? = some maxDelay)
    (jitter : ℚ) :
    state.calculateDelay jitter =
      capped (Duration.asSecsF64 maxDelay) jitter state.base := by
  unfold calculateDelay base
  cases policy : state.policy with
  | immediate =>
      rw [policy] at cap
      cases cap
  | fixed delay =>
      rw [policy] at cap
      cases cap
  | exponentialBackoff initial multiplier limit =>
      rw [policy] at cap
      cases cap
      rfl
  | adaptive initial multiplier limit latencyWeight lossWeight =>
      rw [policy] at cap
      cases cap
      rfl
  | smart initial multiplier limit threshold cooldown =>
      rw [policy] at cap
      cases cap
      rfl

end RetryState

namespace RetryEngine

variable {engine : RetryEngine} {now maxDelay : Nat} {jitter : ℚ}

/-- What the next delay is cut off from. -/
def nextBase (engine : RetryEngine) : ℚ :=
  engine.state.advance.base

/-- A delay that `next_retry` returns is not above the cap. -/
def KeepsCap (engine : RetryEngine) (now : Nat) (jitter : ℚ) (maxDelay : Nat) :
    Prop :=
  ∀ secs delay, (engine.nextRetry now jitter).2 = some secs →
    Duration.fromSecsF64 secs = some delay → delay ≤ Duration.asSecsF64 maxDelay

theorem nextRetry_eq_some (cap : engine.state.policy.maxDelay? = some maxDelay)
    {secs : ℚ} :
    (engine.nextRetry now jitter).2 = some secs ↔
      engine.shouldRetry now = true ∧
        secs = capped (Duration.asSecsF64 maxDelay) jitter engine.nextBase := by
  cases asked : engine.shouldRetry now with
  | false => simp [nextRetry_of_refused asked]
  | true =>
      have delay : engine.state.advance.calculateDelay jitter =
          capped (Duration.asSecsF64 maxDelay) jitter engine.nextBase :=
        @RetryState.calculateDelay_eq engine.state.advance maxDelay cap jitter
      simp [nextRetry_of_allowed asked, delay, eq_comm]

/-- The cap is kept exactly without a jitter or with room for it, as far as a
retry is granted and a delay is returned. -/
theorem keepsCap_iff (cap : engine.state.policy.maxDelay? = some maxDelay)
    (jitterNonneg : 0 ≤ jitter) :
    engine.KeepsCap now jitter maxDelay ↔
      engine.shouldRetry now = false ∨ jitter = 0 ∨
        engine.nextBase + jitter ≤ Duration.asSecsF64 maxDelay ∨
          2 ^ 64 ≤ min engine.nextBase (Duration.asSecsF64 maxDelay) + jitter := by
  have room := @capped_le_iff ℚ _ _ _ (Duration.asSecsF64 maxDelay) jitter
    engine.nextBase jitterNonneg
  constructor
  · intro kept
    cases granted : engine.shouldRetry now with
    | false => exact .inl rfl
    | true =>
        right
        by_contra noRoom
        rw [← or_assoc, ← room, not_or, not_le, not_le] at noRoom
        obtain ⟨above, small⟩ := noRoom
        have returned := (@nextRetry_eq_some engine now maxDelay jitter cap _).mpr
          ⟨granted, rfl⟩
        have nonneg : 0 ≤ capped (Duration.asSecsF64 maxDelay) jitter
            engine.nextBase :=
          (Duration.asSecsF64_nonneg maxDelay).trans above.le
        have atMost := kept _ _ returned
          (Duration.fromSecsF64_eq_some.mpr ⟨⟨nonneg, small⟩, rfl⟩)
        exact absurd atMost (not_le.mpr above)
  · intro condition secs delay returned delivered
    obtain ⟨granted, rfl⟩ := (nextRetry_eq_some cap).mp returned
    obtain ⟨⟨_, small⟩, rfl⟩ := Duration.fromSecsF64_eq_some.mp delivered
    rw [granted, ← or_assoc (a := jitter = 0), ← room] at condition
    rcases condition with refused | kept | panics
    · cases refused
    · exact kept
    · exact absurd small (not_lt.mpr panics)

/-- A new engine whose cap is the initial delay of one second. -/
def shortCap : RetryEngine :=
  .new 5 (.exponentialBackoff (Duration.fromSecs 1) 2 (Duration.fromSecs 1))

theorem keepsCap_iff_shortCap :
    shortCap.KeepsCap 0 0 (Duration.fromSecs 1) ↔
      shortCap.shouldRetry 0 = false ∨ (0 : ℚ) = 0 ∨
        shortCap.nextBase + 0 ≤ Duration.asSecsF64 (Duration.fromSecs 1) ∨
          2 ^ 64 ≤ min shortCap.nextBase
            (Duration.asSecsF64 (Duration.fromSecs 1)) + 0 :=
  keepsCap_iff rfl le_rfl

/-- A quarter of a second of jitter goes beyond the cap. -/
theorem jitter_exceeds_cap :
    (shortCap.nextRetry 0 (1 / 4)).2 = some (5 / 4) ∧
      ¬ shortCap.KeepsCap 0 (1 / 4) (Duration.fromSecs 1) := by
  have oneSecond : Duration.asSecsF64 (Duration.fromSecs 1) = 1 := by
    norm_num [Duration.asSecsF64, Duration.fromSecs]
  have returned : (shortCap.nextRetry 0 (1 / 4)).2 = some (5 / 4) := by
    rw [nextRetry_of_allowed rfl]
    norm_num [shortCap, new, RetryState.new, RetryState.advance,
      RetryState.calculateDelay, RetryState.backoff, oneSecond]
  refine ⟨returned, fun kept => ?_⟩
  have delivered : Duration.fromSecsF64 (5 / 4) = some (5 / 4) :=
    Duration.fromSecsF64_eq_some.mpr ⟨by norm_num, rfl⟩
  have atMost := kept _ _ returned delivered
  rw [oneSecond] at atMost
  norm_num at atMost

end RetryEngine

namespace RetryState

/-- The delay of a state under another policy. -/
def delayUnder (policy : RetryPolicy) (state : RetryState) (jitter : ℚ) : ℚ :=
  calculateDelay { state with policy := policy } jitter

/-- The factor of the adaptive policy. -/
def adaptivePenalty (latencyWeight lossWeight : ℚ) (state : RetryState) : ℚ :=
  1 + min (state.lastLatencyMs / 100) 5 * latencyWeight +
    min (state.lastPacketLossPct / 20) 5 * lossWeight

def circuitPenalty (state : RetryState) : ℚ :=
  match state.circuitState with
  | .halfOpen => 2
  | _ => 1

/-- The second factor of the smart policy. -/
def smartPenalty (state : RetryState) : ℚ :=
  1 + min (state.consecutiveFailures : ℚ) 10 * (1 / 2) +
    min (state.lastPacketLossPct / 10) 3

section Monotone

variable {state worse : RetryState} {initial maxDelay : Nat} {multiplier : ℚ}

theorem backoff_eq : state.backoff initial multiplier =
    grown (Duration.asSecsF64 initial) multiplier ((state.attempt : Int) - 1) := rfl

theorem backoff_nonneg (growing : 1 ≤ multiplier) :
    0 ≤ state.backoff initial multiplier := by
  rw [backoff_eq]
  exact grown_nonneg (Duration.asSecsF64_nonneg initial) (zero_le_one.trans growing)

theorem backoff_le (growing : 1 ≤ multiplier)
    (notMore : state.attempt ≤ worse.attempt) :
    state.backoff initial multiplier ≤ worse.backoff initial multiplier := by
  rw [backoff_eq, backoff_eq]
  apply grown_le (Duration.asSecsF64_nonneg initial) growing
  omega

theorem delayUnder_exponentialBackoff (jitter : ℚ) :
    delayUnder (.exponentialBackoff initial multiplier maxDelay) state jitter =
      capped (Duration.asSecsF64 maxDelay) jitter
        (state.backoff initial multiplier) := rfl

theorem delayUnder_adaptive (latencyWeight lossWeight jitter : ℚ) :
    delayUnder (.adaptive initial multiplier maxDelay latencyWeight lossWeight)
        state jitter =
      capped (Duration.asSecsF64 maxDelay) jitter
        (state.backoff initial multiplier *
          state.adaptivePenalty latencyWeight lossWeight) := rfl

theorem delayUnder_smart (threshold cooldown : Nat) (jitter : ℚ) :
    delayUnder (.smart initial multiplier maxDelay threshold cooldown) state
        jitter =
      capped (Duration.asSecsF64 maxDelay) jitter
        (state.backoff initial multiplier * state.circuitPenalty *
          state.smartPenalty) := rfl

theorem one_le_adaptivePenalty {latencyWeight lossWeight : ℚ}
    (latencyCounts : 0 ≤ latencyWeight) (lossCounts : 0 ≤ lossWeight)
    (latency : 0 ≤ state.lastLatencyMs) (loss : 0 ≤ state.lastPacketLossPct) :
    1 ≤ state.adaptivePenalty latencyWeight lossWeight := by
  have latencyFactor : 0 ≤ min (state.lastLatencyMs / 100) 5 * latencyWeight := by
    positivity
  have lossFactor : 0 ≤ min (state.lastPacketLossPct / 20) 5 * lossWeight := by
    positivity
  unfold adaptivePenalty
  linarith

theorem adaptivePenalty_le {latencyWeight lossWeight : ℚ}
    (latencyCounts : 0 ≤ latencyWeight) (lossCounts : 0 ≤ lossWeight)
    (latency : state.lastLatencyMs ≤ worse.lastLatencyMs)
    (loss : state.lastPacketLossPct ≤ worse.lastPacketLossPct) :
    state.adaptivePenalty latencyWeight lossWeight ≤
      worse.adaptivePenalty latencyWeight lossWeight := by
  unfold adaptivePenalty
  gcongr

theorem one_le_circuitPenalty : 1 ≤ state.circuitPenalty := by
  unfold circuitPenalty
  split
  · exact one_le_two
  · exact le_rfl

theorem one_le_smartPenalty (loss : 0 ≤ state.lastPacketLossPct) :
    1 ≤ state.smartPenalty := by
  have failures : 0 ≤ min (state.consecutiveFailures : ℚ) 10 * (1 / 2) := by
    positivity
  have network : 0 ≤ min (state.lastPacketLossPct / 10) 3 := by
    positivity
  unfold smartPenalty
  linarith

theorem smartPenalty_le
    (failures : state.consecutiveFailures ≤ worse.consecutiveFailures)
    (loss : state.lastPacketLossPct ≤ worse.lastPacketLossPct) :
    state.smartPenalty ≤ worse.smartPenalty := by
  unfold smartPenalty
  gcongr

theorem exponential_le (growing : 1 ≤ multiplier) (jitter : ℚ)
    (attempts : state.attempt ≤ worse.attempt) :
    delayUnder (.exponentialBackoff initial multiplier maxDelay) state jitter ≤
      delayUnder (.exponentialBackoff initial multiplier maxDelay) worse jitter := by
  rw [delayUnder_exponentialBackoff, delayUnder_exponentialBackoff]
  exact capped_mono _ jitter (backoff_le growing attempts)

theorem adaptive_le {latencyWeight lossWeight : ℚ} (growing : 1 ≤ multiplier)
    (latencyCounts : 0 ≤ latencyWeight) (lossCounts : 0 ≤ lossWeight) (jitter : ℚ)
    (attempts : state.attempt ≤ worse.attempt) (latency : 0 ≤ state.lastLatencyMs)
    (moreLatency : state.lastLatencyMs ≤ worse.lastLatencyMs)
    (loss : 0 ≤ state.lastPacketLossPct)
    (moreLoss : state.lastPacketLossPct ≤ worse.lastPacketLossPct) :
    delayUnder (.adaptive initial multiplier maxDelay latencyWeight lossWeight)
        state jitter ≤
      delayUnder (.adaptive initial multiplier maxDelay latencyWeight lossWeight)
        worse jitter := by
  have morePenalty := adaptivePenalty_le latencyCounts lossCounts moreLatency moreLoss
  have penaltyNonneg := zero_le_one.trans (one_le_adaptivePenalty latencyCounts
    lossCounts (latency.trans moreLatency) (loss.trans moreLoss))
  rw [delayUnder_adaptive, delayUnder_adaptive]
  apply capped_mono
  calc
    state.backoff initial multiplier * state.adaptivePenalty latencyWeight lossWeight
        ≤ state.backoff initial multiplier *
            worse.adaptivePenalty latencyWeight lossWeight :=
      mul_le_mul_of_nonneg_left morePenalty (backoff_nonneg growing)
    _ ≤ worse.backoff initial multiplier *
          worse.adaptivePenalty latencyWeight lossWeight :=
      mul_le_mul_of_nonneg_right (backoff_le growing attempts) penaltyNonneg

theorem smart_le (growing : 1 ≤ multiplier) (threshold cooldown : Nat) (jitter : ℚ)
    (sameCircuit : worse.circuitState = state.circuitState)
    (attempts : state.attempt ≤ worse.attempt) (loss : 0 ≤ state.lastPacketLossPct)
    (moreLoss : state.lastPacketLossPct ≤ worse.lastPacketLossPct)
    (moreFailures : state.consecutiveFailures ≤ worse.consecutiveFailures) :
    delayUnder (.smart initial multiplier maxDelay threshold cooldown) state
        jitter ≤
      delayUnder (.smart initial multiplier maxDelay threshold cooldown) worse
        jitter := by
  have circuit : worse.circuitPenalty = state.circuitPenalty := by
    rw [circuitPenalty, sameCircuit, circuitPenalty]
  have circuitNonneg : 0 ≤ state.circuitPenalty :=
    zero_le_one.trans one_le_circuitPenalty
  have penaltyNonneg := zero_le_one.trans
    (@one_le_smartPenalty worse (loss.trans moreLoss))
  rw [delayUnder_smart, delayUnder_smart, circuit]
  apply capped_mono
  calc
    state.backoff initial multiplier * state.circuitPenalty * state.smartPenalty
        ≤ state.backoff initial multiplier * state.circuitPenalty *
            worse.smartPenalty :=
      mul_le_mul_of_nonneg_left (smartPenalty_le moreFailures moreLoss)
        (mul_nonneg (backoff_nonneg growing) circuitNonneg)
    _ ≤ worse.backoff initial multiplier * state.circuitPenalty *
          worse.smartPenalty :=
      mul_le_mul_of_nonneg_right
        (mul_le_mul_of_nonneg_right (backoff_le growing attempts) circuitNonneg)
        penaltyNonneg

theorem exponential_le_adaptive {latencyWeight lossWeight : ℚ}
    (growing : 1 ≤ multiplier) (latencyCounts : 0 ≤ latencyWeight)
    (lossCounts : 0 ≤ lossWeight) (jitter : ℚ) (latency : 0 ≤ state.lastLatencyMs)
    (loss : 0 ≤ state.lastPacketLossPct) :
    delayUnder (.exponentialBackoff initial multiplier maxDelay) state jitter ≤
      delayUnder (.adaptive initial multiplier maxDelay latencyWeight lossWeight)
        state jitter := by
  rw [delayUnder_exponentialBackoff, delayUnder_adaptive]
  apply capped_mono
  exact le_mul_of_one_le_right (backoff_nonneg growing)
    (one_le_adaptivePenalty latencyCounts lossCounts latency loss)

theorem exponential_le_smart (growing : 1 ≤ multiplier) (threshold cooldown : Nat)
    (jitter : ℚ) (loss : 0 ≤ state.lastPacketLossPct) :
    delayUnder (.exponentialBackoff initial multiplier maxDelay) state jitter ≤
      delayUnder (.smart initial multiplier maxDelay threshold cooldown) state
        jitter := by
  rw [delayUnder_exponentialBackoff, delayUnder_smart, mul_assoc]
  apply capped_mono
  apply le_mul_of_one_le_right (backoff_nonneg growing)
  exact one_le_mul_of_one_le_of_one_le one_le_circuitPenalty
    (one_le_smartPenalty loss)

/-- More attempts and worse conditions never give a shorter delay, and no policy
waits less than the exponential backoff does for the same attempt. -/
structure OrderedDelays (exponential adaptive smart : RetryState → ℚ) : Prop where
  exponential_mono : ∀ state worse, state.attempt ≤ worse.attempt →
    exponential state ≤ exponential worse
  adaptive_mono : ∀ state worse, state.attempt ≤ worse.attempt →
    0 ≤ state.lastLatencyMs → state.lastLatencyMs ≤ worse.lastLatencyMs →
      0 ≤ state.lastPacketLossPct →
        state.lastPacketLossPct ≤ worse.lastPacketLossPct →
          adaptive state ≤ adaptive worse
  smart_mono : ∀ state worse, worse.circuitState = state.circuitState →
    state.attempt ≤ worse.attempt → 0 ≤ state.lastPacketLossPct →
      state.lastPacketLossPct ≤ worse.lastPacketLossPct →
        state.consecutiveFailures ≤ worse.consecutiveFailures →
          smart state ≤ smart worse
  exponential_least : ∀ plain state, plain.attempt = state.attempt →
    0 ≤ state.lastLatencyMs → 0 ≤ state.lastPacketLossPct →
      exponential plain ≤ adaptive state ∧ exponential plain ≤ smart state

/-- The delays of the three policies with the same parameters are ordered, for any
one value of the jitter. -/
theorem orderedDelays (initial maxDelay threshold cooldown : Nat)
    {multiplier latencyWeight lossWeight : ℚ} (jitter : ℚ)
    (growing : 1 ≤ multiplier) (latencyCounts : 0 ≤ latencyWeight)
    (lossCounts : 0 ≤ lossWeight) :
    OrderedDelays
      (delayUnder (.exponentialBackoff initial multiplier maxDelay) · jitter)
      (delayUnder (.adaptive initial multiplier maxDelay latencyWeight lossWeight) ·
        jitter)
      (delayUnder (.smart initial multiplier maxDelay threshold cooldown) ·
        jitter) where
  exponential_mono _ _ attempts := exponential_le growing jitter attempts
  adaptive_mono _ _ attempts latency moreLatency loss moreLoss :=
    adaptive_le growing latencyCounts lossCounts jitter attempts latency moreLatency
      loss moreLoss
  smart_mono _ _ sameCircuit attempts loss moreLoss moreFailures :=
    smart_le growing threshold cooldown jitter sameCircuit attempts loss moreLoss
      moreFailures
  exponential_least plain state sameAttempt latency loss := by
    have same := @exponential_le plain state initial maxDelay multiplier growing
      jitter sameAttempt.le
    exact ⟨same.trans (exponential_le_adaptive growing latencyCounts lossCounts
        jitter latency loss),
      same.trans (exponential_le_smart growing threshold cooldown jitter loss)⟩

/-- Delays that start with a second, double, and stop at ten seconds. -/
theorem orderedDelays_doubling :
    OrderedDelays
      (delayUnder
        (.exponentialBackoff (Duration.fromSecs 1) 2 (Duration.fromSecs 10)) · 0)
      (delayUnder
        (.adaptive (Duration.fromSecs 1) 2 (Duration.fromSecs 10) 1 1) · 0)
      (delayUnder
        (.smart (Duration.fromSecs 1) 2 (Duration.fromSecs 10) 3 0) · 0) :=
  orderedDelays (Duration.fromSecs 1) (Duration.fromSecs 10) 3 0 0 one_le_two
    zero_le_one zero_le_one

end Monotone

end RetryState

end NetGuardian
