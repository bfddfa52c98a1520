import NetGuardian.BreakerConfig
import NetGuardian.RetryDelays
import Mathlib.Tactic.NormNum

/-!
# Configurations that make a delay panic

Nothing looks at the numbers of the configuration before they are handed to
`Duration::from_secs_f64`.  The cap keeps the delay small enough.  Nothing keeps
it from being negative: a negative multiplier gives every second attempt a
negative base.
-/

namespace NetGuardian

open CappedGrowth

namespace AppConfig

/-- No call of `next_retry` on the engine of the daemon panics, whatever the
orchestrator has been called for before. -/
def NeverPanics (config : AppConfig) : Prop :=
  ∀ history now jitter, 0 ≤ jitter → jitter < 1 / 2 →
    ¬ (config.orchestratorAfter history).engine.Panics now jitter

section Engine

variable {config : AppConfig} {engine : RetryEngine} {now : Nat} {jitter : ℚ}

theorem asSecsF64_fromSecs (secs : Nat) :
    Duration.asSecsF64 (Duration.fromSecs secs) = secs := by
  simp [Duration.asSecsF64, Duration.fromSecs]

theorem maxRetries_orchestratorAfter (config : AppConfig)
    (history : List OrchestratorCall) :
    (config.orchestratorAfter history).engine.state.maxRetries =
      config.retry.maxRetries := by
  rw [engine_orchestratorAfter, RetryEngine.foldl_apply_maxRetries]
  rfl

/-- The base of the first attempt has no power of the multiplier in it. -/
theorem nextBase_eq (policy : engine.state.policy = config.daemonPolicy) :
    engine.nextBase = grown (config.retry.baseDelaySecs : ℚ)
      config.retry.multiplier engine.state.attempt := by
  have advanced : engine.state.advance.policy = config.daemonPolicy := policy
  have base : engine.nextBase = engine.state.advance.backoff
      (Duration.fromSecs config.retry.baseDelaySecs) config.retry.multiplier := by
    rw [RetryEngine.nextBase, RetryState.base, advanced]
    rfl
  have steps : ((engine.state.attempt + 1 : Nat) : Int) - 1 = engine.state.attempt := by
    omega
  rw [base, RetryState.backoff, asSecsF64_fromSecs]
  change _ * _ ^ (((engine.state.attempt + 1 : Nat) : Int) - 1) = _
  rw [steps]
  rfl

/-- A base that is not negative makes no panic. -/
theorem not_panics_of_nonneg (policy : engine.state.policy = config.daemonPolicy)
    (fits : config.retry.maxDelaySecs < 2 ^ 64)
    (nonneg : engine.shouldRetry now = true → 0 ≤ engine.nextBase)
    (jitterNonneg : 0 ≤ jitter) (jitterLess : jitter < 1 / 2) :
    ¬ engine.Panics now jitter := by
  rintro ⟨_, secs, returned, refused⟩
  have cap : engine.state.policy.maxDelay? =
      some (Duration.fromSecs config.retry.maxDelaySecs) := by
    rw [policy]
    rfl
  obtain ⟨granted, rfl⟩ := (RetryEngine.nextRetry_eq_some cap).mp returned
  rw [asSecsF64_fromSecs, Duration.fromSecsF64_eq_none] at refused
  rcases refused with negative | large
  · exact absurd negative (not_lt.mpr
      (capped_nonneg (Nat.cast_nonneg _) jitterNonneg (nonneg granted)))
  · have whole : (config.retry.maxDelaySecs : ℚ) + 1 ≤ 2 ^ 64 := by
      exact_mod_cast fits
    have room : (config.retry.maxDelaySecs : ℚ) + jitter < 2 ^ 64 := by
      linarith
    exact absurd large (not_le.mpr (capped_lt room))

end Engine

/-- The second attempt panics. -/
theorem panics_at_second {config : AppConfig} (negative : config.retry.multiplier < 0)
    (delayed : config.retry.baseDelaySecs ≠ 0) (twice : 1 < config.retry.maxRetries) :
    (config.orchestratorAfter [.nextRetryDelay 0 0]).engine.Panics 0 0 := by
  have policy := config.policy_orchestratorAfter [.nextRetryDelay 0 0]
  have cap : (config.orchestratorAfter
      [.nextRetryDelay 0 0]).engine.state.policy.maxDelay? =
        some (Duration.fromSecs config.retry.maxDelaySecs) := by
    rw [policy]
    rfl
  have first : config.daemonOrchestrator.engine.shouldRetry 0 = true := by
    have unspent : 0 < config.retry.maxRetries := by omega
    exact Bool.and_eq_true_iff.mpr ⟨decide_eq_true unspent, rfl⟩
  have engine : (config.orchestratorAfter [.nextRetryDelay 0 0]).engine =
      { config.daemonOrchestrator.engine with
        state := config.daemonOrchestrator.engine.state.advance } := by
    change (config.daemonOrchestrator.engine.nextRetry 0 0).1 = _
    rw [RetryEngine.nextRetry_of_allowed first]
  have granted : (config.orchestratorAfter
      [.nextRetryDelay 0 0]).engine.shouldRetry 0 = true := by
    rw [engine]
    exact Bool.and_eq_true_iff.mpr ⟨decide_eq_true twice, rfl⟩
  have base : (config.orchestratorAfter [.nextRetryDelay 0 0]).engine.nextBase < 0 := by
    have positive : (0 : ℚ) < config.retry.baseDelaySecs := by
      exact_mod_cast Nat.pos_of_ne_zero delayed
    have attempt : (config.orchestratorAfter
        [.nextRetryDelay 0 0]).engine.state.attempt = 1 := by
      rw [engine]
      rfl
    rw [nextBase_eq policy, attempt, grown, Nat.cast_one, zpow_one]
    exact mul_neg_of_pos_of_neg positive negative
  have returned := (@RetryEngine.nextRetry_eq_some _ 0 _ 0 cap _).mpr ⟨granted, rfl⟩
  refine ⟨by rw [cap]; exact Option.some_ne_none _, _, returned, ?_⟩
  rw [Duration.fromSecsF64_eq_none]
  left
  rw [capped, add_zero]
  exact (min_le_left _ _).trans_lt base

/-- The daemon never panics over a delay exactly if the multiplier is not
negative, or there is no delay to multiply, or no second attempt. -/
theorem neverPanics_iff (config : AppConfig)
    (fits : config.retry.maxDelaySecs < 2 ^ 64) :
    config.NeverPanics ↔ 0 ≤ config.retry.multiplier ∨
      config.retry.baseDelaySecs = 0 ∨ config.retry.maxRetries ≤ 1 := by
  constructor
  · intro never
    by_contra none
    rw [not_or, not_or, not_le, not_le] at none
    obtain ⟨negative, delayed, twice⟩ := none
    exact never [.nextRetryDelay 0 0] 0 0 le_rfl (by norm_num)
      (panics_at_second negative delayed twice)
  · intro condition history now jitter jitterNonneg jitterLess
    have policy := config.policy_orchestratorAfter history
    apply not_panics_of_nonneg policy fits _ jitterNonneg jitterLess
    intro granted
    rw [nextBase_eq policy]
    rcases condition with notNegative | noDelay | once
    · exact grown_nonneg (Nat.cast_nonneg _) notNegative
    · rw [noDelay, grown, Nat.cast_zero, zero_mul]
    · have left := of_decide_eq_true (Bool.and_eq_true_iff.mp granted).1
      rw [maxRetries_orchestratorAfter] at left
      have first : (config.orchestratorAfter history).engine.state.attempt = 0 := by
        omega
      rw [first, grown, Nat.cast_zero, zpow_zero, mul_one]
      exact Nat.cast_nonneg _

theorem neverPanics_iff_default :
    default.NeverPanics ↔ 0 ≤ default.retry.multiplier ∨
      default.retry.baseDelaySecs = 0 ∨ default.retry.maxRetries ≤ 1 :=
  neverPanics_iff default (by decide)

/-- The default configuration with a multiplier of minus two. -/
def alternating : AppConfig :=
  { default with retry := { RetryConfig.default with multiplier := -2 } }

theorem alternating_panics :
    (alternating.orchestratorAfter [.nextRetryDelay 0 0]).engine.Panics 0 0 ∧
      ¬ alternating.NeverPanics := by
  have panics : (alternating.orchestratorAfter
      [.nextRetryDelay 0 0]).engine.Panics 0 0 :=
    panics_at_second (by decide +kernel) (by decide) (by decide)
  exact ⟨panics, fun never => never _ 0 0 le_rfl (by norm_num) panics⟩

end AppConfig

end NetGuardian
