import NetGuardian.AdaptiveScheduler
import Mathlib.Algebra.Order.Floor.Semifield

/-!
# How many downloads are suggested

With an ordered configuration the suggestion lies between the configured
bounds, and it does not rise when the network gets worse or another failure is
recorded.  The counter of the failures has 32 bits; only its wraparound, without
a cooldown, lets the suggestion rise.

A success is meant to bring back the full suggestion.  It does so once the
cooldown of the last failure is over, and where the cooldown makes no
difference.
-/

namespace NetGuardian

/-- From the best status to the worst one. -/
def ConnectionStatus.severity : ConnectionStatus → Nat
  | .online => 0
  | .degraded => 1
  | .offline => 2

/-- From the best quality to the worst one. -/
def NetworkQuality.severity : NetworkQuality → Nat
  | .good => 0
  | .degraded => 1
  | .bad => 2

namespace F64

/-- The same measurement or a larger one. -/
def Grows (before after : F64) : Prop :=
  before = after ∨ F64.lt before after = true

variable {before after : F64} {threshold : ℚ}

theorem lt_of_grows (grows : Grows before after)
    (above : F64.lt (.finite threshold) before = true) :
    F64.lt (.finite threshold) after = true := by
  rcases grows with rfl | larger
  · exact above
  · cases before <;> cases after <;> simp_all [F64.lt]
    case finite.finite => exact above.trans larger

theorem le_of_grows (grows : Grows before after)
    (above : F64.le (.finite threshold) before = true) :
    F64.le (.finite threshold) after = true := by
  rcases grows with rfl | larger
  · exact above
  · cases before <;> cases after <;> simp_all [F64.le, F64.lt]
    case finite.finite => exact above.trans larger.le

end F64

section Penalty

/-- The rounding and the cap in whole numbers. -/
theorem failurePenalty_eq (failures : Nat) :
    failurePenalty failures = min (failures / 2) 2 := by
  have halved : ⌊(failures : ℚ) * (1 / 2)⌋₊ = failures / 2 := by
    have quotient : ⌊(failures : ℚ) / (2 : Nat)⌋₊ = failures / 2 :=
      Nat.floor_div_eq_div failures 2
    rwa [div_eq_mul_one_div] at quotient
  unfold failurePenalty
  split
  · rcases le_total ((failures : ℚ) * (1 / 2)) 2 with small | large
    · have bounded : failures / 2 ≤ 2 := by
        rw [← halved]
        exact Nat.floor_le_of_le small
      rw [min_eq_left small, halved, min_eq_left bounded]
    · have reached : 2 ≤ failures / 2 := by
        rw [← halved]
        exact Nat.le_floor large
      rw [min_eq_right large, min_eq_right reached]
      exact Nat.floor_natCast 2
  · omega

theorem failurePenalty_mono {fewer more : Nat} (le : fewer ≤ more) :
    failurePenalty fewer ≤ failurePenalty more := by
  rw [failurePenalty_eq, failurePenalty_eq]
  omega

end Penalty

/-- The order of the configured values that the quality tiers suggest. -/
structure ScheduleConfig.Ordered (config : ScheduleConfig) : Prop where
  min_le_max : config.minConcurrency ≤ config.maxConcurrency
  degraded_le_good : config.concurrencyPerDegradedNetwork ≤
    config.concurrencyPerGoodNetwork
  bad_le_degraded : config.concurrencyPerBadNetwork ≤
    config.concurrencyPerDegradedNetwork

section Classification

variable {status worse : ConnectionStatus} {latencyMs slower lossPct lossier : F64}

/-- A worse network is not put into a better class. -/
theorem severity_classifyQuality_le
    (worsens : status.severity ≤ worse.severity)
    (slows : F64.Grows latencyMs slower) (loses : F64.Grows lossPct lossier) :
    (classifyQuality status latencyMs lossPct).severity ≤
      (classifyQuality worse slower lossier).severity := by
  have offline : status = .offline → worse = .offline := by
    cases status <;> cases worse <;> simp_all [ConnectionStatus.severity]
  have degraded : status = .degraded → worse = .degraded ∨ worse = .offline := by
    cases status <;> cases worse <;> simp_all [ConnectionStatus.severity]
  by_cases bad : status = .offline ∨ F64.le (.finite 50) lossPct = true
  · have stillBad : worse = .offline ∨ F64.le (.finite 50) lossier = true :=
      bad.imp offline (F64.le_of_grows loses)
    rw [classifyQuality, if_pos bad, classifyQuality, if_pos stillBad]
  · rw [classifyQuality, if_neg bad]
    by_cases strained : status = .degraded ∨
        F64.lt (.finite 200) latencyMs = true ∨ F64.lt (.finite 10) lossPct = true
    · rw [if_pos strained, classifyQuality]
      split
      · decide
      · next notBad =>
          have stillStrained : worse = .degraded ∨
              F64.lt (.finite 200) slower = true ∨
                F64.lt (.finite 10) lossier = true := by
            rcases strained with wasDegraded | slow | lossy
            · rcases degraded wasDegraded with same | gone
              · exact .inl same
              · exact absurd (.inl gone) notBad
            · exact .inr (.inl (F64.lt_of_grows slows slow))
            · exact .inr (.inr (F64.lt_of_grows loses lossy))
          rw [if_pos stillStrained]
    · rw [if_neg strained]
      exact Nat.zero_le _

end Classification

namespace AdaptiveScheduler

open ScheduledCall

theorem base_antitone {config : ScheduleConfig} (ordered : config.Ordered)
    {quality worse : NetworkQuality} (worsens : quality.severity ≤ worse.severity) :
    base config worse ≤ base config quality := by
  obtain ⟨-, degradedLeGood, badLeDegraded⟩ := ordered
  cases quality <;> cases worse <;>
    first
    | exact le_refl _
    | exact degradedLeGood
    | exact badLeDegraded
    | exact badLeDegraded.trans degradedLeGood
    | cases Nat.lt_irrefl _ (Nat.lt_of_lt_of_le (by decide) worsens)

section Suggestions

variable {config : ScheduleConfig} {history : List ScheduledCall} {now : Nat}
variable {status worse : ConnectionStatus} {latencyMs slower lossPct lossier : F64}
variable {scheduler other : AdaptiveScheduler}

theorem suggestConcurrency_of_cooldown (cooling : scheduler.inCooldown now = true) :
    scheduler.suggestConcurrency now status latencyMs lossPct =
      min scheduler.config.minConcurrency scheduler.config.maxConcurrency := by
  rw [suggestConcurrency, if_pos cooling]

theorem suggestConcurrency_of_not_cooldown
    (cooled : ¬ scheduler.inCooldown now = true) :
    scheduler.suggestConcurrency now status latencyMs lossPct =
      min
        (max (base scheduler.config (classifyQuality status latencyMs lossPct) -
            failurePenalty scheduler.inner.recentFailures)
          scheduler.config.minConcurrency)
        scheduler.config.maxConcurrency := by
  rw [suggestConcurrency, if_neg cooled]

theorem suggestConcurrency_le_max :
    scheduler.suggestConcurrency now status latencyMs lossPct ≤
      scheduler.config.maxConcurrency :=
  min_le_right _ _

/-- The cooldown suggests the least that is ever suggested. -/
theorem min_le_suggestConcurrency :
    min scheduler.config.minConcurrency scheduler.config.maxConcurrency ≤
      scheduler.suggestConcurrency now status latencyMs lossPct := by
  by_cases cooling : scheduler.inCooldown now = true
  · rw [suggestConcurrency_of_cooldown cooling]
  · rw [suggestConcurrency_of_not_cooldown cooling]
    exact min_le_min_right _ (le_max_right _ _)

/-- The network enters through its quality alone. -/
theorem suggestConcurrency_antitone (ordered : scheduler.config.Ordered)
    (worsens : status.severity ≤ worse.severity)
    (slows : F64.Grows latencyMs slower) (loses : F64.Grows lossPct lossier) :
    scheduler.suggestConcurrency now worse slower lossier ≤
      scheduler.suggestConcurrency now status latencyMs lossPct := by
  by_cases cooling : scheduler.inCooldown now = true
  · rw [suggestConcurrency_of_cooldown cooling,
      suggestConcurrency_of_cooldown cooling]
  · rw [suggestConcurrency_of_not_cooldown cooling,
      suggestConcurrency_of_not_cooldown cooling]
    have lower := base_antitone ordered (severity_classifyQuality_le worsens slows loses)
    exact min_le_min_right _ (max_le_max_right _ (Nat.sub_le_sub_right lower _))

/-- More failures outside of a cooldown do not raise the suggestion. -/
theorem suggestConcurrency_le_of_failures
    (sameConfig : other.config = scheduler.config)
    (cooled : ¬ scheduler.inCooldown now = true)
    (alsoCooled : ¬ other.inCooldown now = true)
    (fewer : scheduler.inner.recentFailures ≤ other.inner.recentFailures) :
    other.suggestConcurrency now status latencyMs lossPct ≤
      scheduler.suggestConcurrency now status latencyMs lossPct := by
  rw [suggestConcurrency_of_not_cooldown cooled,
    suggestConcurrency_of_not_cooldown alsoCooled, sameConfig]
  have penalty := failurePenalty_mono fewer
  exact min_le_min_right _ (max_le_max_right _ (Nat.sub_le_sub_left penalty _))

/-- A failure starts the cooldown, if there is one. -/
theorem inCooldown_recordFailure :
    (scheduler.recordFailure now).inCooldown now = true ↔
      0 < scheduler.config.cooldownAfterFailureSecs := by
  simp [inCooldown, recordFailure, Instant.elapsed, Duration.fromSecs]

theorem not_inCooldown_of_eq_zero
    (noCooldown : scheduler.config.cooldownAfterFailureSecs = 0) :
    ¬ scheduler.inCooldown now = true := by
  rw [inCooldown]
  split
  · simp
  · simp [noCooldown, Duration.fromSecs]

/-- One more failure, unless it makes the counter wrap around while there is no
cooldown. -/
theorem suggestConcurrency_recordFailure_le
    (counted : scheduler.inner.recentFailures + 1 < 2 ^ 32 ∨
      0 < scheduler.config.cooldownAfterFailureSecs) :
    (scheduler.recordFailure now).suggestConcurrency now status latencyMs lossPct ≤
      scheduler.suggestConcurrency now status latencyMs lossPct := by
  have sameConfig : (scheduler.recordFailure now).config = scheduler.config := rfl
  by_cases cooldown : 0 < scheduler.config.cooldownAfterFailureSecs
  · rw [suggestConcurrency_of_cooldown (inCooldown_recordFailure.mpr cooldown),
      sameConfig]
    exact min_le_suggestConcurrency
  · have noCooldown := Nat.eq_zero_of_not_pos cooldown
    have cooled : ¬ (scheduler.recordFailure now).inCooldown now = true :=
      fun cooling => cooldown (inCooldown_recordFailure.mp cooling)
    have fits := counted.resolve_right cooldown
    have fewer : scheduler.inner.recentFailures ≤
        (scheduler.recordFailure now).inner.recentFailures := by
      change scheduler.inner.recentFailures ≤
        addU32 scheduler.inner.recentFailures 1
      rw [addU32, Nat.mod_eq_of_lt fits]
      exact Nat.le_succ _
    exact suggestConcurrency_le_of_failures sameConfig
      (not_inCooldown_of_eq_zero noCooldown) cooled fewer

end Suggestions

/-- In every history the suggestion is bounded and falls with the network.  One
more failure does not raise it either, except for the one that makes the
counter wrap around while there is no cooldown. -/
theorem suggestConcurrency_bounded_and_antitone {config : ScheduleConfig}
    (ordered : config.Ordered) (history : List ScheduledCall) :
    let suggestion := (afterHistory config history).suggestConcurrency
    (∀ now status latencyMs lossPct,
      config.minConcurrency ≤ suggestion now status latencyMs lossPct ∧
        suggestion now status latencyMs lossPct ≤ config.maxConcurrency) ∧
    (∀ now status worse latencyMs slower lossPct lossier,
      status.severity ≤ worse.severity → F64.Grows latencyMs slower →
        F64.Grows lossPct lossier →
          suggestion now worse slower lossier ≤
            suggestion now status latencyMs lossPct) ∧
    (unresolvedFailures history + 1 < 2 ^ 32 ∨
        0 < config.cooldownAfterFailureSecs →
      ∀ now status latencyMs lossPct,
        (afterHistory config (history ++ [⟨now, .recordFailure⟩])
          ).suggestConcurrency now status latencyMs lossPct ≤
            suggestion now status latencyMs lossPct) := by
  refine ⟨?_, ?_, ?_⟩
  · intro now status latencyMs lossPct
    constructor
    · have least : min (afterHistory config history).config.minConcurrency
          (afterHistory config history).config.maxConcurrency ≤
            (afterHistory config history).suggestConcurrency now status latencyMs
              lossPct := min_le_suggestConcurrency
      rwa [config_afterHistory, min_eq_left ordered.min_le_max] at least
    · have most : (afterHistory config history).suggestConcurrency now status latencyMs
          lossPct ≤ (afterHistory config history).config.maxConcurrency :=
        suggestConcurrency_le_max
      rwa [config_afterHistory] at most
  · intro now status worse latencyMs slower lossPct lossier worsens slows loses
    apply suggestConcurrency_antitone _ worsens slows loses
    rwa [config_afterHistory]
  · intro counted now status latencyMs lossPct
    rw [afterHistory_append]
    apply suggestConcurrency_recordFailure_le
    rw [recentFailures_afterHistory, config_afterHistory]
    refine counted.imp_left fun fits => ?_
    rwa [Nat.mod_eq_of_lt (Nat.lt_of_succ_lt fits)]

theorem suggestConcurrency_standard_bounded :
    let history : List ScheduledCall := [⟨0, .recordFailure⟩]
    let suggestion := (afterHistory .standard history).suggestConcurrency
    (∀ now status latencyMs lossPct,
      1 ≤ suggestion now status latencyMs lossPct ∧
        suggestion now status latencyMs lossPct ≤ 8) ∧
    ∀ now status latencyMs lossPct,
      (afterHistory .standard (history ++ [⟨now, .recordFailure⟩])
        ).suggestConcurrency now status latencyMs lossPct ≤
          suggestion now status latencyMs lossPct := by
  have ordered : ScheduleConfig.standard.Ordered := ⟨by decide, by decide, by decide⟩
  have general := suggestConcurrency_bounded_and_antitone ordered [⟨0, .recordFailure⟩]
  exact ⟨general.1, general.2.2 (.inr (by decide))⟩

theorem unresolvedFailures_replicate (count madeAt : Nat) :
    unresolvedFailures (List.replicate count ⟨madeAt, .recordFailure⟩) = count := by
  induction count with
  | zero => rfl
  | succ count ih =>
      rw [List.replicate_succ', unresolvedFailures_append, ih]
      rfl

/-- Without a cooldown the failure number 2^32 is forgotten with all others. -/
theorem suggestion_rises_at_wraparound :
    let config := { ScheduleConfig.standard with cooldownAfterFailureSecs := 0 }
    let history : List ScheduledCall :=
      List.replicate (2 ^ 32 - 1) ⟨0, .recordFailure⟩
    config.Ordered ∧ history.countP isFailure < 2 ^ 32 ∧
      (afterHistory config history).suggestConcurrency 0 .online (.finite 10)
        (.finite 0) = 3 ∧
      (afterHistory config (history ++ [⟨0, .recordFailure⟩])).suggestConcurrency 0
        .online (.finite 10) (.finite 0) = 5 := by
  intro config history
  have penaltyBefore : failurePenalty (2 ^ 32 - 1) = 2 := by
    rw [failurePenalty_eq]
    decide
  have penaltyAfter : failurePenalty 0 = 0 := by
    rw [failurePenalty_eq]
    decide
  have good : classifyQuality .online (.finite 10) (.finite 0) = .good := by decide
  have countBefore : unresolvedFailures history = 2 ^ 32 - 1 :=
    unresolvedFailures_replicate _ 0
  have countAfter : unresolvedFailures (history ++ [⟨0, .recordFailure⟩]) = 2 ^ 32 := by
    rw [unresolvedFailures_append, countBefore]
    rfl
  refine ⟨⟨by decide, by decide, by decide⟩, ?_, ?_, ?_⟩
  · apply Nat.lt_of_le_of_lt List.countP_le_length
    rw [List.length_replicate]
    decide
  · have noCooldown : (afterHistory config history).config.cooldownAfterFailureSecs = 0 := by
      rw [config_afterHistory]
    rw [suggestConcurrency_of_not_cooldown (not_inCooldown_of_eq_zero noCooldown),
      config_afterHistory, recentFailures_afterHistory, countBefore, good,
      Nat.mod_eq_of_lt (by decide), penaltyBefore]
    decide
  · have noCooldown : (afterHistory config (history ++ [⟨0, .recordFailure⟩])
        ).config.cooldownAfterFailureSecs = 0 := by
      rw [config_afterHistory]
    rw [suggestConcurrency_of_not_cooldown (not_inCooldown_of_eq_zero noCooldown),
      config_afterHistory, recentFailures_afterHistory, countAfter, good,
      Nat.mod_self, penaltyAfter]
    decide

/-- After a final success every suggestion is that of a fresh scheduler. -/
def FullyRestored (config : ScheduleConfig) (history : List ScheduledCall)
    (succeededAt : Nat) : Prop :=
  ∀ now, succeededAt ≤ now → ∀ status latencyMs lossPct,
    (afterHistory config (history ++ [⟨succeededAt, .recordSuccess⟩])
      ).suggestConcurrency now status latencyMs lossPct =
        (new config).suggestConcurrency now status latencyMs lossPct

/-- The cooldown of the last failure, if there was one, is over. -/
def CooledDown (config : ScheduleConfig) (history : List ScheduledCall)
    (succeededAt : Nat) : Prop :=
  ∀ failedAt, lastFailureAt history = some failedAt →
    Duration.fromSecs config.cooldownAfterFailureSecs ≤
      Instant.elapsed failedAt succeededAt

/-- No quality of the network gets more than the minimum. -/
def Flat (config : ScheduleConfig) : Prop :=
  config.maxConcurrency ≤ config.minConcurrency ∨
    ∀ quality, base config quality ≤ config.minConcurrency

section Restoring

variable {config : ScheduleConfig} {history : List ScheduledCall}
variable {now succeededAt : Nat} {status : ConnectionStatus} {latencyMs lossPct : F64}

theorem lastFailureAt_append_success :
    lastFailureAt (history ++ [⟨succeededAt, .recordSuccess⟩]) =
      lastFailureAt history := by
  simp [lastFailureAt, isFailure]

theorem suggestConcurrency_new :
    (new config).suggestConcurrency now status latencyMs lossPct =
      min (max (base config (classifyQuality status latencyMs lossPct))
        config.minConcurrency) config.maxConcurrency :=
  rfl

/-- The penalty is gone after a success; the cooldown may remain. -/
theorem suggestConcurrency_after_success :
    let scheduler :=
      afterHistory config (history ++ [⟨succeededAt, .recordSuccess⟩])
    scheduler.suggestConcurrency now status latencyMs lossPct =
      if scheduler.inCooldown now then
        min config.minConcurrency config.maxConcurrency
      else (new config).suggestConcurrency now status latencyMs lossPct := by
  intro scheduler
  have sameConfig : scheduler.config = config := config_afterHistory
  have noFailures : scheduler.inner.recentFailures = 0 := by
    rw [recentFailures_afterHistory, unresolvedFailures_append]
    rfl
  split
  · next cooling => rw [suggestConcurrency_of_cooldown cooling, sameConfig]
  · next cooled =>
      rw [suggestConcurrency_of_not_cooldown cooled, sameConfig, noFailures]
      rfl

theorem inCooldown_after_success :
    (afterHistory config (history ++ [⟨succeededAt, .recordSuccess⟩])
      ).inCooldown now = true ↔
      ∃ failedAt, lastFailureAt history = some failedAt ∧
        Instant.elapsed failedAt now <
          Duration.fromSecs config.cooldownAfterFailureSecs := by
  rw [inCooldown, lastFailureTime_afterHistory, lastFailureAt_append_success,
    config_afterHistory]
  cases lastFailureAt history with
  | none => simp
  | some failedAt => simp

/-- The three qualities all occur. -/
theorem exists_classifyQuality (quality : NetworkQuality) :
    ∃ status, classifyQuality status (.finite 0) (.finite 0) = quality := by
  cases quality with
  | good => exact ⟨.online, by decide⟩
  | degraded => exact ⟨.degraded, by decide⟩
  | bad => exact ⟨.offline, by decide⟩

/-- A cooldown makes no difference exactly where the suggestion is always the
least one. -/
theorem flat_iff :
    Flat config ↔ ∀ quality,
      min (max (base config quality) config.minConcurrency) config.maxConcurrency =
        min config.minConcurrency config.maxConcurrency := by
  constructor
  · rintro (capped | low) quality
    · omega
    · rw [max_eq_right (low quality)]
  · intro same
    by_contra notFlat
    rw [Flat, not_or, not_forall] at notFlat
    obtain ⟨uncapped, quality, high⟩ := notFlat
    have := same quality
    omega

/-- A success restores the full suggestion exactly if the last failure has
cooled down by then, or if the cooldown changes no suggestion. -/
theorem fullyRestored_iff :
    FullyRestored config history succeededAt ↔
      CooledDown config history succeededAt ∨ Flat config := by
  constructor
  · intro restored
    by_contra neither
    rw [not_or, CooledDown, flat_iff] at neither
    push Not at neither
    obtain ⟨⟨failedAt, last, cooling⟩, quality, differs⟩ := neither
    obtain ⟨status, rfl⟩ := exists_classifyQuality quality
    have same := restored succeededAt le_rfl status (.finite 0) (.finite 0)
    rw [suggestConcurrency_after_success,
      if_pos (inCooldown_after_success.mpr ⟨failedAt, last, cooling⟩),
      suggestConcurrency_new] at same
    exact differs same.symm
  · rintro (cooled | flat) now later status latencyMs lossPct
    · have cooledDown : ¬ (afterHistory config
          (history ++ [⟨succeededAt, .recordSuccess⟩])).inCooldown now = true := by
        rw [inCooldown_after_success]
        rintro ⟨failedAt, last, cooling⟩
        have enough := cooled failedAt last
        unfold Instant.elapsed at enough cooling
        omega
      rw [suggestConcurrency_after_success, if_neg cooledDown]
    · rw [suggestConcurrency_after_success, suggestConcurrency_new,
        flat_iff.mp flat, ite_self]

/-- A success right after a failure leaves the suggestion at the minimum. -/
theorem success_leaves_cooldown :
    (afterHistory .standard [⟨0, .recordFailure⟩, ⟨0, .recordSuccess⟩]
      ).suggestConcurrency 0 .online (.finite 10) (.finite 0) = 1 ∧
    (new .standard).suggestConcurrency 0 .online (.finite 10) (.finite 0) = 5 := by
  have cooling : (afterHistory .standard
      [⟨0, .recordFailure⟩, ⟨0, .recordSuccess⟩]).inCooldown 0 = true := by decide
  have good : classifyQuality .online (.finite 10) (.finite 0) = .good := by decide
  constructor
  · rw [suggestConcurrency_of_cooldown cooling]
    rfl
  · rw [suggestConcurrency_new, good]
    rfl

end Restoring

end AdaptiveScheduler

end NetGuardian
