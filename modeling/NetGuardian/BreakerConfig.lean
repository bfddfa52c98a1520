import NetGuardian.FailureCount
import NetGuardian.OpenCircuit
import NetGuardian.Orchestrator
import NetGuardian.Storage

/-!
# The configured circuit breaker

The configuration has a threshold and a cooldown for the circuit breaker.  The
daemon builds its orchestrator with an exponential backoff, which has neither,
and for such a policy the breaker falls back on constants: five failures and
thirty seconds, the values of the default configuration.
-/

namespace NetGuardian

namespace AppConfig

/-- The policy that `cmd_daemon` builds. -/
def daemonPolicy (config : AppConfig) : RetryPolicy :=
  .exponentialBackoff (Duration.fromSecs config.retry.baseDelaySecs)
    config.retry.multiplier (Duration.fromSecs config.retry.maxDelaySecs)

def daemonOrchestrator (config : AppConfig) : RetryOrchestrator :=
  .new config.retry.maxRetries config.daemonPolicy

end AppConfig

/-- A call of a method of the orchestrator. -/
inductive OrchestratorCall where
  | ended (jobEnd : JobEnd)
  | updateNetwork (latencyMs packetLossPct : ℚ)
  | nextRetryDelay (now : Nat) (jitter : ℚ)

def RetryOrchestrator.call (orchestrator : RetryOrchestrator) :
    OrchestratorCall → RetryOrchestrator
  | .ended jobEnd => orchestrator.apply jobEnd
  | .updateNetwork latencyMs packetLossPct =>
      orchestrator.updateNetwork latencyMs packetLossPct
  | .nextRetryDelay now jitter => (orchestrator.nextRetryDelay now jitter).1

namespace OrchestratorCall

/-- What a call does to the engine.  The last question of `handle_failure`
changes nothing, and the last two calls but one read no clock. -/
def engineCalls : OrchestratorCall → List (Nat × RetryOp)
  | ended (.failure readings _ error) =>
      [(readings.recordedAt, .recordFailure error),
        (readings.delayAt, .nextRetry readings.jitter)]
  | ended (.success _ stamp) => [(stamp, .recordSuccess)]
  | updateNetwork latencyMs packetLossPct =>
      [(0, .withNetworkConditions latencyMs packetLossPct)]
  | nextRetryDelay now jitter => [(now, .nextRetry jitter)]

theorem engine_call (orchestrator : RetryOrchestrator) (call : OrchestratorCall) :
    (orchestrator.call call).engine =
      call.engineCalls.foldl RetryEngine.apply orchestrator.engine := by
  cases call with
  | ended jobEnd =>
      cases jobEnd with
      | failure readings job error =>
          exact congrArg RetryOrchestrator.engine
            (orchestrator.runFailure_orchestrator readings job error)
      | success job stamp => rfl
  | updateNetwork latencyMs packetLossPct => rfl
  | nextRetryDelay now jitter => rfl

theorem engine_foldl (orchestrator : RetryOrchestrator)
    (history : List OrchestratorCall) :
    (history.foldl RetryOrchestrator.call orchestrator).engine =
      (history.flatMap engineCalls).foldl RetryEngine.apply
        orchestrator.engine := by
  induction history generalizing orchestrator with
  | nil => rfl
  | cons call history ih =>
      rw [List.foldl_cons, ih, engine_call, List.flatMap_cons, List.foldl_append]

end OrchestratorCall

namespace AppConfig

open OrchestratorCall

/-- The orchestrator of the daemon after some calls. -/
def orchestratorAfter (config : AppConfig) (history : List OrchestratorCall) :
    RetryOrchestrator :=
  history.foldl RetryOrchestrator.call config.daemonOrchestrator

/-- All failures since the last success are retryable; there are `count`. -/
structure Consecutive (history : List OrchestratorCall) (count : Nat) :
    Prop where
  failures : failuresSinceSuccess (history.flatMap engineCalls) = count
  retryable : retryableSinceSuccess (history.flatMap engineCalls) = count

/-- No success, and every call comes before the deadline. -/
def CallsBefore (deadline : Nat) (more : List OrchestratorCall) : Prop :=
  ∀ call ∈ more.flatMap engineCalls,
    call.1 < deadline ∧ call.2 ≠ .recordSuccess

/-- After the failure that reaches the threshold, the circuit is open since that
failure and refuses retries until the cooldown is over. -/
def OpensFor (cooldown : Nat) (config : AppConfig)
    (history : List OrchestratorCall) : Prop :=
  ∀ readings job error, (FailureClass.classify error).isRetryable = true →
    let opened := history ++ [.ended (.failure readings job error)]
    let cooled := readings.recordedAt + Duration.fromSecs cooldown
    (config.orchestratorAfter opened).engine.state.circuitState =
        .opened readings.recordedAt ∧
      ∀ more later, CallsBefore cooled more → readings.recordedAt ≤ later →
        ((config.orchestratorAfter (opened ++ more)
          ).engine.state.circuitAllowsRetry later = true ↔ cooled ≤ later)

/-- The circuit is closed below the configured threshold, and opens at it for
the configured cooldown. -/
def HonoursBreaker (config : AppConfig) : Prop :=
  ∀ history count, Consecutive history count →
    (count < config.retry.circuitBreakerThreshold →
      (config.orchestratorAfter history).engine.state.circuitState = .closed) ∧
    (count + 1 = config.retry.circuitBreakerThreshold →
      OpensFor config.retry.circuitBreakerCooldownSecs config history)

section Breaker

variable (config : AppConfig) {history : List OrchestratorCall} {count : Nat}

theorem engine_orchestratorAfter (history : List OrchestratorCall) :
    (config.orchestratorAfter history).engine =
      (history.flatMap engineCalls).foldl RetryEngine.apply
        (.new config.retry.maxRetries config.daemonPolicy) :=
  engine_foldl config.daemonOrchestrator history

theorem engine_orchestratorAfter_append (more : List OrchestratorCall) :
    (config.orchestratorAfter (history ++ more)).engine =
      (more.flatMap engineCalls).foldl RetryEngine.apply
        (config.orchestratorAfter history).engine := by
  rw [engine_orchestratorAfter, engine_orchestratorAfter, List.flatMap_append,
    List.foldl_append]

theorem policy_orchestratorAfter (history : List OrchestratorCall) :
    (config.orchestratorAfter history).engine.state.policy =
      config.daemonPolicy := by
  rw [engine_orchestratorAfter, RetryEngine.foldl_apply_policy]
  rfl

/-- The constants decide, whatever the configuration says. -/
theorem counts_of_consecutive (consecutive : Consecutive history count)
    (few : count < 2 ^ 32) :
    (config.orchestratorAfter history).engine.state.consecutiveFailures = count ∧
      ((config.orchestratorAfter history).engine.state.circuitState = .closed ↔
        count < 5) := by
  have threshold : config.daemonPolicy.circuitThreshold = 5 := rfl
  have counts := @RetryEngine.counts_of_run (history.flatMap engineCalls)
    config.daemonPolicy config.retry.maxRetries
    (by rw [threshold]; decide) (by rw [consecutive.failures]; exact few)
  rw [engine_orchestratorAfter, counts.consecutiveFailures_eq, counts.closed_iff,
    consecutive.retryable, threshold]
  exact ⟨rfl, Iff.rfl⟩

theorem Consecutive.append (consecutive : Consecutive history count)
    (readings : FailureReadings) (job : Job) {error : String}
    (retryable : (FailureClass.classify error).isRetryable = true) :
    Consecutive (history ++ [.ended (.failure readings job error)])
      (count + 1) := by
  have calls : (history ++ [OrchestratorCall.ended
      (.failure readings job error)]).flatMap engineCalls =
        history.flatMap engineCalls ++
          [(readings.recordedAt, .recordFailure error)] ++
            [(readings.delayAt, .nextRetry readings.jitter)] := by
    simp [engineCalls]
  constructor
  · rw [calls, failuresSinceSuccess_append_other rfl,
      failuresSinceSuccess_append_other rfl, consecutive.failures]
    rfl
  · rw [calls, retryableSinceSuccess_append_other rfl,
      retryableSinceSuccess_append_other rfl, consecutive.retryable]
    simp [RetryOp.isRetryableFailure, retryable]

/-- The fifth failure opens the circuit at the time at which it is recorded. -/
theorem circuitState_of_fifth (consecutive : Consecutive history 4)
    (readings : FailureReadings) (job : Job) {error : String}
    (retryable : (FailureClass.classify error).isRetryable = true) :
    (config.orchestratorAfter (history ++
      [.ended (.failure readings job error)])).engine.state.circuitState =
        .opened readings.recordedAt := by
  obtain ⟨failures, closedIff⟩ :=
    config.counts_of_consecutive consecutive (by decide)
  have closed := closedIff.mpr (by decide)
  have policy := config.policy_orchestratorAfter history
  have recorded : ((config.orchestratorAfter history).engine.state.recordFailure
      readings.recordedAt error).circuitState = .opened readings.recordedAt := by
    rw [RetryState.recordFailure_circuitState]
    simp [RetryState.nextCircuitState, closed, policy, failures, retryable,
      daemonPolicy, RetryPolicy.circuitThreshold, addU32]
  rw [engine_orchestratorAfter_append]
  exact ((RetryState.nextDelay_counts _ readings.delayAt readings.jitter).2).trans
    recorded

/-- Four failures in, the next one opens the circuit for thirty seconds. -/
theorem opensFor_thirty (consecutive : Consecutive history 4) :
    OpensFor 30 config history := by
  intro readings job error retryable opened cooled
  have circuit := config.circuitState_of_fifth consecutive readings job retryable
  refine ⟨circuit, ?_⟩
  intro more later before notEarlier
  have policy := config.policy_orchestratorAfter opened
  have cooldown : (config.orchestratorAfter opened
      ).engine.state.policy.circuitCooldown = Duration.fromSecs 30 := by
    rw [policy]
    rfl
  have stillOpen : (config.orchestratorAfter (opened ++ more)
      ).engine.state.circuitState = .opened readings.recordedAt := by
    rw [engine_orchestratorAfter_append]
    refine RetryEngine.circuitState_foldl_of_cooling circuit ?_ ?_
    · intro call member
      have early := (before call member).1
      rw [cooldown, Instant.elapsed]
      simp only [cooled, Duration.fromSecs] at early ⊢
      omega
    · exact fun call member => (before call member).2
  have policyAfter := config.policy_orchestratorAfter (opened ++ more)
  simp only [RetryState.circuitAllowsRetry, stillOpen, policyAfter,
    decide_eq_true_eq, Instant.elapsed]
  change Duration.fromSecs 30 ≤ later - readings.recordedAt ↔ cooled ≤ later
  simp only [cooled]
  omega

end Breaker

/-- A failure of a job for `curl` at time zero. -/
def timeoutAtStart : OrchestratorCall :=
  .ended (.failure ⟨0, 0, 0, 0, 0⟩ (Job.new 1 0 "curl" "" "curl" [] .normal)
    "timeout")

theorem consecutive_timeouts (count : Nat) :
    Consecutive (List.replicate count timeoutAtStart) count := by
  induction count with
  | zero => exact ⟨rfl, rfl⟩
  | succ count ih =>
      rw [List.replicate_succ']
      exact ih.append _ _ (by decide)

/-- Only the constant threshold is honoured. -/
theorem HonoursBreaker.threshold_eq {config : AppConfig}
    (honours : config.HonoursBreaker)
    (atLeastOne : 1 ≤ config.retry.circuitBreakerThreshold) :
    config.retry.circuitBreakerThreshold = 5 := by
  rcases Nat.lt_trichotomy config.retry.circuitBreakerThreshold 5 with
    low | equal | high
  · -- the threshold is reached, and the circuit is still closed
    obtain ⟨before, isNext⟩ :=
      Nat.exists_eq_add_of_le' atLeastOne
    have consecutive := consecutive_timeouts before
    have opened := ((honours _ before consecutive).2 isNext.symm
      ⟨0, 0, 0, 0, 0⟩ (Job.new 1 0 "curl" "" "curl" [] .normal) "timeout"
      (by decide)).1
    have retryable : (FailureClass.classify "timeout").isRetryable = true := by
      decide
    have closed := (config.counts_of_consecutive
      (consecutive.append ⟨0, 0, 0, 0, 0⟩
        (Job.new 1 0 "curl" "" "curl" [] .normal) retryable)
      (by omega)).2.mpr (by omega)
    rw [closed] at opened
    cases opened
  · exact equal
  · -- five failures are below the threshold, and the circuit is open
    have closed := (honours _ 5 (consecutive_timeouts 5)).1 high
    have few := (config.counts_of_consecutive (consecutive_timeouts 5)
      (by decide)).2.mp closed
    omega

/-- Only the constant cooldown is honoured. -/
theorem HonoursBreaker.cooldown_eq {config : AppConfig}
    (honours : config.HonoursBreaker)
    (threshold : config.retry.circuitBreakerThreshold = 5) :
    config.retry.circuitBreakerCooldownSecs = 30 := by
  have consecutive := consecutive_timeouts 4
  have asked := (((honours _ 4 consecutive).2 threshold.symm) ⟨0, 0, 0, 0, 0⟩
    (Job.new 1 0 "curl" "" "curl" [] .normal) "timeout" (by decide)).2 []
  have actual := (config.opensFor_thirty consecutive ⟨0, 0, 0, 0, 0⟩
    (Job.new 1 0 "curl" "" "curl" [] .normal) "timeout" (by decide)).2 []
  have same : ∀ later,
      Duration.fromSecs config.retry.circuitBreakerCooldownSecs ≤ later ↔
        Duration.fromSecs 30 ≤ later := by
    intro later
    have configured := asked later (by simp [CallsBefore]) (Nat.zero_le _)
    have constant := actual later (by simp [CallsBefore]) (Nat.zero_le _)
    simp only [Nat.zero_add] at configured constant
    exact configured.symm.trans constant
  have notBelow := (same (Duration.fromSecs 30)).mpr le_rfl
  have notAbove := (same (Duration.fromSecs
    config.retry.circuitBreakerCooldownSecs)).mp le_rfl
  simp only [Duration.fromSecs] at notBelow notAbove
  omega

/-- The configured breaker is the one of the daemon exactly when the
configuration asks for the constants. -/
theorem honoursBreaker_iff (config : AppConfig)
    (atLeastOne : 1 ≤ config.retry.circuitBreakerThreshold) :
    config.HonoursBreaker ↔
      config.retry.circuitBreakerThreshold = 5 ∧
        config.retry.circuitBreakerCooldownSecs = 30 := by
  constructor
  · intro honours
    have threshold := honours.threshold_eq atLeastOne
    exact ⟨threshold, honours.cooldown_eq threshold⟩
  · rintro ⟨threshold, cooldown⟩ history count consecutive
    rw [threshold, cooldown]
    constructor
    · intro below
      exact (config.counts_of_consecutive consecutive (by omega)).2.mpr below
    · intro isNext
      have four : count = 4 := by omega
      subst four
      exact config.opensFor_thirty consecutive

theorem honoursBreaker_iff_default :
    default.HonoursBreaker ↔
      default.retry.circuitBreakerThreshold = 5 ∧
        default.retry.circuitBreakerCooldownSecs = 30 :=
  honoursBreaker_iff default (by decide)

/-- The default configuration with a breaker that opens at the first failure,
for a minute. -/
def impatient : AppConfig :=
  { default with
    retry := { RetryConfig.default with
      circuitBreakerThreshold := 1
      circuitBreakerCooldownSecs := 60 } }

/-- The first failure leaves the circuit closed. -/
theorem impatient_not_honoured :
    (impatient.orchestratorAfter [timeoutAtStart]).engine.state.circuitState =
        .closed ∧ ¬ impatient.HonoursBreaker := by
  have closed : (impatient.orchestratorAfter
      [timeoutAtStart]).engine.state.circuitState = .closed := by decide +kernel
  refine ⟨closed, fun honours => ?_⟩
  have opened := ((honours [] 0 (consecutive_timeouts 0)).2 rfl ⟨0, 0, 0, 0, 0⟩
    (Job.new 1 0 "curl" "" "curl" [] .normal) "timeout" (by decide)).1
  change (impatient.orchestratorAfter
    [timeoutAtStart]).engine.state.circuitState = _ at opened
  rw [closed] at opened
  cases opened

end AppConfig

end NetGuardian
