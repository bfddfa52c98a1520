import NetGuardian.Primitives
import NetGuardian.Foundation.BoundedLog
import Mathlib.Data.List.Infix

/-!
# The retry engine

Failure classification, the five retry policies and the circuit breaker.  Every
function that reads the clock takes the reading as an argument, and the random
part of a delay is an argument as well.
-/

namespace NetGuardian

/-- `Duration::from_secs_f64` in exact arithmetic; `none` stands for its panic. -/
def Duration.fromSecsF64 (secs : ℚ) : Option ℚ :=
  if 0 ≤ secs ∧ secs < 2 ^ 64 then some secs else none

theorem Duration.fromSecsF64_eq_some {secs delay : ℚ} :
    Duration.fromSecsF64 secs = some delay ↔
      (0 ≤ secs ∧ secs < 2 ^ 64) ∧ secs = delay := by
  simp [fromSecsF64]

theorem Duration.fromSecsF64_eq_none {secs : ℚ} :
    Duration.fromSecsF64 secs = none ↔ secs < 0 ∨ 2 ^ 64 ≤ secs := by
  rw [fromSecsF64, ite_eq_right_iff]
  simp only [reduceCtorEq, imp_false, not_and_or, not_le, not_lt]

inductive RetryPolicy where
  | immediate
  | fixed (delay : Nat)
  | exponentialBackoff (initial : Nat) (multiplier : ℚ)
      (maxDelay : Nat)
  | adaptive (initial : Nat) (multiplier : ℚ) (maxDelay : Nat)
      (latencyWeight lossWeight : ℚ)
  | smart (initial : Nat) (multiplier : ℚ) (maxDelay : Nat)
      (circuitBreakerThreshold : Nat) (circuitBreakerCooldown : Nat)
deriving DecidableEq

namespace RetryPolicy

def default : RetryPolicy :=
  .exponentialBackoff (Duration.fromSecs 1) 2 (Duration.fromSecs 60)

/-- The cap of the last three policies. -/
def maxDelay? : RetryPolicy → Option Nat
  | exponentialBackoff _ _ maxDelay | adaptive _ _ maxDelay _ _
  | smart _ _ maxDelay _ _ => some maxDelay
  | immediate | fixed _ => none

/-- Only the `smart` policy configures the breaker. -/
def circuitThreshold : RetryPolicy → Nat
  | smart _ _ _ threshold _ => threshold
  | _ => 5

def circuitCooldown : RetryPolicy → Nat
  | smart _ _ _ _ cooldown => cooldown
  | _ => Duration.fromSecs 30

end RetryPolicy

inductive FailureClass where
  | transient
  | permanent
  | timeout
  | dnsFailure
  | networkUnreachable
  | rateLimited
  | unknown
deriving DecidableEq

namespace FailureClass

/-- Lower case, as far as the ASCII patterns below can tell.  The Kelvin sign
and the dotted capital I are the only other characters whose lower case has an
ASCII letter. -/
def toLowercase (text : String) : List Char :=
  text.toList.flatMap fun letter =>
    if letter = '\u212A' then ['k']
    else if letter = '\u0130' then ['i', '\u0307']
    else [letter.toLower]

def contains (text : List Char) (pattern : String) : Bool :=
  decide (pattern.toList <:+: text)

def classify (errorMsg : String) : FailureClass :=
  let lower := toLowercase errorMsg
  if contains lower "timeout" || contains lower "timed out" then timeout
  else if contains lower "dns" || contains lower "name resolution" then dnsFailure
  else if contains lower "unreachable" || contains lower "network is" then
    networkUnreachable
  else if contains lower "429" || contains lower "rate limit" ||
      contains lower "too many" then rateLimited
  else if contains lower "404" || contains lower "not found" ||
      contains lower "403" || contains lower "forbidden" ||
      contains lower "401" || contains lower "unauthorized" then permanent
  else transient

def isRetryable : FailureClass → Bool
  | permanent => false
  | transient | timeout | dnsFailure | networkUnreachable | rateLimited
  | unknown => true

/-- The text of `{:?}`. -/
def debug : FailureClass → String
  | transient => "Transient"
  | permanent => "Permanent"
  | timeout => "Timeout"
  | dnsFailure => "DnsFailure"
  | networkUnreachable => "NetworkUnreachable"
  | rateLimited => "RateLimited"
  | unknown => "Unknown"

end FailureClass

inductive CircuitState where
  | closed
  | opened (openedAt : Nat)
  | halfOpen
deriving DecidableEq

structure FailureRecord where
  failureClass : FailureClass
  latencyMs : ℚ
  lossPct : ℚ
  timestamp : Nat
deriving DecidableEq

structure RetryState where
  attempt : Nat
  maxRetries : Nat
  policy : RetryPolicy
  lastLatencyMs : ℚ
  lastPacketLossPct : ℚ
  consecutiveFailures : Nat
  circuitState : CircuitState
  failureHistory : List FailureRecord
  lastFailureClass : Option FailureClass
deriving DecidableEq

namespace RetryState

def new (maxRetries : Nat) (policy : RetryPolicy) : RetryState where
  attempt := 0
  maxRetries := maxRetries
  policy := policy
  lastLatencyMs := 0
  lastPacketLossPct := 0
  consecutiveFailures := 0
  circuitState := .closed
  failureHistory := []
  lastFailureClass := none

def circuitAllowsRetry (state : RetryState) (now : Nat) : Bool :=
  match state.circuitState with
  | .closed => true
  | .opened openedAt =>
      decide (state.policy.circuitCooldown ≤ Instant.elapsed openedAt now)
  | .halfOpen => true

/-- The circuit after a failure has been counted. -/
def nextCircuitState (state : RetryState) (now : Nat) : CircuitState :=
  match state.circuitState with
  | .closed =>
      if state.policy.circuitThreshold ≤ state.consecutiveFailures then
        .opened now
      else .closed
  | .opened openedAt =>
      if state.policy.circuitCooldown ≤ Instant.elapsed openedAt now then
        .halfOpen
      else .opened openedAt
  | .halfOpen =>
      if 1 ≤ state.consecutiveFailures then .opened now else .halfOpen

def updateCircuitState (state : RetryState) (now : Nat) : RetryState :=
  { state with circuitState := state.nextCircuitState now }

/-- The growing part of the last three policies, in seconds. -/
def backoff (state : RetryState) (initial : Nat) (multiplier : ℚ) : ℚ :=
  Duration.asSecsF64 initial * multiplier ^ ((state.attempt : Int) - 1)

/-- The seconds handed to `Duration::from_secs_f64`, or the constant delay of
the first two policies.  `jitter` is the value of `jitter()`. -/
def calculateDelay (state : RetryState) (jitter : ℚ) : ℚ :=
  match state.policy with
  | .immediate => 0
  | .fixed delay => Duration.asSecsF64 delay
  | .exponentialBackoff initial multiplier maxDelay =>
      min (state.backoff initial multiplier) (Duration.asSecsF64 maxDelay) + jitter
  | .adaptive initial multiplier maxDelay latencyWeight lossWeight =>
      let latencyFactor := min (state.lastLatencyMs / 100) 5 * latencyWeight
      let lossFactor := min (state.lastPacketLossPct / 20) 5 * lossWeight
      min (state.backoff initial multiplier * (1 + latencyFactor + lossFactor))
        (Duration.asSecsF64 maxDelay) + jitter
  | .smart initial multiplier maxDelay _ _ =>
      let circuitPenalty : ℚ :=
        match state.circuitState with
        | .halfOpen => 2
        | _ => 1
      let failurePenalty := min (state.consecutiveFailures : ℚ) 10 * (1 / 2)
      let networkPenalty := min (state.lastPacketLossPct / 10) 3
      min (state.backoff initial multiplier * circuitPenalty *
          (1 + failurePenalty + networkPenalty))
        (Duration.asSecsF64 maxDelay) + jitter

def nextDelay (state : RetryState) (now : Nat) (jitter : ℚ) :
    RetryState × Option ℚ :=
  if state.maxRetries ≤ state.attempt then (state, none)
  else if !state.circuitAllowsRetry now then (state, none)
  else
    let advanced := { state with attempt := state.attempt + 1 }
    (advanced, some (advanced.calculateDelay jitter))

def recordFailure (state : RetryState) (now : Nat) (errorMsg : String) :
    RetryState :=
  let failureClass := FailureClass.classify errorMsg
  let counted :=
    if failureClass.isRetryable then addU32 state.consecutiveFailures 1
    else state.consecutiveFailures
  let failure : FailureRecord :=
    { failureClass := failureClass
      latencyMs := state.lastLatencyMs
      lossPct := state.lastPacketLossPct
      timestamp := now }
  updateCircuitState
    { state with
      lastFailureClass := some failureClass
      consecutiveFailures := counted
      failureHistory := BoundedLog.push 100 state.failureHistory failure }
    now

def recordSuccess (state : RetryState) : RetryState :=
  { state with
    consecutiveFailures := 0
    circuitState := .closed
    lastFailureClass := none }

def reset (state : RetryState) : RetryState := { state with attempt := 0 }

def remaining (state : RetryState) : Nat := state.maxRetries - state.attempt

end RetryState

structure RetryEngine where
  state : RetryState
  policy : RetryPolicy
deriving DecidableEq

namespace RetryEngine

def new (maxRetries : Nat) (policy : RetryPolicy) : RetryEngine where
  state := .new maxRetries policy
  policy := policy

def withNetworkConditions (engine : RetryEngine)
    (latencyMs packetLossPct : ℚ) : RetryEngine :=
  { engine with
    state := { engine.state with
      lastLatencyMs := latencyMs
      lastPacketLossPct := packetLossPct } }

def shouldRetry (engine : RetryEngine) (now : Nat) : Bool :=
  engine.state.attempt < engine.state.maxRetries &&
    engine.state.circuitAllowsRetry now

def nextRetry (engine : RetryEngine) (now : Nat) (jitter : ℚ) :
    RetryEngine × Option ℚ :=
  let next := engine.state.nextDelay now jitter
  ({ engine with state := next.1 }, next.2)

/-- `next_retry` hands a number of seconds to `Duration::from_secs_f64` that is
not the length of a duration. -/
def Panics (engine : RetryEngine) (now : Nat) (jitter : ℚ) : Prop :=
  engine.state.policy.maxDelay? ≠ none ∧
    ∃ secs, (engine.nextRetry now jitter).2 = some secs ∧
      Duration.fromSecsF64 secs = none

instance (engine : RetryEngine) (now : Nat) (jitter : ℚ) :
    Decidable (engine.Panics now jitter) :=
  decidable_of_iff
    (engine.state.policy.maxDelay? ≠ none ∧
      (engine.nextRetry now jitter).2.any
        (fun secs => (Duration.fromSecsF64 secs).isNone) = true)
    (by simp [Panics, Option.any_eq_true])

def recordFailure (engine : RetryEngine) (now : Nat) (errorMsg : String) :
    RetryEngine :=
  { engine with state := engine.state.recordFailure now errorMsg }

def recordSuccess (engine : RetryEngine) : RetryEngine :=
  { engine with state := engine.state.recordSuccess }

def reset (engine : RetryEngine) : RetryEngine :=
  { engine with state := engine.state.reset }

end RetryEngine

/-- The calls that change a retry engine or ask it for permission. -/
inductive RetryOp where
  | recordFailure (errorMsg : String)
  | recordSuccess
  | nextRetry (jitter : ℚ)
  | shouldRetry
  | reset
  | withNetworkConditions (latencyMs packetLossPct : ℚ)
deriving DecidableEq

/-- One call at one clock reading. -/
def RetryEngine.apply (engine : RetryEngine) (call : Nat × RetryOp) :
    RetryEngine :=
  match call.2 with
  | .recordFailure errorMsg => engine.recordFailure call.1 errorMsg
  | .recordSuccess => engine.recordSuccess
  | .nextRetry jitter => (engine.nextRetry call.1 jitter).1
  | .shouldRetry => engine
  | .reset => engine.reset
  | .withNetworkConditions latencyMs packetLossPct =>
      engine.withNetworkConditions latencyMs packetLossPct

section Frame

variable (state : RetryState) (engine : RetryEngine)

/-! No call touches the budget or the policy; the attempt counter is moved only
by `next_delay` and `reset`. -/

@[simp]
theorem RetryState.nextDelay_maxRetries (now : Nat) (jitter : ℚ) :
    (state.nextDelay now jitter).1.maxRetries = state.maxRetries := by
  unfold RetryState.nextDelay
  split
  · rfl
  · split <;> rfl

@[simp]
theorem RetryState.nextDelay_policy (now : Nat) (jitter : ℚ) :
    (state.nextDelay now jitter).1.policy = state.policy := by
  unfold RetryState.nextDelay
  split
  · rfl
  · split <;> rfl

@[simp]
theorem RetryState.recordFailure_policy (now : Nat) (errorMsg : String) :
    (state.recordFailure now errorMsg).policy = state.policy :=
  rfl

theorem RetryEngine.apply_maxRetries (call : Nat × RetryOp) :
    (engine.apply call).state.maxRetries = engine.state.maxRetries := by
  obtain ⟨now, operation⟩ := call
  cases operation with
  | nextRetry jitter => exact engine.state.nextDelay_maxRetries now jitter
  | _ => rfl

theorem RetryEngine.foldl_apply_maxRetries (calls : List (Nat × RetryOp)) :
    (calls.foldl RetryEngine.apply engine).state.maxRetries =
      engine.state.maxRetries := by
  induction calls generalizing engine with
  | nil => rfl
  | cons call calls ih =>
      rw [List.foldl_cons, ih, engine.apply_maxRetries]

/-- Permission is asked for and consumed by the same test. -/
theorem RetryEngine.nextRetry_isSome (now : Nat) (jitter : ℚ) :
    (engine.nextRetry now jitter).2.isSome = engine.shouldRetry now := by
  simp only [RetryEngine.nextRetry, RetryState.nextDelay,
    RetryEngine.shouldRetry]
  by_cases spent : engine.state.maxRetries ≤ engine.state.attempt
  · simp [spent, Nat.not_lt.mpr spent]
  · cases allowed : engine.state.circuitAllowsRetry now <;>
      simp [spent, Nat.lt_of_not_le spent]

end Frame

end NetGuardian
