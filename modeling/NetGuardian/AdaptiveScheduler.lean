import NetGuardian.RuleEngine
import Mathlib.Algebra.Order.Floor.Semiring
import Mathlib.Data.List.DropRight
import Mathlib.Data.Rat.Floor

/-!
# The adaptive scheduler

The scheduler suggests how many downloads may run at once.  A base value for
the quality of the network is lowered by a penalty for recent failures; during
a cooldown after a failure the minimum is suggested instead.  Either value is
capped by the maximum.

The suggestion is a function of the state, and falls when the network or the
failures get worse.  A success resets the count of failures but not the time of
the last one, so that it ends the penalty and not the cooldown.
-/

namespace NetGuardian

structure ScheduleWindow where
  startHour : Nat
  endHour : Nat
  maxConcurrency : Nat
  priorityBoost : Nat
deriving DecidableEq

structure ScheduleConfig where
  maxConcurrency : Nat
  minConcurrency : Nat
  concurrencyPerGoodNetwork : Nat
  concurrencyPerDegradedNetwork : Nat
  concurrencyPerBadNetwork : Nat
  batchSize : Nat
  cooldownAfterFailureSecs : Nat
deriving DecidableEq

/-- The `Default` of the configuration. -/
def ScheduleConfig.standard : ScheduleConfig where
  maxConcurrency := 8
  minConcurrency := 1
  concurrencyPerGoodNetwork := 5
  concurrencyPerDegradedNetwork := 2
  concurrencyPerBadNetwork := 1
  batchSize := 3
  cooldownAfterFailureSecs := 10

inductive NetworkQuality where
  | good
  | degraded
  | bad
deriving DecidableEq

structure ScheduleState where
  currentConcurrency : Nat
  activeCount : Nat
  queueDepth : Nat
  suggestedConcurrency : Nat
  networkQuality : NetworkQuality
  recentFailures : Nat
  cooldownRemainingSecs : Nat
deriving DecidableEq

structure ScheduleInner where
  activeCount : Nat
  queueDepth : Nat
  recentFailures : Nat
  lastFailureTime : Option Nat
  windows : List ScheduleWindow
deriving DecidableEq

structure AdaptiveScheduler where
  config : ScheduleConfig
  inner : ScheduleInner
deriving DecidableEq

def classifyQuality (status : ConnectionStatus) (latencyMs lossPct : F64) :
    NetworkQuality :=
  if status = .offline ∨ F64.le (.finite 50) lossPct = true then .bad
  else if status = .degraded ∨ F64.lt (.finite 200) latencyMs = true ∨
      F64.lt (.finite 10) lossPct = true then .degraded
  else .good

/-- Half of the recent failures, at most two, and rounded down. -/
def failurePenalty (recentFailures : Nat) : Nat :=
  if 0 < recentFailures then ⌊min ((recentFailures : ℚ) * (1 / 2)) 2⌋₊ else 0

namespace AdaptiveScheduler

def new (config : ScheduleConfig) : AdaptiveScheduler where
  config := config
  inner :=
    { activeCount := 0
      queueDepth := 0
      recentFailures := 0
      lastFailureTime := none
      windows := [] }

/-- The `match` on the quality in `suggest_concurrency`. -/
def base (config : ScheduleConfig) : NetworkQuality → Nat
  | .good => config.concurrencyPerGoodNetwork
  | .degraded => config.concurrencyPerDegradedNetwork
  | .bad => config.concurrencyPerBadNetwork

/-- `in_cooldown` of `suggest_concurrency`. -/
def inCooldown (scheduler : AdaptiveScheduler) (now : Nat) : Bool :=
  match scheduler.inner.lastFailureTime with
  | none => false
  | some time =>
      decide (Instant.elapsed time now <
        Duration.fromSecs scheduler.config.cooldownAfterFailureSecs)

def suggestConcurrency (scheduler : AdaptiveScheduler) (now : Nat)
    (status : ConnectionStatus) (latencyMs lossPct : F64) : Nat :=
  let quality := classifyQuality status latencyMs lossPct
  let suggested :=
    if scheduler.inCooldown now then scheduler.config.minConcurrency
    else
      max (base scheduler.config quality -
          failurePenalty scheduler.inner.recentFailures)
        scheduler.config.minConcurrency
  min suggested scheduler.config.maxConcurrency

/-- The largest `usize`. -/
def maxCount : Nat := 2 ^ 64 - 1

/-- The change is an `i32`.  Its smallest value has no negative and stays what
it is, and as a `usize` it is then a number above every count. -/
def recordActive (scheduler : AdaptiveScheduler) (delta : Int) :
    AdaptiveScheduler :=
  let count := scheduler.inner.activeCount
  let changed :=
    if 0 < delta then min (count + delta.toNat) maxCount
    else if delta = -2 ^ 31 then count - (2 ^ 64 - 2 ^ 31)
    else count - (-delta).toNat
  { scheduler with inner := { scheduler.inner with activeCount := changed } }

def recordQueueDepth (scheduler : AdaptiveScheduler) (depth : Nat) :
    AdaptiveScheduler :=
  { scheduler with inner := { scheduler.inner with queueDepth := depth } }

def recordFailure (scheduler : AdaptiveScheduler) (now : Nat) :
    AdaptiveScheduler :=
  { scheduler with
    inner :=
      { scheduler.inner with
        recentFailures := addU32 scheduler.inner.recentFailures 1
        lastFailureTime := some now } }

def recordSuccess (scheduler : AdaptiveScheduler) : AdaptiveScheduler :=
  { scheduler with inner := { scheduler.inner with recentFailures := 0 } }

def addWindow (scheduler : AdaptiveScheduler) (window : ScheduleWindow) :
    AdaptiveScheduler :=
  { scheduler with
    inner :=
      { scheduler.inner with windows := scheduler.inner.windows ++ [window] } }

def state (scheduler : AdaptiveScheduler) (now : Nat) : ScheduleState where
  currentConcurrency := scheduler.config.maxConcurrency
  activeCount := scheduler.inner.activeCount
  queueDepth := scheduler.inner.queueDepth
  suggestedConcurrency := 0
  networkQuality := .good
  recentFailures := scheduler.inner.recentFailures
  cooldownRemainingSecs :=
    match scheduler.inner.lastFailureTime with
    | none => 0
    | some time =>
        scheduler.config.cooldownAfterFailureSecs -
          Duration.asSecs (Instant.elapsed time now)

end AdaptiveScheduler

/-- A call that changes the state. -/
inductive SchedulerCall where
  | recordActive (delta : Int)
  | recordQueueDepth (depth : Nat)
  | recordFailure
  | recordSuccess
  | addWindow (window : ScheduleWindow)
deriving DecidableEq

/-- A call and the clock reading at which it is made. -/
structure ScheduledCall where
  madeAt : Nat
  call : SchedulerCall
deriving DecidableEq

namespace ScheduledCall

def isSuccess (made : ScheduledCall) : Bool :=
  made.call = .recordSuccess

def isFailure (made : ScheduledCall) : Bool :=
  made.call = .recordFailure

/-- The failures that no later success has followed. -/
def unresolvedFailures (history : List ScheduledCall) : Nat :=
  (history.rtakeWhile fun made => !made.isSuccess).countP isFailure

/-- When the last failure of a history was recorded. -/
def lastFailureAt (history : List ScheduledCall) : Option Nat :=
  ((history.filter isFailure).map madeAt).getLast?

end ScheduledCall

namespace AdaptiveScheduler

def apply (scheduler : AdaptiveScheduler) (made : ScheduledCall) :
    AdaptiveScheduler :=
  match made.call with
  | .recordActive delta => scheduler.recordActive delta
  | .recordQueueDepth depth => scheduler.recordQueueDepth depth
  | .recordFailure => scheduler.recordFailure made.madeAt
  | .recordSuccess => scheduler.recordSuccess
  | .addWindow window => scheduler.addWindow window

/-- A fresh scheduler after some calls. -/
def afterHistory (config : ScheduleConfig) (history : List ScheduledCall) :
    AdaptiveScheduler :=
  history.foldl apply (new config)

section Histories

open ScheduledCall

variable {config : ScheduleConfig} {history : List ScheduledCall}
variable {made : ScheduledCall} {scheduler : AdaptiveScheduler}

theorem afterHistory_append :
    afterHistory config (history ++ [made]) =
      (afterHistory config history).apply made := by
  rw [afterHistory, List.foldl_append]
  rfl

@[simp] theorem config_apply : (scheduler.apply made).config = scheduler.config := by
  obtain ⟨madeAt, call⟩ := made
  cases call <;> rfl

@[simp] theorem config_afterHistory :
    (afterHistory config history).config = config := by
  induction history using List.reverseRecOn with
  | nil => rfl
  | append_singleton history made ih => rw [afterHistory_append, config_apply, ih]

/-- Only a failure sets the time of the last failure. -/
theorem lastFailureTime_apply :
    (scheduler.apply made).inner.lastFailureTime =
      if made.isFailure then some made.madeAt
      else scheduler.inner.lastFailureTime := by
  obtain ⟨madeAt, call⟩ := made
  cases call <;> rfl

theorem recentFailures_apply :
    (scheduler.apply made).inner.recentFailures =
      if made.isSuccess then 0
      else if made.isFailure then addU32 scheduler.inner.recentFailures 1
      else scheduler.inner.recentFailures := by
  obtain ⟨madeAt, call⟩ := made
  cases call <;> rfl

/-- The time of the last failure survives every success. -/
theorem lastFailureTime_afterHistory :
    (afterHistory config history).inner.lastFailureTime =
      lastFailureAt history := by
  induction history using List.reverseRecOn with
  | nil => rfl
  | append_singleton history made ih =>
      rw [afterHistory_append, lastFailureTime_apply, ih, lastFailureAt,
        lastFailureAt, List.filter_append, List.map_append]
      by_cases failed : made.isFailure = true
      · simp [failed]
      · simp [failed]

theorem unresolvedFailures_append :
    unresolvedFailures (history ++ [made]) =
      if made.isSuccess then 0
      else unresolvedFailures history + made.isFailure.toNat := by
  by_cases succeeded : made.isSuccess = true
  · simp [unresolvedFailures, succeeded]
  · rw [unresolvedFailures, List.rtakeWhile_concat, if_pos (by simpa using succeeded),
      if_neg succeeded, List.countP_append, List.countP_singleton]
    cases made.isFailure <;> rfl

/-- The counter holds the failures since the last success. -/
theorem recentFailures_afterHistory :
    (afterHistory config history).inner.recentFailures =
      unresolvedFailures history % 2 ^ 32 := by
  induction history using List.reverseRecOn with
  | nil => rfl
  | append_singleton history made ih =>
      rw [afterHistory_append, recentFailures_apply, ih, unresolvedFailures_append,
        addU32]
      by_cases succeeded : made.isSuccess = true
      · simp [succeeded]
      · by_cases failed : made.isFailure = true
        · simp [succeeded, failed]
        · simp [succeeded, failed]

end Histories

end AdaptiveScheduler

end NetGuardian
