import NetGuardian.Primitives
import NetGuardian.Foundation.BoundedLog
import NetGuardian.Foundation.LabelledRun

/-!
# The rule engine

Rules pair a condition on the network status with actions and a cooldown.  The
engine remembers its triggers in a bounded log and consults that log before it
lets a rule trigger again.
-/

namespace NetGuardian

inductive ConnectionStatus where
  | online
  | degraded
  | offline
deriving DecidableEq

structure InterfaceInfo where
  name : String
  isUp : Bool
deriving DecidableEq

/-- The part of a network status that conditions look at. -/
structure NetworkStatus where
  status : ConnectionStatus
  latencyMs : F64
  packetLossPct : F64
  dnsHealthy : Bool
  gatewayReachable : Bool
  interfaces : List InterfaceInfo
deriving DecidableEq

inductive Condition where
  | statusIs (expected : ConnectionStatus)
  | latencyAbove (threshold : F64)
  | latencyBelow (threshold : F64)
  | packetLossAbove (threshold : F64)
  | packetLossBelow (threshold : F64)
  | dnsHealthy (expected : Bool)
  | gatewayReachable (expected : Bool)
  | interfaceUp (name : String)
  | and (conditions : List Condition)
  | or (conditions : List Condition)
  | not (condition : Condition)

namespace Condition

mutual

def evaluate (status : NetworkStatus) : Condition → Bool
  | statusIs expected => status.status = expected
  | latencyAbove threshold => threshold.lt status.latencyMs
  | latencyBelow threshold => status.latencyMs.lt threshold
  | packetLossAbove threshold => threshold.lt status.packetLossPct
  | packetLossBelow threshold => status.packetLossPct.lt threshold
  | dnsHealthy expected => status.dnsHealthy = expected
  | gatewayReachable expected => status.gatewayReachable = expected
  | interfaceUp name =>
      status.interfaces.any fun interface => interface.name = name && interface.isUp
  | and conditions => evaluateAll status conditions
  | or conditions => evaluateAny status conditions
  | not condition => !evaluate status condition

/-- `conditions.iter().all(..)` -/
def evaluateAll (status : NetworkStatus) : List Condition → Bool
  | [] => true
  | condition :: rest => evaluate status condition && evaluateAll status rest

/-- `conditions.iter().any(..)` -/
def evaluateAny (status : NetworkStatus) : List Condition → Bool
  | [] => false
  | condition :: rest => evaluate status condition || evaluateAny status rest

end

end Condition

structure RetryPolicyConfig where
  maxRetries : Nat
  baseDelaySecs : Nat
  useExponentialBackoff : Bool
deriving DecidableEq

inductive Action where
  | logWarning (message : String)
  | pauseDownloads
  | resumeDownloads
  | reduceConcurrency (limit : Nat)
  | increaseConcurrency (limit : Nat)
  | notify (message : String)
  | reconnectVPN
  | runCommand (command : String)
  | setRetryPolicy (config : RetryPolicyConfig)
deriving DecidableEq

structure Rule where
  name : String
  description : String
  enabled : Bool
  condition : Condition
  actions : List Action
  cooldownSecs : Nat

namespace Rule

def new (name description : String) (condition : Condition)
    (actions : List Action) : Rule where
  name := name
  description := description
  enabled := true
  condition := condition
  actions := actions
  cooldownSecs := 30

def withCooldown (rule : Rule) (secs : Nat) : Rule :=
  { rule with cooldownSecs := secs }

end Rule

/-- A report of `evaluate`.  The actions stand for their `{:?}` texts. -/
structure RuleEvaluation where
  ruleName : String
  triggered : Bool
  matchedAt : Nat
  actionsTaken : List Action
deriving DecidableEq

structure RuleEngine where
  rules : List Rule
  lastTriggered : List (String × Nat)

/-- One call of `evaluate`: its clock readings and the status it is given. -/
structure EvaluateCall where
  now : Nat
  stamp : Nat
  status : NetworkStatus

namespace RuleEngine

def new : RuleEngine where
  rules := []
  lastTriggered := []

def addRule (engine : RuleEngine) (rule : Rule) : RuleEngine :=
  { engine with rules := engine.rules ++ [rule] }

def removeRule (engine : RuleEngine) (name : String) : RuleEngine × Bool :=
  let kept := engine.rules.filter (·.name ≠ name)
  ({ engine with rules := kept }, kept.length < engine.rules.length)

/-- The time in the first log entry that carries the name. -/
def lookup (log : List (String × Nat)) (name : String) : Option Nat :=
  (log.find? (·.1 = name)).map Prod.snd

/-- Whole seconds since the looked-up trigger; `u64::MAX` without one. -/
def cooldownRemaining (log : List (String × Nat)) (now : Nat)
    (rule : Rule) : Nat :=
  ((lookup log rule.name).map fun time =>
    Duration.asSecs (Instant.elapsed time now)).getD (2 ^ 64 - 1)

/-- The two `continue`s of the loop are not taken and the condition holds. -/
def fires (call : EvaluateCall) (log : List (String × Nat))
    (rule : Rule) : Bool :=
  rule.enabled && !decide (cooldownRemaining log call.now rule < rule.cooldownSecs) &&
    rule.condition.evaluate call.status

/-- The body of the loop of `evaluate`, on the log and the reports so far. -/
def visit (call : EvaluateCall)
    (progress : List (String × Nat) × List RuleEvaluation) (rule : Rule) :
    List (String × Nat) × List RuleEvaluation :=
  if fires call progress.1 rule then
    (BoundedLog.push 1000 progress.1 (rule.name, call.now),
      progress.2 ++
        [{ ruleName := rule.name
           triggered := true
           matchedAt := call.stamp
           actionsTaken := rule.actions }])
  else progress

def evaluate (engine : RuleEngine) (call : EvaluateCall) :
    RuleEngine × List RuleEvaluation :=
  let progress := engine.rules.foldl (visit call) (engine.lastTriggered, [])
  ({ engine with lastTriggered := progress.1 }, progress.2)

def loadDefaults (engine : RuleEngine) : RuleEngine :=
  ((((((engine.addRule (Rule.new "high-latency"
      "Reduce concurrency when latency exceeds 500ms"
      (.latencyAbove (.finite 500))
      [.logWarning "High latency detected, reducing concurrency",
        .reduceConcurrency 2])).addRule (Rule.new "high-packet-loss"
      "Pause downloads when packet loss exceeds 30%"
      (.packetLossAbove (.finite 30))
      [.logWarning "High packet loss, pausing downloads",
        .pauseDownloads])).addRule (Rule.new "offline-queue"
      "Queue operations when offline"
      (.statusIs .offline)
      [.logWarning "Network offline, queuing operations",
        .pauseDownloads])).addRule (Rule.new "recovered"
      "Resume downloads when back online with low loss"
      (.and [.statusIs .online, .packetLossBelow (.finite 10)])
      [.logWarning "Network recovered, resuming operations",
        .resumeDownloads])).addRule (Rule.new "dns-failure"
      "Alert when DNS is unhealthy"
      (.dnsHealthy false)
      [.notify "DNS resolution failed"])).addRule (Rule.new "degraded-notify"
      "Notify when network is degraded"
      (.statusIs .degraded)
      [.notify "Network quality is degraded"]))

section Evaluate

variable {call : EvaluateCall}

/-- A report that a list of rules adds comes from one of them, which fired on
the log that the rules before it had left. -/
theorem mem_foldl_visit {rules : List Rule}
    {progress : List (String × Nat) × List RuleEvaluation}
    {report : RuleEvaluation}
    (reported : report ∈ (rules.foldl (visit call) progress).2) :
    report ∈ progress.2 ∨
      ∃ before rule after, rules = before ++ rule :: after ∧
        rule.name = report.ruleName ∧ rule.actions = report.actionsTaken ∧
        fires call (before.foldl (visit call) progress).1 rule = true := by
  induction rules generalizing progress with
  | nil => exact .inl reported
  | cons rule rules ih =>
      rcases ih reported with early | ⟨before, later, after, rfl, reports⟩
      · by_cases fired : fires call progress.1 rule = true
        · rw [visit, if_pos fired, List.mem_append, List.mem_singleton] at early
          rcases early with old | rfl
          · exact .inl old
          · exact .inr ⟨[], rule, rules, rfl, rfl, rfl, fired⟩
        · rw [visit, if_neg fired] at early
          exact .inl early
      · exact .inr ⟨rule :: before, later, after, rfl, reports⟩

theorem evaluate_reported {engine : RuleEngine} {report : RuleEvaluation}
    (reported : report ∈ (engine.evaluate call).2) :
    ∃ before rule after, engine.rules = before ++ rule :: after ∧
      rule.name = report.ruleName ∧ rule.actions = report.actionsTaken ∧
      fires call
        (before.foldl (visit call) (engine.lastTriggered, [])).1 rule = true := by
  rcases mem_foldl_visit reported with none | found
  · exact absurd none List.not_mem_nil
  · exact found

/-- The log receives exactly the reports. -/
theorem foldl_visit_log (rules : List Rule) (history : List (String × Nat))
    {progress : List (String × Nat) × List RuleEvaluation}
    (logged : progress.1 = BoundedLog.newest 1000
      (history ++ progress.2.map fun report => (report.ruleName, call.now))) :
    (rules.foldl (visit call) progress).1 = BoundedLog.newest 1000
      (history ++ (rules.foldl (visit call) progress).2.map
        fun report => (report.ruleName, call.now)) := by
  induction rules generalizing progress with
  | nil => exact logged
  | cons rule rules ih =>
      apply ih
      rw [visit]
      split
      · rw [logged, BoundedLog.push_newest, List.map_append, List.map_singleton,
          List.append_assoc]
      · exact logged

end Evaluate

end RuleEngine

end NetGuardian
