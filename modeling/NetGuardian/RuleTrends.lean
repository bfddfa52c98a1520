import NetGuardian.ConcurrencySuggestions
import NetGuardian.NoMissedRule

/-!
# Rules on a worsening network

Some conditions can only become true when the network gets worse, and some only when
it gets better; a negation turns the one kind into the other.  While the network moves
in one direction, a rule of the one kind goes on to be reported, up to its cooldown,
once its condition has come true, and no rule of the other kind begins to be reported.
-/

namespace NetGuardian

namespace F64

theorem lt_trans {low middle high : F64} (below : low.lt middle = true)
    (above : middle.lt high = true) : low.lt high = true := by
  cases low <;> cases middle <;> cases high <;>
    simp only [F64.lt, Bool.false_eq_true, decide_eq_true_eq] at below above ⊢
  exact below.trans above

theorem Grows.lt_of_lt {low before after : F64} (grows : Grows before after)
    (below : low.lt before = true) : low.lt after = true := by
  rcases grows with rfl | larger
  · exact below
  · exact lt_trans below larger

theorem Grows.lt_trans {before after high : F64} (grows : Grows before after)
    (above : after.lt high = true) : before.lt high = true := by
  rcases grows with rfl | larger
  · exact above
  · exact F64.lt_trans larger above

end F64

/-- The second status is no better than the first one in anything that conditions look
at. -/
structure NetworkStatus.Worsens (better worse : NetworkStatus) : Prop where
  status : better.status.severity ≤ worse.status.severity
  latencyMs : F64.Grows better.latencyMs worse.latencyMs
  packetLossPct : F64.Grows better.packetLossPct worse.packetLossPct
  dnsHealthy : worse.dnsHealthy = true → better.dnsHealthy = true
  gatewayReachable : worse.gatewayReachable = true → better.gatewayReachable = true
  interfaces : ∀ name, ⟨name, true⟩ ∈ worse.interfaces →
    ⟨name, true⟩ ∈ better.interfaces

inductive Trend where
  | worsening
  | improving
deriving DecidableEq

namespace Trend

def reverse : Trend → Trend
  | worsening => improving
  | improving => worsening

/-- The network moves in the direction. -/
def Moves (trend : Trend) (first second : NetworkStatus) : Prop :=
  match trend with
  | worsening => first.Worsens second
  | improving => second.Worsens first

theorem Moves.reverse {trend : Trend} {first second : NetworkStatus}
    (moves : trend.Moves first second) : trend.reverse.Moves second first := by
  cases trend <;> exact moves

end Trend

namespace Condition

mutual

/-- Moving in the direction can make the condition true but not false. -/
def follows (trend : Trend) : Condition → Bool
  | statusIs .online => trend = .improving
  | statusIs .degraded => false
  | statusIs .offline => trend = .worsening
  | latencyAbove _ | packetLossAbove _ => trend = .worsening
  | latencyBelow _ | packetLossBelow _ => trend = .improving
  | dnsHealthy expected | gatewayReachable expected =>
      trend = if expected then .improving else .worsening
  | interfaceUp _ => trend = .improving
  | and conditions | or conditions => followsAll trend conditions
  | not condition => follows trend.reverse condition

def followsAll (trend : Trend) : List Condition → Bool
  | [] => true
  | condition :: rest => follows trend condition && followsAll trend rest

end

/-- What a worsening does to the value of a condition. -/
def Reacts (condition : Condition) (better worse : NetworkStatus) : Prop :=
  (condition.follows .worsening = true → condition.evaluate better = true →
    condition.evaluate worse = true) ∧
  (condition.follows .improving = true → condition.evaluate worse = true →
    condition.evaluate better = true)

section Reacts

variable {better worse : NetworkStatus}

/-- Nothing is better than online. -/
theorem eq_online_of_severity_le {status : ConnectionStatus}
    (good : status.severity ≤ ConnectionStatus.online.severity) : status = .online := by
  cases status with
  | online => rfl
  | degraded | offline => simp [ConnectionStatus.severity] at good

/-- Nothing is worse than offline. -/
theorem eq_offline_of_severity_le {status : ConnectionStatus}
    (bad : ConnectionStatus.offline.severity ≤ status.severity) : status = .offline := by
  cases status with
  | offline => rfl
  | online | degraded => simp [ConnectionStatus.severity] at bad

theorem reacts_statusIs (worsens : better.Worsens worse) (expected : ConnectionStatus) :
    (statusIs expected).Reacts better worse := by
  have severity := worsens.status
  simp only [Reacts, evaluate, decide_eq_true_eq]
  cases expected with
  | online =>
      refine ⟨fun follows => absurd follows (by decide), fun _ online => ?_⟩
      rw [online] at severity
      exact eq_online_of_severity_le severity
  | degraded =>
      exact ⟨fun follows => absurd follows (by decide),
        fun follows => absurd follows (by decide)⟩
  | offline =>
      refine ⟨fun _ offline => ?_, fun follows => absurd follows (by decide)⟩
      rw [offline] at severity
      exact eq_offline_of_severity_le severity

/-- A condition on something that is either well or not. -/
theorem reacts_flag {before after expected : Bool} (kept : after = true → before = true) :
    (decide (Trend.worsening = if expected then Trend.improving else .worsening) = true →
        before = expected → after = expected) ∧
      (decide (Trend.improving = if expected then Trend.improving else .worsening) =
          true → after = expected → before = expected) := by
  cases expected with
  | true => exact ⟨nofun, fun _ => kept⟩
  | false =>
      refine ⟨fun _ failed => ?_, nofun⟩
      cases after with
      | true => rw [kept rfl] at failed; cases failed
      | false => rfl

theorem reacts_interfaceUp (worsens : better.Worsens worse) (name : String) :
    (interfaceUp name).Reacts better worse := by
  refine ⟨nofun, fun _ up => ?_⟩
  simp only [evaluate, List.any_eq_true, Bool.and_eq_true, decide_eq_true_eq] at up ⊢
  obtain ⟨⟨named, isUp⟩, member, rfl, rfl⟩ := up
  exact ⟨_, worsens.interfaces named member, rfl, rfl⟩

mutual

theorem reacts (worsens : better.Worsens worse) :
    ∀ condition : Condition, condition.Reacts better worse
  | statusIs expected => reacts_statusIs worsens expected
  | latencyAbove _ =>
      ⟨fun _ => worsens.latencyMs.lt_of_lt, nofun⟩
  | packetLossAbove _ =>
      ⟨fun _ => worsens.packetLossPct.lt_of_lt, nofun⟩
  | latencyBelow _ =>
      ⟨nofun, fun _ => worsens.latencyMs.lt_trans⟩
  | packetLossBelow _ =>
      ⟨nofun, fun _ => worsens.packetLossPct.lt_trans⟩
  | dnsHealthy expected => by
      simp only [Reacts, evaluate, follows, decide_eq_true_eq]
      simpa using @reacts_flag _ _ expected worsens.dnsHealthy
  | gatewayReachable expected => by
      simp only [Reacts, evaluate, follows, decide_eq_true_eq]
      simpa using @reacts_flag _ _ expected worsens.gatewayReachable
  | interfaceUp name => reacts_interfaceUp worsens name
  | and conditions => by
      obtain ⟨worsening, improving⟩ := reactsAll worsens conditions
      exact ⟨fun follows => (worsening follows).1, fun follows => (improving follows).1⟩
  | or conditions => by
      obtain ⟨worsening, improving⟩ := reactsAll worsens conditions
      exact ⟨fun follows => (worsening follows).2, fun follows => (improving follows).2⟩
  | not condition => by
      -- what the negated condition does on the way down, the negation does on the way up
      obtain ⟨worsening, improving⟩ := reacts worsens condition
      simp only [Reacts, evaluate, Bool.not_eq_true', ← Bool.not_eq_true]
      exact ⟨fun follows failed holds => failed (improving follows holds),
        fun follows failed holds => failed (worsening follows holds)⟩

theorem reactsAll (worsens : better.Worsens worse) :
    ∀ conditions : List Condition,
      (followsAll .worsening conditions = true →
        (evaluateAll better conditions = true → evaluateAll worse conditions = true) ∧
        (evaluateAny better conditions = true → evaluateAny worse conditions = true)) ∧
      (followsAll .improving conditions = true →
        (evaluateAll worse conditions = true → evaluateAll better conditions = true) ∧
        (evaluateAny worse conditions = true → evaluateAny better conditions = true))
  | [] => by simp [evaluateAll, evaluateAny]
  | condition :: rest => by
      obtain ⟨worsening, improving⟩ := reacts worsens condition
      obtain ⟨restWorsening, restImproving⟩ := reactsAll worsens rest
      simp only [followsAll, evaluateAll, evaluateAny, Bool.and_eq_true, Bool.or_eq_true]
      exact ⟨fun follows =>
          ⟨And.imp (worsening follows.1) (restWorsening follows.2).1,
            Or.imp (worsening follows.1) (restWorsening follows.2).2⟩,
        fun follows =>
          ⟨And.imp (improving follows.1) (restImproving follows.2).1,
            Or.imp (improving follows.1) (restImproving follows.2).2⟩⟩

end

/-- A condition stays true while the network moves in its direction. -/
theorem evaluate_of_moves {condition : Condition} {trend : Trend}
    {first second : NetworkStatus} (follows : condition.follows trend = true)
    (moves : trend.Moves first second) (holds : condition.evaluate first = true) :
    condition.evaluate second = true := by
  cases trend with
  | worsening => exact (reacts moves condition).1 follows holds
  | improving => exact (reacts moves condition).2 follows holds

end Reacts

end Condition

namespace RuleHistory

variable {rules : List Rule} {calls : List EvaluateCall} {call : EvaluateCall}
variable {last : RuleHistory} {rule : Rule}

theorem rules_run (run : LabelledRun.Run step (initial rules) calls last) :
    last.engine.rules = rules :=
  run.invariant (fun history => history.engine.rules = rules) rfl
    fun _ _ _ same _ taken => (step_rules taken).trans same

/-- An enabled rule that does not fire although its condition holds has an entry in
the log that is less than a cooldown old. -/
theorem recent_of_not_fires {log : List (String × Nat)} (enabled : rule.enabled = true)
    (fits : rule.cooldownSecs < 2 ^ 64)
    (holds : rule.condition.evaluate call.status = true)
    (silent : ¬ RuleEngine.fires call log rule = true) :
    ∃ time, (rule.name, time) ∈ log ∧
      Duration.asSecs (Instant.elapsed time call.now) < rule.cooldownSecs := by
  by_contra none
  refine silent (RuleEngine.fires_of_cooled enabled holds fits fun time member => ?_)
  exact Nat.le_of_not_lt fun young => none ⟨time, member, young⟩

/-- A rule whose condition holds is reported by the next call, unless an earlier one
has reported it less than a cooldown ago. -/
theorem reported_or_recent (run : LabelledRun.Run step (initial rules) calls last)
    (member : rule ∈ rules) (enabled : rule.enabled = true)
    (fits : rule.cooldownSecs < 2 ^ 64)
    (holds : rule.condition.evaluate call.status = true) :
    (∃ report ∈ (last.engine.evaluate call).2, report.ruleName = rule.name) ∨
      ∃ recent ∈ last.calls, recent.Triggers rule.name ∧
        Duration.asSecs (Instant.elapsed recent.calledAt call.now) <
          rule.cooldownSecs := by
  obtain ⟨before, after, split⟩ := List.append_of_mem member
  let progress := before.foldl (RuleEngine.visit call)
    (last.engine.lastTriggered, [])
  have logged : progress.1 = BoundedLog.newest 1000 (triggers last.calls ++
      progress.2.map fun report => (report.ruleName, call.now)) :=
    RuleEngine.foldl_visit_log before (triggers last.calls) (by simpa using run_log run)
  have evaluated : (last.engine.evaluate call).2 =
      (after.foldl (RuleEngine.visit call) (RuleEngine.visit call progress rule)).2 := by
    rw [RuleEngine.evaluate, rules_run run, split, List.foldl_append, List.foldl_cons]
  obtain ⟨added, reports, _⟩ := @RuleEngine.foldl_visit_reports call after
    (RuleEngine.visit call progress rule)
  rw [evaluated, reports]
  by_cases fired : RuleEngine.fires call progress.1 rule = true
  · refine .inl ⟨reportOf call rule, List.mem_append_left _ ?_, rfl⟩
    rw [RuleEngine.visit, if_pos fired]
    exact List.mem_append_right _ List.mem_cons_self
  · obtain ⟨time, found, young⟩ := recent_of_not_fires enabled fits holds fired
    rw [RuleEngine.visit, if_neg fired]
    rw [logged] at found
    rcases List.mem_append.mp (List.mem_of_mem_drop found) with earlier | own
    · obtain ⟨recent, called, triggered⟩ := List.mem_flatMap.mp earlier
      obtain ⟨report, reported, same⟩ := List.mem_map.mp triggered
      obtain ⟨named, rfl⟩ := Prod.mk.inj same
      exact .inr ⟨recent, List.mem_reverse.mp called, ⟨report, reported, named⟩, young⟩
    · obtain ⟨report, reported, same⟩ := List.mem_map.mp own
      exact .inl ⟨report, List.mem_append_left _ reported, (Prod.mk.inj same).1⟩

/-- In every run of calls in which the network moves in one direction only: a rule of
that kind whose condition has come true at some call is reported by every later one, or
was reported less than a cooldown before it; and whatever a call reports of the other
kind has held at all calls before it. -/
theorem reports_follow_network {trend : Trend}
    (run : LabelledRun.Run step (initial rules) (calls ++ [call]) last)
    (moves : (calls ++ [call]).Pairwise fun first second =>
      trend.Moves first.status second.status) :
    ∃ reports older, last.calls = reports :: older ∧
      (∀ rule ∈ rules, rule.enabled = true → rule.cooldownSecs < 2 ^ 64 →
        rule.condition.follows trend = true →
        (∃ earlier ∈ calls, rule.condition.evaluate earlier.status = true) →
          reports.Triggers rule.name ∨
            ∃ recent ∈ older, recent.Triggers rule.name ∧
              Duration.asSecs (Instant.elapsed recent.calledAt call.now) <
                rule.cooldownSecs) ∧
      ∀ report ∈ reports.evaluations, ∃ rule ∈ rules, rule.name = report.ruleName ∧
        (rule.condition.follows trend.reverse = true →
          ∀ earlier ∈ calls, rule.condition.evaluate earlier.status = true) := by
  obtain ⟨state, before, taken⟩ := Option.bind_eq_some_iff.mp
    ((LabelledRun.exec_append_singleton call).symm.trans run.exec_eq)
  replace before := LabelledRun.run_of_exec_eq before
  obtain ⟨_, _, same⟩ := step_eq_some taken
  have onwards : ∀ earlier ∈ calls, trend.Moves earlier.status call.status :=
    fun earlier member => (List.pairwise_append.mp moves).2.2 earlier member call
      List.mem_cons_self
  refine ⟨_, _, same, ?_, ?_⟩
  · rintro rule member enabled fits follows ⟨earlier, called, holds⟩
    exact reported_or_recent before member enabled fits
      (Condition.evaluate_of_moves follows (onwards earlier called) holds)
  · intro report reported
    obtain ⟨first, rule, rest, split, name, _, fired⟩ :=
      RuleEngine.evaluate_reported reported
    rw [rules_run before] at split
    refine ⟨rule, by rw [split]; simp, name, fun follows earlier called => ?_⟩
    simp only [RuleEngine.fires, Bool.and_eq_true] at fired
    exact Condition.evaluate_of_moves follows (onwards earlier called).reverse fired.2

/-- The network is slow, and then it is gone. -/
def slowThenGone : List EvaluateCall :=
  [⟨0, 0, ⟨.online, .finite 600, .finite 5, true, true, []⟩⟩,
    ⟨Duration.fromSecs 40, 0, ⟨.offline, .finite 700, .finite 100, false, true, []⟩⟩]

theorem reports_follow_network_slow :
    ∃ last, LabelledRun.Run step (initial RuleEngine.new.loadDefaults.rules)
        slowThenGone last ∧
      ∃ reports older, last.calls = reports :: older ∧
        (∀ rule ∈ RuleEngine.new.loadDefaults.rules, rule.enabled = true →
          rule.cooldownSecs < 2 ^ 64 → rule.condition.follows .worsening = true →
          (∃ earlier ∈ slowThenGone.take 1,
            rule.condition.evaluate earlier.status = true) →
            reports.Triggers rule.name ∨
              ∃ recent ∈ older, recent.Triggers rule.name ∧
                Duration.asSecs (Instant.elapsed recent.calledAt
                  (Duration.fromSecs 40)) < rule.cooldownSecs) ∧
        ∀ report ∈ reports.evaluations, ∃ rule ∈ RuleEngine.new.loadDefaults.rules,
          rule.name = report.ruleName ∧ (rule.condition.follows .improving = true →
            ∀ earlier ∈ slowThenGone.take 1,
              rule.condition.evaluate earlier.status = true) := by
  have run : LabelledRun.Run step (initial RuleEngine.new.loadDefaults.rules)
      slowThenGone _ := LabelledRun.run_of_exec_eq rfl
  refine ⟨_, run, @reports_follow_network _ [⟨0, 0, _⟩] _ _ .worsening run ?_⟩
  rw [List.singleton_append, List.pairwise_pair]
  exact
    { status := by decide
      latencyMs := .inr (by decide)
      packetLossPct := .inr (by decide)
      dnsHealthy := fun healthy => by cases healthy
      gatewayReachable := fun _ => rfl
      interfaces := fun _ up => by cases up }

/-- Every default rule but the one for a degraded network is of one of the kinds. -/
theorem follows_loadDefaults {rule : Rule}
    (member : rule ∈ RuleEngine.new.loadDefaults.rules)
    (other : rule.name ≠ "degraded-notify") :
    ∃ trend, rule.condition.follows trend = true := by
  simp only [RuleEngine.loadDefaults, RuleEngine.addRule, RuleEngine.new,
    List.nil_append, List.cons_append, List.mem_cons, List.not_mem_nil, or_false]
    at member
  rcases member with rfl | rfl | rfl | rfl | rfl | rfl
  · exact ⟨.worsening, rfl⟩
  · exact ⟨.worsening, rfl⟩
  · exact ⟨.worsening, rfl⟩
  · exact ⟨.improving, rfl⟩
  · exact ⟨.worsening, rfl⟩
  · exact absurd rfl other

end RuleHistory

end NetGuardian
