import NetGuardian.RuleEngine

/-!
# Orders that exclude each other

A call reports the actions of the rules that fire, and which of them fire is
decided by their cooldowns and by one network status.  Two actions are never
reported together if no status satisfies a rule with the one and a rule with the
other.  Of the default rules, those that pause the downloads and the one that
resumes them are such rules.
-/

namespace NetGuardian

/-- What is above a bound is not below a smaller one; a NaN is neither. -/
theorem F64.lt_eq_false_of_lt {low high : ℚ} {value : F64} (ordered : low ≤ high)
    (above : (F64.finite high).lt value = true) : value.lt (.finite low) = false := by
  cases value with
  | finite value =>
      have greater : high < value := of_decide_eq_true above
      exact decide_eq_false (not_lt.mpr (ordered.trans greater.le))
  | infinity => rfl
  | negInfinity => cases above
  | nan => rfl

namespace RuleEngine

/-- No status satisfies a rule with the one action and a rule with the other. -/
def Exclusive (rules : List Rule) (one other : Action) : Prop :=
  ∀ rule ∈ rules, ∀ rival ∈ rules, one ∈ rule.actions → other ∈ rival.actions →
    ∀ status, rule.condition.evaluate status = true →
      rival.condition.evaluate status = false

/-- An evaluation of the call contains the action. -/
def Orders (engine : RuleEngine) (call : EvaluateCall) (action : Action) : Prop :=
  ∃ report ∈ (engine.evaluate call).2, action ∈ report.actionsTaken

section Orders

variable {engine : RuleEngine} {call : EvaluateCall} {action one other : Action}

/-- Behind a reported action stands a rule whose condition holds. -/
theorem rule_of_orders (ordered : engine.Orders call action) :
    ∃ rule ∈ engine.rules, action ∈ rule.actions ∧
      rule.condition.evaluate call.status = true := by
  obtain ⟨report, reported, member⟩ := ordered
  obtain ⟨before, rule, after, split, _, actions, fired⟩ := evaluate_reported reported
  simp only [fires, Bool.and_eq_true] at fired
  refine ⟨rule, ?_, ?_, fired.2⟩
  · rw [split]
    simp
  · rw [actions]
    exact member

/-- Exclusive actions are never reported together, whatever the log says. -/
theorem not_orders_both (exclusive : Exclusive engine.rules one other) :
    ¬ (engine.Orders call one ∧ engine.Orders call other) := by
  rintro ⟨oneOrdered, otherOrdered⟩
  obtain ⟨rule, member, acts, holds⟩ := rule_of_orders oneOrdered
  obtain ⟨rival, rivalMember, rivalActs, rivalHolds⟩ := rule_of_orders otherOrdered
  have fails := exclusive rule member rival rivalMember acts rivalActs call.status holds
  rw [rivalHolds] at fails
  cases fails

end Orders

section Defaults

variable {rule : Rule} {status : NetworkStatus}

/-- The default rules that pause the downloads want a loss above 30% or an
offline network. -/
theorem loadDefaults_pause (member : rule ∈ new.loadDefaults.rules)
    (pauses : .pauseDownloads ∈ rule.actions)
    (holds : rule.condition.evaluate status = true) :
    (F64.finite 30).lt status.packetLossPct = true ∨ status.status = .offline := by
  simp only [loadDefaults, addRule, new, List.nil_append, List.cons_append,
    List.mem_cons, List.not_mem_nil, or_false] at member
  rcases member with rfl | rfl | rfl | rfl | rfl | rfl
  all_goals simp_all [Rule.new, Condition.evaluate]

/-- The default rule that resumes the downloads wants an online network with a
loss below 10%. -/
theorem loadDefaults_resume (member : rule ∈ new.loadDefaults.rules)
    (resumes : .resumeDownloads ∈ rule.actions)
    (holds : rule.condition.evaluate status = true) :
    status.packetLossPct.lt (F64.finite 10) = true ∧ status.status = .online := by
  simp only [loadDefaults, addRule, new, List.nil_append, List.cons_append,
    List.mem_cons, List.not_mem_nil, or_false] at member
  rcases member with rfl | rfl | rfl | rfl | rfl | rfl
  all_goals simp_all [Rule.new, Condition.evaluate, Condition.evaluateAll]

/-- A pause and a resumption exclude each other among the default rules. -/
theorem exclusive_loadDefaults :
    Exclusive new.loadDefaults.rules .pauseDownloads .resumeDownloads := by
  intro rule member rival rivalMember pauses resumes status holds
  by_contra rivalHolds
  have wanted := loadDefaults_resume rivalMember resumes
    (Bool.eq_true_of_not_eq_false rivalHolds)
  rcases loadDefaults_pause member pauses holds with lossy | offline
  · rw [F64.lt_eq_false_of_lt (by decide) lossy] at wanted
    cases wanted.1
  · rw [offline] at wanted
    cases wanted.2

/-- No contradictory orders: whatever the trigger log of an engine with the
default rules, and whatever the network status, no call reports both a pause and
a resumption of the downloads. -/
theorem loadDefaults_not_pause_and_resume (log : List (String × Nat))
    (call : EvaluateCall) :
    ¬ (Orders { new.loadDefaults with lastTriggered := log } call .pauseDownloads ∧
      Orders { new.loadDefaults with lastTriggered := log } call .resumeDownloads) :=
  not_orders_both exclusive_loadDefaults

end Defaults

end RuleEngine

end NetGuardian
