import NetGuardian.RuleCooldown

/-!
# No rule is missed

The log that `evaluate` consults is a window on real triggers.  Whatever entry
the lookup finds, it is a trigger of that name, so that a rule cannot be held
back once all triggers of its name are a cooldown away, be they of earlier calls
or of rules that the same call has already visited.
-/

namespace NetGuardian

namespace RuleEngine

variable {call : EvaluateCall}

/-- A list of rules adds its reports in the order of the rules. -/
theorem foldl_visit_reports (rules : List Rule)
    (progress : List (String × Nat) × List RuleEvaluation) :
    ∃ added, (rules.foldl (visit call) progress).2 = progress.2 ++ added ∧
      List.Sublist (added.map RuleEvaluation.ruleName) (rules.map Rule.name) := by
  induction rules generalizing progress with
  | nil => exact ⟨[], by simp, List.Sublist.refl _⟩
  | cons rule rules ih =>
      obtain ⟨added, reports, inOrder⟩ := ih (visit call progress rule)
      rw [List.foldl_cons, reports, List.map_cons]
      by_cases fired : fires call progress.1 rule = true
      · rw [visit, if_pos fired, List.append_assoc]
        exact ⟨_, rfl, inOrder.cons_cons rule.name⟩
      · rw [visit, if_neg fired]
        exact ⟨added, rfl, inOrder.cons rule.name⟩

/-- What the lookup finds stands in the log. -/
theorem mem_of_lookup {log : List (String × Nat)} {name : String} {time : Nat}
    (found : lookup log name = some time) : (name, time) ∈ log := by
  obtain ⟨⟨logged, stamp⟩, first, rfl⟩ := Option.map_eq_some_iff.mp found
  have named : logged = name := by simpa using List.find?_some first
  rw [← named]
  exact List.mem_of_find?_eq_some first

/-- An enabled rule whose condition holds fires on a log that has no recent
entry of its name. -/
theorem fires_of_cooled {log : List (String × Nat)} {rule : Rule}
    (enabled : rule.enabled = true)
    (holds : rule.condition.evaluate call.status = true)
    (fits : rule.cooldownSecs < 2 ^ 64)
    (cooled : ∀ time, (rule.name, time) ∈ log →
      rule.cooldownSecs ≤ Duration.asSecs (Instant.elapsed time call.now)) :
    fires call log rule = true := by
  have waited : rule.cooldownSecs ≤ cooldownRemaining log call.now rule := by
    unfold cooldownRemaining
    cases found : lookup log rule.name with
    | none =>
        rw [Option.map_none, Option.getD_none]
        omega
    | some time => exact cooled time (mem_of_lookup found)
  simp [fires, enabled, holds, Nat.not_lt.mpr waited]

end RuleEngine

namespace RuleHistory

/-- The reports that the next call makes for the first rules of the engine. -/
def reportsOf (history : RuleHistory) (call : EvaluateCall)
    (rules : List Rule) : List RuleEvaluation :=
  (rules.foldl (RuleEngine.visit call) (history.engine.lastTriggered, [])).2

/-- All triggers before the loop of the next call comes to a rule: those of
earlier calls, and those of the rules before it. -/
def earlierTriggers (history : RuleHistory) (call : EvaluateCall)
    (before : List Rule) : List (String × Nat) :=
  triggers history.calls ++
    (history.reportsOf call before).map fun report => (report.ruleName, call.now)

/-- The report of a rule that triggers. -/
def reportOf (call : EvaluateCall) (rule : Rule) : RuleEvaluation where
  ruleName := rule.name
  triggered := true
  matchedAt := call.stamp
  actionsTaken := rule.actions

/-- No missed rule: in every run, an enabled rule whose condition holds is
reported at its place among the rules, if every earlier trigger of its name is a
cooldown away in whole seconds. -/
theorem rule_not_missed {rules before after : List Rule} {rule : Rule}
    {calls : List EvaluateCall} {last next : RuleHistory} {call : EvaluateCall}
    (run : LabelledRun.Run step (initial rules) calls last)
    (taken : last.step call = some next)
    (split : rules = before ++ rule :: after)
    (fits : rule.cooldownSecs < 2 ^ 64) (enabled : rule.enabled = true)
    (holds : rule.condition.evaluate call.status = true)
    (cooled : ∀ trigger ∈ last.earlierTriggers call before,
      trigger.1 = rule.name → rule.cooldownSecs ≤
        Duration.asSecs (Instant.elapsed trigger.2 call.now)) :
    ∃ later, next.calls = ⟨call.now, last.reportsOf call before ++
        reportOf call rule :: later⟩ :: last.calls ∧
      List.Sublist ((last.reportsOf call before).map RuleEvaluation.ruleName)
        (before.map Rule.name) ∧
      List.Sublist (later.map RuleEvaluation.ruleName) (after.map Rule.name) := by
  have sameRules : last.engine.rules = rules :=
    run.invariant (fun history => history.engine.rules = rules) rfl
      fun _ _ _ same _ taken => (step_rules taken).trans same
  have logged := @RuleEngine.foldl_visit_log call before (triggers last.calls)
    (last.engine.lastTriggered, []) (by simpa using run_log run)
  let progress := before.foldl (RuleEngine.visit call)
    (last.engine.lastTriggered, [])
  have fired : RuleEngine.fires call progress.1 rule = true := by
    apply RuleEngine.fires_of_cooled enabled holds fits
    intro time member
    change (rule.name, time) ∈ progress.1 at member
    rw [logged] at member
    exact cooled (rule.name, time) (List.mem_of_mem_drop member) rfl
  have visited : RuleEngine.visit call progress rule =
      (BoundedLog.push 1000 progress.1 (rule.name, call.now),
        progress.2 ++ [reportOf call rule]) := if_pos fired
  obtain ⟨later, reports, laterInOrder⟩ := @RuleEngine.foldl_visit_reports call
    after (RuleEngine.visit call progress rule)
  obtain ⟨earlier, earlierReports, earlierInOrder⟩ :=
    @RuleEngine.foldl_visit_reports call before (last.engine.lastTriggered, [])
  have evaluated : (last.engine.evaluate call).2 =
      last.reportsOf call before ++ reportOf call rule :: later := by
    change (last.engine.rules.foldl (RuleEngine.visit call)
      (last.engine.lastTriggered, [])).2 = _
    rw [sameRules, split, List.foldl_append, List.foldl_cons, reports, visited,
      List.append_assoc]
    rfl
  refine ⟨later, ?_, ?_, laterInOrder⟩
  · rw [(step_eq_some taken).2.2, evaluated]
  · change List.Sublist ((before.foldl (RuleEngine.visit call)
      (last.engine.lastTriggered, [])).2.map RuleEvaluation.ruleName) _
    rw [earlierReports]
    exact earlierInOrder

/-- Thirty seconds after its first trigger the rule for an offline network is
reported again. -/
theorem rule_not_missed_offline :
    ∃ last next later, LabelledRun.exec step (initial [offlineRule])
        [offlineCall 0] = some last ∧
      last.step (offlineCall 30) = some next ∧
      next.calls = ⟨Duration.fromSecs 30, last.reportsOf (offlineCall 30) [] ++
        reportOf (offlineCall 30) offlineRule :: later⟩ :: last.calls := by
  have run : LabelledRun.Run step (initial [offlineRule]) [offlineCall 0] _ :=
    .extend .start trivial rfl
  obtain ⟨later, reported, _⟩ := @rule_not_missed [offlineRule] [] []
    offlineRule [offlineCall 0] _ _ (offlineCall 30) run rfl rfl (by decide) rfl rfl
    (by decide)
  exact ⟨_, _, later, run.exec_eq, rfl, reported⟩

end RuleHistory

end NetGuardian
