import NetGuardian.RuleEngine
import Mathlib.Data.List.Nodup

/-!
# Cooldowns over whole runs

A rule may trigger again when its cooldown has passed since the time that the
lookup finds in the trigger log.  The lookup returns the *first* entry with the
rule's name, which is the oldest one, while the log gains an entry at every
trigger.  From its third trigger on, a rule is therefore held back by a trigger
that lies too far in the past.

A run below is a sequence of `evaluate` calls on one engine.  Its main result
says that the cooldown is kept in every run in which the lookup never returns a
stale time.
-/

namespace NetGuardian

/-- What one call of `evaluate` returned, and when it was made. -/
structure RuleReports where
  calledAt : Nat
  evaluations : List RuleEvaluation
deriving DecidableEq

namespace RuleReports

def Triggers (reports : RuleReports) (name : String) : Prop :=
  ∃ report ∈ reports.evaluations, report.ruleName = name

instance (reports : RuleReports) (name : String) :
    Decidable (reports.Triggers name) :=
  inferInstanceAs (Decidable (∃ report ∈ reports.evaluations, _))

end RuleReports

/-- An engine together with the calls made so far, the latest one first. -/
structure RuleHistory where
  engine : RuleEngine
  calls : List RuleReports

namespace RuleHistory

def initial (rules : List Rule) : RuleHistory where
  engine := { RuleEngine.new with rules := rules }
  calls := []

/-- One more call; the clock does not run backwards. -/
def step (history : RuleHistory) (call : EvaluateCall) : Option RuleHistory :=
  if ∀ reports ∈ history.calls, reports.calledAt ≤ call.now then
    let result := history.engine.evaluate call
    some
      { engine := result.1
        calls := ⟨call.now, result.2⟩ :: history.calls }
  else none

/-- The time of the latest trigger of a rule, according to the reports. -/
def latest (calls : List RuleReports) (name : String) : Option Nat :=
  (calls.find? fun reports => reports.Triggers name).map RuleReports.calledAt

/-- All triggers in the order in which they were logged. -/
def triggers (calls : List RuleReports) : List (String × Nat) :=
  calls.reverse.flatMap fun reports =>
    reports.evaluations.map fun report => (report.ruleName, reports.calledAt)

/-- Whenever the loop comes to an enabled rule whose condition holds, the log
entry that it looks up is the one of the rule's latest trigger. -/
def LookupCurrent (history : RuleHistory) (call : EvaluateCall) : Prop :=
  ∀ before rule after, history.engine.rules = before ++ rule :: after →
    rule.enabled = true → rule.condition.evaluate call.status = true →
      RuleEngine.lookup
          (before.foldl (RuleEngine.visit call)
            (history.engine.lastTriggered, [])).1 rule.name =
        latest history.calls rule.name

/-- Two triggers of one rule by different calls are a cooldown apart. -/
def CooldownKept (history : RuleHistory) : Prop :=
  history.calls.Pairwise fun later earlier =>
    ∀ rule ∈ history.engine.rules, later.Triggers rule.name →
      earlier.Triggers rule.name →
        earlier.calledAt + Duration.fromSecs rule.cooldownSecs ≤ later.calledAt

/-- The calls are in the order of their times. -/
def Ordered (calls : List RuleReports) : Prop :=
  calls.Pairwise fun later earlier => earlier.calledAt ≤ later.calledAt

section Step

variable {history next : RuleHistory} {call : EvaluateCall}

/-- Everything a call does. -/
theorem step_eq_some (taken : history.step call = some next) :
    (∀ reports ∈ history.calls, reports.calledAt ≤ call.now) ∧
      next.engine = (history.engine.evaluate call).1 ∧
      next.calls =
        ⟨call.now, (history.engine.evaluate call).2⟩ :: history.calls := by
  unfold step at taken
  split at taken
  · next later =>
      cases taken
      exact ⟨later, rfl, rfl⟩
  · cases taken

theorem step_rules (taken : history.step call = some next) :
    next.engine.rules = history.engine.rules := by
  rw [(step_eq_some taken).2.1]
  rfl

theorem ordered_step (ordered : Ordered history.calls)
    (taken : history.step call = some next) : Ordered next.calls := by
  obtain ⟨later, _, calls⟩ := step_eq_some taken
  rw [Ordered, calls, List.pairwise_cons]
  exact ⟨later, ordered⟩

/-- Every earlier trigger lies at or before the latest one. -/
theorem exists_latest {calls : List RuleReports} (ordered : Ordered calls)
    {name : String} {reports : RuleReports} (member : reports ∈ calls)
    (triggered : reports.Triggers name) :
    ∃ time, latest calls name = some time ∧ reports.calledAt ≤ time := by
  induction calls with
  | nil => cases member
  | cons first rest ih =>
      rw [Ordered, List.pairwise_cons] at ordered
      by_cases triggers : first.Triggers name
      · refine ⟨first.calledAt, by simp [latest, triggers], ?_⟩
        rcases List.mem_cons.mp member with rfl | old
        · exact le_rfl
        · exact ordered.1 reports old
      · have old : reports ∈ rest := by
          rcases List.mem_cons.mp member with rfl | old
          · exact absurd triggered triggers
          · exact old
        simpa [latest, triggers] using ih ordered.2 old

/-- The engine lets a rule trigger only a cooldown after the time it finds. -/
theorem cooldown_le_of_fires {log : List (String × Nat)} {rule : Rule}
    {time : Nat} (found : RuleEngine.lookup log rule.name = some time)
    (fired : RuleEngine.fires call log rule = true)
    (inOrder : time ≤ call.now) :
    time + Duration.fromSecs rule.cooldownSecs ≤ call.now := by
  have waited : rule.cooldownSecs ≤ (call.now - time) / 1000000000 := by
    simp only [RuleEngine.fires, RuleEngine.cooldownRemaining, found,
      Bool.and_eq_true, Bool.not_eq_true', decide_eq_false_iff_not] at fired
    exact Nat.not_lt.mp fired.1.2
  have product := (Nat.le_div_iff_mul_le (by decide)).mp waited
  rw [Duration.fromSecs]
  omega

/-- A call whose lookups are current keeps the cooldown of every rule. -/
theorem cooldownKept_step
    (distinct : (history.engine.rules.map Rule.name).Nodup)
    (ordered : Ordered history.calls) (kept : history.CooldownKept)
    (current : history.LookupCurrent call)
    (taken : history.step call = some next) : next.CooldownKept := by
  obtain ⟨inOrder, _, calls⟩ := step_eq_some taken
  rw [CooldownKept, calls, step_rules taken, List.pairwise_cons]
  refine ⟨?_, kept⟩
  rintro earlier member rule ruleMember ⟨report, reported, named⟩ triggered
  obtain ⟨before, fired, after, split, firedName, _, fires⟩ :=
    RuleEngine.evaluate_reported reported
  have firedMember : fired ∈ history.engine.rules := by
    rw [split]
    simp
  have same : fired = rule :=
    List.inj_on_of_nodup_map distinct firedMember ruleMember
      (firedName.trans named)
  subst same
  have able := fires
  simp only [RuleEngine.fires, Bool.and_eq_true] at able
  obtain ⟨time, latestTime, atMost⟩ := exists_latest ordered member triggered
  have found := (current before fired after split able.1.1 able.2).trans
    latestTime
  have notLater : time ≤ call.now := by
    obtain ⟨reports, foundReports, rfl⟩ := Option.map_eq_some_iff.mp latestTime
    exact inOrder reports (List.mem_of_find?_eq_some foundReports)
  have spaced := cooldown_le_of_fires found fires notLater
  exact (Nat.add_le_add_right atMost _).trans spaced

/-- The log always holds the newest thousand triggers. -/
theorem log_step
    (logged : history.engine.lastTriggered =
      BoundedLog.newest 1000 (triggers history.calls))
    (taken : history.step call = some next) :
    next.engine.lastTriggered =
      BoundedLog.newest 1000 (triggers next.calls) := by
  obtain ⟨_, engine, calls⟩ := step_eq_some taken
  have grown := @RuleEngine.foldl_visit_log call history.engine.rules
    (triggers history.calls) (history.engine.lastTriggered, [])
    (by simpa using logged)
  rw [engine, calls]
  simpa [triggers, RuleEngine.evaluate] using grown

end Step

section Runs

variable {rules : List Rule} {calls : List EvaluateCall} {last : RuleHistory}

/-- The log is a window on the triggers of the whole run. -/
theorem run_log
    (run : LabelledRun.Run step (initial rules) calls last) :
    last.engine.lastTriggered =
      BoundedLog.newest 1000 (triggers last.calls) :=
  run.invariant
    (fun history => history.engine.lastTriggered =
      BoundedLog.newest 1000 (triggers history.calls))
    (by simp [initial, RuleEngine.new, triggers])
    fun _ _ _ logged _ taken => log_step logged taken

/-- Cooldowns are kept over every run without a stale lookup. -/
theorem cooldownKept_of_lookupCurrent
    (distinct : (rules.map Rule.name).Nodup)
    (run : LabelledRun.Guarded step LookupCurrent (initial rules) calls last) :
    last.CooldownKept := by
  have noCalls : Ordered (initial rules).calls := List.Pairwise.nil
  have nothingYet : (initial rules).CooldownKept := List.Pairwise.nil
  have invariant : last.engine.rules = rules ∧ Ordered last.calls ∧
      last.CooldownKept := by
    refine run.invariant
      (fun history => history.engine.rules = rules ∧ Ordered history.calls ∧
        history.CooldownKept)
      ⟨rfl, noCalls, nothingYet⟩ ?_
    rintro history call next ⟨sameRules, ordered, kept⟩ current taken
    refine ⟨(step_rules taken).trans sameRules, ordered_step ordered taken, ?_⟩
    apply cooldownKept_step _ ordered kept current taken
    rw [sameRules]
    exact distinct
  exact invariant.2.2

/-- A rule for an offline network that may trigger every thirty seconds. -/
def offlineRule : Rule :=
  Rule.new "offline" "" (.statusIs .offline) []

/-- A call at a number of seconds while the network is offline. -/
def offlineCall (secs : Nat) : EvaluateCall where
  now := Duration.fromSecs secs
  stamp := 0
  status := ⟨.offline, .finite 0, .finite 100, false, false, []⟩

theorem lookupCurrent_offlineRule {history : RuleHistory} {secs : Nat}
    (onlyRule : history.engine.rules = [offlineRule])
    (current : RuleEngine.lookup history.engine.lastTriggered "offline" =
      latest history.calls "offline") :
    history.LookupCurrent (offlineCall secs) := by
  intro before rule after split _ _
  rw [onlyRule, List.singleton_eq_append_iff] at split
  rcases split with ⟨rfl, same⟩ | ⟨_, impossible⟩
  · obtain ⟨rfl, _⟩ := List.cons.inj same
    exact current
  · cases impossible

theorem cooldownKept_two_calls :
    ∃ last, LabelledRun.exec step (initial [offlineRule])
        [offlineCall 0, offlineCall 30] = some last ∧
      last.CooldownKept := by
  have first : LabelledRun.Guarded step LookupCurrent (initial [offlineRule])
      [offlineCall 0] _ :=
    .extend .start (lookupCurrent_offlineRule rfl rfl) rfl
  have second : LabelledRun.Guarded step LookupCurrent (initial [offlineRule])
      [offlineCall 0, offlineCall 30] _ :=
    .extend first (lookupCurrent_offlineRule rfl rfl) rfl
  exact ⟨_, second.exec_eq, cooldownKept_of_lookupCurrent (by decide) second⟩

/-- Thirty-one seconds after its first trigger and one second after its second,
the rule triggers a third time. -/
theorem cooldown_broken_at_third_trigger :
    ∃ last, LabelledRun.Run step (initial [offlineRule])
        [offlineCall 0, offlineCall 30, offlineCall 31] last ∧
      ([offlineRule].map Rule.name).Nodup ∧ ¬ last.CooldownKept := by
  refine ⟨_, LabelledRun.run_of_exec_eq rfl, by decide, ?_⟩
  intro kept
  have lastPair := (List.pairwise_cons.mp kept).1 ⟨Duration.fromSecs 30, _⟩
    (List.mem_cons_self) offlineRule (List.mem_singleton_self _)
    ⟨_, List.mem_singleton_self _, rfl⟩ ⟨_, List.mem_singleton_self _, rfl⟩
  revert lastPair
  decide

end Runs

end RuleHistory

end NetGuardian
