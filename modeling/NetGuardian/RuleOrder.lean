import NetGuardian.NoMissedRule
import NetGuardian.Foundation.CountedAdmission

/-!
# The order of the rules

Each trigger of a call appends to the log that the rules behind it consult.  The
appended entry carries another name and is not found by them, but in a full log it
pushes the oldest entry out, and that entry may be the one that holds a later rule
back.  The order of the rules makes no difference to a call exactly if none of the
evictions that the call can cause changes a cooldown.
-/

namespace NetGuardian

namespace RuleEngine

/-- The engines that calls lead to, with the time of the latest `evaluate`. -/
inductive Reachable : RuleEngine → Nat → Prop where
  | fresh (time : Nat) : Reachable new time
  | added {engine : RuleEngine} {time : Nat} (rule : Rule)
      (reachable : Reachable engine time) : Reachable (engine.addRule rule) time
  | removed {engine : RuleEngine} {time : Nat} (name : String)
      (reachable : Reachable engine time) :
      Reachable (engine.removeRule name).1 time
  | evaluated {engine : RuleEngine} {time : Nat} (call : EvaluateCall)
      (reachable : Reachable engine time) (later : time ≤ call.now) :
      Reachable (engine.evaluate call).1 call.now

/-- The names that a call reports. -/
def triggeredNames (engine : RuleEngine) (call : EvaluateCall) : List String :=
  (engine.evaluate call).2.map RuleEvaluation.ruleName

/-- Any two orders of the rules make a call report the same names. -/
def OrderIrrelevant (engine : RuleEngine) (call : EvaluateCall) : Prop :=
  ∀ one other, one.Perm engine.rules → other.Perm engine.rules →
    ∀ name, name ∈ { engine with rules := one }.triggeredNames call ↔
      name ∈ { engine with rules := other }.triggeredNames call

/-- The rules that fire on the log as it is before the call. -/
def dueRules (engine : RuleEngine) (call : EvaluateCall) : List Rule :=
  engine.rules.filter (fires call engine.lastTriggered)

/-- The log with its oldest entries dropped, so that `count` more would fit. -/
def logBehind (log : List (String × Nat)) (count : Nat) : List (String × Nat) :=
  log.drop (log.length + count - 1000)

/-- The evictions that other due rules can cause in a call change for no rule
whether it fires. -/
def EvictionsHarmless (engine : RuleEngine) (call : EvaluateCall) : Prop :=
  ∀ rule ∈ engine.rules, ∀ count,
    count < (engine.dueRules call).length ∨
        count = (engine.dueRules call).length ∧
          fires call engine.lastTriggered rule = false →
      fires call (logBehind engine.lastTriggered count) rule =
        fires call engine.lastTriggered rule

/-- Whether a rule fires behind a number of triggers of other rules. -/
def firesBehind (call : EvaluateCall) (log : List (String × Nat)) (rule : Rule)
    (count : Nat) : Bool :=
  fires call (logBehind log count) rule

section Log

variable {engine : RuleEngine} {call : EvaluateCall} {time : Nat}
variable {log : List (String × Nat)} {rule : Rule}

theorem lastTriggered_foldl_visit (rules : List Rule)
    {progress : List (String × Nat) × List RuleEvaluation}
    (short : progress.1.length ≤ 1000) :
    (rules.foldl (visit call) progress).1.length ≤ 1000 := by
  induction rules generalizing progress with
  | nil => exact short
  | cons rule rules ih =>
      apply ih
      rw [visit]
      split
      · exact BoundedLog.length_push_le short
      · exact short

/-- The log never holds more than a thousand triggers. -/
theorem Reachable.lastTriggered_length_le (reachable : Reachable engine time) :
    engine.lastTriggered.length ≤ 1000 := by
  induction reachable with
  | fresh => exact Nat.zero_le _
  | added _ _ ih => exact ih
  | removed _ _ ih => exact ih
  | evaluated _ _ _ ih => exact lastTriggered_foldl_visit _ ih

theorem logBehind_zero (short : log.length ≤ 1000) : logBehind log 0 = log := by
  rw [logBehind, Nat.add_zero, Nat.sub_eq_zero_of_le short, List.drop_zero]

theorem logBehind_eq {count : Nat} (room : log.length + count ≤ 1000) :
    logBehind log count = log := by
  rw [logBehind, Nat.sub_eq_zero_of_le room, List.drop_zero]

/-- The lookup finds nothing in entries of other names. -/
theorem lookup_append_of_not_mem {pushed : List (String × Nat)} {name : String}
    (absent : name ∉ pushed.map Prod.fst) :
    lookup (log ++ pushed) name = lookup log name := by
  have nothing : pushed.find? (·.1 = name) = none := by
    rw [List.find?_eq_none]
    intro entry member
    simpa using fun named : entry.1 = name =>
      absent (List.mem_map.mpr ⟨entry, member, named⟩)
  rw [lookup, List.find?_append, nothing, Option.or_none, lookup]

/-- Behind triggers of other rules a rule finds what their evictions left. -/
theorem lookup_newest_append {pushed : List (String × Nat)} {name : String}
    (absent : name ∉ pushed.map Prod.fst) :
    lookup (BoundedLog.newest 1000 (log ++ pushed)) name =
      lookup (logBehind log pushed.length) name := by
  have stillAbsent : ∀ count, name ∉ (pushed.drop count).map Prod.fst := by
    intro count member
    rw [List.map_drop] at member
    exact absent (List.mem_of_mem_drop member)
  rw [BoundedLog.newest, List.length_append, List.drop_append,
    lookup_append_of_not_mem (stillAbsent _), logBehind]

end Log

section Order

variable {engine : RuleEngine} {call : EvaluateCall} {time : Nat}

/-- The reports of a call name the rules that the numbers of triggers before
them admit. -/
theorem foldl_visit_admitted (log : List (String × Nat)) (rules : List Rule)
    {progress : List (String × Nat) × List RuleEvaluation}
    (logged : progress.1 = BoundedLog.newest 1000
      (log ++ progress.2.map fun report => (report.ruleName, call.now)))
    (distinct : (progress.2.map RuleEvaluation.ruleName ++
      rules.map Rule.name).Nodup) :
    (rules.foldl (visit call) progress).2.map RuleEvaluation.ruleName =
      progress.2.map RuleEvaluation.ruleName ++
        (CountedAdmission.admitted (firesBehind call log) progress.2.length
          rules).map Rule.name := by
  induction rules generalizing progress with
  | nil => simp [CountedAdmission.admitted]
  | cons rule rules ih =>
      have absent : rule.name ∉ (progress.2.map fun report =>
          (report.ruleName, call.now)).map Prod.fst := by
        have middle := List.nodup_middle.mp distinct
        rw [List.nodup_cons, List.mem_append, not_or] at middle
        simpa [Function.comp_def] using middle.1.1
      have found := @lookup_newest_append log _ _ absent
      have same : fires call progress.1 rule =
          firesBehind call log rule progress.2.length := by
        rw [← logged, List.length_map] at found
        rw [firesBehind, fires, fires, cooldownRemaining, cooldownRemaining, found]
      rw [List.foldl_cons, visit, CountedAdmission.admitted, same]
      cases firesBehind call log rule progress.2.length with
      | true =>
          rw [if_pos rfl, if_pos rfl, ih]
          · simp
          · rw [logged, BoundedLog.push_newest]
            simp
          · simpa using distinct
      | false =>
          rw [if_neg Bool.false_ne_true, if_neg Bool.false_ne_true]
          apply ih logged
          exact distinct.sublist
            ((List.sublist_cons_self _ _).append_left _)

/-- The rules that a call reports, in any order of distinct rules. -/
theorem triggeredNames_eq (short : engine.lastTriggered.length ≤ 1000)
    {rules : List Rule} (distinct : (rules.map Rule.name).Nodup) :
    { engine with rules := rules }.triggeredNames call =
      (CountedAdmission.admitted (firesBehind call engine.lastTriggered) 0
        rules).map Rule.name := by
  apply foldl_visit_admitted engine.lastTriggered rules
  · rw [List.map_nil, List.append_nil, BoundedLog.newest,
      Nat.sub_eq_zero_of_le short, List.drop_zero]
  · exact distinct

/-- Of distinct rules, the names tell which are reported. -/
theorem mem_triggeredNames_iff (short : engine.lastTriggered.length ≤ 1000)
    (distinct : (engine.rules.map Rule.name).Nodup) {rules : List Rule}
    (perm : rules.Perm engine.rules) {rule : Rule} (member : rule ∈ engine.rules) :
    rule.name ∈ { engine with rules := rules }.triggeredNames call ↔
      rule ∈ CountedAdmission.admitted (firesBehind call engine.lastTriggered) 0
        rules := by
  rw [triggeredNames_eq short ((perm.map Rule.name).nodup_iff.mpr distinct),
    List.mem_map]
  constructor
  · rintro ⟨reported, here, sameName⟩
    have same : reported = rule := List.inj_on_of_nodup_map distinct
      (perm.subset (CountedAdmission.admitted_sublist.subset here)) member sameName
    rwa [← same]
  · exact fun here => ⟨rule, here, rfl⟩

theorem orderIrrelevant_iff_orderFree (short : engine.lastTriggered.length ≤ 1000)
    (distinct : (engine.rules.map Rule.name).Nodup) :
    engine.OrderIrrelevant call ↔
      CountedAdmission.OrderFree (firesBehind call engine.lastTriggered)
        engine.rules := by
  constructor
  · intro irrelevant one other onePerm otherPerm rule
    by_cases member : rule ∈ engine.rules
    · rw [← mem_triggeredNames_iff short distinct onePerm member,
        ← mem_triggeredNames_iff short distinct otherPerm member]
      exact irrelevant one other onePerm otherPerm rule.name
    · refine iff_of_false (fun here => member ?_) (fun here => member ?_)
      · exact onePerm.subset (CountedAdmission.admitted_sublist.subset here)
      · exact otherPerm.subset (CountedAdmission.admitted_sublist.subset here)
  · intro orderFree one other onePerm otherPerm name
    rw [triggeredNames_eq short ((onePerm.map Rule.name).nodup_iff.mpr distinct),
      triggeredNames_eq short ((otherPerm.map Rule.name).nodup_iff.mpr distinct),
      List.mem_map, List.mem_map]
    simp only [orderFree one other onePerm otherPerm]

/-- Rule order: at a reachable engine whose rules have distinct names, any two
orders of the rules make a call report the same names if and only if none of the
evictions that the call can cause changes a cooldown. -/
theorem orderIrrelevant_iff (reachable : Reachable engine time)
    (distinct : (engine.rules.map Rule.name).Nodup) :
    engine.OrderIrrelevant call ↔ engine.EvictionsHarmless call := by
  have short := reachable.lastTriggered_length_le
  have distinctRules : engine.rules.Nodup := distinct.of_map _
  rw [orderIrrelevant_iff_orderFree short distinct,
    CountedAdmission.orderFree_iff_stable distinctRules]
  simp only [CountedAdmission.Stable, CountedAdmission.welcome, firesBehind,
    logBehind_zero short]
  rfl

/-- In a log with room for a trigger of each rule nothing is evicted. -/
theorem evictionsHarmless_of_room
    (room : engine.lastTriggered.length + engine.rules.length ≤ 1000) :
    engine.EvictionsHarmless call := by
  intro rule _ count meets
  have atMost : (engine.dueRules call).length ≤ engine.rules.length :=
    List.length_filter_le _ _
  rw [logBehind_eq (by omega)]

end Order

section FullLog

open RuleHistory (offlineRule offlineCall)

/-- A rule for an offline network that may trigger at every call. -/
def eagerRule : Rule :=
  (Rule.new "eager" "" (.statusIs .offline) []).withCooldown 0

def twoRules : RuleEngine :=
  (new.addRule offlineRule).addRule eagerRule

theorem orderIrrelevant_iff_twoRules :
    twoRules.OrderIrrelevant (offlineCall 0) :=
  (orderIrrelevant_iff (.added _ (.added _ (.fresh 0))) (by decide)).mpr
    (evictionsHarmless_of_room (by decide))

/-- A second after its first trigger the rule for an offline network is held
back, as long as that trigger is in the log. -/
theorem fires_offlineRule (rest : List (String × Nat)) :
    fires (offlineCall 1) (("offline", 0) :: rest) offlineRule = false := by
  have found : lookup (("offline", 0) :: rest) "offline" = some 0 := by
    simp [lookup]
  have waited : cooldownRemaining (("offline", 0) :: rest) (offlineCall 1).now
      offlineRule = 1 := by
    change ((lookup (("offline", 0) :: rest) "offline").map fun time =>
      Duration.asSecs (Instant.elapsed time (offlineCall 1).now)).getD _ = 1
    rw [found]
    rfl
  rw [fires, waited]
  rfl

theorem fires_eagerRule (log : List (String × Nat)) :
    fires (offlineCall 1) log eagerRule = true := by
  rw [fires]
  simp [eagerRule, Rule.withCooldown, Rule.new, Condition.evaluate, offlineCall]

theorem triggeredNames_offlineRule_first (rest : List (String × Nat)) :
    (RuleEngine.mk [offlineRule, eagerRule] (("offline", 0) :: rest)).triggeredNames
      (offlineCall 1) = ["eager"] := by
  rw [triggeredNames, evaluate, List.foldl_cons, visit, fires_offlineRule,
    if_neg Bool.false_ne_true, List.foldl_cons, visit, fires_eagerRule, if_pos rfl]
  rfl

theorem triggeredNames_eagerRule_first {rest : List (String × Nat)}
    (full : rest.length = 999) (absent : "offline" ∉ rest.map Prod.fst) :
    (RuleEngine.mk [eagerRule, offlineRule] (("offline", 0) :: rest)).triggeredNames
      (offlineCall 1) = ["eager", "offline"] := by
  have pushedOut : BoundedLog.push 1000 (("offline", 0) :: rest)
      ("eager", Duration.fromSecs 1) = rest ++ [("eager", Duration.fromSecs 1)] := by
    rw [BoundedLog.push, if_pos (by simp [full])]
    rfl
  have released : fires (offlineCall 1)
      (rest ++ [("eager", Duration.fromSecs 1)]) offlineRule = true := by
    refine fires_of_cooled rfl rfl (by decide) fun time member => ?_
    rcases List.mem_append.mp member with old | pushed
    · exact absurd (List.mem_map.mpr ⟨_, old, rfl⟩) absent
    · simp [offlineRule, Rule.new] at pushed
  rw [triggeredNames, evaluate, List.foldl_cons, visit, fires_eagerRule, if_pos rfl]
  change List.map _ (visit _ (BoundedLog.push 1000 _ ("eager", Duration.fromSecs 1), _)
    _).2 = _
  rw [pushedOut, visit, released, if_pos rfl]
  rfl

/-- One call at 0 s and some more at 1 s. -/
def afterCalls : Nat → RuleEngine
  | 0 => (twoRules.evaluate (offlineCall 0)).1
  | count + 1 => ((afterCalls count).evaluate (offlineCall 1)).1

theorem reachable_afterCalls (count : Nat) :
    ∃ time, Reachable (afterCalls count) time ∧ time ≤ Duration.fromSecs 1 := by
  induction count with
  | zero =>
      exact ⟨_, .evaluated (offlineCall 0) (.added _ (.added _ (.fresh 0)))
        (Nat.zero_le _), by decide⟩
  | succ count ih =>
      obtain ⟨time, reachable, later⟩ := ih
      exact ⟨_, .evaluated (offlineCall 1) reachable later, le_rfl⟩

/-- The eager rule fills the log up behind the first trigger of the other. -/
theorem afterCalls_eq {count : Nat} (room : count ≤ 998) :
    afterCalls count =
      { twoRules with
        lastTriggered := ("offline", 0) :: ("eager", 0) ::
          List.replicate count ("eager", Duration.fromSecs 1) } := by
  induction count with
  | zero => rfl
  | succ count ih =>
      have small : ¬ 1000 < (("offline", 0) :: ("eager", 0) ::
          List.replicate count ("eager", Duration.fromSecs 1) ++
            [("eager", Duration.fromSecs 1)]).length := by
        simp
        omega
      rw [afterCalls, ih (by omega)]
      change RuleEngine.mk _ (([offlineRule, eagerRule].foldl
        (visit (offlineCall 1)) (_, [])).1) = _
      rw [List.foldl_cons, visit, fires_offlineRule, if_neg Bool.false_ne_true,
        List.foldl_cons, visit, fires_eagerRule, if_pos rfl]
      change RuleEngine.mk _ (BoundedLog.push 1000 _ ("eager", Duration.fromSecs 1)) = _
      rw [BoundedLog.push, if_neg small, List.replicate_succ']
      rfl

/-- A full log: behind the eager rule, whose trigger pushes out the trigger that
holds it back, the rule for an offline network triggers, and before it not. -/
theorem order_matters_in_full_log :
    ∃ engine time, Reachable engine time ∧ time ≤ (offlineCall 1).now ∧
      (engine.rules.map Rule.name).Nodup ∧
      ¬ engine.OrderIrrelevant (offlineCall 1) := by
  obtain ⟨time, reachable, later⟩ := reachable_afterCalls 998
  refine ⟨_, time, reachable, later, ?_, ?_⟩
  · rw [afterCalls_eq le_rfl]
    decide
  · rw [afterCalls_eq le_rfl]
    intro irrelevant
    have same := irrelevant [offlineRule, eagerRule] [eagerRule, offlineRule]
      (.refl _) (.swap _ _ _) "offline"
    have unseen : ∀ count, "offline" ∉ ((("eager", 0) ::
        List.replicate count ("eager", Duration.fromSecs 1)).map Prod.fst) := by
      simp
    rw [triggeredNames_offlineRule_first, triggeredNames_eagerRule_first
      (by rw [List.length_cons, List.length_replicate]) (unseen 998)] at same
    revert same
    decide

end FullLog

end RuleEngine

end NetGuardian
