import NetGuardian.MetricsStore
import NetGuardian.Foundation.PhaseTime

/-!
# Uptime and downtime

The totals grow when a period ends, and `snapshot` is to add the period that is
still running.  It overwrites the total instead, so that a snapshot shows the
running period alone.  The recorded calls form a timeline of the phases online
(`true`) and offline (`false`).
-/

namespace NetGuardian

namespace MetricsStore

open PhaseTime

/-- `record_online` or `record_offline`. -/
def recordStatus (metrics : MetricsStore) (call : Nat × Bool) : MetricsStore :=
  match call with
  | (now, true) => metrics.recordOnline now
  | (now, false) => metrics.recordOffline now

/-- A fresh engine after a sequence of calls. -/
def recorded (calls : List (Nat × Bool)) : MetricsStore :=
  calls.foldl recordStatus .new

/-- What the engine knows of the calls made so far: nothing before the first
call of `record_online`, and then the beginning of the current period and the
totals of the periods before it. -/
inductive Tracks (calls : List (Nat × Bool)) (metrics : MetricsStore) : Prop
  | never (silent : started true calls = [])
      (offline : metrics.isOnline = false)
      (noPeriod : metrics.lastOffline = none)
      (noUptime : metrics.totalUptime = 0)
      (noDowntime : metrics.totalDowntime = 0)
  | online (start : Nat) (begun : started true calls ≠ [])
      (online : metrics.isOnline = true)
      (period : metrics.lastOnline = some start)
      (current : since true calls = some start)
      (totals : ∀ finish, Until calls finish → start ≤ finish ∧
        spent true calls finish = metrics.totalUptime + (finish - start) ∧
        spent false (started true calls) finish = metrics.totalDowntime)
  | offline (start : Nat) (begun : started true calls ≠ [])
      (offline : metrics.isOnline = false)
      (period : metrics.lastOffline = some start)
      (current : since false calls = some start)
      (totals : ∀ finish, Until calls finish → start ≤ finish ∧
        spent true calls finish = metrics.totalUptime ∧
        spent false (started true calls) finish =
          metrics.totalDowntime + (finish - start))

section Tracking

variable {calls : List (Nat × Bool)} {metrics : MetricsStore} {now : Nat}

/-- Going online for the first time, again, or while online. -/
theorem Tracks.recordOnline (tracks : Tracks calls metrics)
    (ordered : Until calls now) :
    Tracks (calls ++ [(now, true)]) (metrics.recordOnline now) := by
  cases tracks with
  | never silent offline noPeriod noUptime noDowntime =>
      have first : started true (calls ++ [(now, true)]) = [(now, true)] :=
        started_append_first silent
      apply Tracks.online now
      · simp [first]
      · simp [MetricsStore.recordOnline, offline]
      · simp [MetricsStore.recordOnline, offline]
      · exact since_append_new (since_of_silent silent)
      · intro finish ends
        refine ⟨ends.of_append.2, ?_, ?_⟩
        · rw [spent_append_same, spent_of_silent silent]
          simp [MetricsStore.recordOnline, offline, noUptime]
        · rw [first]
          simp [MetricsStore.recordOnline, offline, noPeriod, noDowntime,
            spent]
  | online start begun online period current totals =>
      have idle : metrics.recordOnline now = metrics := by
        simp [MetricsStore.recordOnline, online]
      have appended := @started_append _ _ _ _ now true begun
      obtain ⟨startLe, uptime, downtime⟩ := totals now ordered
      rw [idle]
      apply Tracks.online start
      · simp [appended]
      · exact online
      · exact period
      · exact since_append_same current
      · intro finish ends
        have nowLe := ends.of_append.2
        refine ⟨by omega, ?_, ?_⟩
        · rw [spent_append_same, uptime]
          omega
        · rw [appended, spent_append_other (by decide), downtime]
  | offline start begun offline period current totals =>
      have appended := @started_append _ _ _ _ now true begun
      obtain ⟨startLe, uptime, downtime⟩ := totals now ordered
      apply Tracks.online now
      · simp [appended]
      · simp [MetricsStore.recordOnline, offline]
      · simp [MetricsStore.recordOnline, offline]
      · exact since_append_new (since_other (by decide) current)
      · intro finish ends
        refine ⟨ends.of_append.2, ?_, ?_⟩
        · rw [spent_append_same, uptime]
          simp [MetricsStore.recordOnline, offline]
        · rw [appended, spent_append_other (by decide), downtime]
          simp [MetricsStore.recordOnline, offline, period]

/-- Going offline from online; otherwise nothing is recorded. -/
theorem Tracks.recordOffline (tracks : Tracks calls metrics)
    (ordered : Until calls now) :
    Tracks (calls ++ [(now, false)]) (metrics.recordOffline now) := by
  cases tracks with
  | never silent offline noPeriod noUptime noDowntime =>
      have idle : metrics.recordOffline now = metrics := by
        simp [MetricsStore.recordOffline, offline]
      rw [idle]
      exact .never (started_append_silent silent (by decide)) offline noPeriod
        noUptime noDowntime
  | online start begun online period current totals =>
      have appended := @started_append _ _ _ _ now false begun
      obtain ⟨startLe, uptime, downtime⟩ := totals now ordered
      apply Tracks.offline now
      · simp [appended]
      · simp [MetricsStore.recordOffline, online]
      · simp [MetricsStore.recordOffline, online]
      · exact since_append_new (since_other (by decide) current)
      · intro finish ends
        refine ⟨ends.of_append.2, ?_, ?_⟩
        · rw [spent_append_other (by decide), uptime]
          simp [MetricsStore.recordOffline, online, period]
        · rw [appended, spent_append_same, downtime]
          simp [MetricsStore.recordOffline, online]
  | offline start begun offline period current totals =>
      have idle : metrics.recordOffline now = metrics := by
        simp [MetricsStore.recordOffline, offline]
      have appended := @started_append _ _ _ _ now false begun
      obtain ⟨startLe, uptime, downtime⟩ := totals now ordered
      rw [idle]
      apply Tracks.offline start
      · simp [appended]
      · exact offline
      · exact period
      · exact since_append_same current
      · intro finish ends
        have nowLe := ends.of_append.2
        refine ⟨by omega, ?_, ?_⟩
        · rw [spent_append_other (by decide), uptime]
        · rw [appended, spent_append_same, downtime]
          omega

/-- The calls come in the order of the clock, and nothing is later than
`finish`. -/
def Ordered (calls : List (Nat × Bool)) (finish : Nat) : Prop :=
  (calls.map Prod.fst ++ [finish]).Pairwise (· ≤ ·)

theorem Ordered.until {finish : Nat} (ordered : Ordered calls finish) :
    Until calls finish := by
  intro call member
  rw [Ordered, List.pairwise_append] at ordered
  exact ordered.2.2 call.1 (List.mem_map_of_mem member) finish (by simp)

theorem Ordered.of_append {call : Nat × Bool} {finish : Nat}
    (ordered : Ordered (calls ++ [call]) finish) : Ordered calls call.1 := by
  rw [Ordered, List.map_append, List.pairwise_append] at ordered
  exact ordered.1

theorem tracks_recorded {finish : Nat} (ordered : Ordered calls finish) :
    Tracks calls (recorded calls) := by
  induction calls using List.reverseRecOn generalizing finish with
  | nil => exact .never rfl rfl rfl rfl rfl
  | append_singleton calls call ih =>
      have tracks := ih ordered.of_append
      have last : Until calls call.1 := ordered.of_append.until
      rw [recorded, List.foldl_append]
      obtain ⟨now, goesOnline⟩ := call
      cases goesOnline with
      | true => exact tracks.recordOnline last
      | false => exact tracks.recordOffline last

end Tracking

/-- The totals of a snapshot are the whole seconds spent online, and spent
offline since the first period online. -/
def RealTotals (calls : List (Nat × Bool)) (finish : Nat) : Prop :=
  ((recorded calls).snapshot finish).2.uptimeSecs =
      Duration.asSecs (spent true calls finish) ∧
    ((recorded calls).snapshot finish).2.downtimeSecs =
      Duration.asSecs (spent false (started true calls) finish)

/-- What the current period lasts beyond whole seconds, with all of the periods of its
kind before it, is less than a second. -/
def EarlierPeriodsVanish (calls : List (Nat × Bool)) (finish : Nat) : Prop :=
  (∀ start, since true calls = some start →
      spent true (earlier true calls) start +
        (finish - start) % Duration.fromSecs 1 < Duration.fromSecs 1) ∧
    ∀ start, started true calls ≠ [] → since false calls = some start →
      spent false (earlier false (started true calls)) start +
        (finish - start) % Duration.fromSecs 1 < Duration.fromSecs 1

/-- Time before a period that does not complete a second of it. -/
theorem asSecs_add_eq_iff (before period : Nat) :
    Duration.asSecs (before + period) = Duration.asSecs period ↔
      before + period % Duration.fromSecs 1 < Duration.fromSecs 1 := by
  unfold Duration.asSecs Duration.fromSecs
  omega

section Vanishing

variable {calls : List (Nat × Bool)} {finish start : Nat}

theorem uptime_eq_iff (ordered : Ordered calls finish)
    (current : since true calls = some start) :
    Duration.asSecs (spent true calls finish) = Duration.asSecs (finish - start) ↔
      spent true (earlier true calls) start +
        (finish - start) % Duration.fromSecs 1 < Duration.fromSecs 1 := by
  rw [(spent_eq_earlier_add ordered current).2]
  exact asSecs_add_eq_iff _ _

/-- What is left when the beginning is forgotten is still in order. -/
theorem Ordered.started (ordered : Ordered calls finish) :
    Ordered (started true calls) finish := by
  refine List.Pairwise.sublist ?_ ordered
  exact List.Sublist.append_right
    ((List.dropWhile_suffix _).sublist.map Prod.fst) [finish]

theorem downtime_eq_iff (ordered : Ordered calls finish)
    (begun : started true calls ≠ []) (current : since false calls = some start) :
    Duration.asSecs (spent false (started true calls) finish) =
        Duration.asSecs (finish - start) ↔
      spent false (earlier false (started true calls)) start +
        (finish - start) % Duration.fromSecs 1 < Duration.fromSecs 1 := by
  have still : since false (started true calls) = some start :=
    (since_started (by decide) begun).trans current
  rw [(spent_eq_earlier_add ordered.started still).2]
  exact asSecs_add_eq_iff _ _

end Vanishing

/-- A snapshot shows the real totals exactly when the current period is, to the
second, all there was of its kind. -/
theorem realTotals_iff (calls : List (Nat × Bool)) (finish : Nat)
    (ordered : Ordered calls finish) :
    RealTotals calls finish ↔ EarlierPeriodsVanish calls finish := by
  have ends : Until calls finish := ordered.until
  cases tracks_recorded ordered with
  | never silent offline noPeriod noUptime noDowntime =>
      have uptime : ((recorded calls).snapshot finish).2.uptimeSecs = 0 := by
        simp [snapshot, refreshTotals, offline, noPeriod, noUptime,
          Duration.asSecs]
      have downtime :
          ((recorded calls).snapshot finish).2.downtimeSecs = 0 := by
        simp [snapshot, refreshTotals, offline, noPeriod, noDowntime,
          Duration.asSecs]
      refine iff_of_true ⟨?_, ?_⟩ ⟨?_, ?_⟩
      · rw [uptime, spent_of_silent silent]
        rfl
      · rw [downtime, silent]
        simp [spent, Duration.asSecs]
      · intro start current
        rw [since_of_silent silent] at current
        cases current
      · intro start begun
        exact absurd silent begun
  | online start begun online period current totals =>
      obtain ⟨_, _, downtimeTotal⟩ := totals finish ends
      have uptime : ((recorded calls).snapshot finish).2.uptimeSecs =
          Duration.asSecs (finish - start) := by
        simp [snapshot, refreshTotals, online, period]
      have downtime : ((recorded calls).snapshot finish).2.downtimeSecs =
          Duration.asSecs (spent false (started true calls) finish) := by
        simp [snapshot, refreshTotals, online, period, downtimeTotal]
      have notOffline : since false calls = none :=
        since_other (by decide) current
      constructor
      · rintro ⟨sameUptime, _⟩
        constructor
        · intro first isCurrent
          rw [current] at isCurrent
          cases isCurrent
          rw [← uptime_eq_iff ordered current, ← sameUptime, uptime]
        · intro first _ isCurrent
          rw [notOffline] at isCurrent
          cases isCurrent
      · rintro ⟨vanish, _⟩
        have hidden := (uptime_eq_iff ordered current).mpr (vanish start current)
        exact ⟨uptime.trans hidden.symm, downtime⟩
  | offline start begun offline period current totals =>
      obtain ⟨_, uptimeTotal, _⟩ := totals finish ends
      have uptime : ((recorded calls).snapshot finish).2.uptimeSecs =
          Duration.asSecs (spent true calls finish) := by
        simp [snapshot, refreshTotals, offline, period, uptimeTotal]
      have downtime : ((recorded calls).snapshot finish).2.downtimeSecs =
          Duration.asSecs (finish - start) := by
        simp [snapshot, refreshTotals, offline, period]
      have notOnline : since true calls = none :=
        since_other (by decide) current
      constructor
      · rintro ⟨_, sameDowntime⟩
        constructor
        · intro first isCurrent
          rw [notOnline] at isCurrent
          cases isCurrent
        · intro first _ isCurrent
          rw [current] at isCurrent
          cases isCurrent
          rw [← downtime_eq_iff ordered begun current, ← sameDowntime, downtime]
      · rintro ⟨_, vanish⟩
        have hidden := (downtime_eq_iff ordered begun current).mpr
          (vanish start begun current)
        exact ⟨uptime, downtime.trans hidden.symm⟩

/-- Half a second online, offline, and online again for a little over five seconds. -/
def shortPeriod : List (Nat × Bool) :=
  [(0, true), (500000000, false), (Duration.fromSecs 10, true)]

theorem realTotals_iff_short_period :
    RealTotals shortPeriod 15200000000 ∧ spent true shortPeriod 15200000000 =
      5700000000 := by
  have ordered : Ordered shortPeriod 15200000000 := by
    unfold Ordered
    decide
  refine ⟨(realTotals_iff shortPeriod 15200000000 ordered).mpr ⟨?_, ?_⟩, by decide⟩
  · intro start current
    have begins : since true shortPeriod = some (Duration.fromSecs 10) := by decide
    rw [begins, Option.some.injEq] at current
    subst current
    decide
  · intro start _ current
    have online : since false shortPeriod = none := by decide
    rw [online] at current
    cases current

/-- Ten seconds online, ten offline, and online again. -/
def twoPeriods : List (Nat × Bool) :=
  [(0, true), (Duration.fromSecs 10, false), (Duration.fromSecs 20, true)]

/-- After fifteen seconds online the snapshot shows five. -/
theorem second_period_hides_first :
    ((recorded twoPeriods).snapshot (Duration.fromSecs 25)).2.uptimeSecs = 5 ∧
      Duration.asSecs (spent true twoPeriods (Duration.fromSecs 25)) = 15 ∧
      ¬ RealTotals twoPeriods (Duration.fromSecs 25) := by
  have shown : ((recorded twoPeriods).snapshot
      (Duration.fromSecs 25)).2.uptimeSecs = 5 := by decide
  have real : Duration.asSecs (spent true twoPeriods
      (Duration.fromSecs 25)) = 15 := by decide
  refine ⟨shown, real, ?_⟩
  intro totals
  have same := totals.1
  rw [shown, real] at same
  cases same

end MetricsStore

end NetGuardian
