import NetGuardian.MetricsLocking

/-!
# Snapshots that are noticed

`snapshot` writes to the total that it reports, and the end of the period adds the
whole period to that total again.  So a snapshot that nobody asked for can be
noticed by a later one.
-/

namespace NetGuardian

/-- What can be asked of the metrics engine. -/
inductive MetricsQuery where
  | call (call : MetricsCall)
  | formatPrometheus

inductive MetricsAnswer where
  | unit
  | snapshot (snapshot : MetricsSnapshot)
  | text (text : String)

/-- A query that is there to observe only. -/
inductive Observation where
  | snapshot
  | formatPrometheus

def Observation.query : Observation → MetricsQuery
  | snapshot => .call .snapshot
  | formatPrometheus => .formatPrometheus

/-- A step of a run into which observations have been inserted. -/
inductive MetricsStep where
  | original (now : Nat) (query : MetricsQuery)
  | inserted (now : Nat) (observation : Observation)

namespace MetricsStep

def time : MetricsStep → Nat
  | original now _ => now
  | inserted now _ => now

def isOriginal : MetricsStep → Bool
  | original _ _ => true
  | inserted _ _ => false

end MetricsStep

namespace MetricsStore

variable (display : ℚ → String)

/-- One line of the text, with the value as `format!` displays it. -/
def prometheusLine (name value : String) : String :=
  name ++ " " ++ value ++ "\n"

/-- `display` is the text of an `f64`. -/
def formatPrometheus (metrics : MetricsStore) (now : Nat) :
    MetricsStore × String :=
  let taken := metrics.snapshot now
  let s := taken.2
  (taken.1,
    "# HELP netguardian_uptime_seconds Total uptime\n" ++
    "# TYPE netguardian_uptime_seconds gauge\n" ++
    prometheusLine "netguardian_uptime_seconds" (toString s.uptimeSecs) ++
    "# HELP netguardian_downtime_seconds Total downtime\n" ++
    prometheusLine "netguardian_downtime_seconds" (toString s.downtimeSecs) ++
    "# HELP netguardian_retries_total Total retries\n" ++
    prometheusLine "netguardian_retries_total" (toString s.totalRetries) ++
    "# HELP netguardian_reconnects_total Total reconnects\n" ++
    prometheusLine "netguardian_reconnects_total" (toString s.reconnectCount) ++
    "# HELP netguardian_operations_failed_total Failed operations\n" ++
    prometheusLine "netguardian_operations_failed_total"
      (toString s.failedOperations) ++
    "# HELP netguardian_operations_success_total Successful operations\n" ++
    prometheusLine "netguardian_operations_success_total"
      (toString s.successfulOperations) ++
    "# HELP netguardian_latency_ms Average latency\n" ++
    "# TYPE netguardian_latency_ms gauge\n" ++
    prometheusLine "netguardian_latency_ms" (display s.avgLatencyMs) ++
    "# HELP netguardian_packet_loss_pct Average packet loss\n" ++
    prometheusLine "netguardian_packet_loss_pct" (display s.avgPacketLossPct) ++
    "# HELP netguardian_bandwidth_rx_bytes RX bandwidth\n" ++
    prometheusLine "netguardian_bandwidth_rx_bytes"
      (toString s.bandwidthRxBytes) ++
    "# HELP netguardian_bandwidth_tx_bytes TX bandwidth\n" ++
    prometheusLine "netguardian_bandwidth_tx_bytes"
      (toString s.bandwidthTxBytes) ++
    "# HELP netguardian_session_count Session count\n" ++
    prometheusLine "netguardian_session_count" (toString s.sessionCount) ++
    "# HELP netguardian_total_operations Total operations\n" ++
    prometheusLine "netguardian_total_operations" (toString s.totalOperations))

/-- A query at one reading of the clock, with its result. -/
def perform (metrics : MetricsStore) (now : Nat) :
    MetricsQuery → MetricsStore × MetricsAnswer
  | .call call =>
      (metrics.call now call,
        match call with
        | .snapshot => .snapshot (metrics.snapshot now).2
        | _ => .unit)
  | .formatPrometheus =>
      let formatted := metrics.formatPrometheus display now
      (formatted.1, .text formatted.2)

end MetricsStore

/-- The engine after some steps, and the results of the original ones. -/
structure MetricsRun where
  metrics : MetricsStore
  answers : List MetricsAnswer

namespace MetricsRun

variable (display : ℚ → String)

def take (run : MetricsRun) : MetricsStep → MetricsRun
  | .original now query =>
      let performed := run.metrics.perform display now query
      ⟨performed.1, run.answers ++ [performed.2]⟩
  | .inserted now observation =>
      { run with metrics := (run.metrics.perform display now observation.query).1 }

/-- A fresh engine after some steps. -/
def after (steps : List MetricsStep) : MetricsRun :=
  steps.foldl (take display) ⟨.new, []⟩

/-- The run without the inserted steps. -/
def plain (steps : List MetricsStep) : List MetricsStep :=
  steps.filter MetricsStep.isOriginal

/-- The steps come in the order of the clock. -/
def Timely (steps : List MetricsStep) : Prop :=
  (steps.map MetricsStep.time).Pairwise (· ≤ ·)

/-- However a run that begins with some of the steps goes on, the results of its
original calls are the same as without the insertions. -/
def Unnoticed (steps : List MetricsStep) : Prop :=
  ∀ earlier more, earlier <+: steps → (∀ step ∈ more, step.isOriginal = true) →
    Timely (earlier ++ more) →
      (after display (earlier ++ more)).answers =
        (after display (plain earlier ++ more)).answers

/-- The total of the running kind of period is already the length of the running
period. -/
def Settled (metrics : MetricsStore) (now : Nat) : Prop :=
  (metrics.isOnline = true → ∀ onlineAt, metrics.lastOnline = some onlineAt →
    metrics.totalUptime = now - onlineAt) ∧
  (metrics.isOnline = false → ∀ offlineAt, metrics.lastOffline = some offlineAt →
    metrics.totalDowntime = now - offlineAt)

section Settled

variable {display} {metrics : MetricsStore} {now : Nat}

theorem refreshTotals_of_settled (settled : Settled metrics now) :
    metrics.refreshTotals now = metrics := by
  obtain ⟨uptime, downtime⟩ := settled
  unfold MetricsStore.refreshTotals
  split
  · next online =>
      split
      · next onlineAt period =>
          rw [← uptime online onlineAt period]
      · rfl
  · next offline =>
      split
      · next offlineAt period =>
          rw [← downtime (Bool.eq_false_iff.mpr offline) offlineAt period]
      · rfl

/-- Either observation does to the engine what a snapshot does. -/
theorem perform_observation (observation : Observation) :
    (metrics.perform display now observation.query).1 =
      metrics.refreshTotals now := by
  cases observation <;> rfl

end Settled

section Runs

variable {display} {steps earlier : List MetricsStep} {now : Nat}

theorem after_append (earlier more : List MetricsStep) :
    after display (earlier ++ more) =
      more.foldl (take display) (after display earlier) :=
  List.foldl_append

theorem after_inserted (earlier : List MetricsStep) (observation : Observation) :
    after display (earlier ++ [.inserted now observation]) =
      { after display earlier with
        metrics := (after display earlier).metrics.refreshTotals now } := by
  rw [after_append, List.foldl_cons, List.foldl_nil, take, perform_observation]

theorem plain_inserted (earlier : List MetricsStep) (observation : Observation) :
    plain (earlier ++ [.inserted now observation]) = plain earlier := by
  simp [plain, MetricsStep.isOriginal]

theorem plain_original (earlier : List MetricsStep) (query : MetricsQuery) :
    plain (earlier ++ [.original now query]) =
      plain earlier ++ [.original now query] := by
  simp [plain, MetricsStep.isOriginal]

/-- Observations change nothing at all if each finds the totals settled, provided
that nothing has changed before. -/
theorem after_eq_plain
    (settled : ∀ earlier now observation,
      earlier ++ [.inserted now observation] <+: steps →
        after display earlier = after display (plain earlier) →
          Settled (after display earlier).metrics now)
    (start : earlier <+: steps) :
    after display earlier = after display (plain earlier) := by
  induction earlier using List.reverseRecOn with
  | nil => rfl
  | append_singleton earlier step ih =>
      have same := ih ((List.prefix_append _ _).trans start)
      cases step with
      | original now query =>
          rw [plain_original, after_append, after_append, same]
      | inserted now observation =>
          rw [plain_inserted, after_inserted,
            refreshTotals_of_settled (settled earlier now observation start same),
            ← same]

theorem unnoticed_of_settled
    (settled : ∀ earlier now observation,
      earlier ++ [.inserted now observation] <+: steps →
        Settled (after display earlier).metrics now) :
    Unnoticed display steps := by
  intro earlier more start _ _
  have same := after_eq_plain
    (fun earlier now observation here _ => settled earlier now observation here) start
  rw [after_append, after_append, same]

end Runs

section Continuations

variable {metrics : MetricsStore} {start now : Nat}

/-- The end of a period adds it to the total, and a snapshot shows the sum. -/
theorem uptimeSecs_of_recordOffline (online : metrics.isOnline = true)
    (period : metrics.lastOnline = some start) :
    ((metrics.recordOffline now).snapshot now).2.uptimeSecs =
      Duration.asSecs (metrics.totalUptime + (now - start)) := by
  simp [MetricsStore.recordOffline, MetricsStore.snapshot,
    MetricsStore.refreshTotals, online, period]

theorem downtimeSecs_of_recordOnline (offline : metrics.isOnline = false)
    (period : metrics.lastOffline = some start) :
    ((metrics.recordOnline now).snapshot now).2.downtimeSecs =
      Duration.asSecs (metrics.totalDowntime + (now - start)) := by
  simp [MetricsStore.recordOnline, MetricsStore.snapshot,
    MetricsStore.refreshTotals, offline, period]

/-- Some time later, the difference between two totals shows in whole seconds. -/
theorem exists_asSecs_ne {one other : Nat} (differ : one ≠ other) (bound : Nat) :
    ∃ later, bound ≤ later ∧
      Duration.asSecs (one + later) ≠ Duration.asSecs (other + later) := by
  have ordered : ∀ {less more : Nat}, less < more → ∃ later, bound ≤ later ∧
      Duration.asSecs (less + later) ≠ Duration.asSecs (more + later) := by
    intro less more smaller
    refine ⟨(more + bound) * 1000000000 - more, by omega, ?_⟩
    unfold Duration.asSecs
    omega
  rcases Nat.lt_or_gt_of_ne differ with less | more
  · exact ordered less
  · obtain ⟨later, after, shows⟩ := ordered more
    exact ⟨later, after, shows.symm⟩

end Continuations

section Noticed

variable {display} {steps earlier : List MetricsStep} {now : Nat}
variable {observation : Observation}

/-- Two more steps in time, behind the last one. -/
theorem Timely.append_two (timely : Timely (earlier ++ [.inserted now observation]))
    {finish : Nat} (late : now ≤ finish) (query other : MetricsQuery) :
    Timely (earlier ++ [.inserted now observation] ++
      [.original finish query, .original finish other]) := by
  unfold Timely at timely ⊢
  rw [List.map_append, List.pairwise_append]
  refine ⟨timely, by simp [MetricsStep.time], ?_⟩
  rw [List.map_append, List.pairwise_append] at timely
  intro time member last here
  have before : time ≤ now := by
    rw [List.map_append] at member
    rcases List.mem_append.mp member with early | own
    · exact timely.2.2 time early now (List.mem_singleton_self _)
    · exact (List.mem_singleton.mp own).le
  have atFinish : last = finish := by simpa [MetricsStep.time] using here
  omega

/-- The snapshots that end the run with and without the insertion. -/
theorem snapshots_eq_of_unnoticed (unnoticed : Unnoticed display steps)
    (timely : Timely steps) (same : after display earlier =
      after display (plain earlier))
    (start : earlier ++ [.inserted now observation] <+: steps) {finish : Nat}
    (late : now ≤ finish) (change : MetricsCall) :
    ((((after display earlier).metrics.refreshTotals now).call finish change).snapshot
        finish).2 =
      (((after display earlier).metrics.call finish change).snapshot finish).2 := by
  have prefixTimely : Timely (earlier ++ [.inserted now observation]) :=
    timely.sublist (start.sublist.map MetricsStep.time)
  have answers := unnoticed _
    [.original finish (.call change), .original finish (.call .snapshot)] start
    (by simp [MetricsStep.isOriginal]) (prefixTimely.append_two late _ _)
  rw [plain_inserted, after_append (earlier ++ [MetricsStep.inserted now observation]),
    after_inserted, after_append (plain earlier), ← same] at answers
  have last := congrArg List.getLast? answers
  simpa [take, MetricsStore.perform] using last

theorem settled_of_unnoticed (unnoticed : Unnoticed display steps)
    (timely : Timely steps) (same : after display earlier =
      after display (plain earlier))
    (start : earlier ++ [.inserted now observation] <+: steps) :
    Settled (after display earlier).metrics now := by
  have snapshots := @snapshots_eq_of_unnoticed display steps earlier now observation
    unnoticed timely same start
  generalize (after display earlier).metrics = metrics at snapshots
  constructor
  · intro online onlineAt period
    by_contra differs
    obtain ⟨later, late, shows⟩ := exists_asSecs_ne differs now
    have shown := congrArg MetricsSnapshot.uptimeSecs
      (@snapshots (onlineAt + later) (by omega) .recordOffline)
    have refreshed : (metrics.refreshTotals now).isOnline = true ∧
        (metrics.refreshTotals now).lastOnline = some onlineAt ∧
          (metrics.refreshTotals now).totalUptime = now - onlineAt := by
      simp [MetricsStore.refreshTotals, online, period]
    change ((MetricsStore.recordOffline _ _).snapshot _).2.uptimeSecs =
      ((metrics.recordOffline _).snapshot _).2.uptimeSecs at shown
    rw [uptimeSecs_of_recordOffline refreshed.1 refreshed.2.1, refreshed.2.2,
      uptimeSecs_of_recordOffline online period, Nat.add_sub_cancel_left] at shown
    exact shows shown.symm
  · intro offline offlineAt period
    by_contra differs
    obtain ⟨later, late, shows⟩ := exists_asSecs_ne differs now
    have shown := congrArg MetricsSnapshot.downtimeSecs
      (@snapshots (offlineAt + later) (by omega) .recordOnline)
    have refreshed : (metrics.refreshTotals now).isOnline = false ∧
        (metrics.refreshTotals now).lastOffline = some offlineAt ∧
          (metrics.refreshTotals now).totalDowntime = now - offlineAt := by
      simp [MetricsStore.refreshTotals, offline, period]
    change ((MetricsStore.recordOnline _ _).snapshot _).2.downtimeSecs =
      ((metrics.recordOnline _).snapshot _).2.downtimeSecs at shown
    rw [downtimeSecs_of_recordOnline refreshed.1 refreshed.2.1, refreshed.2.2,
      downtimeSecs_of_recordOnline offline period, Nat.add_sub_cancel_left] at shown
    exact shows shown.symm

/-- Inserted observations are never noticed exactly if each of them finds the
total of the running period settled. -/
theorem unnoticed_iff (display : ℚ → String) (steps : List MetricsStep)
    (timely : Timely steps) :
    Unnoticed display steps ↔ ∀ earlier now observation,
      earlier ++ [.inserted now observation] <+: steps →
        Settled (after display earlier).metrics now := by
  constructor
  · intro unnoticed earlier now observation start
    have same := after_eq_plain
      (fun _ _ _ here same => settled_of_unnoticed unnoticed timely same here)
      ((List.prefix_append _ _).trans start)
    exact settled_of_unnoticed unnoticed timely same start
  · exact unnoticed_of_settled

/-- Ten seconds online, with or without a snapshot after five. -/
def observedPeriod : List MetricsStep :=
  [.original 0 (.call .recordOnline), .inserted (Duration.fromSecs 5) .snapshot,
    .original (Duration.fromSecs 10) (.call .recordOffline),
    .original (Duration.fromSecs 10) (.call .snapshot)]

theorem unnoticed_iff_observedPeriod :
    Unnoticed (fun _ => "0") observedPeriod ↔ ∀ earlier now observation,
      earlier ++ [.inserted now observation] <+: observedPeriod →
        Settled (after (fun _ => "0") earlier).metrics now :=
  unnoticed_iff _ observedPeriod (by unfold Timely; decide)

/-- The uptime in the last snapshot of a run. -/
def lastUptime (answers : List MetricsAnswer) : Option Nat :=
  match answers.getLast? with
  | some (.snapshot snapshot) => some snapshot.uptimeSecs
  | _ => none

/-- The snapshot in between makes ten seconds fifteen. -/
theorem snapshot_adds_uptime :
    lastUptime (after (fun _ => "0") (plain observedPeriod)).answers = some 10 ∧
      lastUptime (after (fun _ => "0") observedPeriod).answers = some 15 ∧
      (after (fun _ => "0") observedPeriod).answers ≠
        (after (fun _ => "0") (plain observedPeriod)).answers := by
  have without : lastUptime (after (fun _ => "0") (plain observedPeriod)).answers =
      some 10 := by rfl
  have observed : lastUptime (after (fun _ => "0") observedPeriod).answers =
      some 15 := by rfl
  refine ⟨without, observed, fun same => ?_⟩
  rw [same, without] at observed
  cases observed

end Noticed

end MetricsRun

end NetGuardian
