import NetGuardian.MetricsLocking
import NetGuardian.MonitorTask
import NetGuardian.Foundation.LabelledRun
import Mathlib.Data.List.Chain

/-!
# Connectivity events

The monitor task publishes an event for every change of the connectivity and
counts the recoveries.  An iteration is taken apart here at the actions that other
tasks can see: they may take a snapshot or publish between any two of them, also
between the atomic steps of `record_online`.

A recovery is counted before it is published, first by the counter of reconnects and
then among the sessions.  The invariant is therefore about the events that are
published or about to be, and about how far the call has come.
-/

namespace NetGuardian

/-- `some true` for a recovery, `some false` for a loss. -/
def NetGuardianEvent.connectivity : NetGuardianEvent → Option Bool
  | .internetLost => some false
  | .internetRecovered _ => some true
  | _ => none

/-- What a task other than the monitor task may do.  None of them publishes a
change of the connectivity. -/
def MonitorEvent.isOthers : MonitorEvent → Bool
  | .poll _ => false
  | .publish event => event.connectivity.isNone
  | .recordOperation .. | .recordRetry _ | .snapshot _ => true

namespace MonitorTask

/-- How far the current iteration has come.  `done` counts the atomic steps of
`record_online` or `record_offline`. -/
inductive Stage where
  | waiting
  | comparing (poll : Poll)
  | recording (poll : Poll) (done : Nat)
  | publishing (poll : Poll)
  | evaluating (poll : Poll)

/-- The monitor task inside an iteration. -/
structure Staged where
  task : MonitorTask
  stage : Stage

inductive StageLabel where
  | poll (poll : Poll)
  | compare
  | record
  | publish
  | finish
  | other (event : MonitorEvent)

namespace Staged

def start : Staged := ⟨.start, .waiting⟩

/-- The status has arrived and its sample is recorded. -/
def sample (task : MonitorTask) (poll : Poll) : MonitorTask :=
  { task with
    metrics := task.metrics.recordConnectivity poll.status.latencyMs.sample
      poll.status.packetLossPct.sample }

/-- A change is recorded in the metrics next. -/
def compare (task : MonitorTask) (poll : Poll) : Staged :=
  if poll.status.isOnline && !task.wasOnline then ⟨task, .recording poll 0⟩
  else if !poll.status.isOnline && task.wasOnline then ⟨task, .recording poll 0⟩
  else ⟨task, .evaluating poll⟩

/-- The call that records a change. -/
def changeCall (poll : Poll) : MetricsCall :=
  if poll.status.isOnline then .recordOnline else .recordOffline

/-- The next atomic step of the call, or what it does under the mutex; then the
change is published. -/
def record (task : MonitorTask) (poll : Poll) (done : Nat) : Staged :=
  match (MetricsStore.methods.steps (changeCall poll))[done]? with
  | some act =>
      let result := act task.metrics
      ⟨{ task with metrics := result.1 },
        if result.2 then .recording poll (done + 1) else .publishing poll⟩
  | none =>
      ⟨{ task with
          metrics := MetricsStore.methods.body (changeCall poll) poll.recordedAt
            task.metrics },
        .publishing poll⟩

def changeEvent (poll : Poll) : NetGuardianEvent :=
  if poll.status.isOnline then recovered poll.status else .internetLost

/-- The rules are evaluated and the status is remembered. -/
def finish (task : MonitorTask) (poll : Poll) : MonitorTask :=
  { task with
    ruleEngine := (task.ruleEngine.evaluate
      ⟨poll.evaluatedAt, poll.stamp, poll.status⟩).1
    wasOnline := poll.status.isOnline }

def step (staged : Staged) : StageLabel → Option Staged
  | .poll poll =>
      match staged.stage with
      | .waiting => some ⟨sample staged.task poll, .comparing poll⟩
      | _ => none
  | .compare =>
      match staged.stage with
      | .comparing poll => some (compare staged.task poll)
      | _ => none
  | .record =>
      match staged.stage with
      | .recording poll done => some (record staged.task poll done)
      | _ => none
  | .publish =>
      match staged.stage with
      | .publishing poll =>
          some ⟨{ staged.task with
            bus := staged.task.bus.publish (changeEvent poll) },
            .evaluating poll⟩
      | _ => none
  | .finish =>
      match staged.stage with
      | .evaluating poll => some ⟨finish staged.task poll, .waiting⟩
      | _ => none
  | .other event =>
      if event.isOthers then some { staged with task := staged.task.apply event }
      else none

/-- How many actions it takes to record a change.  A change that the flag of the
metrics has already is over with the first. -/
def recordings (task : MonitorTask) (online : Bool) : Nat :=
  match online, task.metrics.isOnline with
  | true, false => 3
  | false, true => 2
  | true, true | false, false => 1

/-- The labels of an undisturbed iteration. -/
def iteration (task : MonitorTask) (poll : Poll) : List StageLabel :=
  if poll.status.isOnline = task.wasOnline then [.poll poll, .compare, .finish]
  else
    [.poll poll, .compare] ++
      List.replicate (recordings task poll.status.isOnline) .record ++
        [.publish, .finish]

/-- Nothing in between, the actions come to the method. -/
theorem exec_recordings (task : MonitorTask) (poll : Poll) :
    LabelledRun.exec step ⟨task, .recording poll 0⟩
        (List.replicate (recordings task poll.status.isOnline) .record) =
      some ⟨{ task with
          metrics := task.metrics.call poll.recordedAt (changeCall poll) },
        .publishing poll⟩ := by
  rw [← MetricsStore.alone_eq_call]
  cases online : poll.status.isOnline <;> cases flag : task.metrics.isOnline <;>
    simp [recordings, LabelledRun.exec, step, record, changeCall,
      TryLock.Protocol.alone, TryLock.workAll, MetricsStore.methods,
      MetricsStore.swapOnline, MetricsStore.swapOffline, MetricsStore.countReconnect,
      online, flag]

/-- An undisturbed iteration is the iteration of the monitor task. -/
theorem exec_iteration (task : MonitorTask) (poll : Poll) :
    LabelledRun.exec step ⟨task, .waiting⟩ (iteration task poll) =
      some ⟨task.iterate poll, .waiting⟩ := by
  by_cases same : poll.status.isOnline = task.wasOnline
  · cases online : poll.status.isOnline <;> rw [online] at same <;>
      simp [iteration, LabelledRun.exec, step, sample, compare, finish,
        MonitorTask.iterate, report, online, ← same]
  · have compared : compare (sample task poll) poll =
        ⟨sample task poll, .recording poll 0⟩ := by
      have was : (sample task poll).wasOnline = task.wasOnline := rfl
      cases online : poll.status.isOnline <;> rw [online] at same <;>
        simp [compare, online, was, Bool.eq_not.mpr (Ne.symm same)]
    have recorded := exec_recordings (sample task poll) poll
    rw [LabelledRun.exec] at recorded
    rw [iteration, if_neg same, LabelledRun.exec, List.foldlM_append,
      List.foldlM_append]
    change ((some (compare (sample task poll) poll)).bind _).bind _ = _
    rw [compared, Option.bind_some]
    change (List.foldlM step _ (List.replicate (recordings (sample task poll)
      poll.status.isOnline) _)).bind _ = _
    rw [recorded]
    cases online : poll.status.isOnline <;> rw [online] at same <;>
      simp [step, finish, sample, changeEvent, changeCall, MetricsStore.call,
        MonitorTask.iterate, report, online, Bool.eq_not.mpr (Ne.symm same)]

/-- The connectivity events published so far. -/
def published (staged : Staged) : List Bool :=
  staged.task.bus.published.filterMap NetGuardianEvent.connectivity

/-- The change that is being recorded, or recorded, and not yet published. -/
def pending (staged : Staged) : List Bool :=
  match staged.stage with
  | .recording poll _ | .publishing poll => [poll.status.isOnline]
  | .waiting | .comparing _ | .evaluating _ => []

/-- The status that the next poll is compared with. -/
def remembered (staged : Staged) : Bool :=
  match staged.stage with
  | .waiting | .comparing _ => staged.task.wasOnline
  | .recording poll _ | .publishing poll | .evaluating poll => poll.status.isOnline

/-- The changes that the flag of the metrics has followed. -/
def followed (staged : Staged) : List Bool :=
  match staged.stage with
  | .recording _ 0 => staged.published
  | _ => staged.published ++ staged.pending

/-- The recoveries that are in the counter of reconnects before they are published:
one from the second step of `record_online` on. -/
def counted (staged : Staged) : Nat :=
  match staged.stage with
  | .recording poll done => (poll.status.isOnline && decide (2 ≤ done)).toNat
  | .publishing poll => poll.status.isOnline.toNat
  | .waiting | .comparing _ | .evaluating _ => 0

/-- The recoveries that are among the sessions before they are published: one after
`record_online` is over. -/
def recorded (staged : Staged) : Nat :=
  match staged.stage with
  | .publishing poll => poll.status.isOnline.toNat
  | .waiting | .comparing _ | .recording _ _ | .evaluating _ => 0

/-- Neither count is ahead by more than the recovery that is about to be published,
and the sessions are not ahead of the counter. -/
theorem recorded_le_counted (staged : Staged) :
    staged.recorded ≤ staged.counted ∧
      staged.counted ≤ staged.pending.count true := by
  obtain ⟨task, stage⟩ := staged
  cases stage with
  | waiting | comparing poll | evaluating poll => exact ⟨le_rfl, le_rfl⟩
  | recording poll done =>
      refine ⟨Nat.zero_le _, ?_⟩
      cases online : poll.status.isOnline with
      | true => simp [counted, pending, online, Bool.toNat_le]
      | false => simp [counted, pending, online]
  | publishing poll =>
      refine ⟨le_rfl, ?_⟩
      cases online : poll.status.isOnline <;> simp [counted, pending, online]

end Staged

/-- Losses and recoveries alternate, beginning with a loss. -/
structure Alternating (changes : List Bool) : Prop where
  alternate : changes.IsChain (· ≠ ·)
  lossFirst : changes.head? ≠ some true

theorem Alternating.append {changes : List Bool}
    (alternating : Alternating changes) {change : Bool}
    (new : change = !changes.getLast?.getD true) :
    Alternating (changes ++ [change]) := by
  constructor
  · refine List.isChain_append.mpr ⟨alternating.alternate, by simp, ?_⟩
    intro last isLast first isFirst
    rw [Option.mem_def] at isLast isFirst
    rw [isLast, Option.getD_some] at new
    cases isFirst
    rw [new]
    exact (Bool.not_ne_self last).symm
  · cases changes with
    | nil => simp [new]
    | cons first rest => exact alternating.lossFirst

theorem Alternating.of_append {earlier later : List Bool}
    (alternating : Alternating (earlier ++ later)) : Alternating earlier := by
  constructor
  · exact (List.isChain_append.mp alternating.alternate).1
  · cases earlier with
    | nil => simp
    | cons first rest => exact alternating.lossFirst

namespace Staged

/-- The joint invariant of both flags, the counters and the events.  The flag of the
metrics starts as `false` and the flag of the task as `true`. -/
structure Consistent (staged : Staged) : Prop where
  alternating : Alternating (staged.published ++ staged.pending)
  remembered : staged.remembered =
    (staged.published ++ staged.pending).getLast?.getD true
  flag : staged.task.metrics.isOnline = staged.followed.getLast?.getD false
  sessions : staged.task.metrics.reconnects.length =
    staged.published.count true + staged.recorded
  reconnects : staged.task.metrics.reconnectCount =
    (staged.published.count true + staged.counted) % 2 ^ 64

theorem refreshTotals_connectivity (metrics : MetricsStore) (now : Nat) :
    (metrics.refreshTotals now).isOnline = metrics.isOnline ∧
      (metrics.refreshTotals now).reconnects = metrics.reconnects ∧
      (metrics.refreshTotals now).reconnectCount = metrics.reconnectCount := by
  obtain ⟨uptime, downtime, refreshed⟩ := metrics.refreshTotals_eq now
  rw [refreshed]
  exact ⟨rfl, rfl, rfl⟩

section Steps

variable {task : MonitorTask} {poll : Poll}

/-- Calls that leave the connectivity alone. -/
theorem Consistent.other_metrics {stage : Stage} {metrics : MetricsStore}
    (consistent : Consistent ⟨task, stage⟩)
    (flag : metrics.isOnline = task.metrics.isOnline)
    (reconnects : metrics.reconnects = task.metrics.reconnects)
    (count : metrics.reconnectCount = task.metrics.reconnectCount) :
    Consistent ⟨{ task with metrics := metrics }, stage⟩ where
  alternating := consistent.alternating
  remembered := consistent.remembered
  flag := flag.trans consistent.flag
  sessions := (congrArg List.length reconnects).trans consistent.sessions
  reconnects := count.trans consistent.reconnects

/-- The comparison turns a change into a pending one. -/
theorem Consistent.compare (consistent : Consistent ⟨task, .comparing poll⟩) :
    Consistent (compare task poll) := by
  obtain ⟨alternating, remembered, flag, sessions, reconnects⟩ := consistent
  have was : task.wasOnline = (published ⟨task, .comparing poll⟩).getLast?.getD true := by
    simpa [pending, Staged.remembered] using remembered
  have change : poll.status.isOnline = !task.wasOnline →
      Consistent ⟨task, .recording poll 0⟩ := by
    intro changed
    refine ⟨?_, by simp [pending, Staged.remembered], ?_, ?_, ?_⟩
    · have before : Alternating (published ⟨task, .comparing poll⟩) := by
        simpa [pending] using alternating
      exact before.append (by rw [changed, was])
    · simpa [followed, pending, published] using flag
    · simpa [recorded, published] using sessions
    · simpa [counted, published] using reconnects
  unfold Staged.compare
  split
  · next edge =>
      rw [Bool.and_eq_true, Bool.not_eq_true'] at edge
      exact change (by rw [edge.1, edge.2]; rfl)
  · next noRecovery =>
      split
      · next edge =>
          rw [Bool.and_eq_true, Bool.not_eq_true'] at edge
          exact change (by rw [edge.1, edge.2]; rfl)
      · next noLoss =>
          have same : poll.status.isOnline = task.wasOnline := by
            cases online : poll.status.isOnline <;>
              cases was : task.wasOnline <;> simp_all
          exact ⟨alternating, same.trans remembered, flag, sessions, reconnects⟩

/-- The call starts with the flag as the published changes have left it. -/
theorem Consistent.before_recording
    (consistent : Consistent ⟨task, .recording poll 0⟩) :
    poll.status.isOnline = true → task.metrics.isOnline = false := by
  intro online
  have flag := consistent.flag
  have last := (List.isChain_append.mp consistent.alternating.alternate).2.2
  have first := consistent.alternating.lossFirst
  rw [flag]
  change (published ⟨task, .recording poll 0⟩).getLast?.getD false = false
  cases found : (published ⟨task, .recording poll 0⟩).getLast? with
  | none =>
      rw [List.getLast?_eq_none_iff] at found
      rw [found] at first
      simp [pending, online] at first
  | some change =>
      cases change with
      | false => rfl
      | true =>
          have apart := last true (Option.mem_def.mpr found) true
            (by simp [pending, online])
          exact absurd rfl apart

/-- `record_online` moves the flag, then the counter, then the sessions. -/
theorem Consistent.record_online {done : Nat} (online : poll.status.isOnline = true)
    (consistent : Consistent ⟨task, .recording poll done⟩) :
    Consistent (record task poll done) := by
  have call : changeCall poll = .recordOnline := by rw [changeCall, online]; rfl
  match done with
  | 0 =>
      have offline := consistent.before_recording online
      obtain ⟨alternating, remembered, flag, sessions, reconnects⟩ := consistent
      have moved : Staged.record task poll 0 =
          ⟨{ task with metrics := { task.metrics with isOnline := true } },
            .recording poll 1⟩ := by
        simp [Staged.record, call, MetricsStore.methods, MetricsStore.swapOnline, offline]
      rw [moved]
      refine ⟨alternating, remembered, ?_, sessions, ?_⟩
      · simp [followed, pending, online]
      · simpa [counted, published] using reconnects
  | 1 =>
      obtain ⟨alternating, remembered, flag, sessions, reconnects⟩ := consistent
      have moved : Staged.record task poll 1 =
          ⟨{ task with metrics := task.metrics.countReconnect.1 },
            .recording poll 2⟩ := by
        simp [Staged.record, call, MetricsStore.methods, MetricsStore.countReconnect]
      rw [moved]
      refine ⟨alternating, remembered, flag, sessions, ?_⟩
      have before : task.metrics.reconnectCount =
          (published ⟨task, .recording poll 1⟩).count true % 2 ^ 64 := by
        simpa [counted] using reconnects
      have after : task.metrics.countReconnect.1.reconnectCount =
          addU64 task.metrics.reconnectCount 1 := rfl
      rw [after, before]
      simp [addU64, counted, online, published]
  | done + 2 =>
      obtain ⟨alternating, remembered, flag, sessions, reconnects⟩ := consistent
      have moved : Staged.record task poll (done + 2) =
          ⟨{ task with
              metrics := task.metrics.locked .recordOnline poll.recordedAt },
            .publishing poll⟩ := by
        simp [Staged.record, call, MetricsStore.methods]
      rw [moved]
      refine ⟨alternating, remembered, flag, ?_, ?_⟩
      · have before : task.metrics.reconnects.length =
            (published ⟨task, .recording poll (done + 2)⟩).count true := sessions
        have after : (task.metrics.locked .recordOnline
            poll.recordedAt).reconnects.length = task.metrics.reconnects.length + 1 := by
          simp [MetricsStore.locked]
        rw [after, before]
        simp [recorded, online, published]
      · change task.metrics.reconnectCount = _
        simpa [counted, online, published] using reconnects

/-- `record_offline` moves the flag, if it has to. -/
theorem Consistent.record_offline {done : Nat} (offline : poll.status.isOnline = false)
    (consistent : Consistent ⟨task, .recording poll done⟩) :
    Consistent (record task poll done) := by
  have call : changeCall poll = .recordOffline := by rw [changeCall, offline]; rfl
  obtain ⟨alternating, remembered, flag, sessions, reconnects⟩ := consistent
  have moved : ∀ {metrics : MetricsStore} {stage : Stage}, metrics.isOnline = false →
      metrics.reconnects = task.metrics.reconnects →
        metrics.reconnectCount = task.metrics.reconnectCount →
          stage = .recording poll 1 ∨ stage = .publishing poll →
            Consistent ⟨{ task with metrics := metrics }, stage⟩ := by
    rintro metrics stage down sameSessions sameCount (rfl | rfl)
    · refine ⟨alternating, remembered, ?_, ?_, ?_⟩
      · simp [followed, pending, offline, down]
      · exact (congrArg List.length sameSessions).trans sessions
      · rw [sameCount]
        simpa [counted, offline, published] using reconnects
    · refine ⟨alternating, remembered, ?_, ?_, ?_⟩
      · simp [followed, pending, offline, down]
      · rw [sameSessions]
        simpa [recorded, offline, published] using sessions
      · rw [sameCount]
        simpa [counted, offline, published] using reconnects
  match done with
  | 0 =>
      have swapped : Staged.record task poll 0 =
          ⟨{ task with metrics := { task.metrics with isOnline := false } },
            if task.metrics.isOnline then .recording poll 1 else .publishing poll⟩ := by
        simp [Staged.record, call, MetricsStore.methods, MetricsStore.swapOffline]
      rw [swapped]
      refine moved rfl rfl rfl ?_
      split
      · exact .inl rfl
      · exact .inr rfl
  | done + 1 =>
      have locked : Staged.record task poll (done + 1) =
          ⟨{ task with
              metrics := task.metrics.locked .recordOffline poll.recordedAt },
            .publishing poll⟩ := by
        simp [Staged.record, call, MetricsStore.methods]
      rw [locked]
      refine moved ?_ rfl rfl (.inr rfl)
      change task.metrics.isOnline = false
      rw [flag]
      simp [followed, pending, offline]

theorem Consistent.record {done : Nat}
    (consistent : Consistent ⟨task, .recording poll done⟩) :
    Consistent (record task poll done) := by
  cases online : poll.status.isOnline with
  | true => exact consistent.record_online online
  | false => exact consistent.record_offline online

theorem connectivity_changeEvent (poll : Poll) :
    (changeEvent poll).connectivity = some poll.status.isOnline := by
  unfold changeEvent
  cases poll.status.isOnline <;> rfl

/-- The publication makes the pending change a published one. -/
theorem Consistent.publish (consistent : Consistent ⟨task, .publishing poll⟩) :
    Consistent ⟨{ task with bus := task.bus.publish (changeEvent poll) },
      .evaluating poll⟩ := by
  obtain ⟨alternating, remembered, flag, sessions, reconnects⟩ := consistent
  have events : published ⟨{ task with bus := task.bus.publish (changeEvent poll) },
      .evaluating poll⟩ =
        published ⟨task, .publishing poll⟩ ++ [poll.status.isOnline] := by
    simp [published, EventBus.publish, connectivity_changeEvent]
  have one : [poll.status.isOnline].count true = poll.status.isOnline.toNat := by
    cases poll.status.isOnline <;> rfl
  constructor
  · rw [events]
    simpa [pending] using alternating
  · rw [events]
    simp [pending, Staged.remembered]
  · simp only [followed]
    rw [events]
    simpa [pending, followed] using flag
  · rw [events, List.count_append, one]
    exact sessions
  · rw [events, List.count_append, one]
    exact reconnects

/-- Other tasks publish no change and leave the connectivity alone. -/
theorem Consistent.other {staged : Staged} (consistent : staged.Consistent)
    {event : MonitorEvent} (others : event.isOthers = true) :
    Consistent { staged with task := staged.task.apply event } := by
  obtain ⟨task, stage⟩ := staged
  cases event with
  | poll poll => cases others
  | recordOperation now plugin description success retries =>
      exact consistent.other_metrics rfl rfl rfl
  | recordRetry now => exact consistent.other_metrics rfl rfl rfl
  | snapshot now =>
      obtain ⟨flag, reconnects, count⟩ :=
        refreshTotals_connectivity task.metrics now
      exact consistent.other_metrics flag reconnects count
  | publish event =>
      have silent : event.connectivity = none := Option.isNone_iff_eq_none.mp others
      have same : published ⟨task.apply (.publish event), stage⟩ =
          published ⟨task, stage⟩ := by
        simp [published, MonitorTask.apply, EventBus.publish, silent]
      obtain ⟨alternating, remembered, flag, sessions, reconnects⟩ := consistent
      refine ⟨same ▸ alternating, same ▸ remembered, ?_, same ▸ sessions,
        same ▸ reconnects⟩
      have followedSame : followed ⟨task.apply (.publish event), stage⟩ =
          followed ⟨task, stage⟩ := by
        unfold followed
        rw [same]
        rfl
      rw [followedSame]
      exact flag

theorem Consistent.step {staged next : Staged} {label : StageLabel}
    (consistent : staged.Consistent) (taken : staged.step label = some next) :
    next.Consistent := by
  obtain ⟨task, stage⟩ := staged
  cases label with
  | other event =>
      simp only [Staged.step, Option.ite_none_right_eq_some,
        Option.some.injEq] at taken
      obtain ⟨others, rfl⟩ := taken
      exact consistent.other others
  | poll poll =>
      cases stage with
      | waiting =>
          cases taken
          exact ⟨consistent.alternating, consistent.remembered, consistent.flag,
            consistent.sessions, consistent.reconnects⟩
      | comparing | recording | publishing | evaluating => cases taken
  | compare =>
      cases stage with
      | comparing poll =>
          cases taken
          exact consistent.compare
      | waiting | recording | publishing | evaluating => cases taken
  | record =>
      cases stage with
      | recording poll done =>
          cases taken
          exact consistent.record
      | waiting | comparing | publishing | evaluating => cases taken
  | publish =>
      cases stage with
      | publishing poll =>
          cases taken
          exact consistent.publish
      | waiting | comparing | recording | evaluating => cases taken
  | finish =>
      cases stage with
      | evaluating poll =>
          cases taken
          exact ⟨consistent.alternating, consistent.remembered, consistent.flag,
            consistent.sessions, consistent.reconnects⟩
      | waiting | comparing | recording | publishing => cases taken

end Steps

theorem consistent_start : start.Consistent :=
  ⟨⟨.nil, by simp [start, published, pending, MonitorTask.start, EventBus.new]⟩,
    rfl, rfl, rfl, rfl⟩

theorem consistent_of_run {labels : List StageLabel} {staged : Staged}
    (run : LabelledRun.Run step start labels staged) : staged.Consistent :=
  run.invariant Consistent consistent_start
    fun _ _ _ consistent _ taken => consistent.step taken

/-- The counts of a snapshot: so many sessions, and so many reconnects as a `u64`. -/
def Shows (staged : Staged) (sessions reconnects : Nat) : Prop :=
  ∀ now, (staged.task.metrics.snapshot now).2.sessionCount = sessions ∧
    (staged.task.metrics.snapshot now).2.reconnectCount = reconnects % 2 ^ 64

theorem Consistent.shows {staged : Staged} (consistent : staged.Consistent) :
    staged.Shows (staged.published.count true + staged.recorded)
      (staged.published.count true + staged.counted) := by
  intro now
  obtain ⟨_, reconnects, count⟩ :=
    refreshTotals_connectivity staged.task.metrics now
  constructor
  · change (staged.task.metrics.refreshTotals now).reconnects.length = _
    rw [reconnects, consistent.sessions]
  · change (staged.task.metrics.refreshTotals now).reconnectCount = _
    rw [count, consistent.reconnects]

/-- The published events alternate, beginning with a loss.  At every point the
counts are the number of published recoveries, but for a recovery that is about to be
published: the counter of reconnects has it from its own step on, the sessions from
the end of `record_online` on. -/
theorem connectivity_events (labels : List StageLabel) (staged : Staged)
    (run : LabelledRun.Run step start labels staged) :
    Alternating staged.published ∧
      staged.Shows (staged.published.count true + staged.recorded)
        (staged.published.count true + staged.counted) ∧
      staged.recorded ≤ staged.counted ∧
      staged.counted ≤ staged.pending.count true := by
  have consistent := consistent_of_run run
  exact ⟨consistent.alternating.of_append, consistent.shows,
    staged.recorded_le_counted⟩

/-- The network goes down and comes up again. -/
def down : Poll := ⟨none, 0, 0, 0⟩

def up : Poll := ⟨some ⟨.online, .finite 20, .finite 0, true, true, []⟩, 0, 0, 0⟩

/-- An outage.  The first loss is none for the metrics, and is recorded in one step. -/
def outage (first : Bool) : List StageLabel :=
  [.poll down, .compare] ++ List.replicate (if first then 1 else 2) .record ++
      [.publish, .finish] ++
    ([.poll up, .compare] ++ List.replicate 3 .record ++ [.publish, .finish])

def outages : Nat → List StageLabel
  | 0 => []
  | count + 1 => outages count ++ outage (decide (count = 0))

/-- The recovery is in the metrics and not yet on the bus. -/
def unpublishedRecovery : List StageLabel :=
  [.poll down, .compare, .record, .publish, .finish, .poll up, .compare, .record,
    .record, .record]

/-- The recovery is counted, but not yet among the sessions. -/
def countedRecovery : List StageLabel :=
  [.poll down, .compare, .record, .publish, .finish, .poll up, .compare, .record,
    .record]

theorem connectivity_events_counted : ∃ staged,
    LabelledRun.Run step start countedRecovery staged ∧
      staged.published = [false] ∧ staged.pending = [true] ∧
      Alternating staged.published ∧ staged.Shows 0 1 ∧
      staged.recorded ≤ staged.counted ∧
      staged.counted ≤ staged.pending.count true := by
  have run := @LabelledRun.run_of_exec_eq _ _ step start _ countedRecovery rfl
  exact ⟨_, run, rfl, rfl, connectivity_events countedRecovery _ run⟩

/-- An iteration publishes the status if it is a change. -/
theorem published_iterate (task : MonitorTask) (poll : Poll) :
    published ⟨task.iterate poll, .waiting⟩ =
      published ⟨task, .waiting⟩ ++
        if poll.status.isOnline = task.wasOnline then []
        else [poll.status.isOnline] := by
  cases online : poll.status.isOnline <;> cases was : task.wasOnline <;>
    simp [published, MonitorTask.iterate, report, EventBus.publish, recovered,
      NetGuardianEvent.connectivity, online, was]

theorem isOnline_iterate_of_change {task : MonitorTask} {poll : Poll}
    (change : poll.status.isOnline ≠ task.wasOnline) :
    (task.iterate poll).metrics.isOnline = poll.status.isOnline := by
  cases online : poll.status.isOnline with
  | true =>
      have was : task.wasOnline = false := by
        rw [online] at change
        exact Bool.eq_false_iff.mpr (Ne.symm change)
      simp [MonitorTask.iterate, report, online, was, recordOnline_isOnline]
  | false =>
      have was : task.wasOnline = true := by
        rw [online] at change
        exact Bool.eq_true_of_not_eq_false (Ne.symm change)
      simp [MonitorTask.iterate, report, online, was, recordOffline_isOnline]

theorem exec_outage {task : MonitorTask} {first : Bool}
    (online : task.wasOnline = true) (flag : task.metrics.isOnline = !first) :
    ∃ next : MonitorTask,
      LabelledRun.exec step ⟨task, .waiting⟩ (outage first) =
        some ⟨next, .waiting⟩ ∧
      next.wasOnline = true ∧ next.metrics.isOnline = true ∧
      published ⟨next, .waiting⟩ = published ⟨task, .waiting⟩ ++ [false, true] := by
  have isDown : down.status.isOnline = false := by decide
  have isUp : up.status.isOnline = true := by decide
  have offline : (task.iterate down).wasOnline = false := rfl
  have flagDown : (task.iterate down).metrics.isOnline = false :=
    isOnline_iterate_of_change (by rw [isDown, online]; decide)
  refine ⟨(task.iterate down).iterate up, ?_, isUp, ?_, ?_⟩
  · have goesDown := exec_iteration task down
    have comesUp := exec_iteration (task.iterate down) up
    have lost : recordings task false = if first then 1 else 2 := by
      unfold recordings
      rw [flag]
      cases first <;> rfl
    have back : recordings (task.iterate down) true = 3 := by
      unfold recordings
      rw [flagDown]
    rw [iteration, isDown, online, if_neg (by decide), lost] at goesDown
    rw [iteration, isUp, offline, if_neg (by decide), back] at comesUp
    rw [outage, LabelledRun.exec, List.foldlM_append]
    rw [LabelledRun.exec] at goesDown comesUp
    rw [goesDown]
    exact comesUp
  · exact isOnline_iterate_of_change (by rw [isUp, offline]; decide)
  · rw [published_iterate, published_iterate, isUp, offline, isDown, online]
    simp

theorem exec_outages (count : Nat) :
    ∃ task : MonitorTask,
      LabelledRun.exec step start (outages count) = some ⟨task, .waiting⟩ ∧
      task.wasOnline = true ∧ task.metrics.isOnline = decide (count ≠ 0) ∧
      (published ⟨task, .waiting⟩).count true = count := by
  induction count with
  | zero => exact ⟨.start, rfl, rfl, rfl, rfl⟩
  | succ count ih =>
      obtain ⟨task, before, online, flag, counted⟩ := ih
      obtain ⟨next, taken, onlineAgain, flagAgain, events⟩ :=
        @exec_outage task (decide (count = 0)) online (by simp [flag])
      refine ⟨next, ?_, onlineAgain, by simp [flagAgain], ?_⟩
      · rw [outages, LabelledRun.exec, List.foldlM_append]
        rw [LabelledRun.exec] at before taken
        rw [before]
        exact taken
      · rw [events, List.count_append, counted]
        rfl

/-- The counts of every snapshot are the number of published recoveries. -/
def CountsPublished (staged : Staged) : Prop :=
  ∀ now, (staged.task.metrics.snapshot now).2.sessionCount =
      staged.published.count true ∧
    (staged.task.metrics.snapshot now).2.reconnectCount =
      staged.published.count true

/-- A snapshot between the count and the publication is one ahead, and the
counter of reconnects starts again after `2 ^ 64` recoveries. -/
theorem counts_differ :
    (∃ staged, LabelledRun.Run step start unpublishedRecovery staged ∧
      (staged.task.metrics.snapshot 0).2.reconnectCount = 1 ∧
      staged.published.count true = 0 ∧ ¬ CountsPublished staged) ∧
    ∃ staged, LabelledRun.Run step start (outages (2 ^ 64)) staged ∧
      (staged.task.metrics.snapshot 0).2.reconnectCount = 0 ∧
      staged.published.count true = 2 ^ 64 ∧ ¬ CountsPublished staged := by
  constructor
  · refine ⟨_, LabelledRun.run_of_exec_eq rfl, rfl, rfl, fun counts => ?_⟩
    have same := (counts 0).2
    cases same
  · obtain ⟨task, evaluated, _, _, published⟩ := exec_outages (2 ^ 64)
    have run := LabelledRun.run_of_exec_eq evaluated
    have shown := ((consistent_of_run run).shows 0).2
    rw [show counted ⟨task, .waiting⟩ = 0 from rfl, Nat.add_zero, published,
      Nat.mod_self] at shown
    refine ⟨_, run, shown, published, fun counts => ?_⟩
    have same := (counts 0).2
    rw [shown, published] at same
    omega

end Staged

end MonitorTask

end NetGuardian
