import NetGuardian.ConnectivityEvents
import NetGuardian.EventLog
import Mathlib.Data.List.TakeWhile

/-!
# The monitor command

`cmd_monitor` polls like the monitor task of the daemon, but in the foreground: it
ends with the first poll that fails, keeps a log, reports high loss and high latency
on the bus, and prints a snapshot of the metrics after every poll.
-/

namespace NetGuardian

/-- One poll, the reading of the clock for the snapshot, and the timestamps of the
log entries of the iteration. -/
structure CommandPoll where
  poll : Poll
  snapshotAt : Nat
  stamps : Nat → String

/-- Why the command has ended. -/
inductive MonitorExit where
  | pollFailed
  | logPanicked
deriving DecidableEq

structure MonitorCommand where
  task : MonitorTask
  log : EventLog

namespace MonitorCommand

/-- The command begins with a log of at most 1000 entries. -/
def start : MonitorCommand where
  task := .start
  log := ⟨[], 1000⟩

/-- The line about a change of the connectivity. -/
def changeEntries (wasOnline : Bool) (status : NetworkStatus)
    (stamp : String) : List LogEntry :=
  if status.isOnline && !wasOnline then
    [⟨stamp, "INFO", "monitor", "Internet recovered"⟩]
  else if !status.isOnline && wasOnline then
    [⟨stamp, "WARN", "monitor", "Internet lost"⟩]
  else []

def ruleEntries (stamps : Nat → String) (evaluations : List RuleEvaluation) :
    List LogEntry :=
  evaluations.mapIdx fun index evaluation =>
    ⟨stamps (index + 1), "INFO", "rule",
      "Rule '" ++ evaluation.ruleName ++ "' triggered"⟩

/-- The reports of high loss and of high latency. -/
def alarms (status : NetworkStatus) : List NetGuardianEvent :=
  let interface := status.interfaces.head?.map InterfaceInfo.name
  (if (F64.finite 10).lt status.packetLossPct then
      [.packetLossHigh status.packetLossPct status.latencyMs interface]
    else []) ++
  if (F64.finite 500).lt status.latencyMs then
    [.latencyHigh status.latencyMs status.packetLossPct interface]
  else []

/-- One iteration of the loop. -/
def iterate (command : MonitorCommand) (poll : CommandPoll) :
    Except MonitorExit MonitorCommand :=
  match poll.poll.result with
  | none => .error .pollFailed
  | some status =>
      let task := command.task
      let sampled :=
        { task with
          metrics := task.metrics.recordConnectivity status.latencyMs.sample
            status.packetLossPct.sample }
      let reported := sampled.report status poll.poll.recordedAt
      match command.log.recordAll
          (changeEntries task.wasOnline status (poll.stamps 0)) with
      | none => .error .logPanicked
      | some noted =>
          let alarmed :=
            { reported with bus := reported.bus.publishAll (alarms status) }
          let evaluated := alarmed.ruleEngine.evaluate
            ⟨poll.poll.evaluatedAt, poll.poll.stamp, status⟩
          match noted.recordAll (ruleEntries poll.stamps evaluated.2) with
          | none => .error .logPanicked
          | some log =>
              .ok
                { task :=
                    { alarmed with
                      ruleEngine := evaluated.1
                      metrics := (alarmed.metrics.snapshot poll.snapshotAt).1
                      wasOnline := status.isOnline }
                  log := log }

/-- The command after some polls, and its end if it has come. -/
def after (polls : List CommandPoll) : MonitorCommand × Option MonitorExit :=
  polls.foldl (fun reached poll =>
    match reached.2 with
    | some _ => reached
    | none =>
        match reached.1.iterate poll with
        | .ok next => (next, none)
        | .error exit => (reached.1, some exit)) (start, none)

/-- What the monitor task and its neighbours do in one iteration. -/
def events (poll : CommandPoll) : List MonitorEvent :=
  .poll poll.poll ::
    ((alarms poll.poll.status).map .publish ++ [.snapshot poll.snapshotAt])

def succeeds (poll : CommandPoll) : Bool :=
  poll.poll.result.isSome

/-- The polls before the first one that fails. -/
def reached (polls : List CommandPoll) : List CommandPoll :=
  polls.takeWhile succeeds

def isOnline (poll : CommandPoll) : Bool :=
  poll.poll.status.isOnline

/-- The statuses that differ from the one before them. -/
def changes : Bool → List Bool → List Bool
  | _, [] => []
  | before, online :: rest =>
      (if online = before then [] else [online]) ++ changes online rest

def changeMessage (online : Bool) : String :=
  if online then "Internet recovered" else "Internet lost"

def isLossAlarm : NetGuardianEvent → Bool
  | .packetLossHigh _ _ _ => true
  | _ => false

def isLatencyAlarm : NetGuardianEvent → Bool
  | .latencyHigh _ _ _ => true
  | _ => false

def isLossy (poll : CommandPoll) : Bool :=
  (F64.finite 10).lt poll.poll.status.packetLossPct

def isSlow (poll : CommandPoll) : Bool :=
  (F64.finite 500).lt poll.poll.status.latencyMs

/-- The entries of the command itself, and not those of its rules. -/
def ownMessages (history : List LogEntry) : List String :=
  (history.filter fun entry => entry.module = "monitor").map LogEntry.message

/-- What the command has done with the polls that it has reached. -/
structure Keeps (command : MonitorCommand) (polls : List CommandPoll)
    (history : List LogEntry) : Prop where
  followed : command.task = MonitorTask.after (polls.flatMap events)
  logged : command.log = ⟨BoundedLog.newest 1000 history, 1000⟩
  noted : ownMessages history =
    (changes true (polls.map isOnline)).map changeMessage
  announced : command.task.bus.published.filterMap NetGuardianEvent.connectivity =
    changes true (polls.map isOnline)
  lossAlarms : command.task.bus.published.countP isLossAlarm = polls.countP isLossy
  latencyAlarms : command.task.bus.published.countP isLatencyAlarm =
    polls.countP isSlow

section Changes

theorem changes_append (before : Bool) (statuses : List Bool) (online : Bool) :
    changes before (statuses ++ [online]) =
      changes before statuses ++
        if online = statuses.getLast?.getD before then [] else [online] := by
  induction statuses generalizing before with
  | nil => exact List.append_nil _
  | cons first statuses ih =>
      rw [List.cons_append, changes, ih, changes, List.append_assoc,
        List.getLast?_cons, Option.getD_some]

theorem ownMessages_append (earlier later : List LogEntry) :
    ownMessages (earlier ++ later) = ownMessages earlier ++ ownMessages later := by
  simp [ownMessages]

theorem ownMessages_ruleEntries (stamps : Nat → String)
    (evaluations : List RuleEvaluation) :
    ownMessages (ruleEntries stamps evaluations) = [] := by
  have others : ∀ entry ∈ ruleEntries stamps evaluations, entry.module = "rule" := by
    intro entry member
    obtain ⟨index, _, rfl⟩ := List.mem_mapIdx.mp member
    rfl
  rw [ownMessages, List.map_eq_nil_iff, List.filter_eq_nil_iff]
  intro entry member
  rw [others entry member]
  decide

theorem ownMessages_changeEntries (wasOnline : Bool) (status : NetworkStatus)
    (stamp : String) :
    ownMessages (changeEntries wasOnline status stamp) =
      (if status.isOnline = wasOnline then [] else [status.isOnline]).map
        changeMessage := by
  cases online : status.isOnline <;> cases wasOnline <;>
    simp [changeEntries, online, ownMessages, changeMessage]

/-- The reports of high loss and of high latency are no changes of the
connectivity. -/
theorem connectivity_alarms (status : NetworkStatus) :
    (alarms status).filterMap NetGuardianEvent.connectivity = [] := by
  by_cases lossy : (F64.finite 10).lt status.packetLossPct <;>
    by_cases slow : (F64.finite 500).lt status.latencyMs <;>
      simp [alarms, lossy, slow, NetGuardianEvent.connectivity]

theorem countP_alarms (status : NetworkStatus) :
    (alarms status).countP isLossAlarm =
        (if (F64.finite 10).lt status.packetLossPct then 1 else 0) ∧
      (alarms status).countP isLatencyAlarm =
        (if (F64.finite 500).lt status.latencyMs then 1 else 0) := by
  by_cases lossy : (F64.finite 10).lt status.packetLossPct <;>
    by_cases slow : (F64.finite 500).lt status.latencyMs <;>
      simp [alarms, lossy, slow, List.countP_cons, isLossAlarm, isLatencyAlarm]

end Changes

section Iteration

variable {command : MonitorCommand} {poll : CommandPoll} {status : NetworkStatus}

theorem foldl_publish (task : MonitorTask) (published : List NetGuardianEvent) :
    (published.map MonitorEvent.publish).foldl MonitorTask.apply task =
      { task with bus := task.bus.publishAll published } := by
  induction published generalizing task with
  | nil => simp [EventBus.publishAll]
  | cons event published ih =>
      rw [List.map_cons, List.foldl_cons, ih]
      simp [MonitorTask.apply, EventBus.publish, EventBus.publishAll]

/-- The events of an iteration: the task's own, the alarms and the snapshot. -/
theorem foldl_events (task : MonitorTask) (poll : CommandPoll) :
    (events poll).foldl MonitorTask.apply task =
      { task.iterate poll.poll with
        bus := (task.iterate poll.poll).bus.publishAll (alarms poll.poll.status)
        metrics := ((task.iterate poll.poll).metrics.snapshot poll.snapshotAt).1 } := by
  rw [events, List.foldl_cons, List.foldl_append, foldl_publish]
  rfl

/-- An iteration with a poll that succeeds does to the shared state what the
events say, and appends its entries to the log. -/
theorem iterate_of_result {history : List LogEntry}
    (logged : command.log = ⟨BoundedLog.newest 1000 history, 1000⟩)
    (result : poll.poll.result = some status) :
    ∃ evaluations, command.iterate poll = .ok
      { task := (events poll).foldl MonitorTask.apply command.task
        log := ⟨BoundedLog.newest 1000 (history ++
          changeEntries command.task.wasOnline status (poll.stamps 0) ++
            ruleEntries poll.stamps evaluations), 1000⟩ } := by
  have polled : poll.poll.status = status := by rw [Poll.status, result]; rfl
  rw [foldl_events, iterate, result]
  simp only [logged, EventLog.recordAll_newest (by decide : 0 < 1000)]
  rw [MonitorTask.iterate, polled]
  exact ⟨_, rfl⟩

theorem iterate_of_failure (failed : poll.poll.result = none) :
    command.iterate poll = .error .pollFailed := by
  rw [iterate, failed]

/-- What an iteration publishes. -/
theorem published_events (task : MonitorTask) (poll : CommandPoll) :
    ∃ change, ((events poll).foldl MonitorTask.apply task).bus.published =
        task.bus.published ++ (change ++ alarms poll.poll.status) ∧
      change.filterMap NetGuardianEvent.connectivity =
        (if isOnline poll = task.wasOnline then [] else [isOnline poll]) ∧
      change.countP isLossAlarm = 0 ∧ change.countP isLatencyAlarm = 0 := by
  rw [foldl_events]
  cases online : poll.poll.status.isOnline <;> cases was : task.wasOnline
  case false.false | true.true =>
    exact ⟨[], by simp [EventBus.publishAll, MonitorTask.iterate,
      MonitorTask.report, online, was], by simp [isOnline, online], rfl, rfl⟩
  case false.true =>
    exact ⟨[.internetLost], by simp [EventBus.publishAll, EventBus.publish,
      MonitorTask.iterate, MonitorTask.report, online, was],
      by simp [isOnline, online, NetGuardianEvent.connectivity], rfl, rfl⟩
  case true.false =>
    exact ⟨[MonitorTask.recovered poll.poll.status], by simp [EventBus.publishAll,
      EventBus.publish, MonitorTask.iterate, MonitorTask.report, online, was],
      by simp [isOnline, online, NetGuardianEvent.connectivity,
        MonitorTask.recovered], rfl, rfl⟩

theorem Keeps.iterate {polls : List CommandPoll} {history : List LogEntry}
    (keeps : command.Keeps polls history)
    (remembers : command.task.wasOnline =
      (polls.map isOnline).getLast?.getD true)
    (result : poll.poll.result = some status) :
    ∃ next history, command.iterate poll = .ok next ∧
      next.Keeps (polls ++ [poll]) history ∧
      next.task.wasOnline = ((polls ++ [poll]).map isOnline).getLast?.getD true := by
  have polled : poll.poll.status = status := by rw [Poll.status, result]; rfl
  obtain ⟨evaluations, taken⟩ := iterate_of_result keeps.logged result
  obtain ⟨change, published, connectivity, noLoss, noLatency⟩ :=
    published_events command.task poll
  have change_status : status.isOnline = isOnline poll := by rw [isOnline, polled]
  have statuses : changes true ((polls ++ [poll]).map isOnline) =
      changes true (polls.map isOnline) ++
        if isOnline poll = command.task.wasOnline then [] else [isOnline poll] := by
    rw [List.map_append, List.map_singleton, changes_append, remembers]
  refine ⟨_, _, taken, ⟨?_, rfl, ?_, ?_, ?_, ?_⟩, ?_⟩
  · rw [MonitorTask.after, List.flatMap_append, List.foldl_append,
      List.flatMap_singleton, ← MonitorTask.after, ← keeps.followed]
  · rw [ownMessages_append, ownMessages_append, ownMessages_ruleEntries,
      List.append_nil, keeps.noted, ownMessages_changeEntries, change_status,
      statuses, List.map_append]
  · rw [published, List.filterMap_append, List.filterMap_append,
      connectivity_alarms, List.append_nil, keeps.announced, connectivity, statuses]
  · rw [published, List.countP_append, List.countP_append, noLoss, keeps.lossAlarms,
      (countP_alarms _).1, Nat.zero_add, List.countP_append, List.countP_singleton]
    rfl
  · rw [published, List.countP_append, List.countP_append, noLatency,
      keeps.latencyAlarms, (countP_alarms _).2, Nat.zero_add, List.countP_append,
      List.countP_singleton]
    rfl
  · rw [foldl_events]
    simp [MonitorTask.iterate, isOnline]

end Iteration

section Runs

theorem after_append (polls : List CommandPoll) (poll : CommandPoll) :
    after (polls ++ [poll]) =
      match (after polls).2 with
      | some _ => after polls
      | none =>
          match (after polls).1.iterate poll with
          | .ok next => (next, none)
          | .error exit => ((after polls).1, some exit) := by
  rw [after, List.foldl_append, ← after]
  rfl

theorem keeps_start : start.Keeps [] [] :=
  ⟨rfl, rfl, rfl, rfl, rfl, rfl⟩

theorem reached_append (polls : List CommandPoll) (poll : CommandPoll) :
    reached (polls ++ [poll]) =
      if polls.all succeeds then
        if succeeds poll then polls ++ [poll] else polls
      else reached polls := by
  by_cases all : polls.all succeeds
  · rw [reached, List.takeWhile_append_of_pos (List.all_eq_true.mp all), if_pos all]
    cases outcome : succeeds poll <;> simp [outcome]
  · have stops : (polls.takeWhile succeeds).length ≠ polls.length := by
      intro same
      have whole := (List.takeWhile_prefix succeeds).eq_of_length same
      exact all (List.all_eq_true.mpr (List.takeWhile_eq_self_iff.mp whole))
    rw [reached, List.takeWhile_append, if_neg stops, if_neg all]
    rfl

theorem keeps_after (polls : List CommandPoll) :
    ∃ history, (after polls).1.Keeps (reached polls) history ∧
      (after polls).1.task.wasOnline =
        ((reached polls).map isOnline).getLast?.getD true ∧
      (after polls).2 = if polls.all succeeds then none else some .pollFailed := by
  induction polls using List.reverseRecOn with
  | nil => exact ⟨[], keeps_start, rfl, rfl⟩
  | append_singleton polls poll ih =>
      obtain ⟨history, keeps, remembers, ended⟩ := ih
      rw [after_append, reached_append, ended, List.all_append]
      by_cases all : polls.all succeeds
      · have whole : reached polls = polls :=
          List.takeWhile_eq_self_iff.mpr (List.all_eq_true.mp all)
        rw [whole] at keeps remembers
        rw [if_pos all, if_pos all, all, Bool.true_and]
        cases result : poll.poll.result with
        | none =>
            have failing : succeeds poll = false := by rw [succeeds, result]; rfl
            simp only [iterate_of_failure result]
            rw [List.all_cons, failing]
            exact ⟨history, keeps, remembers, rfl⟩
        | some status =>
            have succeeding : succeeds poll = true := by rw [succeeds, result]; rfl
            obtain ⟨command, longer, taken, kept, last⟩ :=
              keeps.iterate remembers result
            simp only [taken]
            rw [List.all_cons, succeeding]
            exact ⟨longer, kept, last, rfl⟩
      · rw [if_neg all, if_neg all, Bool.eq_false_iff.mpr all, Bool.false_and]
        exact ⟨history, keeps, remembers, ended.trans (if_neg all)⟩

end Runs

end MonitorCommand

end NetGuardian
