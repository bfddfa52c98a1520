import NetGuardian.EventBus
import NetGuardian.MetricsStore
import NetGuardian.RuleEngine
import Mathlib.Data.List.Induction

/-!
# The monitor task

The daemon's monitor task polls the network and tells the metrics about changes
of the connectivity only.  Both sides remember whether they were online last:
the task starts with `true`, the metrics start with `false`.  A daemon that
starts while the network is up reports nothing until the first outage.

Other tasks of the daemon record operations and retries, take snapshots and
publish events in between.
-/

namespace NetGuardian

/-- A sample as the metrics keep it.  Polls report finite numbers. -/
def F64.sample : F64 → ℚ
  | .finite value => value
  | .infinity | .negInfinity | .nan => 0

/-- One poll: its result (`none` if `collect_network_status` failed) and the
clock readings of the iteration. -/
structure Poll where
  result : Option NetworkStatus
  recordedAt : Nat
  evaluatedAt : Nat
  stamp : Nat

/-- What the task makes of a failed poll. -/
def NetworkStatus.unreachable : NetworkStatus where
  status := .offline
  latencyMs := .finite 0
  packetLossPct := .finite 100
  dnsHealthy := false
  gatewayReachable := false
  interfaces := []

def Poll.status (poll : Poll) : NetworkStatus :=
  poll.result.getD .unreachable

def NetworkStatus.isOnline (status : NetworkStatus) : Bool :=
  status.status = .online

/-- The monitor task with the metrics and the bus that it shares. -/
structure MonitorTask where
  metrics : MetricsStore
  bus : EventBus
  ruleEngine : RuleEngine
  wasOnline : Bool

namespace MonitorTask

def start : MonitorTask where
  metrics := .new
  bus := .new
  ruleEngine := RuleEngine.new.loadDefaults
  wasOnline := true

/-- The event of a recovery. -/
def recovered (status : NetworkStatus) : NetGuardianEvent :=
  .internetRecovered
    { latencyMs := status.latencyMs
      packetLossPct := status.packetLossPct
      dnsHealthy := status.dnsHealthy
      jitterMs := none
      bandwidthKbps := none }

/-- The part of an iteration that compares the status with the last one. -/
def report (task : MonitorTask) (status : NetworkStatus) (now : Nat) :
    MonitorTask :=
  if status.isOnline && !task.wasOnline then
    { task with
      metrics := task.metrics.recordOnline now
      bus := task.bus.publish (recovered status) }
  else if !status.isOnline && task.wasOnline then
    { task with
      metrics := task.metrics.recordOffline now
      bus := task.bus.publish .internetLost }
  else task

/-- One iteration of the loop of the monitor task. -/
def iterate (task : MonitorTask) (poll : Poll) : MonitorTask :=
  let status := poll.status
  let sampled :=
    { task with
      metrics := task.metrics.recordConnectivity status.latencyMs.sample
        status.packetLossPct.sample }
  let reported := sampled.report status poll.recordedAt
  { reported with
    ruleEngine := (reported.ruleEngine.evaluate
      ⟨poll.evaluatedAt, poll.stamp, status⟩).1
    wasOnline := status.isOnline }

end MonitorTask

/-- An iteration of the monitor task, or what another task of the daemon does to
the metrics and to the bus. -/
inductive MonitorEvent where
  | poll (poll : Poll)
  | recordOperation (now : Nat) (plugin description : String) (success : Bool)
      (retries : Nat)
  | recordRetry (now : Nat)
  | snapshot (now : Nat)
  | publish (event : NetGuardianEvent)

namespace MonitorTask

def apply (task : MonitorTask) : MonitorEvent → MonitorTask
  | .poll poll => task.iterate poll
  | .recordOperation now plugin description success retries =>
      { task with
        metrics := { task.metrics with
          toMetricsEngine := task.metrics.toMetricsEngine.recordOperation now
            plugin description success retries } }
  | .recordRetry now =>
      { task with
        metrics := { task.metrics with
          toMetricsEngine := task.metrics.toMetricsEngine.recordRetry now } }
  | .snapshot now => { task with metrics := (task.metrics.snapshot now).1 }
  | .publish event => { task with bus := task.bus.publish event }

/-- The task after a sequence of events since start-up. -/
def after (events : List MonitorEvent) : MonitorTask :=
  events.foldl apply start

theorem after_append (events : List MonitorEvent) (event : MonitorEvent) :
    after (events ++ [event]) = (after events).apply event := by
  simp [after]

/-- The statuses polled so far: was the network online? -/
def polled (events : List MonitorEvent) : List Bool :=
  events.filterMap fun
    | .poll poll => some poll.status.isOnline
    | _ => none

/-- The network has gone from not online to online. -/
def recovers (polls : List Bool) : Bool :=
  (polls.dropWhile id).any id

/-- No period online or offline has begun or is accounted for. -/
structure NothingCounted (metrics : MetricsStore) : Prop where
  offline : metrics.isOnline = false
  lastOnline : metrics.lastOnline = none
  lastOffline : metrics.lastOffline = none
  totalUptime : metrics.totalUptime = 0
  totalDowntime : metrics.totalDowntime = 0

section Flags

theorem recovers_append (polls : List Bool) (online : Bool) :
    recovers (polls ++ [online]) =
      (recovers polls || online && polls.any (!·)) := by
  induction polls with
  | nil => cases online <;> rfl
  | cons first polls ih =>
      cases first with
      | true => simpa [recovers] using ih
      | false => simp [recovers]

/-- Only polls touch the two flags. -/
structure Follows (polls : List Bool) (task : MonitorTask) : Prop where
  remembered : task.wasOnline = polls.getLast?.getD true
  recorded : task.metrics.isOnline = (task.wasOnline && polls.any (!·))
  uncounted : recovers polls = false → NothingCounted task.metrics

variable {polls : List Bool} {task : MonitorTask}

theorem Follows.outage (follows : task.Follows polls)
    (wasOffline : task.wasOnline = false) : polls.any (!·) = true := by
  have last := follows.remembered
  rw [wasOffline] at last
  cases found : polls.getLast? with
  | none =>
      rw [found] at last
      cases last
  | some online =>
      rw [found, Option.getD_some] at last
      have member := List.mem_of_getLast? found
      exact List.any_eq_true.mpr ⟨online, member, by rw [← last]; rfl⟩

theorem NothingCounted.recordOffline {metrics : MetricsStore}
    (uncounted : NothingCounted metrics) (now : Nat) :
    NothingCounted (metrics.recordOffline now) := by
  rw [MetricsStore.recordOffline, uncounted.offline]
  exact uncounted

theorem NothingCounted.snapshot {metrics : MetricsStore}
    (uncounted : NothingCounted metrics) (now : Nat) :
    NothingCounted (metrics.snapshot now).1 := by
  have unchanged : metrics.refreshTotals now = metrics := by
    simp [MetricsStore.refreshTotals, uncounted.offline, uncounted.lastOffline]
  change NothingCounted (metrics.refreshTotals now)
  rw [unchanged]
  exact uncounted

theorem recordOnline_isOnline (metrics : MetricsStore) (now : Nat) :
    (metrics.recordOnline now).isOnline = true := by
  unfold MetricsStore.recordOnline
  split
  · next online => exact online
  · rfl

theorem recordOffline_isOnline (metrics : MetricsStore) (now : Nat) :
    (metrics.recordOffline now).isOnline = false := by
  unfold MetricsStore.recordOffline
  split
  · rfl
  · next offline => exact Bool.eq_false_iff.mpr offline

/-- A poll leaves the flags as the polls say. -/
theorem Follows.iterate (follows : task.Follows polls) (poll : Poll) :
    (task.iterate poll).Follows (polls ++ [poll.status.isOnline]) := by
  let sampled := task.metrics.recordConnectivity poll.status.latencyMs.sample
    poll.status.packetLossPct.sample
  have uncounted : recovers polls = false → NothingCounted sampled := by
    intro silent
    obtain ⟨offline, online, lastOffline, uptime, downtime⟩ :=
      follows.uncounted silent
    exact ⟨offline, online, lastOffline, uptime, downtime⟩
  have recorded : sampled.isOnline = (task.wasOnline && polls.any (!·)) :=
    follows.recorded
  have reported : (task.iterate poll).metrics =
      if poll.status.isOnline && !task.wasOnline then
        sampled.recordOnline poll.recordedAt
      else if !poll.status.isOnline && task.wasOnline then
        sampled.recordOffline poll.recordedAt
      else sampled := by
    simp only [MonitorTask.iterate, report]
    split
    · rfl
    · split <;> rfl
  constructor
  · simp [MonitorTask.iterate]
  · change (task.iterate poll).metrics.isOnline =
      (poll.status.isOnline && (polls ++ [poll.status.isOnline]).any (!·))
    rw [reported, List.any_append]
    cases online : poll.status.isOnline with
    | true =>
        cases was : task.wasOnline with
        | true => simp [recorded, was]
        | false => simp [recordOnline_isOnline, follows.outage was]
    | false =>
        cases was : task.wasOnline with
        | true => simp [recordOffline_isOnline]
        | false => simp [recorded, was]
  · intro silent
    rw [recovers_append, Bool.or_eq_false_iff] at silent
    rw [reported]
    split
    · next edge =>
        rw [Bool.and_eq_true, Bool.not_eq_true'] at edge
        rw [edge.1, follows.outage edge.2] at silent
        cases silent.2
    · split
      · exact (uncounted silent.1).recordOffline poll.recordedAt
      · exact uncounted silent.1

/-- What other tasks do leaves the flags alone and counts no time. -/
theorem Follows.other (follows : task.Follows polls) {next : MonitorTask}
    (remembered : next.wasOnline = task.wasOnline)
    (recorded : next.metrics.isOnline = task.metrics.isOnline)
    (uncounted : NothingCounted task.metrics → NothingCounted next.metrics) :
    next.Follows polls where
  remembered := remembered.trans follows.remembered
  recorded := by
    rw [recorded, remembered]
    exact follows.recorded
  uncounted silent := uncounted (follows.uncounted silent)

theorem follows_after (events : List MonitorEvent) :
    (after events).Follows (polled events) := by
  induction events using List.reverseRecOn with
  | nil => exact ⟨rfl, rfl, fun _ => ⟨rfl, rfl, rfl, rfl, rfl⟩⟩
  | append_singleton events event ih =>
      rw [after_append, polled, List.filterMap_append]
      cases event with
      | poll poll => exact ih.iterate poll
      | snapshot now =>
          rw [List.filterMap_cons_none rfl, List.filterMap_nil, List.append_nil]
          refine ih.other rfl ?_ fun uncounted => uncounted.snapshot now
          change ((after events).metrics.refreshTotals now).isOnline = _
          unfold MetricsStore.refreshTotals
          split <;> split <;> rfl
      | recordOperation now plugin description success retries =>
          rw [List.filterMap_cons_none rfl, List.filterMap_nil, List.append_nil]
          exact ih.other rfl rfl fun uncounted =>
            ⟨uncounted.offline, uncounted.lastOnline, uncounted.lastOffline,
              uncounted.totalUptime, uncounted.totalDowntime⟩
      | recordRetry now =>
          rw [List.filterMap_cons_none rfl, List.filterMap_nil, List.append_nil]
          exact ih.other rfl rfl fun uncounted =>
            ⟨uncounted.offline, uncounted.lastOnline, uncounted.lastOffline,
              uncounted.totalUptime, uncounted.totalDowntime⟩
      | publish event =>
          rw [List.filterMap_cons_none rfl, List.filterMap_nil, List.append_nil]
          exact ih.other rfl rfl id

end Flags

/-- After every iteration the metrics' flag says whether the last poll found the
network online. -/
def FlagsAgree (events : List MonitorEvent) : Prop :=
  ∀ earlier later, events = earlier ++ later →
    ∀ online, (polled earlier).getLast? = some online →
      (after earlier).metrics.isOnline = online

/-- No period is counted until the network has recovered from an outage. -/
def UncountedUntilRecovery (events : List MonitorEvent) : Prop :=
  ∀ earlier later, events = earlier ++ later →
    recovers (polled earlier) = false → NothingCounted (after earlier).metrics

/-- After every iteration a period of the kind that the last poll found has begun, so
that its time is counted. -/
def CountedFromFirstPoll (events : List MonitorEvent) : Prop :=
  ∀ earlier later, events = earlier ++ later →
    ((polled earlier).getLast? = some true →
        (after earlier).metrics.lastOnline ≠ none) ∧
      ((polled earlier).getLast? = some false →
        (after earlier).metrics.lastOffline ≠ none)

section Agreement

variable {events : List MonitorEvent}

/-- A run with a poll has been in a state in which it was the only one. -/
theorem exists_first_poll {online : Bool} {rest : List Bool}
    (polls : polled events = online :: rest) :
    ∃ earlier later, events = earlier ++ later ∧ polled earlier = [online] := by
  obtain ⟨before, event, later, split, silent, found, _⟩ :=
    List.filterMap_eq_cons_iff.mp polls
  refine ⟨before ++ [event], later, by simp [split], ?_⟩
  rw [polled, List.filterMap_append, List.filterMap_eq_nil_iff.mpr silent]
  simp [found]

/-- The flags agree exactly in the runs whose first poll does not find the
network online. -/
theorem flagsAgree_iff_first :
    FlagsAgree events ↔ (polled events).head? ≠ some true := by
  constructor
  · intro agree startsOnline
    obtain ⟨rest, polls⟩ := List.head?_eq_some_iff.mp startsOnline
    obtain ⟨earlier, later, split, first⟩ := exists_first_poll polls
    have flag := (follows_after earlier).recorded
    rw [first] at flag
    have onlineAfter := agree earlier later split true (by rw [first]; rfl)
    rw [flag] at onlineAfter
    simp at onlineAfter
  · intro startsElsewhere earlier later split online last
    have follows := follows_after earlier
    have was : (after earlier).wasOnline = online := by
      rw [follows.remembered, last, Option.getD_some]
    have outage : (polled earlier).any (!·) = true := by
      cases polls : polled earlier with
      | nil =>
          rw [polls] at last
          cases last
      | cons first rest =>
          have whole : polled events = first :: rest ++ polled later := by
            rw [split, polled, List.filterMap_append, ← polled, ← polled, polls]
          rw [whole] at startsElsewhere
          cases first with
          | true => exact absurd rfl startsElsewhere
          | false => rfl
    rw [follows.recorded, was, outage, Bool.and_true]

/-- No first poll begins a period: an online one is no change for the task, an
offline one is none for the metrics. -/
theorem countedFromFirstPoll_iff :
    CountedFromFirstPoll events ↔ polled events = [] := by
  constructor
  · intro counted
    cases polls : polled events with
    | nil => rfl
    | cons online rest =>
        obtain ⟨earlier, later, split, first⟩ := exists_first_poll polls
        have silent : recovers (polled earlier) = false := by
          rw [first]
          cases online <;> rfl
        have uncounted := (follows_after earlier).uncounted silent
        obtain ⟨up, down⟩ := counted earlier later split
        rw [first] at up down
        cases online with
        | true => exact absurd uncounted.lastOnline (up rfl)
        | false => exact absurd uncounted.lastOffline (down rfl)
  · intro unpolled earlier later split
    have none : polled earlier = [] := by
      have whole : polled earlier ++ polled later = [] := by
        rw [← unpolled, split, polled, polled, polled, List.filterMap_append]
      exact (List.append_eq_nil_iff.mp whole).1
    rw [none]
    simp

end Agreement

/-- The monitor task and the metrics agree on the connectivity, and time is counted
from the first poll on, exactly in the runs without a poll.  The flags alone agree
exactly if the first poll does not find the network online; the time is counted from
the first poll on in no run with a poll, and in none before the first recovery. -/
theorem flagsAgree_iff (events : List MonitorEvent) :
    (FlagsAgree events ∧ CountedFromFirstPoll events ↔ polled events = []) ∧
      (FlagsAgree events ↔ (polled events).head? ≠ some true) ∧
      (CountedFromFirstPoll events ↔ polled events = []) ∧
      UncountedUntilRecovery events := by
  refine ⟨⟨?_, ?_⟩, flagsAgree_iff_first, countedFromFirstPoll_iff, ?_⟩
  · rintro ⟨-, counted⟩
    exact countedFromFirstPoll_iff.mp counted
  · intro unpolled
    refine ⟨flagsAgree_iff_first.mpr ?_, countedFromFirstPoll_iff.mpr unpolled⟩
    simp [unpolled]
  · intro earlier later _ silent
    exact (follows_after earlier).uncounted silent

/-- The network is up at the first poll, and stays up. -/
def upFromTheStart : List MonitorEvent :=
  [.poll ⟨some ⟨.online, .finite 20, .finite 0, true, true, []⟩, 0, 0, 0⟩]

/-- The poll is online and the metrics say offline. -/
theorem upFromTheStart_flags_differ :
    polled upFromTheStart = [true] ∧
      (after upFromTheStart).metrics.isOnline = false ∧
      (after upFromTheStart).metrics.lastOnline = none ∧
      ¬ FlagsAgree upFromTheStart ∧ ¬ CountedFromFirstPoll upFromTheStart := by
  have recorded : (after upFromTheStart).metrics.isOnline = false := by rfl
  have begun : (after upFromTheStart).metrics.lastOnline = none := by rfl
  refine ⟨by decide, recorded, begun, fun agree => ?_, fun counted => ?_⟩
  · have online := agree upFromTheStart [] rfl true (by decide)
    rw [recorded] at online
    cases online
  · exact (counted upFromTheStart [] rfl).1 (by decide) begun

end MonitorTask

end NetGuardian
