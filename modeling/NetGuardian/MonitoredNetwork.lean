import NetGuardian.MonitorCommand
import NetGuardian.NetworkReport

/-!
# From the replies to the alarms

The monitor command asks the system itself in every round.  It goes on as long as
everything that has to be asked can be asked.  Twelve packets are sent in a round: the
network counts as up with eleven or twelve lines that look like a reply, or with none
if HTTP works instead, and every other round raises the alarm about lost packets.
-/

namespace NetGuardian

open Connectivity

/-- What the system answers in a round, and what the clock says in it. -/
structure ProbedRound where
  probes : NetworkProbes
  recordedAt : Nat
  evaluatedAt : Nat
  stamp : Nat
  snapshotAt : Nat
  stamps : Nat → String

namespace ProbedRound

/-- An error ends the command like a panic of the route parser does. -/
def report (round : ProbedRound) : Option NetworkReport :=
  match round.probes.collectNetworkStatus with
  | some (.ok report) => some report
  | some (.error _) | none => none

def poll (round : ProbedRound) : CommandPoll where
  poll :=
    { result := round.report.map NetworkReport.toNetworkStatus
      recordedAt := round.recordedAt
      evaluatedAt := round.evaluatedAt
      stamp := round.stamp }
  snapshotAt := round.snapshotAt
  stamps := round.stamps

def replies (round : ProbedRound) : Nat := totalReplyLines round.probes.outputs

/-- All packets but one are answered, or none is and HTTP works. -/
def reaches (round : ProbedRound) : Bool :=
  round.replies = 11 ∨ round.replies = 12 ∨
    round.replies = 0 ∧ fallbackUrls.any round.probes.http.succeeds = true

def isSlow (round : ProbedRound) : Bool :=
  match checkConnectivity round.probes.ping round.probes.http with
  | .ok (latencyMs, _) => (F64.finite 500).lt latencyMs
  | .error _ => false

def isUp (round : ProbedRound) : Bool := round.reaches && !round.isSlow

section Reports

variable {round : ProbedRound} {report : NetworkReport}

theorem report_eq_some_iff :
    round.report = some report ↔ round.probes.collectNetworkStatus = some (.ok report) := by
  rw [ProbedRound.report]
  split
  · next collected =>
      rw [collected, Option.some_inj, Option.some_inj, Except.ok.injEq]
  · next failed => simp [failed]
  · next panicked => simp [panicked]

theorem isSome_report_iff : round.report.isSome = true ↔ round.probes.Answers := by
  rw [Option.isSome_iff_exists]
  constructor
  · rintro ⟨report, reported⟩
    exact NetworkProbes.answers_of_collected (report_eq_some_iff.mp reported)
  · intro answers
    obtain ⟨report, collected⟩ := answers.collected
    exact ⟨report, report_eq_some_iff.mpr collected⟩

theorem verdict_eq_online_iff {replies : Nat} {reached : Bool} {latencyMs : F64} :
    NetworkProbes.verdict replies reached latencyMs = .online ↔
      (replies = 11 ∨ replies = 12 ∨ replies = 0 ∧ reached = true) ∧
        (F64.finite 500).lt latencyMs = false := by
  rw [NetworkProbes.verdict]
  split
  · next down =>
      refine iff_of_false (by simp) fun up => ?_
      cases reached <;> simp at down up <;> omega
  · next notDown =>
      split
      · next degraded =>
          refine iff_of_false (by simp) fun up => ?_
          rcases degraded with few | slow
          · omega
          · rw [up.2] at slow
            cases slow
      · next fine =>
          refine iff_of_true rfl
            ⟨?_, Bool.eq_false_iff.mpr fun slow => fine (.inr slow)⟩
          cases reached <;> simp at notDown fine ⊢ <;> omega

/-- What the monitor sees of a report. -/
theorem seen_of_report (countable : round.replies < 2 ^ 64)
    (reported : round.report = some report) :
    report.toNetworkStatus.isOnline = round.isUp ∧
      (F64.finite 10).lt report.packetLossPct = !round.reaches ∧
      (F64.finite 500).lt report.latencyMs = round.isSlow := by
  have collected := report_eq_some_iff.mp reported
  have described := NetworkProbes.describes_of_collected countable collected
  obtain ⟨latencyMs, packetLossPct, dns, gateway, interfaces, connected, _, _, _, rfl⟩ :=
    NetworkProbes.collect_eq_ok_iff.mp collected
  have slow : round.isSlow = (F64.finite 500).lt latencyMs := by
    rw [isSlow, connected]
  refine ⟨?_, ?_, slow.symm⟩
  · rw [NetworkStatus.isOnline, NetworkReport.toNetworkStatus, described.status,
      Bool.eq_iff_iff, decide_eq_true_iff, verdict_eq_online_iff, isUp, slow,
      Bool.and_eq_true, Bool.not_eq_true', reaches, decide_eq_true_iff]
    rfl
  · rw [Bool.eq_iff_iff, Bool.not_eq_true', reaches, decide_eq_false_iff_not]
    rcases NetworkProbes.loss_of_checked (NetworkProbes.pings_of_checked connected)
        connected with ⟨silent, rfl⟩ | ⟨totals, probed, answered, counted, rfl⟩
    · have none : round.replies = 0 := silent
      have ten : (F64.finite 10).lt (.finite 0) = false ∧
          (F64.finite 10).lt (.finite 100) = true := by decide +kernel
      cases reached : fallbackUrls.any round.probes.http.succeeds <;>
        simp [none, ten]
    · have same : round.replies = totals.succeeded := counted.symm
      rw [same] at countable ⊢
      rw [NetworkProbes.lossy_of_replies probed countable]
      omega

end Reports

end ProbedRound

namespace MonitorCommand

/-- What the command has made of the rounds in which it could ask. -/
structure ReadsNetwork (command : MonitorCommand) (asked : List ProbedRound)
    (history : List LogEntry) : Prop where
  logged : command.log = ⟨BoundedLog.newest 1000 history, 1000⟩
  noted : ownMessages history =
    (changes true (asked.map ProbedRound.isUp)).map changeMessage
  announced : command.task.bus.published.filterMap NetGuardianEvent.connectivity =
    changes true (asked.map ProbedRound.isUp)
  lossAlarms : command.task.bus.published.countP isLossAlarm =
    asked.countP fun round => !round.reaches
  latencyAlarms : command.task.bus.published.countP isLatencyAlarm =
    asked.countP ProbedRound.isSlow

section Rounds

variable {rounds : List ProbedRound} {round : ProbedRound}

theorem succeeds_poll : succeeds round.poll = round.report.isSome := by
  rw [succeeds, ProbedRound.poll, Option.isSome_map]

theorem reached_polls : reached (rounds.map ProbedRound.poll) =
    (rounds.takeWhile fun round => round.report.isSome).map ProbedRound.poll := by
  rw [reached, List.takeWhile_map]
  exact congrArg (List.map _) (congrArg (List.takeWhile · rounds)
    (funext fun round => succeeds_poll))

theorem polled (countable : round.replies < 2 ^ 64)
    (reported : round.report.isSome = true) :
    isOnline round.poll = round.isUp ∧ isLossy round.poll = !round.reaches ∧
      isSlow round.poll = round.isSlow := by
  obtain ⟨report, here⟩ := Option.isSome_iff_exists.mp reported
  obtain ⟨up, lossy, slow⟩ := ProbedRound.seen_of_report countable here
  have status : round.poll.poll.status = report.toNetworkStatus := by
    rw [Poll.status, ProbedRound.poll, here]
    rfl
  refine ⟨?_, ?_, ?_⟩
  · rw [isOnline, status, up]
  · rw [isLossy, status, ← lossy]
    rfl
  · rw [isSlow, status, ← slow]
    rfl

/-- The rounds before the first one without a report. -/
theorem exists_asked (rounds : List ProbedRound) :
    ∃ asked rest, rounds = asked ++ rest ∧
      rounds.takeWhile (fun round => round.report.isSome) = asked ∧
      (∀ round ∈ asked, round.report.isSome = true) ∧
      ∀ round, rest.head? = some round → round.report.isSome = false := by
  refine ⟨rounds.takeWhile fun round => round.report.isSome,
    rounds.dropWhile fun round => round.report.isSome,
    List.takeWhile_append_dropWhile.symm, rfl, fun round member => ?_,
    fun round first => ?_⟩
  · exact @List.mem_takeWhile_imp _ (fun round : ProbedRound => round.report.isSome) _ _
      member
  · have stops := List.head?_dropWhile_not
      (fun round : ProbedRound => round.report.isSome) rounds
    rw [first] at stops
    exact stops

/-- The command ends in the first round in which something cannot be asked; before
that, it announces and reports what the replies say. -/
theorem monitor_reads_network (rounds : List ProbedRound)
    (countable : ∀ round ∈ rounds, round.replies < 2 ^ 64) :
    ∃ asked rest history, rounds = asked ++ rest ∧
      (∀ round ∈ asked, round.probes.Answers) ∧
      (∀ round, rest.head? = some round → ¬ round.probes.Answers) ∧
      ((after (rounds.map ProbedRound.poll)).2 = none ↔ rest = []) ∧
      (after (rounds.map ProbedRound.poll)).1.ReadsNetwork asked history := by
  obtain ⟨history, keeps, _, ended⟩ := keeps_after (rounds.map ProbedRound.poll)
  obtain ⟨asked, rest, parts, askedIs, reported, stops⟩ := exists_asked rounds
  rw [reached_polls, askedIs] at keeps
  have seen := fun round (member : round ∈ asked) =>
    polled (countable round (parts ▸ List.mem_append_left rest member))
      (reported round member)
  have ups : (asked.map ProbedRound.poll).map isOnline =
      asked.map ProbedRound.isUp := by
    rw [List.map_map]
    exact List.map_congr_left fun round member => (seen round member).1
  refine ⟨asked, rest, history, parts, ?_, ?_, ?_, ?_⟩
  · exact fun round member => ProbedRound.isSome_report_iff.mp (reported round member)
  · intro round first answers
    rw [← ProbedRound.isSome_report_iff, stops round first] at answers
    cases answers
  · rw [ended, parts]
    cases rest with
    | nil =>
        refine iff_of_true (if_pos (List.all_eq_true.mpr fun poll member => ?_)) rfl
        rw [List.append_nil] at member
        obtain ⟨round, here, rfl⟩ := List.mem_map.mp member
        rw [succeeds_poll, reported round here]
    | cons first rest =>
        refine iff_of_false ?_ nofun
        rw [if_neg]
        · nofun
        · intro all
          have last := List.all_eq_true.mp all first.poll (by simp)
          rw [succeeds_poll, stops first rfl] at last
          cases last
  · exact
      { logged := keeps.logged
        noted := by rw [keeps.noted, ups]
        announced := by rw [keeps.announced, ups]
        lossAlarms := by
          rw [keeps.lossAlarms, List.countP_map]
          exact List.countP_congr fun round member => by
            rw [Function.comp_apply, (seen round member).2.1]
        latencyAlarms := by
          rw [keeps.latencyAlarms, List.countP_map]
          exact List.countP_congr fun round member => by
            rw [Function.comp_apply, (seen round member).2.2] }

/-- A round without a reply to any packet. -/
def unanswered (http : Bool) : ProbedRound where
  probes := { NetworkProbes.httpOnly with http := ⟨.ok (), fun _ => http, 20000000⟩ }
  recordedAt := 0
  evaluatedAt := 0
  stamp := 0
  snapshotAt := 0
  stamps _ := "2024-01-01T00:00:00+00:00"

theorem answers_unanswered (http : Bool) : (unanswered http).probes.Answers where
  pings _ _ := rfl
  client _ := rfl
  resolver := rfl
  gateway := ⟨(none, none), rfl, by simp⟩
  entries := ⟨["lo"], rfl⟩

/-- Without replies, the network is lost when HTTP stops working. -/
theorem monitor_reads_network_fallback :
    (after ([unanswered true, unanswered false].map ProbedRound.poll)).2 = none ∧
      (after ([unanswered true, unanswered false].map
        ProbedRound.poll)).1.task.bus.published.filterMap
          NetGuardianEvent.connectivity = [false] := by
  have silent : ∀ http, (unanswered http).replies = 0 := by
    intro http
    cases http <;> decide +kernel
  obtain ⟨asked, rest, history, parts, _, stops, ended, reads⟩ :=
    monitor_reads_network [unanswered true, unanswered false] (by simp [silent])
  have answered : rest = [] := by
    cases rest with
    | nil => rfl
    | cons first rest =>
        have member : first ∈ [unanswered true, unanswered false] := by
          rw [parts]
          simp
        rcases List.mem_pair.mp member with rfl | rfl
        · exact absurd (answers_unanswered true) (stops _ rfl)
        · exact absurd (answers_unanswered false) (stops _ rfl)
  rw [answered, List.append_nil] at parts
  refine ⟨ended.mpr answered, ?_⟩
  rw [reads.announced, ← parts]
  decide +kernel

end Rounds

end MonitorCommand

end NetGuardian
