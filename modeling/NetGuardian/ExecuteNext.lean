import NetGuardian.Segments
import Mathlib.Data.Nat.Find

/-!
# One undisturbed call of `execute_next`

The call is followed from the dequeue to its end, whatever the work does.  It
comes to rest in one of three ways: it returns without a job, it returns with a
job that the queue no longer knows, or it blocks on the plugin mutex that it
holds itself.
-/

namespace NetGuardian

open CooperativeTasks

/-- How the polling loop is left. -/
inductive Ending where
  | timedOut
  | exited (code : Int)
  | waitFailed (error : String)
deriving DecidableEq

/-- The process has ended with a non-zero exit code. -/
def Ending.IsFailure : Ending → Prop
  | timedOut | waitFailed _ => False
  | exited code => code ≠ 0

/-- Where the loop is left to. -/
def Ending.exit (job : Job) : Ending → ExecPoint
  | timedOut => .timedOut { job with status := .failed "timeout" }
  | exited code =>
      if code = 0 then .succeeded job
      else .failed job ("exit code " ++ toString code)
  | waitFailed error =>
      .waitFailed { job with status := .failed ("process error: " ++ error) }

/-- How the world behaves during one call: the result of the spawn, the clock
reading and the result of `try_wait` in every round of the polling loop, and
arbitrary answers otherwise. -/
structure Work where
  spawned : Except String Nat
  startAt : Nat
  pollAt : Nat → Nat
  waited : Nat → Except String (Option Int)
  others : ExecPoint → Answer
  start_le : startAt ≤ pollAt 0
  spaced : ∀ round, pollAt round + Duration.fromMillis 500 ≤ pollAt (round + 1)

namespace Work

def answers (work : Work) : Frame → Answer
  | .execute point =>
      let answer := work.others point
      match point with
      | .lockPlugins _ => { answer with spawned := work.spawned }
      | .register _ _ | .track _ _ => { answer with now := work.startAt }
      | .poll _ _ round =>
          { answer with
            now := work.pollAt round.index
            waited := fun _ => work.waited round.index }
      | _ => answer
  | .control _ _ => work.others .dequeue

/-- How a round of the loop ends it, if it does. -/
def endingAt (work : Work) (round : Nat) : Option Ending :=
  if Duration.fromSecs 3600 <
      Instant.elapsed work.startAt (work.pollAt round) then some .timedOut
  else
    match work.waited round with
    | .ok (some code) => some (.exited code)
    | .ok none => none
    | .error error => some (.waitFailed error)

def Ends (work : Work) (ending : Ending) : Prop :=
  ∃ round, (∀ earlier < round, work.endingAt earlier = none) ∧
    work.endingAt round = some ending

theorem le_pollAt (work : Work) (round : Nat) :
    work.startAt + round * Duration.fromMillis 500 ≤ work.pollAt round := by
  induction round with
  | zero => simpa using work.start_le
  | succ round ih =>
      have next := work.spaced round
      rw [Nat.succ_mul]
      omega

theorem Ends.unique {work : Work} {ending other : Ending}
    (ends : work.Ends ending) (otherEnds : work.Ends other) : ending = other := by
  obtain ⟨round, quiet, ended⟩ := ends
  obtain ⟨otherRound, otherQuiet, otherEnded⟩ := otherEnds
  rcases lt_trichotomy round otherRound with before | rfl | after
  · rw [otherQuiet round before] at ended
    cases ended
  · rw [ended] at otherEnded
    exact Option.some.inj otherEnded
  · rw [quiet otherRound after] at otherEnded
    cases otherEnded

/-- The timeout bounds every call. -/
theorem exists_ends (work : Work) : ∃ ending, work.Ends ending := by
  have overdue : work.endingAt 7201 = some .timedOut := by
    have late := work.le_pollAt 7201
    have elapsed : Duration.fromSecs 3600 <
        Instant.elapsed work.startAt (work.pollAt 7201) := by
      simp only [Duration.fromSecs, Duration.fromMillis, Instant.elapsed]
        at late ⊢
      omega
    rw [endingAt, if_pos elapsed]
  have some_round : ∃ round, (work.endingAt round).isSome = true :=
    ⟨7201, by rw [overdue]; rfl⟩
  obtain ⟨ending, found⟩ := Option.isSome_iff_exists.mp (Nat.find_spec some_round)
  refine ⟨ending, Nat.find some_round, ?_, found⟩
  intro earlier before
  simpa using Nat.find_min some_round before

end Work

/-- The state of a call that runs alone after some number of segments. -/
def callState (work : Work) (system : System) (steps : Nat) : System × Frame :=
  solo executor work.answers (system, Frame.executeNext) steps

/-- The call gets to a state. -/
def Reaches (work : Work) (system : System) (after : System)
    (point : ExecPoint) : Prop :=
  ∃ steps, callState work system steps = (after, .execute point)

section Reaches

variable {work : Work} {system current after : System} {point next : ExecPoint}

theorem selfBlocked_execute_iff :
    SelfBlocked executor (.execute point) ↔
      ∃ job err, point = .failedPlugins job err := by
  cases point <;>
    simp [SelfBlocked, executor, Frame.awaits, Frame.guards, ExecPoint.awaits,
      ExecPoint.guards]

theorem reaches_start : Reaches work system system .dequeue :=
  ⟨0, rfl⟩

/-- One more segment. -/
theorem Reaches.step (here : Reaches work system current point)
    (free : ∀ job err, point ≠ .failedPlugins job err)
    (segment : executeStep (work.answers (.execute point)) current point =
      some (after, next)) : Reaches work system after next := by
  obtain ⟨steps, reached⟩ := here
  refine ⟨steps + 1, ?_⟩
  rw [callState, solo_succ]
  change soloStep executor work.answers (callState work system steps) = _
  rw [reached]
  apply soloStep_of_resume
  · rw [selfBlocked_execute_iff]
    rintro ⟨job, err, same⟩
    exact free job err same
  · change (executeStep _ current point).map _ = _
    rw [segment]
    rfl

/-- The points where a call comes to rest. -/
def ExecPoint.Final : ExecPoint → Prop
  | .returned _ | .failedPlugins _ _ => True
  | _ => False

theorem soloStep_of_final (final : point.Final) :
    soloStep executor work.answers (current, .execute point) =
      (current, .execute point) := by
  unfold soloStep
  split
  · rfl
  · next free =>
      cases point with
      | returned job => rfl
      | failedPlugins job err =>
          exact absurd (selfBlocked_execute_iff.mpr ⟨job, err, rfl⟩) free
      | _ => exact final.elim

/-- A call comes to rest in one way only. -/
theorem Reaches.final_unique (one : Reaches work system current point)
    (other : Reaches work system after next) (final : point.Final)
    (otherFinal : next.Final) : current = after ∧ point = next := by
  obtain ⟨first, atOne⟩ := one
  obtain ⟨second, atOther⟩ := other
  have same := solo_stuck_unique atOne atOther (soloStep_of_final final)
    (soloStep_of_final otherFinal)
  simpa using same

/-- One more round of the loop. -/
theorem Reaches.poll {job : Job} {process : ManagedProcess}
    {round : PollRound}
    (here : Reaches work system current (.poll job process round))
    (leads : (pollStep (work.answers (.execute (.poll job process round)))
      current job process round).2 = next) :
    ∃ after, Reaches work system after next :=
  ⟨_, leads ▸ here.step (by simp) rfl⟩

/-- The points of the polling loop. -/
def ExecPoint.InLoop : ExecPoint → Prop
  | .poll _ _ _ | .updateDownload _ _ _ _ => True
  | _ => False

/-- A round that does not end the loop leads to the next one, and keeps whatever
the segments inside the loop keep. -/
theorem reaches_next_round {Keep : System → ExecPoint → Prop}
    (kept : ∀ {answer before point after next},
      executeStep answer before point = some (after, next) →
        point.InLoop → next.InLoop → Keep before point → Keep after next)
    {job : Job} {process : ManagedProcess} {lastProgress : ℚ} {round : Nat}
    (here : Reaches work system current
      (.poll job process ⟨work.startAt, lastProgress, round⟩))
    (keeps : Keep current (.poll job process ⟨work.startAt, lastProgress, round⟩))
    (quiet : work.endingAt round = none) :
    ∃ after polled progress, Reaches work system after
        (.poll polled process ⟨work.startAt, progress, round + 1⟩) ∧
      Keep after (.poll polled process ⟨work.startAt, progress, round + 1⟩) := by
  unfold Work.endingAt at quiet
  split at quiet
  · cases quiet
  · next early =>
      have running : work.waited round = .ok none := by
        split at quiet
        · cases quiet
        · assumption
        · cases quiet
      have leads := @pollStep_of_running
        (work.answers (.execute (.poll job process
          ⟨work.startAt, lastProgress, round⟩)))
        current job process ⟨work.startAt, lastProgress, round⟩ early running
      obtain ⟨⟨after, next⟩, segment⟩ : ∃ result,
          pollStep (work.answers (.execute (.poll job process
            ⟨work.startAt, lastProgress, round⟩))) current job process
            ⟨work.startAt, lastProgress, round⟩ = result := ⟨_, rfl⟩
      have step : executeStep (work.answers (.execute (.poll job process
          ⟨work.startAt, lastProgress, round⟩))) current (.poll job process
          ⟨work.startAt, lastProgress, round⟩) = some (after, next) :=
        congrArg some segment
      rw [segment] at leads
      dsimp only at leads
      split at leads
      · subst leads
        have updated := here.step (by simp) step
        exact ⟨_, _, _, updated.step (by simp) rfl,
          @kept plainAnswer after (.updateDownload _ _ _ _) _ _ rfl trivial
            trivial (kept step trivial trivial keeps)⟩
      · subst leads
        exact ⟨_, _, _, here.step (by simp) step,
          kept step trivial trivial keeps⟩

/-- The loop goes on to any round before which it does not end. -/
theorem reaches_round_keeping {Keep : System → ExecPoint → Prop}
    (kept : ∀ {answer before point after next},
      executeStep answer before point = some (after, next) →
        point.InLoop → next.InLoop → Keep before point → Keep after next)
    {job : Job} {process : ManagedProcess} (round : Nat)
    (here : Reaches work system current
      (.poll job process (.begin work.startAt)))
    (initially : Keep current (.poll job process (.begin work.startAt)))
    (quiet : ∀ earlier < round, work.endingAt earlier = none) :
    ∃ after polled lastProgress, Reaches work system after
        (.poll polled process ⟨work.startAt, lastProgress, round⟩) ∧
      Keep after (.poll polled process ⟨work.startAt, lastProgress, round⟩) := by
  induction round with
  | zero => exact ⟨current, job, 0, here, initially⟩
  | succ round ih =>
      obtain ⟨before, polled, lastProgress, atRound, keeps⟩ :=
        ih fun earlier below => quiet earlier (Nat.lt_succ_of_lt below)
      exact reaches_next_round kept atRound keeps
        (quiet round (Nat.lt_succ_self round))

/-- The round that ends the loop, with what was kept up to it. -/
theorem reaches_last_round {Keep : System → ExecPoint → Prop}
    (kept : ∀ {answer before point after next},
      executeStep answer before point = some (after, next) →
        point.InLoop → next.InLoop → Keep before point → Keep after next)
    {job : Job} {process : ManagedProcess} {ending : Ending}
    (here : Reaches work system current
      (.poll job process (.begin work.startAt)))
    (initially : Keep current (.poll job process (.begin work.startAt)))
    (ends : work.Ends ending) :
    ∃ before polled round, Reaches work system before
        (.poll polled process round) ∧
      Keep before (.poll polled process round) ∧
      (pollStep (work.answers (.execute (.poll polled process round))) before
        polled process round).2 = ending.exit polled := by
  obtain ⟨round, quiet, ended⟩ := ends
  obtain ⟨before, polled, lastProgress, atRound, keeps⟩ :=
    reaches_round_keeping kept round here initially quiet
  refine ⟨before, polled, _, atRound, keeps, ?_⟩
  unfold Work.endingAt at ended
  split at ended
  · next late =>
      cases ended
      exact pollStep_of_late late
  · next early =>
      split at ended
      · next code exited =>
          cases ended
          exact pollStep_of_exited early exited
      · cases ended
      · next error erred =>
          cases ended
          exact pollStep_of_erred early erred

/-- From the loop on, a call blocks on itself after a non-zero exit, and
returns otherwise. -/
theorem reaches_end {job : Job} {process : ManagedProcess} {ending : Ending}
    (here : Reaches work system current
      (.poll job process (.begin work.startAt)))
    (ends : work.Ends ending) :
    (ending.IsFailure ∧
        ∃ after job err, Reaches work system after (.failedPlugins job err)) ∨
      (¬ ending.IsFailure ∧
        ∃ after job, Reaches work system after (.returned (some job))) := by
  obtain ⟨before, polled, round, atRound, _, leads⟩ :=
    @reaches_last_round work system current (fun _ _ => True)
      (fun _ _ _ _ => trivial) job process ending here trivial ends
  obtain ⟨after, polling⟩ := atRound.poll leads
  cases ending with
  | timedOut =>
      have cleanup := polling.step (by simp [Ending.exit]) rfl
      exact .inr ⟨id, _, _, cleanup.step (by simp) rfl⟩
  | exited code =>
      rw [Ending.exit] at polling
      split at polling
      · next success =>
          have queued := polling.step (by simp) rfl
          have downloaded := queued.step (by simp) rfl
          have cleanup := downloaded.step (by simp) rfl
          exact .inr ⟨not_not_intro success, _, _,
            cleanup.step (by simp) rfl⟩
      · next failure =>
          exact .inl ⟨failure, _, _, _, polling.step (by simp) rfl⟩
  | waitFailed error =>
      have cleanup := polling.step (by simp [Ending.exit]) rfl
      exact .inr ⟨id, _, _, cleanup.step (by simp) rfl⟩

/-- A job whose process has been started reaches the polling loop. -/
theorem reaches_loop {job : Job} {rest : QueueManager} {pid : Nat}
    (taken : system.queue.dequeue = some (job, rest))
    (known : system.plugins.has job.plugin = true)
    (started : work.spawned = .ok pid) :
    ∃ after process, Reaches work system after
      (.poll job process (.begin work.startAt)) := by
  have dequeued : Reaches work system _ (.lockPlugins job) :=
    reaches_start.step (by simp) (by rw [executeStep, taken])
  have spawned := dequeued.step (by simp) (lockPlugins_of_spawned known started)
  by_cases download : job.command = "curl" ∨ job.command = "wget"
  · have registered := spawned.step (by simp)
      (by rw [executeStep, if_pos download])
    exact ⟨_, _, registered.step (by simp) rfl⟩
  · have registered := spawned.step (by simp)
      (by rw [executeStep, if_neg download])
    exact ⟨_, _, registered⟩

end Reaches

/-- A job is waiting, its process is started, and the process ends with a
non-zero exit code. -/
def WorkFails (work : Work) (system : System) : Prop :=
  ∃ job rest pid ending, system.queue.dequeue = some (job, rest) ∧
    system.plugins.has job.plugin = true ∧ work.spawned = .ok pid ∧
    work.Ends ending ∧ ending.IsFailure

section Outcome

variable {work : Work} {system : System}

theorem reaches_returned_none (empty : system.queue.dequeue = none) :
    Reaches work system system (.returned none) :=
  reaches_start.step (by simp) (by rw [executeStep, empty])

/-- How a call that dequeues a job comes to rest. -/
theorem reaches_final {job : Job} {rest : QueueManager}
    (taken : system.queue.dequeue = some (job, rest)) :
    (WorkFails work system ∧
        ∃ after job err, Reaches work system after (.failedPlugins job err)) ∨
      (¬ WorkFails work system ∧
        ∃ after job, Reaches work system after (.returned (some job))) := by
  have dequeued : Reaches work system _ (.lockPlugins job) :=
    reaches_start.step (by simp) (by rw [executeStep, taken])
  cases known : system.plugins.has job.plugin with
  | false =>
      right
      have missing := dequeued.step (by simp) (lockPlugins_of_unknown known)
      refine ⟨?_, _, _, missing.step (by simp) rfl⟩
      rintro ⟨other, _, _, _, takenOther, knownOther, _⟩
      rw [taken] at takenOther
      cases takenOther
      rw [known] at knownOther
      cases knownOther
  | true =>
      cases started : work.spawned with
      | error error =>
          right
          have spawnFailed :=
            dequeued.step (by simp) (lockPlugins_of_error known started)
          refine ⟨?_, _, _, spawnFailed.step (by simp) rfl⟩
          rintro ⟨_, _, _, _, _, _, startedOther, _⟩
          rw [started] at startedOther
          cases startedOther
      | ok pid =>
          obtain ⟨before, process, polling⟩ := reaches_loop taken known started
          obtain ⟨ending, ends⟩ := work.exists_ends
          rcases reaches_end polling ends with
            ⟨failure, blocked⟩ | ⟨success, returned⟩
          · exact .inl ⟨⟨job, rest, pid, ending, taken, known, started, ends,
              failure⟩, blocked⟩
          · refine .inr ⟨?_, returned⟩
            rintro ⟨_, _, _, other, _, _, _, otherEnds, failure⟩
            rw [ends.unique otherEnds] at success
            exact success failure

end Outcome

end NetGuardian
