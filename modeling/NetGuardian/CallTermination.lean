import NetGuardian.Foundation.RankedLocks
import NetGuardian.SelfDeadlock

/-!
# How calls come to an end

The mutexes of the executor have an order that all calls respect, except for the one
that waits for the plugin manager that it holds.  The polling loop is left after an
hour, so that a call has a bounded number of segments.  Hence any number of calls
come to an end, in any interleaving, unless a process fails.
-/

namespace NetGuardian

open CooperativeTasks LabelledRun

/-- Methods of the other stores are called while the two long guards are alive. -/
def Mutex.rank : Mutex → Nat
  | plugins => 0
  | orchestrator => 1
  | queue | downloads | processes => 2

/-- A bound on the segments that a call of `execute_next` still has before it.  A poll
may be followed by an update of the download. -/
def ExecPoint.segmentsLeft : ExecPoint → Nat
  | returned _ => 0
  | missing _ | spawnFailed _ _ | cleanup _ => 1
  | timedOut _ | waitFailed _ | completeDownload _ | failedDownload _ _ => 2
  | completeQueue _ | failedQueue _ _ => 3
  | succeeded _ | failedPlugins _ _ => 4
  | failed _ _ => 5
  | poll _ _ round => 2 * (7202 - round.index) + 6
  | updateDownload _ _ round _ => 2 * (7201 - round.index) + 7
  | track _ _ => 14411
  | register _ _ => 14412
  | lockPlugins _ => 14413
  | dequeue => 14414

def ControlPoint.segmentsLeft : ControlPoint → Nat
  | returned _ => 0
  | cleanup _ _ => 1
  | update _ _ => 2
  | signal _ => 3
  | list => 4

namespace Frame

def segmentsLeft : Frame → Nat
  | .execute point => point.segmentsLeft
  | .control _ point => point.segmentsLeft

def Returned : Frame → Prop
  | .execute (.returned _) | .control _ (.returned _) => True
  | _ => False

/-- The process of the call has exited with a failure that is not handled yet. -/
def Fails : Frame → Prop
  | .execute (.failed _ _) | .execute (.failedPlugins _ _) => True
  | _ => False

end Frame

/-- Between two polls of a call at least the interval passes. -/
def SleepsBetweenPolls (pool : Pool System Frame) : Label Frame Answer → Prop
  | .start _ => True
  | .advance index answer => ∀ job process round,
      pool.tasks[index]? = some (.execute (.poll job process round)) →
        round.start + round.index * Duration.fromMillis 500 ≤ answer.now

/-- No process is found to have exited with a failure. -/
def ExitsWell : Label Frame Answer → Prop
  | .start _ => True
  | .advance _ answer => ∀ process code,
      answer.waited process = .ok (some code) → code = 0

section Segments

variable {answer : Answer} {system after : System}

theorem executor_ranked : Ranked executor Mutex.rank := by
  intro frame mutex awaited free held holds
  cases frame with
  | control call point => cases holds
  | execute point =>
      cases point with
      | failedPlugins job err =>
          exact absurd (selfBlocked_execute_iff.mpr ⟨job, err, rfl⟩) free
      | dequeue | lockPlugins job | returned job => cases holds
      | poll job process round => cases awaited
      | _ =>
          cases awaited
          simp only [executor, Frame.guards, ExecPoint.guards, List.mem_cons,
            List.not_mem_nil, or_false] at holds
          rcases holds with rfl | rfl <;> decide

theorem rank_le (mutex : Mutex) : mutex.rank ≤ 2 := by
  cases mutex <;> decide

theorem executeStep_isSome {point : ExecPoint}
    (working : ¬ (Frame.execute point).Returned) :
    (executeStep answer system point).isSome = true := by
  cases point with
  | dequeue | lockPlugins job | register job process =>
      rw [executeStep]
      repeat' split
      all_goals rfl
  | returned job => exact absurd trivial working
  | _ => rfl

theorem controlStep_isSome {call : ControlCall} {point : ControlPoint}
    (working : ¬ (Frame.control call point).Returned) :
    (controlStep call answer system point).isSome = true := by
  cases point with
  | list | update plugin results =>
      rw [controlStep]
      split <;> rfl
  | returned result => exact absurd trivial working
  | _ => rfl

theorem executor_lively : Lively executor Frame.Returned where
  released frame returned := by
    cases frame with
    | control call point => rfl
    | execute point =>
        cases point with
        | returned job => rfl
        | _ => exact returned.elim
  resumes system frame answer working := by
    cases frame with
    | execute point => exact Option.isSome_map.trans (executeStep_isSome working)
    | control call point => exact Option.isSome_map.trans (controlStep_isSome working)

/-- A round that does not time out is one of the first. -/
theorem index_le_of_early {round : PollRound}
    (slept : round.start + round.index * Duration.fromMillis 500 ≤ answer.now)
    (early : ¬ Duration.fromSecs 3600 < Instant.elapsed round.start answer.now) :
    round.index ≤ 7200 := by
  simp only [Duration.fromSecs, Duration.fromMillis, Instant.elapsed] at slept early
  omega

theorem pollStep_nearer (job : Job) (process : ManagedProcess) {round : PollRound}
    (slept : round.start + round.index * Duration.fromMillis 500 ≤ answer.now) :
    (pollStep answer system job process round).2.segmentsLeft <
      (ExecPoint.poll job process round).segmentsLeft := by
  by_cases late : Duration.fromSecs 3600 < Instant.elapsed round.start answer.now
  · rw [pollStep_of_late late]
    simp only [ExecPoint.segmentsLeft]
    omega
  · have index := index_le_of_early slept late
    cases polled : answer.waited process with
    | error error =>
        rw [pollStep_of_erred late polled]
        simp only [ExecPoint.segmentsLeft]
        omega
    | ok exited =>
        cases exited with
        | some code =>
            rw [pollStep_of_exited late polled]
            split <;> simp only [ExecPoint.segmentsLeft] <;> omega
        | none =>
            rw [pollStep_of_running late polled]
            split <;> simp only [ExecPoint.segmentsLeft, PollRound.next] <;> omega

theorem executeStep_nearer {point next : ExecPoint}
    (slept : ∀ job process round, point = .poll job process round →
      round.start + round.index * Duration.fromMillis 500 ≤ answer.now)
    (segment : executeStep answer system point = some (after, next)) :
    next.segmentsLeft < point.segmentsLeft := by
  cases point with
  | dequeue | register job process =>
      rw [executeStep] at segment
      split at segment <;> cases segment <;>
        simp [ExecPoint.segmentsLeft, PollRound.begin]
  | lockPlugins job =>
      rw [executeStep] at segment
      split at segment
      · split at segment <;> cases segment <;> simp [ExecPoint.segmentsLeft]
      · cases segment
        simp [ExecPoint.segmentsLeft]
  | poll job process round =>
      have polled := congrArg Prod.snd (Option.some.inj segment)
      rw [← show _ = next from polled]
      exact pollStep_nearer job process (slept job process round rfl)
  | updateDownload job process round elapsed =>
      cases segment
      simp only [ExecPoint.segmentsLeft, PollRound.next]
      omega
  | returned job => cases segment
  | _ =>
      cases segment
      simp [ExecPoint.segmentsLeft, PollRound.begin]

theorem controlStep_nearer {call : ControlCall} {point next : ControlPoint}
    (segment : controlStep call answer system point = some (after, next)) :
    next.segmentsLeft < point.segmentsLeft := by
  cases point with
  | list | update plugin results =>
      rw [controlStep] at segment
      split at segment <;> cases segment <;> simp [ControlPoint.segmentsLeft]
  | returned result => cases segment
  | _ =>
      cases segment
      simp [ControlPoint.segmentsLeft]

theorem executeStep_not_fails {point next : ExecPoint}
    (well : ∀ process code, answer.waited process = .ok (some code) → code = 0)
    (before : ¬ (Frame.execute point).Fails)
    (segment : executeStep answer system point = some (after, next)) :
    ¬ (Frame.execute next).Fails := by
  cases point with
  | dequeue | register job process =>
      rw [executeStep] at segment
      split at segment <;> cases segment <;> exact not_false
  | lockPlugins job =>
      rw [executeStep] at segment
      split at segment
      · split at segment <;> cases segment <;> exact not_false
      · cases segment
        exact not_false
  | poll job process round =>
      have polled := congrArg Prod.snd (Option.some.inj segment)
      rw [← show _ = next from polled]
      by_cases late : Duration.fromSecs 3600 < Instant.elapsed round.start answer.now
      · rw [pollStep_of_late late]
        exact not_false
      · cases exited : answer.waited process with
        | error error =>
            rw [pollStep_of_erred late exited]
            exact not_false
        | ok code =>
            cases code with
            | some code =>
                rw [pollStep_of_exited late exited, if_pos (well process code exited)]
                exact not_false
            | none =>
                rw [pollStep_of_running late exited]
                split <;> exact not_false
  | failed job err | failedPlugins job err => exact absurd trivial before
  | returned job => cases segment
  | _ =>
      cases segment
      exact not_false

end Segments

section Runs

variable {system : System} {labels : List (Label Frame Answer)}
variable {pool : Pool System Frame}

/-- For every call there is a reading of the clock that is late enough, and no process
need have exited. -/
theorem exists_peaceful_answer (pool : Pool System Frame) (index : Nat) :
    ∃ answer, SleepsBetweenPolls pool (.advance index answer) ∧
      ExitsWell (.advance index answer) := by
  have running : ∀ (process : ManagedProcess) (code : Int),
      plainAnswer.waited process = .ok (some code) → code = 0 := by
    intro process code exited
    cases exited
  cases here : pool.tasks[index]? with
  | none =>
      refine ⟨plainAnswer, fun job process round there => ?_, running⟩
      rw [here] at there
      cases there
  | some frame =>
      by_cases polls : ∃ job process round,
          frame = .execute (.poll job process round)
      · obtain ⟨job, process, round, rfl⟩ := polls
        refine ⟨{ plainAnswer with
          now := round.start + round.index * Duration.fromMillis 500 }, ?_, running⟩
        intro other handle polled there
        rw [here] at there
        cases there
        exact Nat.le_refl _
      · refine ⟨plainAnswer, fun job process round there => ?_, running⟩
        rw [here] at there
        cases there
        exact absurd ⟨job, process, round, rfl⟩ polls

/-- The calls come nearer to their ends, also if only processes that end well are let
exit. -/
theorem executor_nearing {guard : Pool System Frame → Label Frame Answer → Prop}
    (sleeps : ∀ pool label, guard pool label → SleepsBetweenPolls pool label)
    (admits : ∀ pool index, ∃ answer, guard pool (.advance index answer)) :
    Nearing executor guard Frame.segmentsLeft where
  segment pool index answer frame after next admitted here resumption := by
    have slept := sleeps pool _ admitted
    cases frame with
    | execute point =>
        obtain ⟨following, rfl, segment⟩ := Frame.resume_execute resumption
        refine executeStep_nearer (fun job process round same => ?_) segment
        exact slept job process round (by rw [here, same])
    | control call point =>
        obtain ⟨following, rfl, segment⟩ := Frame.resume_control resumption
        exact controlStep_nearer segment
  admits := admits

theorem segmentsLeft_of_isEntry (frame : Frame) (entry : frame.isEntry = true) :
    frame.segmentsLeft ≤ 14414 := by
  rcases Frame.cases_of_isEntry entry with rfl | ⟨call, rfl⟩ <;>
    simp [Frame.segmentsLeft, ExecPoint.segmentsLeft, ControlPoint.segmentsLeft]

theorem atRest_iff {tasks : List Frame} :
    AtRest executor Frame.Returned tasks ↔
      (∀ frame ∈ tasks, frame.Returned) ∨
        ∃ job err, .execute (.failedPlugins job err) ∈ tasks := by
  refine or_congr Iff.rfl ⟨?_, ?_⟩
  · rintro ⟨frame, member, blocked⟩
    obtain ⟨job, err, rfl⟩ := selfBlocked_iff.mp blocked
    exact ⟨job, err, member⟩
  · rintro ⟨job, err, member⟩
    exact ⟨_, member, selfBlocked_iff.mpr ⟨job, err, rfl⟩⟩

theorem not_fails_step {next : Pool System Frame} {label : Label Frame Answer}
    (well : ExitsWell label) (before : ∀ frame ∈ pool.tasks, ¬ frame.Fails)
    (taken : step executor pool label = some next) :
    ∀ frame ∈ next.tasks, ¬ frame.Fails := by
  intro frame member
  cases label with
  | start entered =>
      obtain ⟨entry, rfl⟩ := step_start taken
      rcases List.mem_append.mp member with old | new
      · exact before frame old
      · rw [List.mem_singleton.mp new]
        rcases Frame.cases_of_isEntry entry with rfl | ⟨call, rfl⟩ <;> exact not_false
  | advance index answer =>
      obtain ⟨moved, shared, resumed, found, _, resumption, rfl⟩ := step_advance taken
      rcases List.mem_or_eq_of_mem_set member with old | rfl
      · exact before frame old
      · have still := before moved (List.mem_of_getElem? found)
        cases moved with
        | execute point =>
            obtain ⟨following, rfl, segment⟩ := Frame.resume_execute resumption
            exact executeStep_not_fails well still segment
        | control call point =>
            obtain ⟨following, rfl, _⟩ := Frame.resume_control resumption
            exact not_false

theorem not_fails_run {guard : Pool System Frame → Label Frame Answer → Prop}
    (run : Guarded (step executor) guard ⟨system, []⟩ labels pool)
    (well : ∀ label ∈ labels, ExitsWell label) :
    ∀ frame ∈ pool.tasks, ¬ frame.Fails := by
  induction run with
  | start => exact fun _ none => by cases none
  | extend _ _ taken ih =>
      refine not_fails_step (well _ (by simp)) (ih fun label member => ?_) taken
      exact well label (List.mem_append_left _ member)

/-- Calls can be resumed until they have all returned, or until one waits for itself,
without letting a process fail. -/
theorem resumed_to_rest (pool : Pool System Frame) :
    ∃ more last, Guarded (step executor) SleepsBetweenPolls pool more last ∧
      (∀ label ∈ more, label.isStart = false ∧ ExitsWell label) ∧
      ((∀ frame ∈ last.tasks, frame.Returned) ∨
        ∃ job err, .execute (.failedPlugins job err) ∈ last.tasks) := by
  have nearing := @executor_nearing
    (fun pool label => SleepsBetweenPolls pool label ∧ ExitsWell label)
    (fun _ _ both => both.1) exists_peaceful_answer
  obtain ⟨more, last, continued, resumptions, atRest⟩ :=
    comes_to_rest nearing executor_ranked rank_le executor_lively pool
  have well := continued.forall_labels fun _ _ both => both.2
  have sleeping := continued.strengthen (fun _ => True) (fun _ => trivial)
    fun _ _ _ both => both.1
  exact ⟨more, last, sleeping,
    fun label member => ⟨resumptions label member, well label member⟩,
    atRest_iff.mp atRest⟩

/-- Any number of calls in any interleaving take a bounded number of steps.  As long
as not all of them have returned and none waits for itself, one of them can move,
whatever the world answers it; so they can be resumed until they have all returned,
or until one waits for itself.  That only comes from a process that fails: where all
processes exit with zero, all calls can be brought to return. -/
theorem calls_come_to_an_end
    (run : Guarded (step executor) SleepsBetweenPolls ⟨system, []⟩ labels pool) :
    labels.length ≤ 14415 * labels.countP Label.isStart ∧
      ((∀ frame ∈ pool.tasks, frame.Returned) ∨
        (∃ job err, .execute (.failedPlugins job err) ∈ pool.tasks) ∨
        ∃ index, ∀ answer,
          (step executor pool (.advance index answer)).isSome = true) ∧
      (∃ more last, Guarded (step executor) SleepsBetweenPolls pool more last ∧
        (∀ label ∈ more, label.isStart = false ∧ ExitsWell label) ∧
        ((∀ frame ∈ last.tasks, frame.Returned) ∨
          ∃ job err, .execute (.failedPlugins job err) ∈ last.tasks) ∧
        ((∀ label ∈ labels, ExitsWell label) →
          ∀ frame ∈ last.tasks, frame.Returned)) ∧
      ((∀ label ∈ labels, ExitsWell label) →
        ∀ job err, .execute (.failedPlugins job err) ∉ pool.tasks) := by
  refine ⟨?_, ?_, ?_, ?_⟩
  · have nearing := executor_nearing (fun _ _ slept => slept) fun pool index =>
      (exists_peaceful_answer pool index).imp fun _ => And.left
    have bound := length_add_remaining_le nearing segmentsLeft_of_isEntry run
    omega
  · by_cases atRest : AtRest executor Frame.Returned pool.tasks
    · exact (atRest_iff.mp atRest).imp_right .inl
    · exact .inr (.inr (exists_advance executor_ranked rank_le executor_lively atRest))
  · obtain ⟨more, last, continued, resumptions, rest⟩ := resumed_to_rest pool
    refine ⟨more, last, continued, resumptions, rest, fun well => rest.resolve_right ?_⟩
    rintro ⟨job, err, member⟩
    refine not_fails_run (run.append continued) (fun label inRun => ?_) _ member trivial
    rcases List.mem_append.mp inRun with old | new
    · exact well label old
    · exact (resumptions label new).2
  · intro well job err member
    exact not_fails_run run well _ member trivial

end Runs

/-- Two calls, of which the first has taken the only job; both can be brought to
return. -/
theorem calls_come_to_an_end_two : ∃ pool,
    Guarded (step executor) SleepsBetweenPolls ⟨oneJob ["tool"], []⟩
        [.start .executeNext, .start .executeNext, .advance 0 plainAnswer] pool ∧
      ∃ more last, Guarded (step executor) SleepsBetweenPolls pool more last ∧
        ∀ frame ∈ last.tasks, frame.Returned := by
  obtain ⟨pool, taken⟩ : ∃ pool, step executor
      ⟨oneJob ["tool"], [.executeNext, .executeNext]⟩ (.advance 0 plainAnswer) =
        some pool := ⟨_, rfl⟩
  have first : SleepsBetweenPolls ⟨oneJob ["tool"], [.executeNext, .executeNext]⟩
      (.advance 0 plainAnswer) := by
    intro job process round there
    cases there
  have started : Guarded (step executor) SleepsBetweenPolls ⟨oneJob ["tool"], []⟩
      [.start .executeNext, .start .executeNext]
      ⟨oneJob ["tool"], [.executeNext, .executeNext]⟩ :=
    (Guarded.start.extend trivial rfl).extend trivial rfl
  have run := started.extend first taken
  obtain ⟨more, last, continued, _, _, returned⟩ := (calls_come_to_an_end run).2.2.1
  refine ⟨pool, run, more, last, continued, returned ?_⟩
  intro label member
  simp only [List.mem_append, List.mem_cons, List.not_mem_nil, or_false] at member
  rcases member with (rfl | rfl) | rfl
  · trivial
  · trivial
  · intro process code exited
    cases exited

end NetGuardian
