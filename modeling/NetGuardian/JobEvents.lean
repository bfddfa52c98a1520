import NetGuardian.JobIsolation
import NetGuardian.SelfDeadlock
import NetGuardian.Foundation.SerialReports

/-!
# What the executor reports about its jobs

Any number of calls of `execute_next` run interleaved with control calls and with
each other, and they publish on one bus.  A call announces its job when it has
taken it out of the queue, and says everything else while it holds the guard of
the plugin manager.  So the bus tells one story for each job, and no job reports
in the middle of the report of another.

The failure branch publishes `RetryStarted` only after a second acquisition of
the plugin manager, which never happens: no run publishes an event of the retry
machinery.
-/

namespace NetGuardian

open CooperativeTasks LabelledRun TakingTurns

namespace NetGuardianEvent

/-- What an event says about the work on a job. -/
def utterance : NetGuardianEvent → Option (Utterance Nat)
  | jobStarted payload => some (.opens payload.jobId)
  | jobProgress jobId _ _ => some (.continues jobId)
  | jobFailed payload => some (.ends payload.jobId)
  | jobCompleted payload => some (.pledges payload.jobId)
  | downloadCompleted payload => some (.redeems payload.jobId)
  | _ => none

def isRetry : NetGuardianEvent → Bool
  | retryStarted _ | retryExhausted _ _ _ => true
  | _ => false

end NetGuardianEvent

/-- The reports about jobs on the bus, oldest first. -/
def System.reports (system : System) : List (Utterance Nat) :=
  system.bus.published.filterMap NetGuardianEvent.utterance

/-- Where a call of `execute_next` is with its job. -/
def ExecPoint.place : ExecPoint → Place Nat
  | .dequeue | .returned none => .idle
  | .lockPlugins job => .waiting job.id
  | .missing job | .spawnFailed job _ | .register job _ | .track job _
  | .poll job _ _ | .updateDownload job _ _ _ | .timedOut job | .succeeded job
  | .failed job _ | .failedPlugins job _ | .failedQueue job _
  | .failedDownload job _ | .waitFailed job => .working job.id
  | .completeQueue job | .completeDownload job => .committed job.id
  | .cleanup job | .returned (some job) => .settled job.id

def Frame.place : Frame → Place Nat
  | .execute point => point.place
  | .control _ _ => .idle

section Segments

variable {answer : Answer} {system after : System} {point next : ExecPoint}

/-- What a segment publishes, and what that says. -/
def Publishes (system after : System) (place next : Place Nat) : Prop :=
  ∃ events, after.bus.published = system.bus.published ++ events ∧
    (∀ event ∈ events, event.isRetry = false) ∧
    Speech place (events.filterMap NetGuardianEvent.utterance) next

theorem publishes_nothing {place next : Place Nat}
    (silent : after.bus.published = system.bus.published)
    (speech : Speech place [] next) : Publishes system after place next :=
  ⟨[], by rw [silent, List.append_nil], by simp, speech⟩

theorem publishes_one {place next : Place Nat} (event : NetGuardianEvent)
    (published : after.bus.published = system.bus.published ++ [event])
    (plain : event.isRetry = false)
    (speech : Speech place ([event].filterMap NetGuardianEvent.utterance) next) :
    Publishes system after place next := by
  refine ⟨[event], published, fun other member => ?_, speech⟩
  rw [List.mem_singleton.mp member]
  exact plain

theorem pollStep_publishes {job : Job} {process : ManagedProcess}
    {round : PollRound} :
    Publishes system (pollStep answer system job process round).1
      (.working job.id) (pollStep answer system job process round).2.place := by
  unfold pollStep
  dsimp only
  split
  · exact publishes_nothing rfl (.silence _)
  · split
    · split
      · exact publishes_nothing rfl (.silence _)
      · exact publishes_nothing rfl (.silence _)
    · split
      · exact publishes_one _ rfl rfl (.continues job.id)
      · exact publishes_nothing rfl (.silence _)
    · exact publishes_nothing rfl (.silence _)

/-- What one segment says about its job. -/
theorem executeStep_publishes
    (free : ¬ SelfBlocked executor (.execute point))
    (segment : executeStep answer system point = some (after, next)) :
    Publishes system after point.place next.place := by
  cases point with
  | dequeue =>
      rw [executeStep] at segment
      split at segment
      · cases segment
        exact publishes_nothing rfl (.silence _)
      · next job rest taken =>
          cases segment
          exact publishes_one _ rfl rfl (.opens job.id)
  | lockPlugins job =>
      rw [executeStep] at segment
      split at segment
      · split at segment
        · cases segment
          exact publishes_nothing rfl (.enters job.id)
        · cases segment
          exact publishes_nothing rfl (.enters job.id)
      · cases segment
        exact publishes_nothing rfl (.enters job.id)
  | register job process =>
      rw [executeStep] at segment
      split at segment
      · cases segment
        exact publishes_nothing rfl (.silence _)
      · cases segment
        exact publishes_nothing rfl (.silence _)
  | poll job process round =>
      rw [executeStep, Option.some.injEq] at segment
      have polled := @pollStep_publishes answer system job process round
      rw [segment] at polled
      exact polled
  | missing job | waitFailed job =>
      cases segment
      exact publishes_nothing rfl (.quits job.id)
  | spawnFailed job err =>
      cases segment
      exact publishes_one _ rfl rfl (.ends job.id)
  | timedOut job =>
      cases segment
      exact publishes_one _ rfl rfl (.ends job.id)
  | succeeded job =>
      cases segment
      exact publishes_one _ rfl rfl (.pledges job.id)
  | completeDownload job =>
      cases segment
      exact publishes_one _ rfl rfl (.redeems job.id)
  | failedPlugins job err =>
      exact absurd (selfBlocked_execute_iff.mpr ⟨job, err, rfl⟩) free
  | failedDownload job err =>
      cases segment
      exact publishes_nothing rfl (.quits job.id)
  | track job process | updateDownload job process round elapsed
  | completeQueue job | failed job err | failedQueue job err | cleanup job =>
      cases segment
      exact publishes_nothing rfl (.silence _)
  | returned job => cases segment

/-- What one segment of any task says. -/
theorem resume_publishes {frame following : Frame}
    (free : ¬ SelfBlocked executor frame)
    (resumption : Frame.resume system frame answer = some (after, following)) :
    Publishes system after frame.place following.place := by
  cases frame with
  | execute point =>
      obtain ⟨_, rfl, segment⟩ := Frame.resume_execute resumption
      exact executeStep_publishes free segment
  | control call point =>
      obtain ⟨_, rfl, segment⟩ := Frame.resume_control resumption
      exact publishes_nothing (controlStep_segment segment).published (.silence _)

/-- A segment takes its job over from the queue, or keeps it. -/
theorem executeStep_handsOver
    (segment : executeStep answer system point = some (after, next)) :
    (after.queue.ids : Multiset Nat) + (next.place.key?.toList : Multiset Nat) ≤
      (system.queue.ids : Multiset Nat) +
        (point.place.key?.toList : Multiset Nat) := by
  have places : ∀ point : ExecPoint,
      point.place.key? = point.job?.map Job.id := by
    intro point
    cases point with
    | returned job => cases job <;> rfl
    | _ => rfl
  rw [places, places]
  rcases (executeStep_segment segment).ids with
    ⟨rfl, ⟨rfl, rfl⟩ | ⟨job, rest, taken, rfl, rfl⟩⟩ |
    ⟨before, job, worked, works, same, ids⟩
  · exact le_refl _
  · have perm := QueueManager.dequeue_ids_perm taken
    change (after.queue.ids : Multiset Nat) + {job.id} ≤
      (system.queue.ids : Multiset Nat) + 0
    rw [Multiset.add_zero, Multiset.add_comm, Multiset.singleton_add,
      Multiset.cons_coe, Multiset.coe_eq_coe.mpr perm]
  · rw [worked, works, ids, Option.map_some, Option.map_some, same]

end Segments

/-- The guard of the plugin manager comes from the lookup of the plugin. -/
theorem executor_acquires_plugins : Acquires executor .plugins where
  entry frame entry := by
    rcases Frame.cases_of_isEntry entry with rfl | ⟨call, rfl⟩
    · exact List.not_mem_nil
    · exact List.not_mem_nil
  resume shared frame answer after next resumption holds := by
    cases frame with
    | control call point =>
        obtain ⟨_, rfl, _⟩ := Frame.resume_control resumption
        cases holds
    | execute point =>
        obtain ⟨following, rfl, segment⟩ := Frame.resume_execute resumption
        cases point with
        | dequeue =>
            rcases (executeStep_segment segment).ids with
              ⟨_, ⟨rfl, _⟩ | ⟨_, _, _, rfl, _⟩⟩ | ⟨_, _, working, _⟩
            · cases holds
            · cases holds
            · cases working
        | lockPlugins job => exact .inr rfl
        | returned job => cases segment
        | _ => exact .inl List.mem_cons_self

/-- The executor's calls are reports from under the mutex of the plugin manager. -/
theorem executor_reports :
    Reports executor .plugins (·.queue.ids) Frame.place System.reports where
  acquires := executor_acquires_plugins
  hands :=
    { entry := by
        intro frame entry
        rcases Frame.cases_of_isEntry entry with rfl | ⟨call, rfl⟩
        · rfl
        · rfl
      resume := by
        intro shared frame answer after next resumption
        cases frame with
        | execute point =>
            obtain ⟨following, rfl, segment⟩ := Frame.resume_execute resumption
            exact executeStep_handsOver segment
        | control call point =>
            obtain ⟨following, rfl, segment⟩ := Frame.resume_control resumption
            change (after.queue.ids : Multiset Nat) + 0 ≤
              (shared.queue.ids : Multiset Nat) + 0
            rw [QueueManager.ids_eq_map_identities,
              (controlStep_segment segment).identities,
              ← QueueManager.ids_eq_map_identities] }
  entry frame entry := by
    rcases Frame.cases_of_isEntry entry with rfl | ⟨call, rfl⟩
    · rfl
    · rfl
  holds frame atWork := by
    cases frame with
    | control call point => cases atWork
    | execute point =>
        cases point with
        | returned job => cases job <;> cases atWork
        | dequeue | lockPlugins job | cleanup job => cases atWork
        | _ => exact List.mem_cons_self
  enters frame key waits := by
    cases frame with
    | control call point => cases waits
    | execute point =>
        cases point with
        | lockPlugins job => rfl
        | returned job => cases job <;> cases waits
        | _ => cases waits
  speaks shared frame answer after next free resumption := by
    obtain ⟨events, grown, _, speech⟩ := resume_publishes free resumption
    refine ⟨_, ?_, speech⟩
    rw [System.reports, grown, List.filterMap_append]
    rfl

section Runs

variable {guard : Pool System Frame → Label Frame Answer → Prop}
variable {system : System} {labels : List (Label Frame Answer)}
variable {pool : Pool System Frame}

/-- The bus of every interleaving is one that the floor accepts. -/
theorem reports_accepted_run (distinct : system.queue.ids.Nodup)
    (quiet : system.bus.published = [])
    (run : Guarded (step executor) guard ⟨system, []⟩ labels pool) :
    ∃ floor, Run Floor.step .empty pool.shared.reports floor ∧
      InOrder executor .plugins (·.queue.ids) Frame.place pool floor := by
  refine reports_accepted executor_reports distinct ?_ run
  rw [System.reports, quiet]
  rfl

/-- No run publishes an event of the retry machinery. -/
theorem noRetry_run (quiet : system.bus.published = [])
    (run : Guarded (step executor) guard ⟨system, []⟩ labels pool) :
    ∀ event ∈ pool.shared.bus.published, event.isRetry = false := by
  refine run.invariant
    (fun pool => ∀ event ∈ pool.shared.bus.published, event.isRetry = false) ?_ ?_
  · intro event published
    rw [quiet] at published
    cases published
  · intro before label after none _ taken event published
    cases label with
    | start frame =>
        obtain ⟨_, rfl⟩ := step_start taken
        exact none event published
    | advance index answer =>
        obtain ⟨frame, shared, resumed, found, available, resumption, rfl⟩ :=
          step_advance taken
        obtain ⟨events, grown, plain, _⟩ := resume_publishes
          (not_selfBlocked_of_available found available) resumption
        change event ∈ shared.bus.published at published
        rw [grown] at published
        rcases List.mem_append.mp published with old | new
        · exact none event old
        · exact plain event new

/-- In every interleaving of any number of calls, the bus tells one story for each
job: it starts, it makes progress any number of times, and then it fails, or it
completes and its download completes, or it falls silent.  Only while a call is
between the two completions does the second one lack, and nothing is ever retried. -/
theorem job_reports_tell_stories (distinct : system.queue.ids.Nodup)
    (quiet : system.bus.published = [])
    (run : Run (step executor) ⟨system, []⟩ labels pool) (jobId : Nat) :
    Floor.IsStory jobId (pool.shared.reports.filter (·.key = jobId)) ∧
      ((∀ frame ∈ pool.tasks, frame.place ≠ .committed jobId) →
        Floor.IsWholeStory jobId (pool.shared.reports.filter (·.key = jobId))) ∧
      ∀ event ∈ pool.shared.bus.published, event.isRetry = false := by
  obtain ⟨floor, accepted, order⟩ := reports_accepted_run distinct quiet run
  have told := Floor.told_run accepted jobId
  refine ⟨told.isStory, fun settled => told.isWholeStory ?_,
    noRetry_run quiet run⟩
  intro speaking
  obtain ⟨frame, member, committed⟩ := order.promised jobId speaking
  exact settled frame member committed

end Runs

/-- One job that succeeds, from the announcement to the return of the call. -/
def successLabels : List (Label Frame Answer) :=
  .start .executeNext :: List.replicate 8 (.advance 0
    { plainAnswer with waited := fun _ => .ok (some 0) })

theorem job_reports_tell_stories_success :
    ∃ pool, Run (step executor) ⟨oneJob ["tool"], []⟩ successLabels pool ∧
      pool.shared.reports = [.opens 1, .pledges 1, .redeems 1] ∧
      Floor.IsStory 1 (pool.shared.reports.filter (·.key = 1)) ∧
      ((∀ frame ∈ pool.tasks, frame.place ≠ .committed 1) →
        Floor.IsWholeStory 1 (pool.shared.reports.filter (·.key = 1))) ∧
      ∀ event ∈ pool.shared.bus.published, event.isRetry = false := by
  have run : Run (step executor) ⟨oneJob ["tool"], []⟩ successLabels _ :=
    run_of_exec_eq rfl
  exact ⟨_, run, rfl, job_reports_tell_stories (by decide) rfl run 1⟩

/-- The job on which an event reports work; the announcement is none. -/
def NetGuardianEvent.worksOn (event : NetGuardianEvent) : Option Nat :=
  (event.utterance.filter fun said => !said.isOpening).map Utterance.key

theorem NetGuardianEvent.worksOn_eq_some {event : NetGuardianEvent} {jobId : Nat} :
    event.worksOn = some jobId ↔
      ∃ said, event.utterance = some said ∧ said.isOpening = false ∧
        said.key = jobId := by
  unfold worksOn
  cases event.utterance with
  | none => simp
  | some said => cases opening : said.isOpening <;> simp [opening]

/-- In every interleaving of any number of calls, what the bus reports about the
work on jobs is serial: between two reports on one job there is none on another. -/
theorem job_reports_serial {system : System} {labels : List (Label Frame Answer)}
    {pool : Pool System Frame} {before between behind : List NetGuardianEvent}
    {one another : NetGuardianEvent} {jobId : Nat}
    (distinct : system.queue.ids.Nodup) (quiet : system.bus.published = [])
    (run : Run (step executor) ⟨system, []⟩ labels pool)
    (published : pool.shared.bus.published =
      before ++ one :: (between ++ another :: behind))
    (first : one.worksOn = some jobId) (second : another.worksOn = some jobId) :
    ∀ event ∈ between, ∀ other, event.worksOn = some other → other = jobId := by
  intro event member other worksOn
  obtain ⟨floor, accepted, _⟩ := reports_accepted_run distinct quiet run
  obtain ⟨oneSaid, oneUtters, oneWorks, oneKey⟩ :=
    NetGuardianEvent.worksOn_eq_some.mp first
  obtain ⟨anotherSaid, anotherUtters, anotherWorks, anotherKey⟩ :=
    NetGuardianEvent.worksOn_eq_some.mp second
  obtain ⟨said, utters, works, rfl⟩ := NetGuardianEvent.worksOn_eq_some.mp worksOn
  rw [System.reports, published, List.filterMap_append,
    List.filterMap_cons_some oneUtters, List.filterMap_append,
    List.filterMap_cons_some anotherUtters] at accepted
  rw [← oneKey]
  exact Floor.serial_of_run accepted oneWorks anotherWorks
    (anotherKey.trans oneKey.symm) said
    (List.mem_filterMap.mpr ⟨event, member, utters⟩) works

/-- The second job is announced between the two completions of the first. -/
def overlappingLabels : List (Label Frame Answer) :=
  let exited := { plainAnswer with waited := fun _ => .ok (some 0) }
  [.start .executeNext, .start .executeNext] ++
    List.replicate 5 (.advance 0 exited) ++ [.advance 1 exited] ++
    List.replicate 2 (.advance 0 exited)

theorem job_reports_serial_overlapping :
    ∃ pool one another, Run (step executor) ⟨twoJobs, []⟩ overlappingLabels pool ∧
      pool.shared.bus.published.drop 1 = [.jobCompleted one, .jobStarted
        ((Job.new 1 0 "tool" "" "run" [] .normal).eventPayload none (.finite 0) 0),
        .downloadCompleted another] ∧
      ∀ event ∈ [NetGuardianEvent.jobStarted
        ((Job.new 1 0 "tool" "" "run" [] .normal).eventPayload none (.finite 0) 0)],
        ∀ other, event.worksOn = some other → other = 2 := by
  have run : Run (step executor) ⟨twoJobs, []⟩ overlappingLabels _ :=
    run_of_exec_eq rfl
  exact ⟨_, _, _, run, rfl,
    job_reports_serial (by decide) rfl run
      (show _ = [_] ++ _ :: ([_] ++ _ :: []) from rfl) rfl rfl⟩

end NetGuardian
