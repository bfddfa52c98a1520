import NetGuardian.Executor

/-!
# What the segments do

Everything that a segment of `execute_next` or of a control call can do to the
shared system, as far as the other modules ask: to the queue, to what is
tracked, to the log of signals and to the event bus.  What single results ask
beyond that, of the status cells or of the counters, is proved where they are.
-/

namespace NetGuardian

section PollStep

variable {answer : Answer} {system : System} {job : Job}
variable {process : ManagedProcess} {round : PollRound}

/-! Where a round of the polling loop leads. -/

theorem pollStep_of_late
    (late : Duration.fromSecs 3600 < Instant.elapsed round.start answer.now) :
    (pollStep answer system job process round).2 =
      .timedOut { job with status := .failed "timeout" } := by
  rw [pollStep, if_pos late]

theorem pollStep_of_exited {code : Int}
    (early : ¬ Duration.fromSecs 3600 < Instant.elapsed round.start answer.now)
    (exited : answer.waited process = .ok (some code)) :
    (pollStep answer system job process round).2 =
      if code = 0 then .succeeded job
      else .failed job ("exit code " ++ toString code) := by
  rw [pollStep, if_neg early, exited]
  dsimp only
  split <;> rfl

theorem pollStep_of_erred {error : String}
    (early : ¬ Duration.fromSecs 3600 < Instant.elapsed round.start answer.now)
    (erred : answer.waited process = .error error) :
    (pollStep answer system job process round).2 =
      .waitFailed { job with status := .failed ("process error: " ++ error) } := by
  rw [pollStep, if_neg early, erred]

theorem pollStep_of_running
    (early : ¬ Duration.fromSecs 3600 < Instant.elapsed round.start answer.now)
    (running : answer.waited process = .ok none) :
    let elapsed := Instant.elapsed round.start answer.now
    let progress := PollRound.progress elapsed
    (pollStep answer system job process round).2 =
      if round.Moved progress then
        .updateDownload (job.setProgress answer.stamp (.finite progress)) process
          { round with lastProgress := progress } elapsed
      else .poll job process round.next := by
  rw [pollStep, if_neg early, running]
  dsimp only
  split <;> rfl

end PollStep

section LockPlugins

variable {answer : Answer} {system : System} {job : Job}

/-! Where the segment that spawns the process leads. -/

theorem lockPlugins_of_unknown (unknown : system.plugins.has job.plugin = false) :
    executeStep answer system (.lockPlugins job) =
      some (system, .missing
        { job with status := .failed ("plugin '" ++ job.plugin ++ "' not found") }) := by
  rw [executeStep, unknown]
  rfl

theorem lockPlugins_of_error {error : String}
    (known : system.plugins.has job.plugin = true)
    (refused : answer.spawned = .error error) :
    executeStep answer system (.lockPlugins job) =
      some (system, .spawnFailed
        { job with status := .failed ("failed to spawn: " ++ error) }
        ("failed to spawn: " ++ error)) := by
  rw [executeStep, if_pos known, refused]

theorem lockPlugins_of_spawned {pid : Nat}
    (known : system.plugins.has job.plugin = true)
    (started : answer.spawned = .ok pid) :
    let spawned := system.supervisor.spawnProcess pid job.plugin
      (job.command :: job.args) job.id
    executeStep answer system (.lockPlugins job) =
      some ({ system with supervisor := spawned.2 }, .register job spawned.1) := by
  rw [executeStep, if_pos known, started]

end LockPlugins

/-- A segment of `execute_next`.  It signals in its own name, it only adds to
the bus, and only the segment that registers a process adds to what is tracked.
The first segment takes the job out of the queue; later ones keep the identities
of the job and of the jobs in the queue. -/
structure ExecuteSegment (system : System) (point : ExecPoint) (after : System)
    (next : ExecPoint) : Prop where
  signals : ∃ records, after.signals = system.signals ++ records ∧
    ∀ record ∈ records, record.sender = none
  published : ∃ events, after.bus.published = system.bus.published ++ events
  tracked : ∀ plugin, ∀ process ∈ after.supervisor.tracked plugin,
    process ∈ system.supervisor.tracked plugin ∨
      ∃ job, point = .register job process ∧ plugin = job.plugin
  registers : ∀ job process, next = .register job process →
    process.spawnedFor = job.id
  job : (point = .dequeue ∧
      ((next = .returned none ∧ after = system) ∨
        ∃ job rest, system.queue.dequeue = some (job, rest) ∧
          next = .lockPlugins job ∧ after.queue = rest)) ∨
    ∃ before job, point.job? = some before ∧ next.job? = some job ∧
      job.identity = before.identity ∧
      after.queue.identities = system.queue.identities

section ExecuteSegment

variable {answer : Answer} {system after : System} {point next : ExecPoint}

@[simp]
theorem System.updateStatus_identities (stamp id : Nat) (status : JobStatus) :
    (system.updateStatus stamp id status).queue.identities =
      system.queue.identities :=
  system.queue.updateStatus_identities stamp id status

theorem published_unchanged {bus : EventBus} :
    ∃ events, bus.published = bus.published ++ events :=
  ⟨[], (List.append_nil _).symm⟩

theorem signals_unchanged :
    ∃ records, system.signals = system.signals ++ records ∧
      ∀ record ∈ records, record.sender = none :=
  ⟨[], (List.append_nil _).symm, by simp⟩

/-- A segment that works on a job and neither signals nor registers. -/
theorem ExecuteSegment.plain {before job : Job}
    (worked : point.job? = some before) (works : next.job? = some job)
    (same : job.identity = before.identity)
    (queue : after.queue.identities = system.queue.identities)
    (signals : after.signals = system.signals)
    (tracked : after.supervisor.tracked = system.supervisor.tracked)
    (published : ∃ events,
      after.bus.published = system.bus.published ++ events)
    (noRegister : ∀ job process, next ≠ .register job process) :
    ExecuteSegment system point after next where
  signals := signals ▸ signals_unchanged
  published := published
  tracked _ _ here := .inl (tracked ▸ here)
  registers job process here := absurd here (noRegister job process)
  job := .inr ⟨before, job, worked, works, same, queue⟩

theorem pollStep_segment {job : Job} {process : ManagedProcess}
    {round : PollRound} :
    ExecuteSegment system (.poll job process round)
      (pollStep answer system job process round).1
      (pollStep answer system job process round).2 := by
  unfold pollStep
  dsimp only
  split
  · have unchanged :=
      @ProcessSupervisor.tracked_deliver system.supervisor
        (.terminate (Duration.fromSecs 3)) answer.killed process
    exact
      { signals := ⟨_, rfl, by simp⟩
        published := published_unchanged
        tracked := fun plugin member here => .inl (unchanged ▸ here)
        registers := by simp
        job := .inr ⟨job, _, rfl, rfl, rfl, rfl⟩ }
  · split
    · have unchanged :=
        @ProcessSupervisor.tracked_tryWait system.supervisor process
      split
      · exact .plain rfl rfl rfl rfl rfl (unchanged _) published_unchanged (by simp)
      · exact .plain rfl rfl rfl rfl rfl (unchanged _) published_unchanged (by simp)
    · split
      · exact .plain rfl rfl rfl rfl rfl rfl ⟨_, rfl⟩ (by simp)
      · exact .plain rfl rfl rfl rfl rfl rfl published_unchanged (by simp)
    · exact .plain rfl rfl rfl rfl rfl rfl published_unchanged (by simp)

theorem executeStep_segment
    (segment : executeStep answer system point = some (after, next)) :
    ExecuteSegment system point after next := by
  cases point with
  | dequeue =>
      rw [executeStep] at segment
      split at segment
      · cases segment
        exact
          { signals := signals_unchanged
            published := published_unchanged
            tracked := fun _ _ here => .inl here
            registers := by simp
            job := .inl ⟨rfl, .inl ⟨rfl, rfl⟩⟩ }
      · next job rest taken =>
          cases segment
          exact
            { signals := signals_unchanged
              published := ⟨_, rfl⟩
              tracked := fun _ _ here => .inl here
              registers := by simp
              job := .inl ⟨rfl, .inr ⟨job, rest, taken, rfl, rfl⟩⟩ }
  | lockPlugins job =>
      rw [executeStep] at segment
      split at segment
      · split at segment
        · cases segment
          exact .plain rfl rfl rfl rfl rfl rfl published_unchanged (by simp)
        · cases segment
          exact
            { signals := signals_unchanged
              published := published_unchanged
              tracked := fun _ _ here => .inl here
              registers := by
                intro started process same
                cases same
                rfl
              job := .inr ⟨job, _, rfl, rfl, rfl, rfl⟩ }
      · cases segment
        exact .plain rfl rfl rfl rfl rfl rfl published_unchanged (by simp)
  | register job process =>
      have registered : ∀ plugin, ∀ member ∈
          (system.supervisor.register job.plugin process).tracked plugin,
          member ∈ system.supervisor.tracked plugin ∨
            ∃ started, ExecPoint.register job process =
              .register started member ∧ plugin = started.plugin := by
        intro plugin member here
        rcases ProcessSupervisor.mem_tracked_register.mp here with
          old | ⟨rfl, rfl⟩
        · exact .inl old
        · exact .inr ⟨job, rfl, rfl⟩
      rw [executeStep] at segment
      split at segment
      · cases segment
        exact
          { signals := signals_unchanged
            published := published_unchanged
            tracked := registered
            registers := by simp
            job := .inr ⟨job, _, rfl, rfl, rfl, rfl⟩ }
      · cases segment
        exact
          { signals := signals_unchanged
            published := published_unchanged
            tracked := registered
            registers := by simp
            job := .inr ⟨job, _, rfl, rfl, rfl, rfl⟩ }
  | poll job process round =>
      rw [executeStep, Option.some.injEq] at segment
      have polled := @pollStep_segment answer system job process round
      rw [segment] at polled
      exact polled
  | failedPlugins job err =>
      cases segment
      exact .plain rfl rfl
        (system.orchestrator.handleFailure_identity answer.readings job err)
        rfl rfl rfl ⟨_, rfl⟩ (by simp)
  | cleanup job =>
      cases segment
      exact
        { signals := ⟨_, rfl, by simp⟩
          published := published_unchanged
          tracked := fun _ _ here =>
            .inl (ProcessSupervisor.mem_tracked_of_cleanup here)
          registers := by simp
          job := .inr ⟨job, _, rfl, rfl, rfl, rfl⟩ }
  | returned job => cases segment
  | missing job | completeQueue job | waitFailed job =>
      cases segment
      exact .plain rfl rfl rfl (system.updateStatus_identities _ _ _) rfl rfl
        published_unchanged (by simp)
  | failedQueue job err =>
      cases segment
      exact .plain rfl rfl rfl (system.updateStatus_identities _ _ _) rfl rfl
        published_unchanged (by simp)
  | timedOut job =>
      cases segment
      exact .plain rfl rfl rfl (system.updateStatus_identities _ _ _) rfl rfl
        ⟨_, rfl⟩ (by simp)
  | spawnFailed job err =>
      cases segment
      exact .plain rfl rfl rfl (system.updateStatus_identities _ _ _) rfl rfl
        ⟨_, rfl⟩ (by simp)
  | succeeded job | completeDownload job =>
      cases segment
      exact .plain rfl rfl rfl rfl rfl rfl ⟨_, rfl⟩ (by simp)
  | failed job err | failedDownload job err =>
      cases segment
      exact .plain rfl rfl rfl rfl rfl rfl published_unchanged (by simp)
  | track job process | updateDownload job process round elapsed =>
      cases segment
      exact .plain rfl rfl rfl rfl rfl rfl published_unchanged (by simp)

/-- The ids alone. -/
theorem ExecuteSegment.ids (segment : ExecuteSegment system point after next) :
    (point = .dequeue ∧
      ((next = .returned none ∧ after = system) ∨
        ∃ job rest, system.queue.dequeue = some (job, rest) ∧
          next = .lockPlugins job ∧ after.queue = rest)) ∨
    ∃ before job, point.job? = some before ∧ next.job? = some job ∧
      job.id = before.id ∧ after.queue.ids = system.queue.ids := by
  rcases segment.job with dequeues | ⟨before, job, worked, works, same, queue⟩
  · exact .inl dequeues
  · refine .inr ⟨before, job, worked, works, congrArg Prod.fst same, ?_⟩
    rw [QueueManager.ids_eq_map_identities, queue,
      ← QueueManager.ids_eq_map_identities]

end ExecuteSegment

namespace ControlPoint

/-- The processes that the next segment of a control call signals. -/
def targets (system : System) : ControlPoint → List ManagedProcess
  | signal plugin | cleanup plugin _ => system.supervisor.tracked plugin
  | list | update _ _ | returned _ => []

/-- The plugin that a control call has found, as long as it is needed. -/
def plugin? : ControlPoint → Option String
  | signal plugin | update plugin _ | cleanup plugin _ => some plugin
  | list | returned _ => none

end ControlPoint

/-- A segment of a control call.  It signals exactly its targets in its own
name, and the plugin it goes on with is the one of its job in the queue. -/
structure ControlSegment (call : ControlCall) (system : System)
    (point : ControlPoint) (after : System) (next : ControlPoint) : Prop where
  signals : ∃ signal, after.signals = system.signals ++
    (point.targets system).map fun process => ⟨some call, signal, process⟩
  published : after.bus.published = system.bus.published
  tracked : ∀ plugin, ∀ process ∈ after.supervisor.tracked plugin,
    process ∈ system.supervisor.tracked plugin
  identities : after.queue.identities = system.queue.identities
  plugin : ∀ plugin, next.plugin? = some plugin →
    point.plugin? = some plugin ∨ (call.jobId, plugin) ∈ system.queue.identities

section ControlSegment

variable {answer : Answer} {system after : System}

theorem controlStep_segment {call : ControlCall} {point next : ControlPoint}
    (segment : controlStep call answer system point = some (after, next)) :
    ControlSegment call system point after next := by
  cases point with
  | list =>
      rw [controlStep] at segment
      split at segment
      · cases segment
        exact ⟨⟨.stop, (List.append_nil _).symm⟩, rfl, fun _ _ here => here, rfl,
          fun _ named => by cases named⟩
      · next job listed =>
          cases segment
          refine ⟨⟨.stop, (List.append_nil _).symm⟩, rfl, fun _ _ here => here,
            rfl, ?_⟩
          intro plugin named
          cases named
          have member := List.mem_of_find?_eq_some listed
          have asked : job.id = call.jobId := by
            simpa using List.find?_some listed
          rw [← asked]
          exact .inr (List.mem_map_of_mem member)
  | signal plugin =>
      cases segment
      refine ⟨⟨call.kind.signal, rfl⟩, rfl, ?_, rfl, fun _ named => .inl named⟩
      intro other process here
      change process ∈ (ProcessSupervisor.signalAll _ _ _ _).1.tracked _ at here
      rwa [ProcessSupervisor.tracked_signalAll] at here
  | update plugin results =>
      rw [controlStep] at segment
      split at segment
      · cases segment
        exact ⟨⟨.stop, (List.append_nil _).symm⟩, rfl, fun _ _ here => here,
          system.updateStatus_identities _ _ _, fun _ named => .inl named⟩
      · cases segment
        exact ⟨⟨.stop, (List.append_nil _).symm⟩, rfl, fun _ _ here => here,
          system.updateStatus_identities _ _ _, fun _ named => by cases named⟩
  | cleanup plugin results =>
      cases segment
      exact ⟨⟨.terminate (Duration.fromSecs 1), rfl⟩, rfl,
        fun _ _ here => ProcessSupervisor.mem_tracked_of_cleanup here, rfl,
        fun _ named => by cases named⟩
  | returned result => cases segment

/-- What a segment of a control call leaves alone. -/
theorem controlStep_frame {call : ControlCall} {point next : ControlPoint}
    (segment : controlStep call answer system point = some (after, next)) :
    after.orchestrator = system.orchestrator ∧
      after.metrics = system.metrics ∧ after.downloads = system.downloads ∧
      after.plugins = system.plugins := by
  cases point with
  | list | update plugin results =>
      rw [controlStep] at segment
      split at segment
      · cases segment
        exact ⟨rfl, rfl, rfl, rfl⟩
      · cases segment
        exact ⟨rfl, rfl, rfl, rfl⟩
  | signal plugin | cleanup plugin results =>
      cases segment
      exact ⟨rfl, rfl, rfl, rfl⟩
  | returned result => cases segment

end ControlSegment

section Resume

variable {answer : Answer} {system after : System} {frame next : Frame}

theorem Frame.resume_execute {point : ExecPoint}
    (resumption : Frame.resume system (.execute point) answer =
      some (after, next)) :
    ∃ following, next = .execute following ∧
      executeStep answer system point = some (after, following) := by
  obtain ⟨⟨_, following⟩, segment, same⟩ := Option.map_eq_some_iff.mp resumption
  cases same
  exact ⟨following, rfl, segment⟩

theorem Frame.resume_control {call : ControlCall} {point : ControlPoint}
    (resumption : Frame.resume system (.control call point) answer =
      some (after, next)) :
    ∃ following, next = .control call following ∧
      controlStep call answer system point = some (after, following) := by
  obtain ⟨⟨_, following⟩, segment, same⟩ := Option.map_eq_some_iff.mp resumption
  cases same
  exact ⟨following, rfl, segment⟩

/-- A call starts at its first await point. -/
theorem Frame.cases_of_isEntry {frame : Frame} (entry : frame.isEntry = true) :
    frame = .execute .dequeue ∨ ∃ call, frame = .control call .list := by
  cases frame with
  | execute point =>
      cases point with
      | dequeue => exact .inl rfl
      | _ => cases entry
  | control call point =>
      cases point with
      | list => exact .inr ⟨call, rfl⟩
      | _ => cases entry

/-- No segment of any task adds a job to the queue. -/
theorem resume_identities
    (resumption : Frame.resume system frame answer = some (after, next)) :
    List.Sublist after.queue.identities system.queue.identities := by
  cases frame with
  | execute point =>
      obtain ⟨next, rfl, segment⟩ := Frame.resume_execute resumption
      rcases (executeStep_segment segment).job with
        ⟨_, ⟨_, rfl⟩ | ⟨job, rest, taken, _, rfl⟩⟩ | ⟨_, _, _, _, _, sameQueue⟩
      · exact List.Sublist.refl _
      · exact QueueManager.dequeue_identities taken
      · rw [sameQueue]
  | control call point =>
      obtain ⟨next, rfl, segment⟩ := Frame.resume_control resumption
      rw [(controlStep_segment segment).identities]

theorem resume_ids
    (resumption : Frame.resume system frame answer = some (after, next)) :
    List.Sublist after.queue.ids system.queue.ids := by
  rw [QueueManager.ids_eq_map_identities, QueueManager.ids_eq_map_identities]
  exact (resume_identities resumption).map Prod.fst

/-- A segment only adds to what has been published. -/
theorem resume_published
    (resumption : Frame.resume system frame answer = some (after, next)) :
    ∃ events, after.bus.published = system.bus.published ++ events := by
  cases frame with
  | execute point =>
      obtain ⟨next, rfl, segment⟩ := Frame.resume_execute resumption
      exact (executeStep_segment segment).published
  | control call point =>
      obtain ⟨next, rfl, segment⟩ := Frame.resume_control resumption
      rw [(controlStep_segment segment).published]
      exact published_unchanged

/-- A segment of a task only adds to the log of signals, and only a control
call that is about to signal adds records in the name of a control call. -/
theorem resume_signals
    (resumption : Frame.resume system frame answer = some (after, next)) :
    ∃ records, after.signals = system.signals ++ records ∧
      ∀ record ∈ records, ∀ call, record.sender = some call →
        ∃ point, frame = .control call point ∧
          record.process ∈ point.targets system := by
  cases frame with
  | execute point =>
      obtain ⟨next, rfl, segment⟩ := Frame.resume_execute resumption
      obtain ⟨records, log, own⟩ := (executeStep_segment segment).signals
      refine ⟨records, log, fun record member call sender => ?_⟩
      rw [own record member] at sender
      cases sender
  | control call point =>
      obtain ⟨next, rfl, segment⟩ := Frame.resume_control resumption
      obtain ⟨signal, log⟩ := (controlStep_segment segment).signals
      refine ⟨_, log, fun record member sender sent => ?_⟩
      obtain ⟨process, target, rfl⟩ := List.mem_map.mp member
      cases sent
      exact ⟨point, rfl, target⟩

end Resume

end NetGuardian
