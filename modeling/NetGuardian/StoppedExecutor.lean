import NetGuardian.JobEvents

/-!
# What a failing exit leaves behind

A call whose process has failed waits for the plugin manager that it holds itself.
Whatever the other tasks are doing at that moment, and whatever is started later,
from then on no process is spawned, no operation counted, no download touched and no
retry asked for, and the bus only gets announcements of jobs.  Control calls do not
need the plugin manager: they go on to signal and clean up what is tracked, and to
change statuses in the queue.
-/

namespace NetGuardian

open CooperativeTasks LabelledRun

/-- What no task does any more while a call waits for its own guard: it starts and
tracks no process, counts nothing, touches no download, asks for no retry, and
publishes only announcements of jobs.  The statuses in the queue and the signals of
control calls are left open. -/
structure NoMoreWork (before after : System) : Prop where
  published : ∃ announced, after.bus.published =
      before.bus.published ++ announced ∧
    ∀ event ∈ announced, ∃ payload, event = .jobStarted payload
  metrics : after.metrics = before.metrics
  downloads : after.downloads = before.downloads
  orchestrator : after.orchestrator = before.orchestrator
  tracked : ∀ plugin, ∀ process ∈ after.supervisor.tracked plugin,
    process ∈ before.supervisor.tracked plugin
  spawned : after.supervisor.nextCell = before.supervisor.nextCell

namespace NoMoreWork

variable {before between after : System}

theorem refl (system : System) : NoMoreWork system system where
  published := ⟨[], (List.append_nil _).symm, by simp⟩
  metrics := rfl
  downloads := rfl
  orchestrator := rfl
  tracked _ _ here := here
  spawned := rfl

theorem trans (first : NoMoreWork before between)
    (second : NoMoreWork between after) : NoMoreWork before after where
  published := by
    obtain ⟨early, grown, earlyStarts⟩ := first.published
    obtain ⟨late, grownAgain, lateStarts⟩ := second.published
    refine ⟨early ++ late, ?_, ?_⟩
    · rw [grownAgain, grown, List.append_assoc]
    · intro event member
      rcases List.mem_append.mp member with inEarly | inLate
      · exact earlyStarts event inEarly
      · exact lateStarts event inLate
  metrics := second.metrics.trans first.metrics
  downloads := second.downloads.trans first.downloads
  orchestrator := second.orchestrator.trans first.orchestrator
  tracked plugin process here :=
    first.tracked plugin process (second.tracked plugin process here)
  spawned := second.spawned.trans first.spawned

end NoMoreWork

section Segments

variable {answer : Answer} {system after : System}

theorem controlStep_noMoreWork {call : ControlCall}
    {point next : ControlPoint}
    (segment : controlStep call answer system point = some (after, next)) :
    NoMoreWork system after := by
  obtain ⟨orchestrator, metrics, downloads, _⟩ := controlStep_frame segment
  have whole := controlStep_segment segment
  refine ⟨⟨[], ?_, by simp⟩, metrics, downloads, orchestrator, whole.tracked, ?_⟩
  · rw [whole.published, List.append_nil]
  · cases point with
    | list | update plugin results =>
        rw [controlStep] at segment
        split at segment
        · cases segment
          rfl
        · cases segment
          rfl
    | signal plugin =>
        cases segment
        exact ProcessSupervisor.foldl_deliver_nextCell _ _ _
    | cleanup plugin results =>
        cases segment
        exact ProcessSupervisor.foldl_deliver_nextCell _ _ _
    | returned result => cases segment

/-- A call that does not hold the plugin manager and cannot get it only takes its
job from the queue. -/
theorem executeStep_noMoreWork {point next : ExecPoint}
    (outside : Mutex.plugins ∉ point.guards)
    (closed : point.awaits ≠ some .plugins)
    (segment : executeStep answer system point = some (after, next)) :
    NoMoreWork system after := by
  cases point with
  | dequeue =>
      rw [executeStep] at segment
      split at segment
      · cases segment
        exact .refl system
      · cases segment
        exact ⟨⟨_, rfl, by simp⟩, rfl, rfl, rfl, fun _ _ here => here, rfl⟩
  | lockPlugins job => exact absurd rfl closed
  | returned job => cases segment
  | _ => exact absurd List.mem_cons_self outside

end Segments

section Runs

variable {system : System} {labels more : List (Label Frame Answer)}
variable {pool last : Pool System Frame} {job : Job} {err : String}

/-- While one call waits for its own guard, nobody else can do much. -/
theorem noMoreWork_step {label : Label Frame Answer} {index : Nat}
    (sole : SoleHolder executor .plugins pool.tasks)
    (stuck : pool.tasks[index]? = some (.execute (.failedPlugins job err)))
    (taken : step executor pool label = some last) :
    NoMoreWork pool.shared last.shared := by
  cases label with
  | start frame =>
      obtain ⟨_, rfl⟩ := step_start taken
      exact .refl _
  | advance position answer =>
      obtain ⟨frame, shared, resumed, found, available, resumption, rfl⟩ :=
        step_advance taken
      have holds : Mutex.plugins ∈
          executor.guards (.execute (.failedPlugins job err)) := List.mem_cons_self
      have closed : executor.awaits frame ≠ some .plugins := fun awaited =>
        available .plugins awaited _ (List.mem_of_getElem? stuck) holds
      have outside : Mutex.plugins ∉ executor.guards frame := by
        intro alsoHolds
        have same := sole position index _ _ found stuck alsoHolds holds
        rw [← same, found] at stuck
        cases stuck
        exact closed rfl
      cases frame with
      | execute point =>
          obtain ⟨_, rfl, segment⟩ := Frame.resume_execute resumption
          exact executeStep_noMoreWork outside closed segment
      | control call point =>
          obtain ⟨_, rfl, segment⟩ := Frame.resume_control resumption
          exact controlStep_noMoreWork segment

/-- Once a process has exited with a failure in any interleaving, the call stays
where it is for ever, and no call that runs or is started beside it spawns a process,
counts an operation, touches a download, asks for a retry, or publishes anything but
announcements. -/
theorem failing_exit_stops_executor
    (run : Run (step executor) ⟨system, []⟩ labels pool)
    (stuck : .execute (.failedPlugins job err) ∈ pool.tasks)
    (later : Run (step executor) pool more last) :
    .execute (.failedPlugins job err) ∈ last.tasks ∧
      NoMoreWork pool.shared last.shared := by
  obtain ⟨index, here⟩ := List.mem_iff_getElem?.mp stuck
  have blocked : SelfBlocked executor (.execute (.failedPlugins job err)) :=
    selfBlocked_execute_iff.mpr ⟨job, err, rfl⟩
  have sole := soleHolder_run executor_acquires_plugins run
  refine ⟨List.mem_of_getElem? (selfBlocked_forever later here blocked), ?_⟩
  induction later with
  | start => exact .refl _
  | extend before _ taken ih =>
      have stillSole := soleHolder_run executor_acquires_plugins
        (run.append before)
      have still := selfBlocked_forever before here blocked
      exact ih.trans (noMoreWork_step stillSole still taken)

end Runs

/-- One job whose process exits with code one. -/
def failureLabels : List (Label Frame Answer) :=
  .start .executeNext :: List.replicate 5 (.advance 0
    { plainAnswer with waited := fun _ => .ok (some 1) })

/-- A second call takes its job, and waits for ever. -/
theorem failing_exit_stops_executor_second :
    ∃ pool last job err, Run (step executor) ⟨twoJobs, []⟩ failureLabels pool ∧
      Run (step executor) pool
        [.start .executeNext, .advance 1 plainAnswer] last ∧
      last.shared.bus.published.length = 2 ∧
      .execute (.failedPlugins job err) ∈ last.tasks ∧
      NoMoreWork pool.shared last.shared := by
  have stuck : ∃ pool job err, Run (step executor) ⟨twoJobs, []⟩ failureLabels pool ∧
      .execute (.failedPlugins job err) ∈ pool.tasks ∧
      ∃ last, Run (step executor) pool
        [.start .executeNext, .advance 1 plainAnswer] last ∧
        last.shared.bus.published.length = 2 :=
    ⟨_, _, _, run_of_exec_eq rfl, List.mem_cons_self, _, run_of_exec_eq rfl, rfl⟩
  obtain ⟨pool, job, err, run, waits, last, later, announced⟩ := stuck
  exact ⟨pool, last, job, err, run, later, announced,
    failing_exit_stops_executor run waits later⟩

end NetGuardian
