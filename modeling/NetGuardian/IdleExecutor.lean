import NetGuardian.BreakerConfig
import NetGuardian.ExecuteLoop
import NetGuardian.PluginLifecycle
import NetGuardian.SpawnOrigins

/-!
# An executor without work

The daemon gives its executor a fresh queue, and no task of the daemon ever
enqueues a job.  So the loop of the executor asks an empty queue again and again,
and the control calls that clients request find neither a job nor a process.
-/

namespace NetGuardian

open CooperativeTasks LabelledRun

/-- No call of `execute_next` finds a job. -/
def QueueManager.NonePending (queue : QueueManager) : Prop :=
  ∀ job ∈ queue.jobs, job.status ≠ .pending

/-- The event that another task publishes with a step. -/
def LoopLabel.published? : LoopLabel → Option NetGuardianEvent
  | publish event => some event
  | receive | timer | count _ | call _ => none

/-- What `cmd_daemon` gives to its executor. -/
def AppConfig.daemonSystem (config : AppConfig) (table : AlphanumericTable) :
    System where
  queue := .new
  plugins := ⟨PluginLifecycle.PluginManager.new.discoverBuiltin.plugins.keys⟩
  downloads := .new table config.storage.downloadDir
  supervisor := .new
  orchestrator := config.daemonOrchestrator
  bus := .new
  metrics := .new
  signals := []

/-- Nothing of the system has changed but the statuses of jobs that do not run, and
what has been published in addition. -/
structure Unmoved (first system : System) (published : List NetGuardianEvent) :
    Prop where
  bus : system.bus.published = first.bus.published ++ published
  signals : system.signals = first.signals
  metrics : system.metrics = first.metrics
  downloads : system.downloads = first.downloads
  orchestrator : system.orchestrator = first.orchestrator
  plugins : system.plugins = first.plugins
  tracked : ∀ plugin, system.supervisor.tracked plugin = []
  nextCell : system.supervisor.nextCell = first.supervisor.nextCell
  jobs : system.queue.jobs.map Job.work = first.queue.jobs.map Job.work
  nonePending : system.queue.NonePending

/-- A call that has not found a job to execute. -/
def Frame.Jobless : Frame → Prop
  | execute .dequeue | execute (.returned none) => True
  | execute _ => False
  | control _ _ => True

section Queue

variable {queue : QueueManager}

theorem QueueManager.nonePending_trySetStatus {job : Job} {now : Nat}
    {status : JobStatus} (waits : job.status ≠ .pending)
    (asked : status ≠ .pending) :
    (trySetStatus now status job).status ≠ .pending := by
  unfold trySetStatus Job.setStatus
  split
  · next accepted =>
      split at accepted
      · cases accepted
        exact asked
      · cases accepted
  · exact waits

/-- A status update other than to pending makes no job pending. -/
theorem QueueManager.NonePending.updateStatus (none : queue.NonePending)
    {now id : Nat} {status : JobStatus} (asked : status ≠ .pending) :
    (queue.updateStatus now id status).1.NonePending := by
  unfold QueueManager.updateStatus
  split
  · exact none
  · next position found =>
      intro job member
      obtain ⟨index, here⟩ := List.mem_iff_getElem?.mp member
      change (queue.jobs.modify position (trySetStatus now status))[index]? = _
        at here
      rw [List.getElem?_modify, Option.map_eq_map, Option.map_eq_some_iff] at here
      obtain ⟨stored, was, rfl⟩ := here
      have waits := none stored (List.mem_of_getElem? was)
      split
      · exact nonePending_trySetStatus waits asked
      · exact waits

end Queue

section Segments

variable {first system after : System} {published : List NetGuardianEvent}
variable {answer : Answer}

theorem ControlKind.status_ne_pending (kind : ControlKind) :
    kind.status ≠ .pending := by
  cases kind <;> exact nofun

theorem ProcessSupervisor.allRunning_of_nothing {supervisor : ProcessSupervisor}
    (waited : ManagedProcess → Except String (Option Int)) :
    (supervisor.allRunning waited).1.tracked = supervisor.tracked ∧
      (supervisor.allRunning waited).1.nextCell = supervisor.nextCell :=
  foldl_tryWait waited supervisor.allTracked

theorem Unmoved.publish (unmoved : Unmoved first system published)
    (event : NetGuardianEvent) :
    Unmoved first (system.publish [event]) (published ++ [event]) :=
  { unmoved with
    bus := by
      change system.bus.published ++ [event] = _
      rw [unmoved.bus, List.append_assoc] }

/-- Counting the running processes counts none. -/
theorem Unmoved.count (unmoved : Unmoved first system published)
    (waited : ManagedProcess → Except String (Option Int)) :
    Unmoved first { system with
      supervisor := (system.supervisor.allRunning waited).1 } published := by
  obtain ⟨tracked, nextCell⟩ :=
    @ProcessSupervisor.allRunning_of_nothing system.supervisor waited
  exact
    { unmoved with
      tracked := fun plugin => by
        change (system.supervisor.allRunning waited).1.tracked plugin = []
        rw [tracked, unmoved.tracked]
      nextCell := nextCell.trans unmoved.nextCell }

/-- A control call finds no process, and makes no job pending. -/
theorem Unmoved.control {call : ControlCall} {point next : ControlPoint}
    (unmoved : Unmoved first system published)
    (segment : controlStep call answer system point = some (after, next)) :
    Unmoved first after published := by
  obtain ⟨orchestrator, metrics, downloads, plugins⟩ := controlStep_frame segment
  obtain ⟨nextCell, jobs⟩ := controlStep_spawning segment
  have whole := controlStep_segment segment
  have targets : point.targets system = [] := by
    cases point with
    | signal plugin | cleanup plugin results => exact unmoved.tracked plugin
    | list | update plugin results | returned result => rfl
  obtain ⟨_, signals⟩ := whole.signals
  rw [targets, List.map_nil, List.append_nil] at signals
  exact
    { bus := whole.published.trans unmoved.bus
      signals := signals.trans unmoved.signals
      metrics := metrics.trans unmoved.metrics
      downloads := downloads.trans unmoved.downloads
      orchestrator := orchestrator.trans unmoved.orchestrator
      plugins := plugins.trans unmoved.plugins
      tracked := fun plugin => by
        refine List.eq_nil_iff_forall_not_mem.mpr fun process here => ?_
        have before := whole.tracked plugin process here
        rw [unmoved.tracked] at before
        cases before
      nextCell := nextCell.trans unmoved.nextCell
      jobs := jobs.trans unmoved.jobs
      nonePending := by
        cases point with
        | list =>
            rw [controlStep] at segment
            split at segment
            · cases segment
              exact unmoved.nonePending
            · cases segment
              exact unmoved.nonePending
        | update plugin results =>
            rw [controlStep] at segment
            split at segment
            · cases segment
              exact unmoved.nonePending.updateStatus call.kind.status_ne_pending
            · cases segment
              exact unmoved.nonePending.updateStatus call.kind.status_ne_pending
        | signal plugin | cleanup plugin results =>
            cases segment
            exact unmoved.nonePending
        | returned result => cases segment }

/-- No call moves the system, and `execute_next` returns at once. -/
theorem Unmoved.resume {frame following : Frame}
    (unmoved : Unmoved first system published) (jobless : frame.Jobless)
    (resumption : Frame.resume system frame answer = some (after, following)) :
    Unmoved first after published ∧ following.Jobless := by
  cases frame with
  | control call point =>
      obtain ⟨_, rfl, segment⟩ := Frame.resume_control resumption
      exact ⟨unmoved.control segment, trivial⟩
  | execute point =>
      obtain ⟨_, rfl, segment⟩ := Frame.resume_execute resumption
      cases point with
      | dequeue =>
          have empty := QueueManager.dequeue_eq_none.mpr unmoved.nonePending
          rw [executeStep, empty] at segment
          cases segment
          exact ⟨unmoved, trivial⟩
      | returned job => cases segment
      | _ => exact jobless.elim

end Segments

namespace ExecuteLoop

/-- The loop has found no job. -/
def Jobless (loop : ExecuteLoop) : Prop :=
  ∀ frame, loop.point = .calling frame → frame.Jobless

section Step

variable {first : System} {published : List NetGuardianEvent}
variable {loop next : ExecuteLoop} {label : LoopLabel}

theorem jobless_controlCall {ticket : Nat} {event : NetGuardianEvent}
    {frame : Frame} (called : event.controlCall ticket = some frame) :
    frame.Jobless := by
  cases event <;> cases called <;> trivial

theorem handle_unmoved
    {received : Broadcast.Reception NetGuardianEvent ×
      Broadcast.Receiver NetGuardianEvent} (jobless : loop.Jobless)
    (handled : loop.handle received = some next) :
    next.system = loop.system ∧ next.Jobless := by
  unfold handle at handled
  split at handled
  · cases handled
  · cases handled
    exact ⟨rfl, fun _ calling => by cases calling⟩
  · split at handled
    · cases handled
      exact ⟨rfl, jobless⟩
    · next frame called =>
        cases handled
        refine ⟨rfl, ?_⟩
        rintro _ ⟨⟩
        exact jobless_controlCall called

theorem unmoved_step (unmoved : Unmoved first loop.system published)
    (jobless : loop.Jobless) (taken : loop.step label = some next) :
    Unmoved first next.system (published ++ label.published?.toList) ∧
      next.Jobless := by
  cases label with
  | publish event =>
      cases taken
      exact ⟨unmoved.publish event, jobless⟩
  | receive =>
      cases point : loop.point with
      | select =>
          simp only [step, point] at taken
          obtain ⟨same, still⟩ := handle_unmoved jobless taken
          rw [same, LoopLabel.published?, Option.toList_none, List.append_nil]
          exact ⟨unmoved, still⟩
      | _ => simp [step, point] at taken
  | timer =>
      rw [LoopLabel.published?, Option.toList_none, List.append_nil]
      cases point : loop.point with
      | select | sleeping =>
          simp only [step, point, Option.some.injEq] at taken
          subst taken
          exact ⟨unmoved, fun _ calling => by cases calling⟩
      | _ => simp [step, point] at taken
  | count waited =>
      rw [LoopLabel.published?, Option.toList_none, List.append_nil]
      cases point : loop.point with
      | counting =>
          simp only [step, point] at taken
          split at taken
          · cases taken
            refine ⟨unmoved.count waited, ?_⟩
            rintro _ ⟨⟩
            trivial
          · cases taken
            exact ⟨unmoved.count waited, fun _ calling => by cases calling⟩
      | _ => simp [step, point] at taken
  | call answer =>
      rw [LoopLabel.published?, Option.toList_none, List.append_nil]
      cases point : loop.point with
      | calling frame =>
          simp only [step, point, Option.map_eq_some_iff] at taken
          obtain ⟨⟨after, moved⟩, segment, rfl⟩ := taken
          obtain ⟨still, leads⟩ :=
            unmoved.resume (jobless frame point) (resume_of_callStep segment)
          refine ⟨still, fun frame calling => ?_⟩
          change (if moved.isReturned then LoopPoint.select else .calling moved) =
            .calling frame at calling
          split at calling
          · cases calling
          · cases calling
            exact leads
      | _ => simp [step, point] at taken

end Step

/-- Whatever other tasks publish, and however often the loop wakes up: without a
pending job in the queue it never starts, signals or tracks a process, touches no
counter, no download and no retry state, publishes nothing of its own, and leaves
the work in the queue as it was. -/
theorem idle_without_pending {system : System} {maxConcurrent : Nat}
    {labels : List LoopLabel} {last : ExecuteLoop}
    (none : system.queue.NonePending)
    (untracked : ∀ plugin, system.supervisor.tracked plugin = [])
    (run : Run step (initial system maxConcurrent) labels last) :
    Unmoved system last.system (labels.filterMap LoopLabel.published?) := by
  have both : Unmoved system last.system (labels.filterMap LoopLabel.published?) ∧
      last.Jobless := by
    induction run with
    | start =>
        refine ⟨?_, fun _ calling => by cases calling⟩
        exact ⟨(List.append_nil _).symm, rfl, rfl, rfl, rfl, rfl, untracked, rfl,
          rfl, none⟩
    | @extend labels loop next label before _ taken ih =>
        have moved := unmoved_step ih.1 ih.2 taken
        rw [List.filterMap_append]
        cases label <;> exact moved
  exact both.1

/-- A client asks the daemon to cancel a job. -/
def cancelRequest : List LoopLabel :=
  [.publish (.jobControlCancel 1), .receive, .call plainAnswer, .timer,
    .count fun _ => .ok none, .call plainAnswer, .timer]

theorem idle_without_pending_daemon :
    ∃ last, Run step (initial (AppConfig.default.daemonSystem .asciiOnly) 3)
        cancelRequest last ∧
      last.passed = [.jobControlCancel 1] ∧
      Unmoved (AppConfig.default.daemonSystem .asciiOnly) last.system
        [.jobControlCancel 1] := by
  have run : Run step (initial (AppConfig.default.daemonSystem .asciiOnly) 3)
      cancelRequest _ := run_of_exec_eq rfl
  refine ⟨_, run, rfl, idle_without_pending ?_ (fun _ => rfl) run⟩
  intro job none
  cases none

end ExecuteLoop

end NetGuardian
