import NetGuardian.Foundation.GhostHistory
import NetGuardian.JobIsolation
import NetGuardian.ProcessSegments

/-!
# Where processes come from

The executor keeps no list of the processes it has started, so the list is a ghost
history here.  In every interleaving it has at most one process for each job that
was in the queue at the beginning, started with the command line of that job, and
nothing else is ever tracked, waited for or signalled.
-/

namespace NetGuardian

open CooperativeTasks LabelledRun

/-- What a job asks for: the part of it that nothing changes. -/
def Job.work (job : Job) : Nat × String × String × List String :=
  (job.id, job.plugin, job.command, job.args)

/-- The process was started for a job of the first queue, as the job asks. -/
def ManagedProcess.SpawnedFor (process : ManagedProcess) (first : System)
    (job : Job) : Prop :=
  job ∈ first.queue.jobs ∧ process.spawnedFor = job.id ∧
    process.binary = job.plugin ∧ process.args = job.command :: job.args ∧
    job.plugin ∈ first.plugins.names

/-- The process that a segment starts, if it starts one. -/
def ExecPoint.spawns (system : System) (answer : Answer) :
    ExecPoint → List ManagedProcess
  | lockPlugins job =>
      match system.plugins.has job.plugin, answer.spawned with
      | true, .ok pid =>
          [(system.supervisor.spawnProcess pid job.plugin
            (job.command :: job.args) job.id).1]
      | _, _ => []
  | _ => []

def Frame.spawns (system : System) (frame : Frame) (answer : Answer) :
    List ManagedProcess :=
  match frame with
  | execute point => point.spawns system answer
  | control _ _ => []

/-- The job that a task has taken but not started. -/
def Frame.unstarted : Frame → Option Nat
  | execute (.lockPlugins job) => some job.id
  | _ => none

section Queue

variable {queue after : QueueManager} {job : Job}

theorem QueueManager.trySetStatus_work (now : Nat) (status : JobStatus) (job : Job) :
    (trySetStatus now status job).work = job.work := by
  unfold trySetStatus Job.setStatus
  split
  · next accepted =>
      split at accepted
      · cases accepted
        rfl
      · cases accepted
  · rfl

theorem QueueManager.updateStatus_work (now id : Nat) (status : JobStatus) :
    (queue.updateStatus now id status).1.jobs.map Job.work =
      queue.jobs.map Job.work := by
  unfold updateStatus
  split
  · rfl
  · exact DistinctKeys.map_modify Job.work _ _ (trySetStatus_work now status)

theorem QueueManager.dequeue_work (taken : queue.dequeue = some (job, after)) :
    job.work ∈ queue.jobs.map Job.work ∧
      ∀ work ∈ after.jobs.map Job.work, work ∈ queue.jobs.map Job.work := by
  obtain ⟨position, stored, found, _, rfl, rfl⟩ := dequeue_eq_some taken
  refine ⟨List.mem_map.mpr ⟨stored, List.mem_of_getElem? found, rfl⟩, ?_⟩
  exact fun work member => ((List.eraseIdx_sublist _ _).map Job.work).subset member

end Queue

/-- What a segment does to the queue, to the plugins and to the processes that
exist: a call that takes a job goes on to start it, and only that starts one. -/
structure Spawning (system : System) (point : ExecPoint) (answer : Answer)
    (after : System) (next : ExecPoint) : Prop where
  plugins : after.plugins = system.plugins
  spawns : (point.spawns system answer = [] ∧
      after.supervisor.nextCell = system.supervisor.nextCell ∧
      (∀ job process, next ≠ .register job process) ∧
      ∀ process, next.process? = some process → point.process? = some process) ∨
    ∃ job pid, point = .lockPlugins job ∧ job.plugin ∈ system.plugins.names ∧
      let spawned := system.supervisor.spawnProcess pid job.plugin
        (job.command :: job.args) job.id
      point.spawns system answer = [spawned.1] ∧
        after.supervisor = spawned.2 ∧ next = .register job spawned.1
  jobs : (∀ job, next ≠ .lockPlugins job) ∧
      after.queue.jobs.map Job.work = system.queue.jobs.map Job.work ∨
    ∃ job, system.queue.dequeue = some (job, after.queue) ∧ next = .lockPlugins job

section Segments

variable {answer : Answer} {system after : System} {point next : ExecPoint}

/-- A segment that starts no process and leaves the queue as it is, up to the
status of a job. -/
theorem Spawning.plain (plugins : after.plugins = system.plugins)
    (nothing : point.spawns system answer = [])
    (nextCell : after.supervisor.nextCell = system.supervisor.nextCell)
    (process : next.process? = none ∨ next.process? = point.process?)
    (later : (∀ job, next ≠ .lockPlugins job) ∧
      ∀ job process, next ≠ .register job process)
    (jobs : after.queue.jobs.map Job.work = system.queue.jobs.map Job.work) :
    Spawning system point answer after next where
  plugins := plugins
  spawns := by
    refine .inl ⟨nothing, nextCell, later.2, fun handle here => ?_⟩
    rcases process with none | same
    · rw [none] at here
      cases here
    · rwa [same] at here
  jobs := .inl ⟨later.1, jobs⟩

theorem pollStep_spawning {job : Job} {process : ManagedProcess}
    {round : PollRound} :
    Spawning system (.poll job process round) answer
      (pollStep answer system job process round).1
      (pollStep answer system job process round).2 := by
  unfold pollStep
  dsimp only
  split
  · exact .plain rfl rfl (ProcessSupervisor.deliver_nextCell _ _ _) (.inl rfl)
      (by simp) rfl
  · split
    · split
      · exact .plain rfl rfl (ProcessSupervisor.tryWait_nextCell _ _) (.inl rfl)
          (by simp) rfl
      · exact .plain rfl rfl (ProcessSupervisor.tryWait_nextCell _ _) (.inl rfl)
          (by simp) rfl
    · split
      · exact .plain rfl rfl rfl (.inr rfl) (by simp) rfl
      · exact .plain rfl rfl rfl (.inr rfl) (by simp) rfl
    · exact .plain rfl rfl rfl (.inl rfl) (by simp) rfl

theorem executeStep_spawning
    (segment : executeStep answer system point = some (after, next)) :
    Spawning system point answer after next := by
  cases point with
  | dequeue =>
      rw [executeStep] at segment
      split at segment
      · cases segment
        exact .plain rfl rfl rfl (.inl rfl) (by simp) rfl
      · next job rest taken =>
          cases segment
          exact
            { plugins := rfl
              spawns := .inl ⟨rfl, rfl, by simp, fun _ here => by cases here⟩
              jobs := .inr ⟨job, taken, rfl⟩ }
  | lockPlugins job =>
      cases known : system.plugins.has job.plugin with
      | false =>
          rw [lockPlugins_of_unknown known] at segment
          cases segment
          refine .plain rfl ?_ rfl (.inl rfl) (by simp) rfl
          rw [ExecPoint.spawns, known]
      | true =>
          cases started : answer.spawned with
          | error error =>
              rw [lockPlugins_of_error known started] at segment
              cases segment
              refine .plain rfl ?_ rfl (.inl rfl) (by simp) rfl
              rw [ExecPoint.spawns, known, started]
          | ok pid =>
              rw [lockPlugins_of_spawned known started] at segment
              cases segment
              refine
                { plugins := rfl
                  spawns := .inr ⟨job, pid, rfl, of_decide_eq_true known, ?_, rfl,
                    rfl⟩
                  jobs := .inl ⟨by simp, rfl⟩ }
              rw [ExecPoint.spawns, known, started]
  | register job process =>
      rw [executeStep] at segment
      split at segment
      · cases segment
        exact .plain rfl rfl rfl (.inr rfl) (by simp) rfl
      · cases segment
        exact .plain rfl rfl rfl (.inr rfl) (by simp) rfl
  | poll job process round =>
      rw [executeStep, Option.some.injEq] at segment
      have polled := @pollStep_spawning answer system job process round
      rw [segment] at polled
      exact polled
  | track job process | updateDownload job process round elapsed =>
      cases segment
      exact .plain rfl rfl rfl (.inr rfl) (by simp) rfl
  | missing job | spawnFailed job err | timedOut job | completeQueue job
  | failedQueue job err | waitFailed job =>
      cases segment
      exact .plain rfl rfl rfl (.inl rfl) (by simp)
        (QueueManager.updateStatus_work _ _ _)
  | succeeded job | completeDownload job | failed job err | failedPlugins job err
  | failedDownload job err =>
      cases segment
      exact .plain rfl rfl rfl (.inl rfl) (by simp) rfl
  | cleanup job =>
      cases segment
      exact .plain rfl rfl (ProcessSupervisor.foldl_deliver_nextCell _ _ _)
        (.inl rfl) (by simp) rfl
  | returned job => cases segment

theorem controlStep_spawning {call : ControlCall} {point next : ControlPoint}
    (segment : controlStep call answer system point = some (after, next)) :
    after.supervisor.nextCell = system.supervisor.nextCell ∧
      after.queue.jobs.map Job.work = system.queue.jobs.map Job.work := by
  cases point with
  | list =>
      rw [controlStep] at segment
      split at segment
      · cases segment
        exact ⟨rfl, rfl⟩
      · cases segment
        exact ⟨rfl, rfl⟩
  | update plugin results =>
      rw [controlStep] at segment
      split at segment
      · cases segment
        exact ⟨rfl, QueueManager.updateStatus_work _ _ _⟩
      · cases segment
        exact ⟨rfl, QueueManager.updateStatus_work _ _ _⟩
  | signal plugin | cleanup plugin results =>
      cases segment
      exact ⟨ProcessSupervisor.foldl_deliver_nextCell _ _ _, rfl⟩
  | returned result => cases segment

/-- The job that a call starts is gone from the queue, and the one whose process
it has started is no longer to be started. -/
theorem resume_startsOnce {frame following : Frame}
    (resumption : Frame.resume system frame answer = some (after, following)) :
    (after.queue.ids : Multiset Nat) + (following.unstarted.toList : Multiset Nat) +
        ((frame.spawns system answer).map (·.spawnedFor) : Multiset Nat) ≤
      (system.queue.ids : Multiset Nat) +
        (frame.unstarted.toList : Multiset Nat) := by
  have ids : ∀ {queue other : QueueManager},
      queue.jobs.map Job.work = other.jobs.map Job.work → queue.ids = other.ids := by
    intro queue other same
    have first := congrArg (List.map Prod.fst) same
    rwa [List.map_map, List.map_map] at first
  cases frame with
  | control call point =>
      obtain ⟨_, rfl, segment⟩ := Frame.resume_control resumption
      rw [ids (controlStep_spawning segment).2]
      simp [Frame.unstarted, Frame.spawns]
  | execute point =>
      obtain ⟨next, rfl, segment⟩ := Frame.resume_execute resumption
      obtain ⟨_, spawns, jobs⟩ := executeStep_spawning segment
      rcases jobs with ⟨starts, same⟩ | ⟨job, taken, rfl⟩
      · have none : (Frame.execute next).unstarted = none := by
          cases next with
          | lockPlugins job => exact absurd rfl (starts job)
          | _ => rfl
        rw [none, ids same, Option.toList_none, Multiset.coe_nil, add_zero]
        refine Multiset.add_le_add_iff_left.mpr ?_
        rcases spawns with ⟨nothing, _⟩ | ⟨job, pid, rfl, _, one, _⟩
        · rw [Frame.spawns, nothing]
          exact Multiset.zero_le _
        · rw [Frame.spawns, one]
          exact le_refl _
      · have spawned : (Frame.execute point).spawns system answer = [] := by
          rcases spawns with ⟨nothing, _⟩ | ⟨_, _, _, _, _, _, leads⟩
          · exact nothing
          · cases leads
        have perm := QueueManager.dequeue_ids_perm taken
        rw [spawned]
        change (after.queue.ids : Multiset Nat) + {job.id} + 0 ≤ _
        rw [Multiset.add_zero, Multiset.add_comm, Multiset.singleton_add,
          Multiset.cons_coe, Multiset.coe_eq_coe.mpr perm]
        exact Multiset.le_add_right _ _

end Segments

/-- The ghost history of a system, and what it says about the system.  A record
that a control call has left names the job that the call was made for. -/
structure SpawnHistory (first system : System) (spawned : List ManagedProcess) :
    Prop where
  waiting : ∀ work ∈ system.queue.jobs.map Job.work,
    work ∈ first.queue.jobs.map Job.work
  plugins : system.plugins = first.plugins
  cells : spawned.map (·.cell) = List.range system.supervisor.nextCell
  origin : ∀ process ∈ spawned, ∃ job, process.SpawnedFor first job
  tracked : ∀ plugin, ∀ process ∈ system.supervisor.tracked plugin,
    process ∈ spawned ∧ process.binary = plugin
  signalled : ∀ record ∈ system.signals, record.process ∈ spawned ∧
    ∀ call, record.sender = some call →
      ∃ job ∈ first.queue.jobs, job.id = call.jobId ∧
        record.process.binary = job.plugin

/-- What a task knows: the job that it is about to start, the process that it
waits for, and the plugin whose processes it is about to signal. -/
structure Frame.Sources (first : System) (spawned : List ManagedProcess)
    (frame : Frame) : Prop where
  starts : ∀ job, frame = .execute (.lockPlugins job) →
    job.work ∈ first.queue.jobs.map Job.work
  process : ∀ process, frame.process? = some process → process ∈ spawned
  registers : ∀ job process, frame = .execute (.register job process) →
    process.binary = job.plugin
  plugin : ∀ call point plugin, frame = .control call point →
    point.plugin? = some plugin →
      ∃ job ∈ first.queue.jobs, job.id = call.jobId ∧ job.plugin = plugin

section Runs

variable {first system after : System} {spawned : List ManagedProcess}
variable {frame following : Frame} {answer : Answer}

/-- The process that a segment starts is started as its job asks. -/
theorem SpawnHistory.spawns (history : SpawnHistory first system spawned)
    (sources : frame.Sources first spawned)
    (resumption : Frame.resume system frame answer = some (after, following)) :
    (spawned ++ frame.spawns system answer).map (·.cell) =
        List.range after.supervisor.nextCell ∧
      ∀ process ∈ frame.spawns system answer,
        ∃ job, process.SpawnedFor first job := by
  cases frame with
  | control call point =>
      obtain ⟨_, rfl, segment⟩ := Frame.resume_control resumption
      rw [(controlStep_spawning segment).1, ← history.cells]
      exact ⟨by simp [Frame.spawns], fun _ none => by cases none⟩
  | execute point =>
      obtain ⟨next, rfl, segment⟩ := Frame.resume_execute resumption
      rcases (executeStep_spawning segment).spawns with
        ⟨nothing, nextCell, _, _⟩ | ⟨job, pid, rfl, known, one, supervisor, _⟩
      · rw [Frame.spawns, nothing, nextCell, List.append_nil]
        exact ⟨history.cells, fun _ none => by cases none⟩
      · rw [Frame.spawns, one, supervisor, List.map_append, history.cells]
        refine ⟨List.range_succ.symm, ?_⟩
        intro process member
        rw [List.mem_singleton.mp member]
        obtain ⟨asked, here, same⟩ := List.mem_map.mp (sources.starts job rfl)
        simp only [Job.work, Prod.mk.injEq] at same
        obtain ⟨sameId, samePlugin, sameCommand, sameArgs⟩ := same
        refine ⟨asked, here, sameId.symm, samePlugin.symm, ?_, ?_⟩
        · rw [sameCommand, sameArgs]
          rfl
        · rw [samePlugin, ← history.plugins]
          exact known

/-- Only processes of the history are signalled, by a control call only under the
plugin name of its job. -/
theorem SpawnHistory.targets (history : SpawnHistory first system spawned)
    (sources : frame.Sources first spawned) :
    ∀ process ∈ frame.targets system answer, process ∈ spawned ∧
      ∀ call point, frame = .control call point →
        ∃ job ∈ first.queue.jobs, job.id = call.jobId ∧
          process.binary = job.plugin := by
  intro process target
  cases frame with
  | control call point =>
      have named : ∃ plugin, point.plugin? = some plugin ∧
          process ∈ system.supervisor.tracked plugin := by
        cases point with
        | signal plugin | cleanup plugin results => exact ⟨plugin, rfl, target⟩
        | list | update plugin results | returned result => cases target
      obtain ⟨plugin, known, here⟩ := named
      obtain ⟨inHistory, binary⟩ := history.tracked plugin process here
      refine ⟨inHistory, ?_⟩
      rintro _ _ ⟨⟩
      obtain ⟨job, queued, asked, same⟩ := sources.plugin _ _ plugin rfl known
      exact ⟨job, queued, asked, binary.trans same.symm⟩
  | execute point =>
      refine ⟨?_, fun _ _ same => by cases same⟩
      cases point with
      | poll job polled round =>
          simp only [Frame.targets, ExecPoint.targets] at target
          split at target
          · rw [List.mem_singleton.mp target]
            exact sources.process polled rfl
          · cases target
      | cleanup job => exact (history.tracked job.plugin process target).1
      | _ => cases target

theorem SpawnHistory.resume (history : SpawnHistory first system spawned)
    (sources : frame.Sources first spawned)
    (resumption : Frame.resume system frame answer = some (after, following)) :
    SpawnHistory first after (spawned ++ frame.spawns system answer) where
  waiting := by
    cases frame with
    | control call point =>
        obtain ⟨_, rfl, segment⟩ := Frame.resume_control resumption
        rw [(controlStep_spawning segment).2]
        exact history.waiting
    | execute point =>
        obtain ⟨_, rfl, segment⟩ := Frame.resume_execute resumption
        rcases (executeStep_spawning segment).jobs with ⟨_, same⟩ | ⟨job, taken, _⟩
        · rw [same]
          exact history.waiting
        · intro work member
          exact history.waiting work
            ((QueueManager.dequeue_work taken).2 work member)
  plugins := by
    cases frame with
    | control call point =>
        obtain ⟨_, rfl, segment⟩ := Frame.resume_control resumption
        exact (controlStep_frame segment).2.2.2.trans history.plugins
    | execute point =>
        obtain ⟨_, rfl, segment⟩ := Frame.resume_execute resumption
        exact (executeStep_spawning segment).plugins.trans history.plugins
  cells := (history.spawns sources resumption).1
  origin process member := by
    rcases List.mem_append.mp member with old | new
    · exact history.origin process old
    · exact (history.spawns sources resumption).2 process new
  tracked plugin process here := by
    cases frame with
    | control call point =>
        obtain ⟨_, rfl, segment⟩ := Frame.resume_control resumption
        obtain ⟨old, binary⟩ := history.tracked plugin process
          ((controlStep_segment segment).tracked plugin process here)
        exact ⟨List.mem_append_left _ old, binary⟩
    | execute point =>
        obtain ⟨_, rfl, segment⟩ := Frame.resume_execute resumption
        rcases (executeStep_segment segment).tracked plugin process here with
          old | ⟨job, rfl, rfl⟩
        · obtain ⟨old, binary⟩ := history.tracked plugin process old
          exact ⟨List.mem_append_left _ old, binary⟩
        · exact ⟨List.mem_append_left _ (sources.process process rfl),
            sources.registers job process rfl⟩
  signalled record member := by
    obtain ⟨records, log, senders⟩ := resume_signals resumption
    have processes := (resume_processes resumption).signals
    rw [log, List.map_append] at processes
    have addressed := List.append_cancel_left processes
    rw [log] at member
    rcases List.mem_append.mp member with old | new
    · obtain ⟨inHistory, sender⟩ := history.signalled record old
      exact ⟨List.mem_append_left _ inHistory, sender⟩
    · have target : record.process ∈ frame.targets system answer := by
        rw [← addressed]
        exact List.mem_map_of_mem new
      obtain ⟨inHistory, sent⟩ := history.targets sources record.process target
      refine ⟨List.mem_append_left _ inHistory, fun call sender => ?_⟩
      obtain ⟨point, rfl, _⟩ := senders record new call sender
      exact sent call point rfl

theorem Frame.Sources.resume (sources : frame.Sources first spawned)
    (history : SpawnHistory first system spawned)
    (resumption : Frame.resume system frame answer = some (after, following)) :
    following.Sources first (spawned ++ frame.spawns system answer) := by
  cases frame with
  | control call point =>
      obtain ⟨_, rfl, segment⟩ := Frame.resume_control resumption
      refine ⟨by simp, by simp [Frame.process?], by simp, ?_⟩
      rintro _ _ plugin ⟨⟩ named
      rcases (controlStep_segment segment).plugin plugin named with old | queued
      · exact sources.plugin call point plugin rfl old
      · obtain ⟨job, member, same⟩ := List.mem_map.mp queued
        obtain ⟨asked, here, asks⟩ := List.mem_map.mp
          (history.waiting job.work (List.mem_map_of_mem member))
        simp only [Job.identity, Prod.mk.injEq] at same
        simp only [Job.work, Prod.mk.injEq] at asks
        exact ⟨asked, here, asks.1.trans same.1, asks.2.1.trans same.2⟩
  | execute point =>
      obtain ⟨next, rfl, segment⟩ := Frame.resume_execute resumption
      have spawning := executeStep_spawning segment
      refine ⟨?_, ?_, ?_, by simp⟩
      · rintro job ⟨⟩
        rcases spawning.jobs with ⟨starts, _⟩ | ⟨taken, dequeued, same⟩
        · exact absurd rfl (starts job)
        · cases same
          exact history.waiting _ (QueueManager.dequeue_work dequeued).1
      · intro process here
        rcases spawning.spawns with ⟨_, _, _, kept⟩ |
          ⟨job, pid, rfl, _, one, _, rfl⟩
        · exact List.mem_append_left _ (sources.process process (kept process here))
        · cases here
          rw [Frame.spawns, one]
          exact List.mem_append_right _ List.mem_cons_self
      · rintro job process ⟨⟩
        rcases spawning.spawns with ⟨_, _, none, _⟩ | ⟨_, _, rfl, _, _, _, same⟩
        · exact absurd rfl (none job process)
        · cases same
          rfl

theorem Frame.Sources.later (sources : frame.Sources first spawned)
    (more : List ManagedProcess) : frame.Sources first (spawned ++ more) where
  starts := sources.starts
  process process here := List.mem_append_left _ (sources.process process here)
  registers := sources.registers
  plugin := sources.plugin

/-- Starting a process hands the job over to the history. -/
theorem executor_startsOnce :
    HandsOver (executor.recording Frame.spawns)
      (fun shared => shared.1.queue.ids ++ shared.2.map (·.spawnedFor))
      Frame.unstarted := by
  refine @HandsOver.recording _ _ _ _ _ _ executor Frame.spawns
    (·.queue.ids) Frame.unstarted (·.spawnedFor) ?_ ?_
  · intro frame entry
    rcases Frame.cases_of_isEntry entry with rfl | ⟨call, rfl⟩
    · rfl
    · rfl
  · intro system frame answer after following resumption
    exact resume_startsOnce resumption

/-- In every interleaving of any number of calls on a fresh supervisor, at most one
process is started for each job of the first queue, with the plugin, the command
and the arguments of that job, and for none that still waits.  Whatever is tracked,
waited for or signalled is one of these processes, and a control call reaches only
processes of the plugin of the job that it was made for. -/
theorem processes_come_from_jobs {guard : Pool System Frame → Label Frame Answer → Prop}
    {labels : List (Label Frame Answer)} {pool : Pool System Frame}
    (distinct : first.queue.ids.Nodup) (fresh : first.supervisor = .new)
    (quiet : first.signals = [])
    (run : Guarded (step executor) guard ⟨first, []⟩ labels pool) :
    ∃ spawned, SpawnHistory first pool.shared spawned ∧
      (pool.shared.queue.ids ++ spawned.map (·.spawnedFor)).Nodup ∧
      ∀ frame ∈ pool.tasks, ∀ process, frame.process? = some process →
        process ∈ spawned := by
  obtain ⟨spawned, recorded⟩ := @recording_run _ _ _ _ _ _ Frame.spawns _ _ _ _ _ run []
  have known : SpawnHistory first pool.shared spawned ∧
      ∀ frame ∈ pool.tasks, frame.Sources first spawned := by
    refine pool_invariant
      (fun shared => SpawnHistory first shared.1 shared.2)
      (fun shared frame => frame.Sources first shared.2) recorded ?_ ?_ ?_ ?_ ?_
    · exact
        { waiting := fun _ here => here
          plugins := rfl
          cells := by rw [fresh]; rfl
          origin := fun _ none => by cases none
          tracked := fun plugin process here => by
            rw [fresh] at here
            cases here
          signalled := fun record here => by
            rw [quiet] at here
            cases here }
    · exact fun _ none => by cases none
    · intro _ frame _ entry _
      rcases Frame.cases_of_isEntry entry with rfl | ⟨call, rfl⟩
      · exact ⟨by simp, by simp [Frame.process?, ExecPoint.process?], by simp, by simp⟩
      · refine ⟨by simp, by simp [Frame.process?], by simp, ?_⟩
        rintro _ _ plugin ⟨⟩ named
        cases named
    · intro before index answer frame shared resumed history _ _ sources _ resumption
      obtain ⟨taken, grown⟩ := recording_resume resumption
      rw [grown]
      exact ⟨history.resume sources taken, sources.resume history taken⟩
    · intro before frame answer shared resumed other _ _ resumption sources
      rw [(recording_resume resumption).2]
      exact sources.later _
  have once := custody_nodup_run executor_startsOnce
    (by simpa [custody] using distinct) recorded
  refine ⟨spawned, known.1, ?_, fun frame member process here =>
    (known.2 frame member).process process here⟩
  exact Multiset.coe_nodup.mp
    (Multiset.nodup_of_le (Multiset.le_add_right _ _) once)

end Runs

/-- Job 2 runs, and the call `cancel_job(1)` signals its process. -/
theorem processes_come_from_jobs_cancelled :
    ∃ pool spawned, Run (step executor) ⟨twoJobs, []⟩
        (spawning ++ [.start (.cancelJob 1 0), .advance 1 plainAnswer,
          .advance 1 plainAnswer]) pool ∧
      pool.shared.signals.length = 1 ∧
      SpawnHistory twoJobs pool.shared spawned ∧
      (pool.shared.queue.ids ++ spawned.map (·.spawnedFor)).Nodup ∧
      ∀ frame ∈ pool.tasks, ∀ process, frame.process? = some process →
        process ∈ spawned := by
  have run : Run (step executor) ⟨twoJobs, []⟩ (spawning ++ [.start (.cancelJob 1 0),
      .advance 1 plainAnswer, .advance 1 plainAnswer]) _ := run_of_exec_eq rfl
  obtain ⟨spawned, history⟩ := processes_come_from_jobs (by decide) rfl rfl run
  exact ⟨_, spawned, run, rfl, history⟩

end NetGuardian
