import NetGuardian.JobControl

/-!
# Isolation of job control

The control calls find the processes to signal by the name of the plugin, and
these may belong to other jobs.  A call signals whatever is tracked under that
name, so it is isolated exactly as long as nothing else is tracked there; jobs
of pairwise different plugins never get into each other's way.
-/

namespace NetGuardian

open CooperativeTasks LabelledRun

section Isolation

variable {system : System} {pool next : ExecutorPool}
variable {labels : List ExecutorLabel} {label : ExecutorLabel}

/-- Control calls have signalled processes of their own jobs only. -/
def Isolated (pool : ExecutorPool) : Prop :=
  ∀ record ∈ pool.shared.signals, ∀ call, record.sender = some call →
    record.process.spawnedFor = call.jobId

/-- If the step is a control call that signals the processes of a plugin, all
of them were spawned for the job of the call. -/
def OwnTargets (pool : ExecutorPool) : ExecutorLabel → Prop
  | .start _ => True
  | .advance index _ => ∀ call point,
      pool.tasks[index]? = some (.control call point) →
        ∀ process ∈ point.targets pool.shared, process.spawnedFor = call.jobId

/-- The log of signals only grows. -/
theorem signals_step (taken : step executor pool label = some next) :
    ∃ records, next.shared.signals = pool.shared.signals ++ records := by
  cases label with
  | start frame =>
      obtain ⟨_, rfl⟩ := step_start taken
      exact ⟨[], (List.append_nil _).symm⟩
  | advance index answer =>
      obtain ⟨frame, shared, resumed, _, _, resumption, rfl⟩ := step_advance taken
      obtain ⟨records, log, _⟩ := resume_signals resumption
      exact ⟨records, log⟩

theorem isolated_step (isolated : Isolated pool) (own : OwnTargets pool label)
    (taken : step executor pool label = some next) : Isolated next := by
  cases label with
  | start frame =>
      obtain ⟨_, rfl⟩ := step_start taken
      exact isolated
  | advance index answer =>
      obtain ⟨frame, shared, resumed, found, _, resumption, rfl⟩ :=
        step_advance taken
      obtain ⟨records, log, senders⟩ := resume_signals resumption
      intro record member call sender
      change record ∈ shared.signals at member
      rw [log] at member
      rcases List.mem_append.mp member with old | new
      · exact isolated record old call sender
      · obtain ⟨point, rfl, target⟩ := senders record new call sender
        exact own call point found record.process target

theorem not_isolated_step (foreign : ¬ OwnTargets pool label)
    (taken : step executor pool label = some next) : ¬ Isolated next := by
  cases label with
  | start frame => exact absurd trivial foreign
  | advance index answer =>
      obtain ⟨frame, shared, resumed, found, _, resumption, rfl⟩ :=
        step_advance taken
      simp only [OwnTargets, not_forall] at foreign
      obtain ⟨call, point, here, process, target, other⟩ := foreign
      rw [here] at found
      cases found
      obtain ⟨following, rfl, segment⟩ := Frame.resume_control resumption
      obtain ⟨signal, log⟩ := (controlStep_segment segment).signals
      intro isolated
      apply other
      apply isolated ⟨some call, signal, process⟩ _ call rfl
      change _ ∈ shared.signals
      rw [log]
      exact List.mem_append_right _ (List.mem_map_of_mem target)

/-- Over every interleaving, the control calls are isolated exactly when they
always find processes of their own jobs under the name of the plugin. -/
theorem isolated_iff_ownTargets (system : System) (quiet : system.signals = [])
    (run : Run (step executor) ⟨system, []⟩ labels pool) :
    Isolated pool ↔
      Guarded (step executor) OwnTargets ⟨system, []⟩ labels pool := by
  apply Guarded.good_iff_guarded (fun _ => True) Isolated run trivial
  · intro record member
    rw [quiet] at member
    cases member
  · exact fun _ _ _ _ _ => trivial
  · exact fun _ _ _ _ isolated own taken => isolated_step isolated own taken
  · exact fun _ _ _ _ foreign taken => not_isolated_step foreign taken
  · intro state label after _ bad taken isolated
    obtain ⟨records, log⟩ := signals_step taken
    apply bad
    intro record member
    apply isolated record
    rw [log]
    exact List.mem_append_left _ member

/-- Two jobs of the same plugin with the same id, as when the ids of a loaded queue
are given out again. -/
def sameId : System :=
  { oneJob ["tool"] with
    queue := (oneJob ["tool"]).queue.enqueue
      (Job.new 1 0 "tool" "" "run" [] .normal) }

/-- One of the jobs runs, and its id is cancelled through the other. -/
def cancelSameId : List ExecutorLabel :=
  spawning ++ [.start (.cancelJob 1 0), .advance 1 plainAnswer, .advance 1 plainAnswer]

theorem isolated_iff_ownTargets_cancelled :
    ∃ pool, Run (step executor) ⟨sameId, []⟩ cancelSameId pool ∧
      pool.shared.signals.map (fun record => record.process.spawnedFor) = [1] ∧
      Guarded (step executor) OwnTargets ⟨sameId, []⟩ cancelSameId pool := by
  have run : Run (step executor) ⟨sameId, []⟩ cancelSameId _ := run_of_exec_eq rfl
  refine ⟨_, run, rfl, (isolated_iff_ownTargets sameId rfl run).mp ?_⟩
  intro record member call sender
  cases List.mem_singleton.mp member
  cases sender
  rfl

/-- Two jobs of the same plugin.  The later one is dequeued first. -/
def twoJobs : System :=
  { oneJob ["tool"] with
    queue := (oneJob ["tool"]).queue.enqueue
      (Job.new 2 0 "tool" "" "run" [] .normal) }

/-- Job 2 runs while job 1 waits.  The call `cancel_job(1)` terminates the
process of job 2. -/
theorem waiting_job_cancels_running_job :
    ∃ pool, Run (step executor) ⟨twoJobs, []⟩
        (spawning ++ [.start (.cancelJob 1 0), .advance 1 plainAnswer,
          .advance 1 plainAnswer]) pool ∧
      pool.shared.signals.map (fun record => record.process.spawnedFor) = [2] ∧
      ¬ Isolated pool := by
  refine ⟨_, run_of_exec_eq rfl, rfl, ?_⟩
  intro isolated
  have same := isolated _ List.mem_cons_self ⟨.cancel, 1, 0⟩ rfl
  cases same

end Isolation

section Owners

variable {answer : Answer} {system after : System}

variable (owners : List (Nat × String))

/-- Every queued job, and the job of every tracked process together with the
name that the process is tracked under, is on a list. -/
structure OwnersKnown (system : System) : Prop where
  queued : ∀ owner ∈ system.queue.identities, owner ∈ owners
  tracked : ∀ plugin, ∀ process ∈ system.supervisor.tracked plugin,
    (process.spawnedFor, plugin) ∈ owners

/-- So is the job that a task works on, with the plugin that the task takes it
to have. -/
def FrameKnown : Frame → Prop
  | .execute point =>
      (∀ job, point.job? = some job → job.identity ∈ owners) ∧
        ∀ job process, point = .register job process →
          process.spawnedFor = job.id
  | .control call point =>
      ∀ plugin, point.plugin? = some plugin → (call.jobId, plugin) ∈ owners

variable {owners}

theorem ownersKnown_resume {frame next : Frame}
    (known : OwnersKnown owners system) (fits : FrameKnown owners frame)
    (resumption : Frame.resume system frame answer = some (after, next)) :
    OwnersKnown owners after where
  queued owner member :=
    known.queued owner ((resume_identities resumption).subset member)
  tracked plugin process here := by
    cases frame with
    | execute point =>
        obtain ⟨next, rfl, segment⟩ := Frame.resume_execute resumption
        rcases (executeStep_segment segment).tracked plugin process here with
          old | ⟨job, rfl, rfl⟩
        · exact known.tracked plugin process old
        · rw [fits.2 job process rfl]
          exact fits.1 job rfl
    | control call point =>
        obtain ⟨next, rfl, segment⟩ := Frame.resume_control resumption
        exact known.tracked plugin process
          ((controlStep_segment segment).tracked plugin process here)

theorem frameKnown_execute {point next : ExecPoint}
    (known : OwnersKnown owners system)
    (fits : FrameKnown owners (.execute point))
    (segment : executeStep answer system point = some (after, next)) :
    FrameKnown owners (.execute next) := by
  refine ⟨?_, ?_⟩
  · intro job working
    rcases (executeStep_segment segment).job with
      ⟨_, ⟨rfl, _⟩ | ⟨taken, rest, dequeued, rfl, _⟩⟩ |
      ⟨before, current, worked, works, same, _⟩
    · cases working
    · cases working
      exact known.queued _ (QueueManager.dequeue_identity_mem dequeued)
    · rw [works] at working
      cases working
      rw [same]
      exact fits.1 before worked
  · rintro job process rfl
    exact (executeStep_segment segment).registers job process rfl

theorem frameKnown_control {call : ControlCall} {point next : ControlPoint}
    (known : OwnersKnown owners system)
    (fits : FrameKnown owners (.control call point))
    (segment : controlStep call answer system point = some (after, next)) :
    FrameKnown owners (.control call next) := by
  intro plugin named
  rcases (controlStep_segment segment).plugin plugin named with old | queued
  · exact fits plugin old
  · exact known.queued _ queued

/-- In every interleaving, the jobs and plugins in play are those that were in
the queue at the beginning. -/
theorem owners_run {guard : ExecutorPool → ExecutorLabel → Prop}
    {pool : ExecutorPool} {labels : List ExecutorLabel}
    (known : OwnersKnown owners system)
    (run : Guarded (step executor) guard ⟨system, []⟩ labels pool) :
    OwnersKnown owners pool.shared ∧
      ∀ frame ∈ pool.tasks, FrameKnown owners frame := by
  apply pool_invariant (OwnersKnown owners) (fun _ => FrameKnown owners) run known
  · intro frame member
    cases member
  · intro _ frame _ entry _
    cases frame with
    | execute point =>
        cases point with
        | dequeue =>
            refine ⟨?_, ?_⟩
            · intro job working
              cases working
            · intro job process same
              cases same
        | _ => cases entry
    | control call point =>
        cases point with
        | list =>
            intro plugin found
            cases found
        | _ => cases entry
  · intro before index answer frame shared resumed good _ _ fits _ resumption
    refine ⟨ownersKnown_resume good fits resumption, ?_⟩
    cases frame with
    | execute point =>
        obtain ⟨next, rfl, segment⟩ := Frame.resume_execute resumption
        exact frameKnown_execute good fits segment
    | control call point =>
        obtain ⟨next, rfl, segment⟩ := Frame.resume_control resumption
        exact frameKnown_control good fits segment
  · intro _ _ _ _ _ _ _ _ _ fits
    exact fits

/-- Where every plugin name belongs to one job, a control call only ever finds
processes of its own job. -/
theorem ownTargets_of_known (distinct : (owners.map Prod.snd).Nodup)
    {pool : ExecutorPool} (label : ExecutorLabel)
    (known : OwnersKnown owners pool.shared)
    (frames : ∀ frame ∈ pool.tasks, FrameKnown owners frame) :
    OwnTargets pool label := by
  cases label with
  | start frame => trivial
  | advance index answer =>
      intro call point found process target
      have fits := frames _ (List.mem_of_getElem? found)
      have own : ∃ plugin, point.plugin? = some plugin ∧
          process ∈ pool.shared.supervisor.tracked plugin := by
        cases point with
        | signal plugin | cleanup plugin results => exact ⟨plugin, rfl, target⟩
        | list | update plugin results | returned result => cases target
      obtain ⟨plugin, named, tracked⟩ := own
      have same := List.inj_on_of_nodup_map distinct
        (known.tracked plugin process tracked) (fits plugin named) rfl
      exact congrArg Prod.fst same

/-- Jobs of pairwise different plugins are isolated from each other, in every
interleaving. -/
theorem isolated_of_distinct_plugins {pool : ExecutorPool}
    {labels : List ExecutorLabel}
    (distinct : (system.queue.jobs.map Job.plugin).Nodup)
    (idle : ∀ plugin, system.supervisor.tracked plugin = [])
    (quiet : system.signals = [])
    (run : Run (step executor) ⟨system, []⟩ labels pool) : Isolated pool := by
  have known : OwnersKnown system.queue.identities system := by
    refine ⟨fun _ member => member, ?_⟩
    intro plugin process here
    rw [idle] at here
    cases here
  have distinctNames : (system.queue.identities.map Prod.snd).Nodup := by
    rw [QueueManager.identities, List.map_map]
    exact distinct
  have guarded : Guarded (step executor) OwnTargets ⟨system, []⟩ labels pool := by
    apply run.strengthen (fun pool : ExecutorPool =>
      OwnersKnown system.queue.identities pool.shared ∧
        ∀ frame ∈ pool.tasks, FrameKnown system.queue.identities frame)
    · exact fun before => owners_run known before
    · exact fun _ label inv _ => ownTargets_of_known distinctNames label inv.1 inv.2
  apply guarded.invariant Isolated
  · intro record member
    rw [quiet] at member
    cases member
  · exact fun _ _ _ isolated own taken => isolated_step isolated own taken

end Owners

end NetGuardian
