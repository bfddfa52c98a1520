import NetGuardian.SelfDeadlock

/-!
# Job control

The control calls look the job up in the queue, but a running job is not in the
queue.  A control call that is made after the dequeue never reaches the process
of the job.
-/

namespace NetGuardian

open CooperativeTasks LabelledRun

/-- Any number of calls of the executor's methods on one system. -/
abbrev ExecutorPool := Pool System Frame

abbrev ExecutorLabel := Label Frame Answer

section Reach

variable {system : System} {pool later : ExecutorPool}
variable {labels : List ExecutorLabel}

/-- The job of a call of `execute_next` is not in the queue. -/
def Dequeued (system : System) (frame : Frame) : Prop :=
  ∀ point job, frame = .execute point → point.job? = some job →
    job.id ∉ system.queue.ids

/-- In every interleaving, a job that some call works on is not in the queue. -/
theorem dequeued_run (distinct : system.queue.ids.Nodup)
    (run : Run (step executor) ⟨system, []⟩ labels pool) :
    pool.shared.queue.ids.Nodup ∧
      ∀ frame ∈ pool.tasks, Dequeued pool.shared frame := by
  apply pool_invariant (fun system : System => system.queue.ids.Nodup) Dequeued
    run distinct
  · intro frame member
    cases member
  · rintro _ frame _ entry _ point job rfl working
    cases point with
    | dequeue => cases working
    | _ => cases entry
  · intro before index answer frame shared resumed distinctIds _ _ absent _ resumption
    refine ⟨distinctIds.sublist (resume_ids resumption), ?_⟩
    rintro point job rfl working
    cases frame with
    | control call point =>
        obtain ⟨_, same, _⟩ := Frame.resume_control resumption
        cases same
    | execute before =>
        obtain ⟨next, same, segment⟩ := Frame.resume_execute resumption
        cases same
        rcases (executeStep_segment segment).ids with
          ⟨rfl, ⟨rfl, rfl⟩ | ⟨taken, rest, dequeued, rfl, rfl⟩⟩ |
          ⟨old, current, worked, works, sameId, sameQueue⟩
        · cases working
        · cases working
          exact QueueManager.dequeue_id_notMem distinctIds dequeued
        · rw [works] at working
          cases working
          rw [sameQueue, sameId]
          exact absent before old rfl worked
  · intro before frame answer shared resumed other _ _ resumption absent point job
      same working member
    exact absent point job same working ((resume_ids resumption).subset member)

/-- The control call has not found its job: it is about to look for it, or it
has returned `false`. -/
def Unheard (call : ControlCall) (frame : Frame) : Prop :=
  ∀ point, frame = .control call point →
    point = .list ∨ point = .returned false

/-- Without the job in the queue, a call that has not found it never will. -/
theorem unheard_resume {answer : Answer} {system after : System}
    {call : ControlCall} {frame next : Frame}
    (absent : call.jobId ∉ system.queue.ids) (unheard : Unheard call frame)
    (resumption : Frame.resume system frame answer = some (after, next)) :
    Unheard call next := by
  rintro point rfl
  cases frame with
  | execute before =>
      obtain ⟨_, same, _⟩ := Frame.resume_execute resumption
      cases same
  | control other before =>
      obtain ⟨following, same, segment⟩ := Frame.resume_control resumption
      cases same
      rcases unheard before rfl with rfl | rfl
      · have missing : system.queue.list.find?
            (fun job => decide (job.id = call.jobId)) = none :=
          QueueManager.get_eq_none_of_notMem _ absent
        rw [controlStep, missing] at segment
        cases segment
        exact .inr rfl
      · cases segment

/-- A segment adds no signal of a call that has not found its job. -/
theorem signals_of_unheard {answer : Answer} {system after : System}
    {call : ControlCall} {frame next : Frame} {record : SignalRecord}
    (unheard : Unheard call frame)
    (resumption : Frame.resume system frame answer = some (after, next))
    (member : record ∈ after.signals) (sender : record.sender = some call) :
    record ∈ system.signals := by
  obtain ⟨records, log, senders⟩ := resume_signals resumption
  rw [log] at member
  rcases List.mem_append.mp member with old | new
  · exact old
  · obtain ⟨sending, same, target⟩ := senders record new call sender
    rcases unheard sending same with rfl | rfl <;> cases target

/-- A control call that is made while `execute_next` works on the job never
finds the job: in no continuation does it send a signal or return `true`. -/
theorem controlCall_unheard (reachable : system.queue.Reachable)
    (run : Run (step executor) ⟨system, []⟩ labels pool)
    {point : ExecPoint} {job : Job}
    (executing : .execute point ∈ pool.tasks) (working : point.job? = some job)
    {call : ControlCall} (addressed : call.jobId = job.id)
    (fresh : ∀ point, .control call point ∉ pool.tasks)
    {labelsAfter : List ExecutorLabel}
    (continuation : Run (step executor)
      { pool with tasks := pool.tasks ++ [.control call .list] } labelsAfter
      later) :
    (later.tasks[pool.tasks.length]? = some (.control call .list) ∨
        later.tasks[pool.tasks.length]? =
          some (.control call (.returned false))) ∧
      ∀ record ∈ later.shared.signals, record.sender = some call →
        record ∈ pool.shared.signals := by
  have absent : call.jobId ∉ pool.shared.queue.ids := by
    rw [addressed]
    exact (dequeued_run reachable.ids_nodup run).2 _ executing point job rfl
      working
  have unheard : (call.jobId ∉ later.shared.queue.ids ∧
      ∀ record ∈ later.shared.signals, record.sender = some call →
        record ∈ pool.shared.signals) ∧
      ∀ frame ∈ later.tasks, Unheard call frame := by
    apply pool_invariant
      (fun system : System => call.jobId ∉ system.queue.ids ∧
        ∀ record ∈ system.signals, record.sender = some call →
          record ∈ pool.shared.signals)
      (fun _ frame => Unheard call frame) continuation
    · exact ⟨absent, fun record member _ => member⟩
    · rintro frame member point rfl
      rcases List.mem_append.mp member with old | new
      · exact absurd old (fresh point)
      · cases List.mem_singleton.mp new
        exact .inl rfl
    · rintro _ frame _ entry _ point rfl
      cases point with
      | list => exact .inl rfl
      | _ => cases entry
    · intro before index answer frame shared resumed good _ _ notFound _ resumption
      obtain ⟨notThere, quiet⟩ := good
      refine ⟨⟨fun member => notThere ((resume_ids resumption).subset member),
        ?_⟩, unheard_resume notThere notFound resumption⟩
      intro record member sender
      exact quiet record
        (signals_of_unheard notFound resumption member sender) sender
    · intro _ _ _ _ _ _ _ _ _ fits
      exact fits
  have stays : ∃ frame, later.tasks[pool.tasks.length]? = some frame ∧
      ∃ point, frame = .control call point := by
    apply task_invariant (fun frame => ∃ point, frame = .control call point)
      continuation
    · exact ⟨_, List.getElem?_concat_length, .list, rfl⟩
    · rintro shared frame answer after resumed ⟨point, rfl⟩ resumption
      obtain ⟨next, same, _⟩ := Frame.resume_control resumption
      exact ⟨next, same⟩
  obtain ⟨frame, here, point, rfl⟩ := stays
  refine ⟨?_, unheard.1.2⟩
  rcases unheard.2 _ (List.mem_of_getElem? here) point rfl with rfl | rfl
  · exact .inl here
  · exact .inr here

/-- A call of `execute_next` up to its polling loop. -/
def spawning : List ExecutorLabel :=
  [.start .executeNext, .advance 0 plainAnswer, .advance 0 plainAnswer,
    .advance 0 plainAnswer]

/-- The pool in which the process of job 1 has been spawned and tracked. -/
def spawnedPool : ExecutorPool :=
  (exec (step executor) ⟨oneJob ["tool"], []⟩ spawning).getD
    ⟨oneJob ["tool"], []⟩

def cancelRunning : ControlCall := ⟨.cancel, 1, 0⟩

/-- The same pool when `cancel_job(1)` has been called. -/
def cancelledPool : ExecutorPool :=
  { spawnedPool with tasks := spawnedPool.tasks ++ [.control cancelRunning .list] }

theorem controlCall_unheard_spawned :
    ∃ later, exec (step executor) cancelledPool [.advance 1 plainAnswer] =
        some later ∧
      (later.tasks[1]? = some (.control cancelRunning .list) ∨
        later.tasks[1]? = some (.control cancelRunning (.returned false))) := by
  have run : Run (step executor) ⟨oneJob ["tool"], []⟩ spawning spawnedPool :=
    run_of_exec_eq rfl
  have continuation : Run (step executor) cancelledPool
      [.advance 1 plainAnswer] _ := run_of_exec_eq rfl
  have fresh : ∀ point, .control cancelRunning point ∉ spawnedPool.tasks := by
    intro point member
    cases List.mem_singleton.mp member
  exact ⟨_, continuation.exec_eq,
    (controlCall_unheard (oneJob_reachable _) run (List.mem_singleton_self _) rfl
      rfl fresh continuation).1⟩

/-- The process of job 1 runs and is tracked; `cancel_job(1)` returns `false`
and nothing has been signalled. -/
theorem running_job_not_cancelled :
    (spawnedPool.shared.supervisor.tracked "tool").map
        ManagedProcess.spawnedFor = [cancelRunning.jobId] ∧
      ∃ later, Run (step executor) cancelledPool [.advance 1 plainAnswer] later ∧
        later.tasks[1]? = some (.control cancelRunning (.returned false)) ∧
        later.shared.signals = [] :=
  ⟨rfl, _, run_of_exec_eq rfl, rfl, rfl⟩

end Reach

end NetGuardian
