import NetGuardian.Executor

/-!
# What the answers of control calls say

`update_status` answers whether it has found the job, and drops the result of
`set_status`.  The control calls answer whether some signal succeeded, and update
the status and forget the processes in any case.  So `true` can mean that the
status was refused, and `false` that the job has changed.
-/

namespace NetGuardian

open LabelledRun

namespace QueueManager

variable {queue : QueueManager} {id : Nat} {job : Job}

theorem updateStatus_of_missing (missing : queue.get id = none) (now : Nat)
    (status : JobStatus) : queue.updateStatus now id status = (queue, false) := by
  have nowhere : queue.jobs.findIdx? (fun job => decide (job.id = id)) = none := by
    rw [List.findIdx?_eq_none_iff]
    intro job member
    simpa using List.find?_eq_none.mp missing job member
  rw [updateStatus, nowhere]

/-- The first job with the id is the one that is updated. -/
theorem updateStatus_of_get (found : queue.get id = some job) (now : Nat)
    (status : JobStatus) :
    ∃ before behind, queue.jobs = before ++ job :: behind ∧ job.id = id ∧
      queue.updateStatus now id status =
        ({ queue with
            jobs := before ++ trySetStatus now status job :: behind }, true) := by
  obtain ⟨named, before, behind, split, others⟩ :=
    List.find?_eq_some_iff_append.mp found
  have position : queue.jobs.findIdx? (fun job => decide (job.id = id)) =
      some before.length := by
    rw [split, List.findIdx?_append, List.findIdx?_eq_none_iff.mpr, Option.none_or,
      List.findIdx?_cons, if_pos named]
    · simp
    · intro other member
      simpa using others other member
  refine ⟨before, behind, split, of_decide_eq_true named, ?_⟩
  have below : before.length < queue.jobs.length := by
    rw [split, List.length_append, List.length_cons]
    omega
  rw [updateStatus, position]
  dsimp only
  rw [List.modify_eq_take_cons_drop below]
  simp [split]

theorem trySetStatus_of_admitted {status : JobStatus} {now : Nat}
    (admitted : job.canTransition status = true) :
    trySetStatus now status job =
      { job with status := status, updatedAt := now } := by
  rw [trySetStatus, Job.setStatus, if_pos admitted]

theorem trySetStatus_of_refused {status : JobStatus} {now : Nat}
    (refused : job.canTransition status = false) :
    trySetStatus now status job = job := by
  rw [trySetStatus, Job.setStatus, if_neg (by simp [refused])]

/-- A job whose transition is refused has the requested status only if it had
it before. -/
theorem trySetStatus_status_iff {status : JobStatus} {now : Nat} :
    (trySetStatus now status job).status = status ↔
      job.canTransition status = true ∨ job.status = status := by
  cases admitted : job.canTransition status with
  | true => simp [trySetStatus_of_admitted admitted]
  | false => simp [trySetStatus_of_refused admitted]

/-- An update says `true` exactly if the queue then holds a job with the id and
the requested status, and after `false` nothing has changed. -/
def AnswersTruthfully (queue : QueueManager) (now id : Nat)
    (status : JobStatus) : Prop :=
  ((queue.updateStatus now id status).2 = true ↔
      ∃ job ∈ (queue.updateStatus now id status).1.jobs,
        job.id = id ∧ job.status = status) ∧
    ((queue.updateStatus now id status).2 = false →
      (queue.updateStatus now id status).1 = queue)

/-- An update of a job in the queue is answered truthfully exactly if the job
does not refuse the status. -/
theorem answersTruthfully_iff (reachable : queue.Reachable) (now id : Nat)
    (status : JobStatus) :
    queue.AnswersTruthfully now id status ↔
      ∀ job ∈ queue.jobs, job.id = id →
        job.canTransition status = true ∨ job.status = status := by
  unfold AnswersTruthfully
  cases found : queue.get id with
  | none =>
      rw [updateStatus_of_missing found]
      have noJob : ∀ job ∈ queue.jobs, job.id ≠ id := by
        simpa [get] using found
      constructor
      · intro _ job member same
        exact absurd same (noJob job member)
      · intro _
        refine ⟨⟨fun answered => absurd answered Bool.false_ne_true, ?_⟩,
          fun _ => rfl⟩
        rintro ⟨job, member, same, _⟩
        exact absurd same (noJob job member)
  | some job =>
      obtain ⟨before, behind, split, rfl, updated⟩ :=
        updateStatus_of_get found now status
      have distinct := reachable.ids_nodup
      rw [ids, split] at distinct
      have apart : ∀ other ∈ before ++ behind, other.id ≠ job.id :=
        fun other member => DistinctKeys.key_ne_of_split Job.id distinct member
      have sameId : (trySetStatus now status job).id = job.id :=
        congrArg Prod.fst (trySetStatus_identity now status job)
      have answered : (∃ other ∈ before ++ trySetStatus now status job :: behind,
          other.id = job.id ∧ other.status = status) ↔
            (trySetStatus now status job).status = status := by
        constructor
        · rintro ⟨other, member, same, current⟩
          rw [← sameId] at apart same
          rwa [DistinctKeys.eq_of_key_eq Job.id apart member same] at current
        · intro current
          exact ⟨_, by simp, sameId, current⟩
      have asked : (∀ other ∈ queue.jobs, other.id = job.id →
          other.canTransition status = true ∨ other.status = status) ↔
            job.canTransition status = true ∨ job.status = status := by
        constructor
        · intro admitted
          exact admitted job (by simp [split]) rfl
        · intro admitted other member same
          rw [split] at member
          rwa [DistinctKeys.eq_of_key_eq Job.id apart member same]
      rw [updated]
      simp only [answered, asked, true_iff, Bool.true_eq_false, false_implies,
        and_true, trySetStatus_status_iff]

/-- A queue with one waiting job, as a client gets it. -/
def oneWaiting : QueueManager := (oneJob []).queue

theorem answersTruthfully_iff_oneWaiting :
    oneWaiting.AnswersTruthfully 0 1 .running ↔
      ∀ job ∈ oneWaiting.jobs, job.id = 1 →
        job.canTransition .running = true ∨ job.status = .running :=
  answersTruthfully_iff (oneJob_reachable []) 0 1 .running

/-- The waiting job refuses to fail, and the answer is `true`. -/
theorem pending_to_failed_acknowledged :
    oneWaiting.Reachable ∧
      ¬ oneWaiting.AnswersTruthfully 0 1 (.failed "error") := by
  refine ⟨oneJob_reachable [], ?_⟩
  rintro ⟨truthful, _⟩
  obtain ⟨job, member, _, status⟩ := truthful.mp rfl
  cases List.mem_singleton.mp member
  cases status

/-- A status leaves the queue as it is exactly if the job refuses it. -/
theorem updateStatus_unchanged_iff (found : queue.get id = some job) (now : Nat)
    (status : JobStatus) :
    (queue.updateStatus now id status).1 = queue ↔
      job.canTransition status = false := by
  obtain ⟨before, behind, split, _, updated⟩ :=
    updateStatus_of_get found now status
  rw [updated]
  constructor
  · intro unchanged
    have jobs := congrArg QueueManager.jobs unchanged
    dsimp only at jobs
    rw [split, List.append_cancel_left_eq, List.cons.injEq] at jobs
    cases admitted : job.canTransition status with
    | false => rfl
    | true =>
        rw [trySetStatus_of_admitted admitted] at jobs
        have already : status = job.status := congrArg Job.status jobs.1
        rw [already] at admitted
        cases current : job.status <;>
          simp [Job.canTransition, current] at admitted
  · intro refused
    rw [trySetStatus_of_refused refused, ← split]

end QueueManager

namespace ProcessSupervisor

variable {supervisor : ProcessSupervisor}

/-- Signals that all fail change nothing. -/
theorem foldl_deliver_of_failed {signal : Signal}
    {killed : ManagedProcess → Bool} {targets : List ManagedProcess}
    (failed : ∀ process ∈ targets, signal.succeeds (killed process) = false) :
    targets.foldl (deliver signal killed) supervisor = supervisor := by
  induction targets with
  | nil => rfl
  | cons process targets ih =>
      have first := failed process List.mem_cons_self
      rw [List.foldl_cons, deliver, if_neg (by simp [first])]
      exact ih fun other member => failed other (List.mem_cons_of_mem _ member)

end ProcessSupervisor

/-- One control call on its own: no other task runs between its segments. -/
def controlAlone (call : ControlCall) (current : System × ControlPoint)
    (answer : Answer) : Option (System × ControlPoint) :=
  controlStep call answer current.1 current.2

namespace ControlCall

/-- The queue, and the map of processes with the state of every process. -/
def Unchanged (before after : System) : Prop :=
  after.queue = before.queue ∧ after.supervisor = before.supervisor

/-- How far a call on `job` has come when no signal has succeeded. -/
structure Unsuccessful (call : ControlCall) (system : System) (job : Job)
    (queue : QueueManager) (after : System) : Prop where
  found : system.queue.get call.jobId = some job
  queue : after.queue = queue
  processes : after.supervisor = system.supervisor
  untracked : call.kind = .cancel → system.supervisor.tracked job.plugin = []

/-- What a call on its own has done, as long as it may still return `false`. -/
def Refuses (call : ControlCall) (system : System)
    (current : System × ControlPoint) : Prop :=
  match current.2 with
  | .list => current.1 = system
  | .signal plugin => current.1 = system ∧
      ∃ job, system.queue.get call.jobId = some job ∧ plugin = job.plugin
  | .update plugin results => results.any id = false → ∃ job,
      plugin = job.plugin ∧
        call.Unsuccessful system job system.queue current.1
  | .cleanup plugin results => call.kind = .cancel ∧
      (results.any id = false → ∃ job stamp, plugin = job.plugin ∧
        call.Unsuccessful system job
          (system.queue.updateStatus stamp call.jobId call.kind.status).1 current.1)
  | .returned result => result = false →
      (system.queue.get call.jobId = none ∧ Unchanged system current.1) ∨
        ∃ job stamp, system.queue.get call.jobId = some job ∧
          current.1.queue =
            (system.queue.updateStatus stamp call.jobId call.kind.status).1 ∧
          current.1.supervisor = if call.kind = .cancel then
            { system.supervisor with
              processes := system.supervisor.processes.erase job.plugin }
          else system.supervisor

section Refusal

variable {call : ControlCall} {system after : System}
variable {current next : System × ControlPoint} {answer : Answer}

/-- Signals of which none succeeds change nothing, and only with no process to
signal does no signal of a cancellation succeed. -/
theorem unsuccessful_signalAll {job : Job}
    (found : system.queue.get call.jobId = some job)
    (failed : (system.signalAll (some call) call.kind.signal job.plugin
      answer.killed).2.any id = false) :
    call.Unsuccessful system job system.queue
      (system.signalAll (some call) call.kind.signal job.plugin answer.killed).1 := by
  have allFailed : ∀ process ∈ system.supervisor.tracked job.plugin,
      call.kind.signal.succeeds (answer.killed process) = false := by
    intro process member
    have result := List.any_eq_false.mp failed
      (call.kind.signal.succeeds (answer.killed process))
      (List.mem_map_of_mem member)
    simpa using result
  refine ⟨found, rfl, ProcessSupervisor.foldl_deliver_of_failed allFailed, ?_⟩
  intro cancels
  rw [List.eq_nil_iff_forall_not_mem]
  intro process member
  have refused := allFailed process member
  rw [cancels] at refused
  cases refused

/-- The status is updated in any case. -/
theorem Unsuccessful.updateStatus {job : Job}
    (unsuccessful : call.Unsuccessful system job system.queue after) (stamp : Nat) :
    call.Unsuccessful system job
      (system.queue.updateStatus stamp call.jobId call.kind.status).1
      (after.updateStatus stamp call.jobId call.kind.status) where
  found := unsuccessful.found
  queue := by
    rw [← unsuccessful.queue]
    rfl
  processes := unsuccessful.processes
  untracked := unsuccessful.untracked

theorem Refuses.step (refuses : call.Refuses system current)
    (taken : controlAlone call current answer = some next) :
    call.Refuses system next := by
  obtain ⟨now, point⟩ := current
  unfold controlAlone at taken
  cases point with
  | list =>
      obtain rfl : now = system := refuses
      cases found : now.queue.get call.jobId with
      | none =>
          have listed : now.queue.list.find?
              (fun job => decide (job.id = call.jobId)) = none := found
          rw [controlStep, listed] at taken
          cases taken
          exact fun _ => .inl ⟨found, rfl, rfl⟩
      | some job =>
          have listed : now.queue.list.find?
              (fun job => decide (job.id = call.jobId)) = some job := found
          rw [controlStep, listed] at taken
          cases taken
          exact ⟨rfl, job, found, rfl⟩
  | signal plugin =>
      obtain ⟨rfl, job, found, rfl⟩ := refuses
      cases taken
      intro failed
      exact ⟨job, rfl, unsuccessful_signalAll found failed⟩
  | update plugin results =>
      rw [controlStep] at taken
      by_cases cancels : call.kind = .cancel
      · rw [if_pos cancels] at taken
        cases taken
        refine ⟨cancels, fun failed => ?_⟩
        obtain ⟨job, same, unsuccessful⟩ := refuses failed
        exact ⟨job, answer.stamp, same, unsuccessful.updateStatus answer.stamp⟩
      · rw [if_neg cancels] at taken
        cases taken
        intro failed
        obtain ⟨job, _, unsuccessful⟩ := refuses failed
        have updated := unsuccessful.updateStatus answer.stamp
        refine .inr ⟨job, answer.stamp, updated.found, updated.queue, ?_⟩
        rw [if_neg cancels]
        exact updated.processes
  | cleanup plugin results =>
      cases taken
      obtain ⟨cancels, ifFailed⟩ := refuses
      intro failed
      obtain ⟨job, stamp, rfl, unsuccessful⟩ := ifFailed failed
      refine .inr ⟨job, stamp, unsuccessful.found, unsuccessful.queue, ?_⟩
      rw [if_pos cancels]
      change now.supervisor.cleanup job.plugin answer.killed = _
      rw [unsuccessful.processes, ProcessSupervisor.cleanup,
        unsuccessful.untracked cancels]
      rfl
  | returned result => cases taken

theorem refuses_run {answers : List Answer}
    (run : Run (controlAlone call) (system, .list) answers current) :
    call.Refuses system current :=
  run.invariant (call.Refuses system) rfl
    fun _ _ _ refuses _ taken => refuses.step taken

theorem erase_eq_self_iff {Value : Type} (plugin : String)
    (processes : AList fun _ : String => Value) :
    processes.erase plugin = processes ↔ plugin ∉ processes := by
  constructor
  · intro same member
    rw [← same, AList.mem_erase] at member
    exact member.1 rfl
  · intro absent
    exact AList.ext (List.kerase_of_notMem_keys absent)

/-- A control call that returns `false` has changed nothing exactly if it has
not found its job, or if the job refuses the status and there is no entry for a
cancellation to clean up. -/
theorem refusal_unchanged_iff {answers : List Answer}
    (run : Run (controlAlone call) (system, .list) answers
      (after, .returned false)) :
    Unchanged system after ↔
      ∀ job, system.queue.get call.jobId = some job →
        job.canTransition call.kind.status = false ∧
          (call.kind = .cancel → job.plugin ∉ system.supervisor.processes) := by
  rcases refuses_run run rfl with ⟨missing, unchanged⟩ |
    ⟨job, stamp, found, queue, supervisor⟩
  · constructor
    · intro _ job found
      rw [missing] at found
      cases found
    · intro _
      exact unchanged
  · dsimp only at queue supervisor
    have queueSame : after.queue = system.queue ↔
        job.canTransition call.kind.status = false := by
      rw [queue]
      exact QueueManager.updateStatus_unchanged_iff found stamp call.kind.status
    have supervisorSame : after.supervisor = system.supervisor ↔
        (call.kind = .cancel → job.plugin ∉ system.supervisor.processes) := by
      rw [supervisor]
      by_cases cancels : call.kind = .cancel
      · rw [if_pos cancels, ← erase_eq_self_iff]
        constructor
        · intro same _
          exact congrArg ProcessSupervisor.processes same
        · intro same
          rw [same cancels]
      · rw [if_neg cancels]
        simp [cancels]
    rw [Unchanged, queueSame, supervisorSame, found]
    simp

/-- Cancelling the waiting job 1, for which no process runs. -/
def cancelWaiting : ControlCall := ⟨.cancel, 1, 0⟩

/-- What is left of `oneJob` after that. -/
def afterCancelling : System × ControlPoint :=
  (exec (controlAlone cancelWaiting) (oneJob ["tool"], .list)
    [plainAnswer, plainAnswer, plainAnswer, plainAnswer]).getD
      (oneJob ["tool"], .list)

theorem refusal_unchanged_iff_cancelWaiting :
    Unchanged (oneJob ["tool"]) afterCancelling.1 ↔
      ∀ job, (oneJob ["tool"]).queue.get 1 = some job →
        job.canTransition .cancelled = false ∧
          (ControlKind.cancel = .cancel →
            job.plugin ∉ (oneJob ["tool"]).supervisor.processes) :=
  @refusal_unchanged_iff cancelWaiting (oneJob ["tool"]) afterCancelling.1
    [plainAnswer, plainAnswer, plainAnswer, plainAnswer] (run_of_exec_eq rfl)

/-- The call returns `false`, and the job is cancelled. -/
theorem refused_and_cancelled :
    Run (controlAlone cancelWaiting) (oneJob ["tool"], .list)
        [plainAnswer, plainAnswer, plainAnswer, plainAnswer]
        (afterCancelling.1, .returned false) ∧
      afterCancelling.1.queue.jobs.map Job.status = [.cancelled] ∧
      ¬ Unchanged (oneJob ["tool"]) afterCancelling.1 := by
  refine ⟨run_of_exec_eq rfl, rfl, ?_⟩
  rintro ⟨sameQueue, _⟩
  have statuses := congrArg (fun queue => queue.jobs.map Job.status) sameQueue
  cases statuses

end Refusal

end ControlCall

end NetGuardian
