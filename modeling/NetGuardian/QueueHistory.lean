import NetGuardian.QueueManager
import NetGuardian.Foundation.TicketLine

/-!
# Histories of the queue

Any number of clients call the queue, and every call takes effect under its
mutex.  `enqueue` builds its job before it takes the lock, so that it is two
steps here: other calls may come in between.

`QueueSystem` is what the program keeps, together with what the calls of
`dequeue` have returned.  `QueueHistory` gives every job a ticket, the value of
`NEXT_JOB_ID` that it was built with, and records where each ticket went.
-/

namespace NetGuardian

inductive QueueCall where
  | create (plugin description command : String) (args : List String)
      (priority : JobPriority)
  | push (position : Nat)
  | dequeue
  | updateStatus (id : Nat) (status : JobStatus)
  | remove (id : Nat)
  | retryFailed
  | resumeAll
  | clearCompleted
  | setAutoResume (enabled : Bool)

/-- The queue, `NEXT_JOB_ID` (counted without wrapping), the jobs of `enqueue`
calls that still wait for the lock, and the results of `dequeue`. -/
structure QueueSystem where
  queue : QueueManager
  counter : Nat
  building : List Job
  returned : List Job

namespace QueueSystem

def initial : QueueSystem where
  queue := .new
  counter := 1
  building := []
  returned := []

/-- One step at one wall-clock reading. -/
def apply (system : QueueSystem) (call : Nat × QueueCall) : QueueSystem :=
  match call.2 with
  | .create plugin description command args priority =>
      { system with
        counter := system.counter + 1
        building := system.building ++
          [Job.new system.counter call.1 plugin description command args
            priority] }
  | .push position =>
      match system.building[position]? with
      | none => system
      | some job =>
          { system with
            queue := system.queue.enqueue job
            building := system.building.eraseIdx position }
  | .dequeue =>
      match system.queue.dequeue with
      | none => system
      | some (job, queue) =>
          { system with
            queue := queue
            returned := system.returned ++ [job] }
  | .updateStatus id status =>
      { system with queue := (system.queue.updateStatus call.1 id status).1 }
  | .remove id => { system with queue := (system.queue.remove id).1 }
  | .retryFailed => { system with queue := system.queue.retryFailed.1 }
  | .resumeAll => { system with queue := system.queue.resumeAll.1 }
  | .clearCompleted => { system with queue := system.queue.clearCompleted.1 }
  | .setAutoResume enabled =>
      { system with queue := system.queue.setAutoResume enabled }

end QueueSystem

namespace QueueManager

/-- What `retry_failed` makes of one job. -/
def retried (job : Job) : Job :=
  if isRetryable job then
    { job with retryCount := addU32 job.retryCount 1, status := .pending }
  else job

/-- What `resume_all` makes of one job. -/
def resumed (job : Job) : Job :=
  if job.status = .paused then { job with status := .pending } else job

/-- What `dequeue` hands out. -/
def started (job : Job) : Job := { job with status := .running }

theorem retryFailed_jobs (queue : QueueManager) :
    queue.retryFailed.1 = { queue with jobs := queue.jobs.map retried } :=
  rfl

theorem resumeAll_jobs (queue : QueueManager) :
    queue.resumeAll.1 = { queue with jobs := queue.jobs.map resumed } :=
  rfl

end QueueManager

/-- The operations by which a job leaves the queue. -/
inductive QueueExit where
  | dequeued
  | removed
  | cleared
deriving DecidableEq

instance : Fintype QueueExit where
  elems := {.dequeued, .removed, .cleared}
  complete exit := by cases exit <;> decide

structure QueueHistory where
  counter : Nat
  building : List (Nat × Job)
  line : TicketLine.Line Job QueueExit
  autoResume : Bool

namespace QueueHistory

open TicketLine QueueManager

def initial : QueueHistory where
  counter := 1
  building := []
  line := .empty
  autoResume := true

/-- The protected state: the line without its tickets. -/
def queue (history : QueueHistory) : QueueManager where
  jobs := history.line.items
  autoResume := history.autoResume

/-- The jobs that were dequeued, as they were returned. -/
def returned (history : QueueHistory) : List Job :=
  history.line.goneItems .dequeued

def system (history : QueueHistory) : QueueSystem where
  queue := history.queue
  counter := history.counter
  building := history.building.map Prod.snd
  returned := history.returned

def apply (history : QueueHistory) (call : Nat × QueueCall) : QueueHistory :=
  match call.2 with
  | .create plugin description command args priority =>
      { history with
        counter := history.counter + 1
        building := history.building ++
          [(history.counter, Job.new history.counter call.1 plugin description
            command args priority)] }
  | .push position =>
      match history.building[position]? with
      | none => history
      | some (ticket, job) =>
          { history with
            building := history.building.eraseIdx position
            line := history.line.arrive ticket job }
  | .dequeue =>
      match history.queue.nextPosition with
      | none => history
      | some position =>
          { history with line := history.line.leaveAt .dequeued position started }
  | .updateStatus id status =>
      match history.queue.jobs.findIdx? (·.id = id) with
      | none => history
      | some position =>
          { history with
            line := history.line.changeAt position (trySetStatus call.1 status) }
  | .remove id =>
      { history with line := history.line.leaveIf .removed (·.id = id) }
  | .retryFailed => { history with line := history.line.changeAll retried }
  | .resumeAll => { history with line := history.line.changeAll resumed }
  | .clearCompleted =>
      { history with
        line := history.line.leaveIf .cleared (·.status = .completed) }
  | .setAutoResume enabled => { history with autoResume := enabled }

/-- The history after any sequence of calls. -/
def after (calls : List (Nat × QueueCall)) : QueueHistory :=
  calls.foldl apply initial

theorem after_append (calls : List (Nat × QueueCall)) (call : Nat × QueueCall) :
    after (calls ++ [call]) = (after calls).apply call := by
  simp [after]

section Refinement

variable (history : QueueHistory)

theorem nextPosition_getElem? {queue : QueueManager} {position : Nat}
    (next : queue.nextPosition = some position) :
    ∃ job, queue.jobs[position]? = some job := by
  obtain ⟨entry, best, rfl⟩ := Option.map_eq_some_iff.mp next
  have member := List.mem_reverse.mp (List.argmax_mem best)
  exact ⟨entry.1, (mem_pendingPositions.mp member).1⟩

/-- Forgetting tickets and departures gives the program's own step. -/
theorem system_apply (call : Nat × QueueCall) :
    (history.apply call).system = history.system.apply call := by
  obtain ⟨now, operation⟩ := call
  cases operation with
  | create plugin description command args priority =>
      simp [apply, system, QueueSystem.apply, queue, returned]
  | push position =>
      simp only [apply, QueueSystem.apply, system, List.getElem?_map]
      cases found : history.building[position]? with
      | none => rfl
      | some entry =>
          simp [queue, QueueManager.enqueue, returned, List.eraseIdx_map]
  | dequeue =>
      simp only [apply, QueueSystem.apply, system, QueueManager.dequeue]
      cases next : history.queue.nextPosition with
      | none => rfl
      | some position =>
          obtain ⟨job, found⟩ := nextPosition_getElem? next
          have handedOut := history.line.goneItems_leaveAt .dequeued found started
          simp only [found, Option.map_some]
          simp only [queue, Line.items_leaveAt, returned, handedOut, started]
  | updateStatus id status =>
      simp only [apply, QueueSystem.apply, system, QueueManager.updateStatus]
      cases found : history.queue.jobs.findIdx? (·.id = id) with
      | none => rfl
      | some position => simp [queue, returned]
  | remove id =>
      have silent := history.line.goneItems_leaveIf_of_ne .dequeued
        (by decide : QueueExit.removed ≠ .dequeued) (·.id = id)
      simp [apply, QueueSystem.apply, system, queue, QueueManager.remove, returned,
        silent]
  | retryFailed =>
      simp [apply, QueueSystem.apply, system, queue, retryFailed_jobs, returned]
  | resumeAll =>
      simp [apply, QueueSystem.apply, system, queue, resumeAll_jobs, returned]
  | clearCompleted =>
      have silent := history.line.goneItems_leaveIf_of_ne .dequeued
        (by decide : QueueExit.cleared ≠ .dequeued) (·.status = .completed)
      simp [apply, QueueSystem.apply, system, queue, QueueManager.clearCompleted,
        returned, silent]
  | setAutoResume enabled =>
      simp [apply, QueueSystem.apply, system, queue, QueueManager.setAutoResume,
        returned]

theorem system_after (calls : List (Nat × QueueCall)) :
    (after calls).system = calls.foldl QueueSystem.apply .initial := by
  induction calls using List.reverseRecOn with
  | nil => rfl
  | append_singleton calls call ih =>
      rw [after_append, system_apply, ih, List.foldl_append]
      rfl

/-- Everything that a call can do; `idle` is the call that finds nothing to do. -/
inductive Takes (history : QueueHistory) (now : Nat) :
    QueueCall → QueueHistory → Prop
  | idle (call : QueueCall) : Takes history now call history
  | creates (plugin description command : String) (args : List String)
      (priority : JobPriority) :
      Takes history now (.create plugin description command args priority)
        { history with
          counter := history.counter + 1
          building := history.building ++
            [(history.counter, Job.new history.counter now plugin description
              command args priority)] }
  | pushes (position : Nat) (entry : Nat × Job) :
      history.building[position]? = some entry →
        Takes history now (.push position)
          { history with
            building := history.building.eraseIdx position
            line := history.line.arrive entry.1 entry.2 }
  | dequeues (position : Nat) : history.queue.nextPosition = some position →
      Takes history now .dequeue
        { history with line := history.line.leaveAt .dequeued position started }
  | updates (id position : Nat) (status : JobStatus) :
      history.queue.jobs.findIdx? (·.id = id) = some position →
        Takes history now (.updateStatus id status)
          { history with
            line := history.line.changeAt position (trySetStatus now status) }
  | removes (id : Nat) :
      Takes history now (.remove id)
        { history with line := history.line.leaveIf .removed (·.id = id) }
  | retries :
      Takes history now .retryFailed
        { history with line := history.line.changeAll retried }
  | resumes :
      Takes history now .resumeAll
        { history with line := history.line.changeAll resumed }
  | clears :
      Takes history now .clearCompleted
        { history with
          line := history.line.leaveIf .cleared (·.status = .completed) }
  | switches (enabled : Bool) :
      Takes history now (.setAutoResume enabled)
        { history with autoResume := enabled }

theorem takes_apply (call : Nat × QueueCall) :
    history.Takes call.1 call.2 (history.apply call) := by
  obtain ⟨now, operation⟩ := call
  cases operation with
  | create plugin description command args priority =>
      exact .creates plugin description command args priority
  | push position =>
      simp only [apply]
      cases found : history.building[position]? with
      | none => exact .idle _
      | some entry => exact .pushes position entry found
  | dequeue =>
      simp only [apply]
      cases next : history.queue.nextPosition with
      | none => exact .idle _
      | some position => exact .dequeues position next
  | updateStatus id status =>
      simp only [apply]
      cases found : history.queue.jobs.findIdx? (·.id = id) with
      | none => exact .idle _
      | some position => exact .updates id position status found
  | remove id => exact .removes id
  | retryFailed => exact .retries
  | resumeAll => exact .resumes
  | clearCompleted => exact .clears
  | setAutoResume enabled => exact .switches enabled

end Refinement

end QueueHistory

end NetGuardian
