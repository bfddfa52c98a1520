import NetGuardian.Job
import NetGuardian.Foundation.DistinctKeys
import Mathlib.Data.List.MinMax

/-!
# The job queue

The queue keeps its jobs in arrival order behind one mutex, so each operation
is a function on the protected state.  `dequeue` *removes* the job it returns;
the other operations find jobs by id.
-/

namespace NetGuardian

/-- The state behind the queue's mutex. -/
structure QueueManager where
  jobs : List Job
  autoResume : Bool

namespace QueueManager

def new : QueueManager where
  jobs := []
  autoResume := true

/-- `job` is the job that `Job::new` has just built. -/
def enqueue (queue : QueueManager) (job : Job) : QueueManager :=
  { queue with jobs := queue.jobs ++ [job] }

/-- The pending jobs with their positions. -/
def pendingPositions (queue : QueueManager) : List (Job × Nat) :=
  queue.jobs.zipIdx.filter fun entry => entry.1.status = .pending

/-- Position of the job to run next.  `Iterator::max_by_key` takes the last of
several maxima, hence the reversal. -/
def nextPosition (queue : QueueManager) : Option Nat :=
  (queue.pendingPositions.reverse.argmax fun entry => entry.1.priority.asU8).map
    Prod.snd

def dequeue (queue : QueueManager) : Option (Job × QueueManager) :=
  match queue.nextPosition with
  | none => none
  | some position =>
      queue.jobs[position]?.map fun job =>
        ({ job with status := .running },
          { queue with jobs := queue.jobs.eraseIdx position })

/-- `set_status` with its error dropped, as the queue calls it. -/
def trySetStatus (now : Nat) (status : JobStatus) (job : Job) : Job :=
  match job.setStatus now status with
  | .ok updated => updated
  | .error _ => job

def updateStatus (queue : QueueManager) (now : Nat) (id : Nat)
    (status : JobStatus) : QueueManager × Bool :=
  match queue.jobs.findIdx? (·.id = id) with
  | none => (queue, false)
  | some position =>
      ({ queue with jobs := queue.jobs.modify position (trySetStatus now status) },
        true)

def remove (queue : QueueManager) (id : Nat) : QueueManager × Bool :=
  let kept := queue.jobs.filter (·.id ≠ id)
  ({ queue with jobs := kept }, kept.length < queue.jobs.length)

def list (queue : QueueManager) : List Job := queue.jobs

def get (queue : QueueManager) (id : Nat) : Option Job :=
  queue.jobs.find? (·.id = id)

def isRetryable (job : Job) : Bool :=
  match job.status with
  | .failed _ => job.retryCount < job.maxRetries
  | _ => false

def retryFailed (queue : QueueManager) : QueueManager × List Nat :=
  let retry (job : Job) : Job :=
    if isRetryable job then
      { job with retryCount := addU32 job.retryCount 1, status := .pending }
    else job
  ({ queue with jobs := queue.jobs.map retry },
    (queue.jobs.filter isRetryable).map Job.id)

def resumeAll (queue : QueueManager) : QueueManager × List Nat :=
  let resume (job : Job) : Job :=
    if job.status = .paused then { job with status := .pending } else job
  ({ queue with jobs := queue.jobs.map resume },
    (queue.jobs.filter (·.status = .paused)).map Job.id)

def clearCompleted (queue : QueueManager) : QueueManager × Nat :=
  let kept := queue.jobs.filter (·.status ≠ .completed)
  ({ queue with jobs := kept }, queue.jobs.length - kept.length)

def setAutoResume (queue : QueueManager) (enabled : Bool) : QueueManager :=
  { queue with autoResume := enabled }

/-- The ids in the queue, in order. -/
def ids (queue : QueueManager) : List Nat := queue.jobs.map Job.id

def identities (queue : QueueManager) : List (Nat × String) :=
  queue.jobs.map Job.identity

theorem ids_eq_map_identities (queue : QueueManager) :
    queue.ids = queue.identities.map Prod.fst := by
  rw [ids, identities, List.map_map]
  rfl

section Dequeue

variable {queue after : QueueManager} {job : Job}

theorem mem_pendingPositions {entry : Job × Nat} :
    entry ∈ queue.pendingPositions ↔
      queue.jobs[entry.2]? = some entry.1 ∧ entry.1.status = .pending := by
  simp [pendingPositions, List.mem_filter, List.mem_zipIdx_iff_getElem?]

theorem nextPosition_eq_none :
    queue.nextPosition = none ↔ ∀ job ∈ queue.jobs, job.status ≠ .pending := by
  rw [nextPosition, Option.map_eq_none_iff, List.argmax_eq_none,
    List.reverse_eq_nil_iff, List.eq_nil_iff_forall_not_mem]
  constructor
  · intro noEntry job member pending
    obtain ⟨position, found⟩ := List.mem_iff_getElem?.mp member
    exact noEntry (job, position) (mem_pendingPositions.mpr ⟨found, pending⟩)
  · intro nonePending entry member
    obtain ⟨found, pending⟩ := mem_pendingPositions.mp member
    exact nonePending entry.1 (List.mem_of_getElem? found) pending

/-- Everything a successful dequeue does: a pending job leaves its position and
is handed out as running. -/
theorem dequeue_eq_some (taken : queue.dequeue = some (job, after)) :
    ∃ position stored, queue.jobs[position]? = some stored ∧
      stored.status = .pending ∧ job = { stored with status := .running } ∧
      after = { queue with jobs := queue.jobs.eraseIdx position } := by
  unfold dequeue at taken
  cases next : queue.nextPosition with
  | none => simp [next] at taken
  | some position =>
      simp only [next, Option.map_eq_some_iff, Prod.mk.injEq] at taken
      obtain ⟨stored, found, rfl, rfl⟩ := taken
      obtain ⟨entry, best, rfl⟩ := Option.map_eq_some_iff.mp next
      have member := List.mem_reverse.mp (List.argmax_mem best)
      obtain ⟨foundEntry, pending⟩ := mem_pendingPositions.mp member
      rw [found, Option.some.injEq] at foundEntry
      exact ⟨entry.2, stored, found, foundEntry ▸ pending, rfl, rfl⟩

theorem dequeue_eq_none :
    queue.dequeue = none ↔ ∀ job ∈ queue.jobs, job.status ≠ .pending := by
  rw [← nextPosition_eq_none, dequeue]
  cases next : queue.nextPosition with
  | none => simp
  | some position =>
      obtain ⟨entry, best, rfl⟩ := Option.map_eq_some_iff.mp next
      have member := List.mem_reverse.mp (List.argmax_mem best)
      simp [(mem_pendingPositions.mp member).1]

theorem dequeue_identities (taken : queue.dequeue = some (job, after)) :
    List.Sublist after.identities queue.identities := by
  obtain ⟨position, stored, _, _, _, rfl⟩ := dequeue_eq_some taken
  exact (List.eraseIdx_sublist _ _).map Job.identity

theorem dequeue_ids (taken : queue.dequeue = some (job, after)) :
    List.Sublist after.ids queue.ids := by
  rw [ids_eq_map_identities, ids_eq_map_identities]
  exact (dequeue_identities taken).map Prod.fst

theorem dequeue_identity_mem (taken : queue.dequeue = some (job, after)) :
    job.identity ∈ queue.identities := by
  obtain ⟨position, stored, found, _, rfl, _⟩ := dequeue_eq_some taken
  exact List.mem_map.mpr ⟨stored, List.mem_of_getElem? found, rfl⟩

/-- The dequeued job and what is left are what was there. -/
theorem dequeue_ids_perm (taken : queue.dequeue = some (job, after)) :
    (job.id :: after.ids).Perm queue.ids := by
  obtain ⟨position, stored, found, _, rfl, rfl⟩ := dequeue_eq_some taken
  obtain ⟨before, behind, split, rest⟩ := DistinctKeys.exists_split found
  change (stored.id :: (queue.jobs.eraseIdx position).map Job.id).Perm
    (queue.jobs.map Job.id)
  rw [rest, split, List.map_append, List.map_append, List.map_cons]
  exact List.perm_middle.symm

/-- With distinct ids, nothing of the dequeued job stays behind. -/
theorem dequeue_id_notMem (distinct : queue.ids.Nodup)
    (taken : queue.dequeue = some (job, after)) : job.id ∉ after.ids := by
  obtain ⟨position, stored, found, _, rfl, rfl⟩ := dequeue_eq_some taken
  intro stays
  obtain ⟨job, member, same⟩ := List.mem_map.mp stays
  exact DistinctKeys.key_ne_of_mem_eraseIdx Job.id distinct found member same

end Dequeue

section Ids

variable (queue : QueueManager)

theorem trySetStatus_identity (now : Nat) (status : JobStatus) (job : Job) :
    (trySetStatus now status job).identity = job.identity := by
  unfold trySetStatus
  split
  · next accepted => exact Job.setStatus_identity accepted
  · rfl

@[simp]
theorem updateStatus_identities (now : Nat) (id : Nat) (status : JobStatus) :
    (queue.updateStatus now id status).1.identities = queue.identities := by
  unfold updateStatus
  split
  · rfl
  · exact DistinctKeys.map_modify Job.identity _ _
      (trySetStatus_identity now status)

@[simp]
theorem updateStatus_ids (now : Nat) (id : Nat) (status : JobStatus) :
    (queue.updateStatus now id status).1.ids = queue.ids := by
  rw [ids_eq_map_identities, updateStatus_identities, ← ids_eq_map_identities]

theorem remove_ids (id : Nat) :
    List.Sublist (queue.remove id).1.ids queue.ids :=
  List.filter_sublist.map Job.id

@[simp]
theorem retryFailed_ids : queue.retryFailed.1.ids = queue.ids := by
  simp only [retryFailed, ids, List.map_map]
  congr 1
  funext job
  simp only [Function.comp_apply]
  split <;> rfl

@[simp]
theorem resumeAll_ids : queue.resumeAll.1.ids = queue.ids := by
  simp only [resumeAll, ids, List.map_map]
  congr 1
  funext job
  simp only [Function.comp_apply]
  split <;> rfl

theorem clearCompleted_ids :
    List.Sublist queue.clearCompleted.1.ids queue.ids :=
  List.filter_sublist.map Job.id

theorem get_eq_none_of_notMem {id : Nat} (absent : id ∉ queue.ids) :
    queue.get id = none := by
  rw [get, List.find?_eq_none]
  intro job member
  simp only [decide_eq_true_eq]
  rintro rfl
  exact absent (List.mem_map_of_mem member)

end Ids

end QueueManager

/-- The operations that clients perform on the queue.  `create` stands for the
calls of `Job::new` whose job goes elsewhere. -/
inductive QueueOp where
  | enqueue (plugin description command : String) (args : List String)
      (priority : JobPriority)
  | create
  | dequeue
  | updateStatus (id : Nat) (status : JobStatus)
  | remove (id : Nat)
  | retryFailed
  | resumeAll
  | clearCompleted
  | setAutoResume (enabled : Bool)

/-- The queue together with `NEXT_JOB_ID`, counted without wrapping. -/
structure QueueState where
  queue : QueueManager
  counter : Nat

namespace QueueState

def initial : QueueState where
  queue := .new
  counter := 1

/-- One operation at one wall-clock reading. -/
def apply (state : QueueState) (call : Nat × QueueOp) : QueueState :=
  match call.2 with
  | .enqueue plugin description command args priority =>
      { queue := state.queue.enqueue (Job.new state.counter call.1 plugin
          description command args priority)
        counter := state.counter + 1 }
  | .create => { state with counter := state.counter + 1 }
  | .dequeue =>
      match state.queue.dequeue with
      | none => state
      | some (_, queue) => { state with queue := queue }
  | .updateStatus id status =>
      { state with queue := (state.queue.updateStatus call.1 id status).1 }
  | .remove id => { state with queue := (state.queue.remove id).1 }
  | .retryFailed => { state with queue := state.queue.retryFailed.1 }
  | .resumeAll => { state with queue := state.queue.resumeAll.1 }
  | .clearCompleted => { state with queue := state.queue.clearCompleted.1 }
  | .setAutoResume enabled =>
      { state with queue := state.queue.setAutoResume enabled }

/-- Until the counter wraps, ids are distinct and below the counter. -/
def FreshIds (state : QueueState) : Prop :=
  state.counter ≤ 2 ^ 64 →
    state.queue.ids.Nodup ∧ ∀ id ∈ state.queue.ids, id < state.counter

theorem freshIds_of_sublist {state : QueueState} {queue : QueueManager}
    (fresh : state.FreshIds) (sublist : List.Sublist queue.ids state.queue.ids) :
    FreshIds { state with queue := queue } := by
  intro bound
  obtain ⟨distinct, below⟩ := fresh bound
  exact ⟨distinct.sublist sublist, fun id member => below id (sublist.subset member)⟩

theorem freshIds_apply {state : QueueState} (fresh : state.FreshIds)
    (call : Nat × QueueOp) : (state.apply call).FreshIds := by
  obtain ⟨now, operation⟩ := call
  cases operation with
  | enqueue plugin description command args priority =>
      intro bound
      change state.counter + 1 ≤ 2 ^ 64 at bound
      obtain ⟨distinct, below⟩ := fresh (by omega)
      have unwrapped : state.counter % 2 ^ 64 = state.counter :=
        Nat.mod_eq_of_lt (by omega)
      have grown : (state.apply (now, .enqueue plugin description command args
          priority)).queue.ids = state.queue.ids ++ [state.counter] := by
        change (state.queue.jobs ++ [_]).map Job.id = _
        rw [List.map_append, List.map_singleton]
        exact congrArg (fun id => state.queue.ids ++ [id]) unwrapped
      rw [grown]
      refine ⟨?_, ?_⟩
      · rw [List.nodup_append]
        refine ⟨distinct, List.nodup_singleton _, ?_⟩
        intro id member other single
        rw [List.mem_singleton.mp single]
        exact (below id member).ne
      · intro id member
        change id < state.counter + 1
        rcases List.mem_append.mp member with old | new
        · exact (below id old).trans (Nat.lt_succ_self _)
        · rw [List.mem_singleton.mp new]
          exact Nat.lt_succ_self _
  | create =>
      intro bound
      change state.counter + 1 ≤ 2 ^ 64 at bound
      obtain ⟨distinct, below⟩ := fresh (by omega)
      exact ⟨distinct, fun id member => (below id member).trans (Nat.lt_succ_self _)⟩
  | dequeue =>
      simp only [apply]
      split
      · exact fresh
      · next taken => exact freshIds_of_sublist fresh (QueueManager.dequeue_ids taken)
  | updateStatus id status =>
      exact freshIds_of_sublist fresh (by simp)
  | remove id => exact freshIds_of_sublist fresh (state.queue.remove_ids id)
  | retryFailed => exact freshIds_of_sublist fresh (by simp)
  | resumeAll => exact freshIds_of_sublist fresh (by simp)
  | clearCompleted =>
      exact freshIds_of_sublist fresh state.queue.clearCompleted_ids
  | setAutoResume enabled =>
      exact freshIds_of_sublist fresh (List.Sublist.refl _)

theorem freshIds_foldl (calls : List (Nat × QueueOp)) {state : QueueState}
    (fresh : state.FreshIds) : (calls.foldl apply state).FreshIds := by
  induction calls generalizing state with
  | nil => exact fresh
  | cons call calls ih => exact ih (freshIds_apply fresh call)

end QueueState

/-- The queue contents that clients can produce, with at most `2 ^ 64 - 1` jobs
created so far. -/
def QueueManager.Reachable (queue : QueueManager) : Prop :=
  ∃ calls : List (Nat × QueueOp),
    (calls.foldl QueueState.apply .initial).queue = queue ∧
      (calls.foldl QueueState.apply .initial).counter ≤ 2 ^ 64

/-- Jobs in the queue are told apart by their ids. -/
theorem QueueManager.Reachable.ids_nodup {queue : QueueManager}
    (reachable : queue.Reachable) : queue.ids.Nodup := by
  obtain ⟨calls, rfl, bound⟩ := reachable
  have initially : QueueState.initial.FreshIds := fun _ => by
    simp [QueueState.initial, QueueManager.new, QueueManager.ids]
  exact (QueueState.freshIds_foldl calls initially bound).1

end NetGuardian
