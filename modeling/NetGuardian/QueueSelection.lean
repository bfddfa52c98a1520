import NetGuardian.Foundation.SelectionLoop
import NetGuardian.QueueOrder

/-!
# Selection by priority

`dequeue` computes a position on the filtered enumeration of the queue and
removes at that position of the queue itself.  Called until it returns `None`,
it hands out the pending jobs by falling priority and leaves the others.
-/

namespace NetGuardian

namespace QueueManager

open BreakLoop QueueHistory

variable {queue after : QueueManager} {job : Job}

def pendingJobs (queue : QueueManager) : List Job :=
  queue.jobs.filter fun job => job.status = .pending

def settledJobs (queue : QueueManager) : List Job :=
  queue.jobs.filter fun job => job.status ≠ .pending

/-- `after` is the queue without one pending job of the highest priority, and
`job` is that job as a running one. -/
def Selected (queue : QueueManager) (job : Job) (after : QueueManager) : Prop :=
  ∃ before stored behind, queue.jobs = before ++ stored :: behind ∧
    queue.FrontRunner stored ∧ job = started stored ∧
      after = { queue with jobs := before ++ behind }

/-- The position is one of the queue, and the job there is a front runner. -/
theorem selected_of_dequeue (taken : queue.dequeue = some (job, after)) :
    queue.Selected job after := by
  unfold dequeue at taken
  cases next : queue.nextPosition with
  | none => simp [next] at taken
  | some position =>
      obtain ⟨stored, found, runs, _⟩ := nextPosition_frontRunner next
      obtain ⟨before, behind, split, rest⟩ := DistinctKeys.exists_split found
      simp only [next, found, Option.map_some, Option.some.injEq,
        Prod.mk.injEq] at taken
      obtain ⟨rfl, rfl⟩ := taken
      exact ⟨before, stored, behind, split, runs, rfl, by rw [rest]⟩

theorem Selected.pendingJobs_perm (selected : queue.Selected job after) :
    (queue.pendingJobs.map started).Perm
      (job :: after.pendingJobs.map started) := by
  obtain ⟨before, stored, behind, split, runs, rfl, rfl⟩ := selected
  have moved : queue.pendingJobs.Perm
      (stored :: pendingJobs { queue with jobs := before ++ behind }) := by
    simp only [pendingJobs, split, List.filter_append]
    rw [List.filter_cons_of_pos (by simpa using runs.1)]
    exact List.perm_middle
  exact moved.map started

theorem Selected.settledJobs_eq (selected : queue.Selected job after) :
    after.settledJobs = queue.settledJobs := by
  obtain ⟨before, stored, behind, split, runs, rfl, rfl⟩ := selected
  simp only [settledJobs, split, List.filter_append]
  rw [List.filter_cons_of_neg (by simp [runs.1])]

/-- One round of a loop that dequeues: `dequeue` with its results in the order
of the loop. -/
def dequeueRound (queue : QueueManager) : Option (QueueManager × Job) :=
  queue.dequeue.map Prod.swap

theorem dequeueRound_eq_some :
    queue.dequeueRound = some (after, job) ↔
      queue.dequeue = some (job, after) := by
  simp [dequeueRound, Prod.ext_iff, and_comm]

theorem dequeueRound_eq_none :
    queue.dequeueRound = none ↔ queue.dequeue = none :=
  Option.map_eq_none_iff

/-- Dequeuing until `None` is returned. -/
def Drains (queue : QueueManager) (served : List Job) (last : QueueManager) :
    Prop :=
  Ends (fun _ => True) dequeueRound queue served last

theorem dequeueRound_selects :
    Selects (fun job : Job => job.priority.asU8)
      (fun queue => queue.pendingJobs.map started) dequeueRound where
  taken round :=
    (selected_of_dequeue (dequeueRound_eq_some.mp round)).pendingJobs_perm
  highest round := by
    obtain ⟨_, stored, _, _, runs, rfl, _⟩ :=
      selected_of_dequeue (dequeueRound_eq_some.mp round)
    intro other member
    obtain ⟨waiting, pending, rfl⟩ := List.mem_map.mp member
    obtain ⟨isIn, isPending⟩ := List.mem_filter.mp pending
    exact runs.2 waiting isIn (by simpa using isPending)
  stuck round := by
    have nonePending := dequeue_eq_none.mp (dequeueRound_eq_none.mp round)
    simpa [pendingJobs] using nonePending

theorem Drains.settledJobs_eq {served : List Job} {last : QueueManager}
    (drains : queue.Drains served last) :
    last.settledJobs = queue.settledJobs := by
  apply Ends.invariant (fun later => later.settledJobs = queue.settledJobs)
    drains rfl
  intro state next job same round
  rw [← same]
  exact (selected_of_dequeue (dequeueRound_eq_some.mp round)).settledJobs_eq

/-- What is left of a drained queue is its settled jobs. -/
theorem Drains.jobs_eq {served : List Job} {last : QueueManager}
    (drains : queue.Drains served last) : last.jobs = queue.settledJobs := by
  rw [← drains.settledJobs_eq, settledJobs, eq_comm, List.filter_eq_self]
  have nonePending := dequeue_eq_none.mp (dequeueRound_eq_none.mp drains.stuck)
  simpa using nonePending

/-- `dequeue` returns `None` exactly without pending jobs and otherwise selects
by priority; repeated, it ends, and every pending job has been handed out once,
by non-increasing priority. -/
theorem dequeue_selects_by_priority (queue : QueueManager) :
    (queue.dequeue = none ↔ ∀ job ∈ queue.jobs, job.status ≠ .pending) ∧
      (∀ job after, queue.dequeue = some (job, after) →
        queue.Selected job after) ∧
      (∃ served last, queue.Drains served last) ∧
      ∀ served last, queue.Drains served last →
        served.Perm (queue.pendingJobs.map started) ∧
          served.Pairwise (fun first second =>
            second.priority.asU8 ≤ first.priority.asU8) ∧
          last.jobs = queue.settledJobs := by
  refine ⟨dequeue_eq_none, fun _ _ => selected_of_dequeue,
    dequeueRound_selects.exists_ends queue, ?_⟩
  intro served last drains
  exact ⟨dequeueRound_selects.perm drains, dequeueRound_selects.sorted drains,
    drains.jobs_eq⟩

end QueueManager

end NetGuardian
