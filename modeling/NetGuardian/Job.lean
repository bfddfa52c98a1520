import NetGuardian.Primitives
import Mathlib.Data.List.AList

/-!
# Jobs

The central domain object: a job with its priority, its status machine and its
retry budget.  Job ids come from one process-wide counter.
-/

namespace NetGuardian

inductive JobPriority where
  | low
  | normal
  | high
  | critical
deriving DecidableEq

namespace JobPriority

def asU8 : JobPriority → Nat
  | low => 0
  | normal => 1
  | high => 2
  | critical => 3

end JobPriority

inductive JobStatus where
  | pending
  | running
  | paused
  | completed
  | failed (reason : String)
  | cancelled
deriving DecidableEq

/-- The two statuses that a refused transition reports. -/
structure TransitionError where
  current : JobStatus
  requested : JobStatus
deriving DecidableEq

structure Job where
  id : Nat
  plugin : String
  description : String
  command : String
  args : List String
  priority : JobPriority
  status : JobStatus
  createdAt : Nat
  updatedAt : Nat
  retryCount : Nat
  maxRetries : Nat
  progress : F64
  error : Option String
  owner : Option String
  metadata : AList fun _ : String => String

namespace Job

/-- `counter` is the value of `NEXT_JOB_ID`, counted without wrapping. -/
def new (counter : Nat) (now : Nat) (plugin description command : String)
    (args : List String) (priority : JobPriority) : Job where
  id := counter % 2 ^ 64
  plugin := plugin
  description := description
  command := command
  args := args
  priority := priority
  status := .pending
  createdAt := now
  updatedAt := now
  retryCount := 0
  maxRetries := 3
  progress := .finite 0
  error := none
  owner := none
  metadata := ∅

def isTerminal (job : Job) : Bool :=
  match job.status with
  | .completed | .failed _ | .cancelled => true
  | .pending | .running | .paused => false

def canTransition (job : Job) (requested : JobStatus) : Bool :=
  match job.status, requested with
  | .pending, .running | .pending, .cancelled => true
  | .running, .paused | .running, .completed | .running, .failed _
  | .running, .cancelled => true
  | .paused, .running | .paused, .cancelled => true
  | _, _ => false

def setStatus (job : Job) (now : Nat) (requested : JobStatus) :
    Except TransitionError Job :=
  if job.canTransition requested then
    .ok { job with status := requested, updatedAt := now }
  else .error ⟨job.status, requested⟩

def setProgress (job : Job) (now : Nat) (pct : F64) : Job :=
  { job with progress := pct.clamp 0 100, updatedAt := now }

/-- What the executor finds a job and its processes by: the id and the name of
the plugin. -/
def identity (job : Job) : Nat × String := (job.id, job.plugin)

/-- A terminal job refuses every transition. -/
theorem canTransition_of_isTerminal {job : Job} (terminal : job.isTerminal)
    (requested : JobStatus) : job.canTransition requested = false := by
  cases status : job.status <;>
    simp [isTerminal, canTransition, status] at terminal ⊢

theorem setStatus_identity {job updated : Job} {now : Nat}
    {requested : JobStatus}
    (accepted : job.setStatus now requested = .ok updated) :
    updated.identity = job.identity := by
  unfold setStatus at accepted
  split at accepted
  · cases accepted
    rfl
  · cases accepted

end Job

end NetGuardian
