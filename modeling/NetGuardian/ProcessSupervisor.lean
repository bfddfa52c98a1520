import NetGuardian.Primitives
import Mathlib.Data.List.AList

/-!
# The process supervisor

The supervisor tracks the processes it has started under the name of the plugin
they were started for.  A managed process is a handle: its clones share one
child and one status cell, so the statuses are kept apart, indexed by cell.
-/

namespace NetGuardian

inductive ProcessStatus where
  | running
  | stopped
  | exited (code : Int)
  | killed
deriving DecidableEq

/-- A handle of a child process.  `cell` tells the shared cells of different
spawns apart, and `spawnedFor` is bookkeeping: the job whose execution spawned
the process. -/
structure ManagedProcess where
  pid : Nat
  binary : String
  args : List String
  cell : Nat
  spawnedFor : Nat
deriving DecidableEq

/-- The three ways to signal a process.  `terminate` is SIGTERM, a grace
period, and SIGKILL. -/
inductive Signal where
  | stop
  | cont
  | terminate (grace : Nat)
deriving DecidableEq

namespace Signal

/-- Whether the method returns `Ok`, given the result of `kill`. -/
def succeeds (signal : Signal) (killed : Bool) : Bool :=
  match signal with
  | stop | cont => killed
  | terminate _ => true

/-- The status that is written when the method returns `Ok`. -/
def status : Signal → ProcessStatus
  | stop => .stopped
  | cont => .running
  | terminate _ => .killed

end Signal

structure ProcessSupervisor where
  processes : AList fun _ : String => List ManagedProcess
  statuses : Nat → ProcessStatus
  nextCell : Nat

namespace ProcessSupervisor

def new : ProcessSupervisor where
  processes := ∅
  statuses := fun _ => .running
  nextCell := 0

/-- The processes tracked under a plugin name. -/
def tracked (supervisor : ProcessSupervisor) (plugin : String) :
    List ManagedProcess :=
  (supervisor.processes.lookup plugin).getD []

def setStatus (supervisor : ProcessSupervisor) (cell : Nat)
    (status : ProcessStatus) : ProcessSupervisor :=
  { supervisor with
    statuses := fun other =>
      if other = cell then status else supervisor.statuses other }

/-- The first half of `spawn`: the process runs, but it is not tracked yet. -/
def spawnProcess (supervisor : ProcessSupervisor) (pid : Nat) (binary : String)
    (args : List String) (jobId : Nat) : ManagedProcess × ProcessSupervisor :=
  (⟨pid, binary, args, supervisor.nextCell, jobId⟩,
    { (supervisor.setStatus supervisor.nextCell .running) with
      nextCell := supervisor.nextCell + 1 })

/-- The second half of `spawn`, under the mutex of the map. -/
def register (supervisor : ProcessSupervisor) (plugin : String)
    (process : ManagedProcess) : ProcessSupervisor :=
  { supervisor with
    processes := supervisor.processes.insert plugin
      (supervisor.tracked plugin ++ [process]) }

/-- `stop`, `cont` or `terminate` on one handle. -/
def deliver (signal : Signal) (killed : ManagedProcess → Bool)
    (supervisor : ProcessSupervisor) (process : ManagedProcess) :
    ProcessSupervisor :=
  if signal.succeeds (killed process) then
    supervisor.setStatus process.cell signal.status
  else supervisor

/-- A signal for all processes of a plugin, and the result for each of them. -/
def signalAll (signal : Signal) (supervisor : ProcessSupervisor)
    (plugin : String) (killed : ManagedProcess → Bool) :
    ProcessSupervisor × List Bool :=
  ((supervisor.tracked plugin).foldl (deliver signal killed) supervisor,
    (supervisor.tracked plugin).map fun process =>
      signal.succeeds (killed process))

def stopAll := signalAll .stop

def contAll := signalAll .cont

def terminateAll (grace : Nat) := signalAll (.terminate grace)

/-- The processes of a plugin are forgotten and terminated. -/
def cleanup (supervisor : ProcessSupervisor) (plugin : String)
    (killed : ManagedProcess → Bool) : ProcessSupervisor :=
  (supervisor.tracked plugin).foldl
    (deliver (.terminate (Duration.fromSecs 1)) killed)
    { supervisor with processes := supervisor.processes.erase plugin }

/-- `try_wait`: a code that the kernel reports is recorded. -/
def tryWait (supervisor : ProcessSupervisor) (process : ManagedProcess)
    (waited : Except String (Option Int)) : ProcessSupervisor :=
  match waited with
  | .ok (some code) => supervisor.setStatus process.cell (.exited code)
  | _ => supervisor

/-- Whether `all_running` counts a process, given what `try_wait` returns. -/
def countsAsRunning (waited : Except String (Option Int)) : Bool :=
  match waited with
  | .ok (some _) => false
  | _ => true

/-- All tracked processes. -/
def allTracked (supervisor : ProcessSupervisor) :
    List (String × ManagedProcess) :=
  supervisor.processes.entries.flatMap fun entry =>
    entry.2.map fun process => (entry.1, process)

def allRunning (supervisor : ProcessSupervisor)
    (waited : ManagedProcess → Except String (Option Int)) :
    ProcessSupervisor × List (String × Nat) :=
  (supervisor.allTracked.foldl
      (fun supervisor entry => supervisor.tryWait entry.2 (waited entry.2))
      supervisor,
    (supervisor.allTracked.filter fun entry =>
      countsAsRunning (waited entry.2)).map fun entry => (entry.1, entry.2.pid))

section Tracked

variable {supervisor : ProcessSupervisor}

@[simp]
theorem deliver_processes (signal : Signal) (killed : ManagedProcess → Bool)
    (process : ManagedProcess) :
    (deliver signal killed supervisor process).processes =
      supervisor.processes := by
  unfold deliver
  split <;> rfl

/-- Signals do not change what is tracked. -/
@[simp]
theorem foldl_deliver_processes (signal : Signal)
    (killed : ManagedProcess → Bool) (targets : List ManagedProcess) :
    (targets.foldl (deliver signal killed) supervisor).processes =
      supervisor.processes := by
  induction targets generalizing supervisor with
  | nil => rfl
  | cons process targets ih =>
      rw [List.foldl_cons, ih, deliver_processes]

@[simp]
theorem tracked_deliver (signal : Signal) (killed : ManagedProcess → Bool)
    (process : ManagedProcess) :
    (deliver signal killed supervisor process).tracked = supervisor.tracked := by
  unfold deliver
  split <;> rfl

/-- Signals do not change what is tracked. -/
@[simp]
theorem tracked_signalAll (signal : Signal) (plugin : String)
    (killed : ManagedProcess → Bool) :
    (signalAll signal supervisor plugin killed).1.tracked =
      supervisor.tracked := by
  funext other
  simp [signalAll, tracked]

@[simp]
theorem tryWait_processes (process : ManagedProcess)
    (waited : Except String (Option Int)) :
    (supervisor.tryWait process waited).processes = supervisor.processes := by
  unfold tryWait
  split <;> rfl

@[simp]
theorem tracked_tryWait (process : ManagedProcess)
    (waited : Except String (Option Int)) :
    (supervisor.tryWait process waited).tracked = supervisor.tracked := by
  funext other
  simp [tracked]

/-! Only a spawn takes a new cell. -/

@[simp]
theorem deliver_nextCell (signal : Signal) (killed : ManagedProcess → Bool)
    (process : ManagedProcess) :
    (deliver signal killed supervisor process).nextCell =
      supervisor.nextCell := by
  unfold deliver
  split <;> rfl

@[simp]
theorem foldl_deliver_nextCell (signal : Signal)
    (killed : ManagedProcess → Bool) (targets : List ManagedProcess) :
    (targets.foldl (deliver signal killed) supervisor).nextCell =
      supervisor.nextCell := by
  induction targets generalizing supervisor with
  | nil => rfl
  | cons process targets ih =>
      rw [List.foldl_cons, ih, deliver_nextCell]

@[simp]
theorem tryWait_nextCell (process : ManagedProcess)
    (waited : Except String (Option Int)) :
    (supervisor.tryWait process waited).nextCell = supervisor.nextCell := by
  unfold tryWait
  split <;> rfl

/-- Waiting for processes does not change what is tracked. -/
theorem foldl_tryWait_processes
    (waited : ManagedProcess → Except String (Option Int))
    (entries : List (String × ManagedProcess)) :
    (entries.foldl
        (fun supervisor entry => supervisor.tryWait entry.2 (waited entry.2))
        supervisor).processes = supervisor.processes := by
  induction entries generalizing supervisor with
  | nil => rfl
  | cons entry entries ih => rw [List.foldl_cons, ih, tryWait_processes]

theorem foldl_tryWait (waited : ManagedProcess → Except String (Option Int))
    (entries : List (String × ManagedProcess)) :
    let after := entries.foldl
      (fun supervisor entry => supervisor.tryWait entry.2 (waited entry.2))
      supervisor
    after.tracked = supervisor.tracked ∧
      after.nextCell = supervisor.nextCell := by
  constructor
  · funext other
    rw [tracked, tracked, foldl_tryWait_processes]
  · induction entries generalizing supervisor with
    | nil => rfl
    | cons entry entries ih => rw [List.foldl_cons, ih, tryWait_nextCell]

theorem mem_tracked_register {plugin other : String}
    {process member : ManagedProcess} :
    member ∈ (supervisor.register plugin process).tracked other ↔
      member ∈ supervisor.tracked other ∨ other = plugin ∧ member = process := by
  by_cases same : other = plugin
  · subst same
    simp [register, tracked]
  · simp [register, tracked, same]

/-- A cleanup only removes. -/
theorem mem_tracked_of_cleanup {plugin other : String}
    {killed : ManagedProcess → Bool} {member : ManagedProcess}
    (here : member ∈ (supervisor.cleanup plugin killed).tracked other) :
    member ∈ supervisor.tracked other := by
  simp only [cleanup, tracked, foldl_deliver_processes] at here
  by_cases same : other = plugin
  · subst same
    simp at here
  · rw [AList.lookup_erase_ne same] at here
    exact here

end Tracked

end ProcessSupervisor

end NetGuardian
