import NetGuardian.ProcessSupervisor

/-!
# Signals and process groups

Every command is started in a process group of its own, which its descendants
share unless they leave it.  The signals are sent to the pid of the command,
though, not to the group, so that they miss every descendant.
-/

namespace NetGuardian

/-- A process that has exited stays in the table until it is waited for. -/
inductive RunState where
  | running
  | stopped
  | exited
deriving DecidableEq

structure KernelProcess where
  group : Nat
  state : RunState
deriving DecidableEq

inductive KernelSignal where
  | sigstop
  | sigcont
  | sigterm
  | sigkill
deriving DecidableEq

/-- A process may handle or ignore SIGTERM; what it makes of the signal shows in
the grace period. -/
def KernelProcess.receive (process : KernelProcess) (signal : KernelSignal) :
    KernelProcess :=
  match signal, process.state with
  | .sigstop, .running => { process with state := .stopped }
  | .sigcont, .stopped => { process with state := .running }
  | .sigkill, _ => { process with state := .exited }
  | _, _ => process

/-- The processes of the machine by their pids. -/
abbrev ProcessTable := Nat → Option KernelProcess

namespace ProcessTable

variable (table : ProcessTable)

/-- The child calls `setpgid(0, 0)` before it executes the command. -/
def spawnWithPgroup (pid : Nat) : ProcessTable := fun other =>
  if other = pid then some ⟨pid, .running⟩ else table other

/-- A child stays in the group of its parent. -/
def fork (parent child : Nat) : ProcessTable := fun other =>
  if other = child then
    (table parent).map fun process => ⟨process.group, .running⟩
  else table other

/-- `kill` with a positive pid, which fails if there is no such process. -/
def kill (pid : Nat) (signal : KernelSignal) : ProcessTable × Bool :=
  (fun other =>
      if other = pid then (table other).map (·.receive signal) else table other,
    (table pid).isSome)

/-- Every other process is left alone. -/
theorem kill_of_ne {pid other : Nat} (different : other ≠ pid)
    (signal : KernelSignal) : (table.kill pid signal).1 other = table other :=
  if_neg different

theorem kill_self (pid : Nat) (signal : KernelSignal) :
    (table.kill pid signal).1 pid = (table pid).map (·.receive signal) :=
  if_pos rfl

end ProcessTable

namespace Signal

/-- The last signal that a method sends. -/
def last : Signal → KernelSignal
  | stop => .sigstop
  | cont => .sigcont
  | terminate _ => .sigkill

/-- What a method is to make of a process.  An exited process counts as stopped
and as running. -/
def Achieved : Signal → RunState → Prop
  | stop, state => state ≠ .running
  | cont, state => state ≠ .stopped
  | terminate _, state => state = .exited

theorem achieved_receive (signal : Signal) (process : KernelProcess) :
    signal.Achieved (process.receive signal.last).state := by
  obtain ⟨group, state⟩ := process
  cases signal <;> cases state <;>
    simp [last, KernelProcess.receive, Achieved]

end Signal

namespace ManagedProcess

variable (process : ManagedProcess) (signal : Signal) (table : ProcessTable)
variable (grace : ProcessTable → ProcessTable)

/-- The processes when the last signal is sent.  What happens in the grace
period is up to them. -/
def beforeLast : ProcessTable :=
  match signal with
  | .stop | .cont => table
  | .terminate _ => grace (table.kill process.pid .sigterm).1

/-- `stop`, `cont` or `terminate`: the processes afterwards, and whether the
method returns `Ok`. -/
def signalled : ProcessTable × Bool :=
  let killed := (process.beforeLast signal table grace).kill process.pid
    signal.last
  (killed.1, signal.succeeds killed.2)

/-- After a success, every member of the group is as the method is to make
it. -/
def ReachesGroup : Prop :=
  (process.signalled signal table grace).2 = true →
    ∀ pid member, (process.signalled signal table grace).1 pid = some member →
      member.group = process.pid → signal.Achieved member.state

/-- A method reaches the group exactly when it fails or every member but the
command itself is already as the method is to make it. -/
theorem reachesGroup_iff :
    process.ReachesGroup signal table grace ↔
      (process.signalled signal table grace).2 = false ∨
        ∀ pid member, pid ≠ process.pid →
          process.beforeLast signal table grace pid = some member →
            member.group = process.pid → signal.Achieved member.state := by
  constructor
  · intro reaches
    cases succeeded : (process.signalled signal table grace).2 with
    | false => exact .inl rfl
    | true =>
        right
        intro pid member different found inGroup
        refine reaches succeeded pid member ?_ inGroup
        exact ((process.beforeLast signal table grace).kill_of_ne different
          signal.last).trans found
  · rintro (failed | ready) succeeded pid member found inGroup
    · rw [failed] at succeeded
      cases succeeded
    · by_cases leader : pid = process.pid
      · subst leader
        change ((process.beforeLast signal table grace).kill process.pid
          signal.last).1 process.pid = some member at found
        rw [ProcessTable.kill_self, Option.map_eq_some_iff] at found
        obtain ⟨before, _, rfl⟩ := found
        exact signal.achieved_receive before
      · have unchanged := (process.beforeLast signal table grace).kill_of_ne
          leader signal.last
        exact ready pid member leader (unchanged.symm.trans found) inGroup

/-- A `git clone` that has started its helper for HTTPS. -/
def gitClone : ManagedProcess := ⟨100, "git", ["clone"], 0, 1⟩

def cloning : ProcessTable :=
  (ProcessTable.spawnWithPgroup (fun _ => none) 100).fork 100 101

/-- The helper is in the group, and `stop` leaves it running. -/
theorem stop_misses_helper :
    (gitClone.signalled .stop cloning id).2 = true ∧
      (gitClone.signalled .stop cloning id).1 100 = some ⟨100, .stopped⟩ ∧
      (gitClone.signalled .stop cloning id).1 101 = some ⟨100, .running⟩ ∧
      ¬ gitClone.ReachesGroup .stop cloning id := by
  refine ⟨by decide, by decide, by decide, fun reaches => ?_⟩
  have stopped := reaches (by decide) 101 ⟨100, .running⟩ (by decide) rfl
  exact stopped rfl

end ManagedProcess

end NetGuardian
