import NetGuardian.Daemon

/-!
# What the shutdown kills

The shutdown branch of `cmd_daemon` is to kill all managed processes.  It names
one plugin, the empty text, and `terminate_all` looks up exactly that name: a
process that is tracked under any other name is left alone.
-/

namespace NetGuardian

inductive UnixSignal where
  | sigstop
  | sigcont
  | sigterm
  | sigkill
deriving DecidableEq

/-- The calls of `kill` that a method makes on one process, in their order. -/
def Signal.kills : Signal → List UnixSignal
  | stop => [.sigstop]
  | cont => [.sigcont]
  | terminate _ => [.sigterm, .sigkill]

/-- A supervisor with what the operating system knows: the calls of `kill` made
so far, and which children have exited. -/
structure Supervised where
  supervisor : ProcessSupervisor
  sent : List (UnixSignal × ManagedProcess)
  exited : Nat → Bool

/-- The operations of the supervisor with the answers of the system, and a
child that exits. -/
inductive SupervisorCall where
  | spawn (plugin : String) (pid : Nat) (binary : String) (args : List String)
      (jobId : Nat)
  | stopAll (plugin : String) (killed : ManagedProcess → Bool)
  | contAll (plugin : String) (killed : ManagedProcess → Bool)
  | terminateAll (plugin : String) (grace : Nat)
      (killed : ManagedProcess → Bool)
  | cleanup (plugin : String) (killed : ManagedProcess → Bool)
  | allRunning (waited : ManagedProcess → Except String (Option Int))
  | exit (cell : Nat)

namespace Supervised

def initial : Supervised where
  supervisor := .new
  sent := []
  exited := fun _ => false

/-- A method that signals some processes. -/
def signalled (state : Supervised) (after : ProcessSupervisor)
    (signal : Signal) (targets : List ManagedProcess) : Supervised :=
  { state with
    supervisor := after
    sent := state.sent ++ targets.flatMap fun process =>
      signal.kills.map fun kill => (kill, process) }

def apply (state : Supervised) : SupervisorCall → Supervised
  | .spawn plugin pid binary args jobId =>
      let spawned := state.supervisor.spawnProcess pid binary args jobId
      { state with supervisor := spawned.2.register plugin spawned.1 }
  | .stopAll plugin killed =>
      state.signalled (state.supervisor.stopAll plugin killed).1 .stop
        (state.supervisor.tracked plugin)
  | .contAll plugin killed =>
      state.signalled (state.supervisor.contAll plugin killed).1 .cont
        (state.supervisor.tracked plugin)
  | .terminateAll plugin grace killed =>
      state.signalled (state.supervisor.terminateAll grace plugin killed).1
        (.terminate grace) (state.supervisor.tracked plugin)
  | .cleanup plugin killed =>
      state.signalled (state.supervisor.cleanup plugin killed)
        (.terminate (Duration.fromSecs 1)) (state.supervisor.tracked plugin)
  | .allRunning waited =>
      { state with supervisor := (state.supervisor.allRunning waited).1 }
  | .exit cell =>
      { state with
        exited := fun other =>
          (other = cell && other < state.supervisor.nextCell) ||
            state.exited other }

/-- The state after any sequence of operations. -/
def reached (calls : List SupervisorCall) : Supervised :=
  calls.foldl apply initial

/-- The shutdown branch, as far as processes are concerned. -/
def shutdown (state : Supervised) (killed : ManagedProcess → Bool) :
    Supervised :=
  state.apply (.terminateAll "" (Duration.fromSecs 3) killed)

/-- It is the branch of the daemon's loop. -/
theorem shutdown_supervisor {loop next : DaemonLoop}
    {killed : ManagedProcess → Bool} {state : Supervised}
    (same : state.supervisor = loop.supervisor)
    (taken : loop.step (.shutdown killed) = some next) :
    (state.shutdown killed).supervisor = next.supervisor := by
  simp only [DaemonLoop.step] at taken
  split at taken
  · cases taken
    change (state.supervisor.terminateAll (Duration.fromSecs 3) "" killed).1 = _
    rw [same]
  · cases taken

/-- Every process is tracked under one name at most, and its cell is in use. -/
structure Filed (supervisor : ProcessSupervisor) : Prop where
  below : ∀ plugin, ∀ process ∈ supervisor.tracked plugin,
    process.cell < supervisor.nextCell
  one_name : ∀ plugin other, ∀ process ∈ supervisor.tracked plugin,
    ∀ member ∈ supervisor.tracked other,
      process.cell = member.cell → plugin = other

section Filed

variable {supervisor after : ProcessSupervisor}

/-- Operations that track nothing new keep the files. -/
theorem Filed.of_subset (filed : Filed supervisor)
    (tracked : ∀ plugin, ∀ process ∈ after.tracked plugin,
      process ∈ supervisor.tracked plugin)
    (nextCell : after.nextCell = supervisor.nextCell) : Filed after where
  below plugin process here := by
    rw [nextCell]
    exact filed.below plugin process (tracked plugin process here)
  one_name plugin other process here member there :=
    filed.one_name plugin other process (tracked plugin process here) member
      (tracked other member there)

theorem Filed.spawn (filed : Filed supervisor) (plugin : String) (pid : Nat)
    (binary : String) (args : List String) (jobId : Nat) :
    let spawned := supervisor.spawnProcess pid binary args jobId
    Filed (spawned.2.register plugin spawned.1) := by
  intro spawned
  have origin : ∀ {name : String} {process : ManagedProcess},
      process ∈ (spawned.2.register plugin spawned.1).tracked name →
        process ∈ supervisor.tracked name ∨
          name = plugin ∧ process.cell = supervisor.nextCell := by
    intro name process here
    rcases ProcessSupervisor.mem_tracked_register.mp here with old | new
    · exact .inl old
    · exact .inr ⟨new.1, congrArg ManagedProcess.cell new.2⟩
  constructor
  · intro name process here
    change process.cell < supervisor.nextCell + 1
    rcases origin here with old | ⟨_, cell⟩
    · exact Nat.lt_succ_of_lt (filed.below name process old)
    · omega
  · intro name other process here member there same
    rcases origin here with old | ⟨nameEq, cell⟩
    · rcases origin there with oldMember | ⟨_, memberCell⟩
      · exact filed.one_name name other process old member oldMember same
      · have below := filed.below name process old
        omega
    · rcases origin there with oldMember | ⟨otherEq, _⟩
      · have below := filed.below other member oldMember
        omega
      · rw [nameEq, otherEq]

theorem Filed.signalAll (filed : Filed supervisor) (signal : Signal)
    (plugin : String) (killed : ManagedProcess → Bool) :
    Filed (supervisor.signalAll signal plugin killed).1 := by
  apply filed.of_subset
  · intro name process here
    rwa [ProcessSupervisor.tracked_signalAll] at here
  · exact ProcessSupervisor.foldl_deliver_nextCell _ _ _

theorem filed_apply {state : Supervised} (filed : Filed state.supervisor)
    (call : SupervisorCall) : Filed (state.apply call).supervisor := by
  cases call with
  | spawn plugin pid binary args jobId =>
      exact filed.spawn plugin pid binary args jobId
  | stopAll plugin killed => exact filed.signalAll .stop plugin killed
  | contAll plugin killed => exact filed.signalAll .cont plugin killed
  | terminateAll plugin grace killed =>
      exact filed.signalAll (.terminate grace) plugin killed
  | cleanup plugin killed =>
      apply filed.of_subset
      · intro name process here
        exact ProcessSupervisor.mem_tracked_of_cleanup here
      · exact ProcessSupervisor.foldl_deliver_nextCell _ _ _
  | allRunning waited =>
      obtain ⟨tracked, nextCell⟩ := @ProcessSupervisor.foldl_tryWait
        state.supervisor waited state.supervisor.allTracked
      apply filed.of_subset
      · intro name process here
        exact tracked ▸ here
      · exact nextCell
  | exit cell => exact filed

theorem filed_reached (calls : List SupervisorCall) :
    Filed (reached calls).supervisor := by
  induction calls using List.reverseRecOn with
  | nil =>
      constructor
      · intro plugin process here
        cases here
      · intro plugin other process here
        cases here
  | append_singleton calls call ih =>
      rw [reached, List.foldl_append]
      exact filed_apply ih call

end Filed

/-- Both calls of `kill` that `terminate` makes have been made. -/
def Terminated (state : Supervised) (process : ManagedProcess) : Prop :=
  (.sigterm, process) ∈ state.sent ∧ (.sigkill, process) ∈ state.sent

/-- After the shutdown branch every process that is tracked has exited or has
been sent SIGTERM and SIGKILL. -/
def LeavesNoneBehind (state : Supervised) (killed : ManagedProcess → Bool) :
    Prop :=
  ∀ plugin, ∀ process ∈ state.supervisor.tracked plugin,
    state.exited process.cell = true ∨
      (state.shutdown killed).Terminated process

section Shutdown

variable {state : Supervised} {killed : ManagedProcess → Bool}

/-- The branch terminates what is tracked under the empty name. -/
theorem mem_sent_shutdown {kill : UnixSignal} {process : ManagedProcess} :
    (kill, process) ∈ (state.shutdown killed).sent ↔
      (kill, process) ∈ state.sent ∨
        process ∈ state.supervisor.tracked "" ∧
          (kill = .sigterm ∨ kill = .sigkill) := by
  constructor
  · intro sent
    rcases List.mem_append.mp sent with earlier | now
    · exact .inl earlier
    · obtain ⟨target, here, made⟩ := List.mem_flatMap.mp now
      obtain ⟨made, known, same⟩ := List.mem_map.mp made
      cases same
      exact .inr ⟨here, by simpa [Signal.kills] using known⟩
  · rintro (earlier | ⟨here, known⟩)
    · exact List.mem_append_left _ earlier
    · apply List.mem_append_right
      refine List.mem_flatMap.mpr ⟨process, here, ?_⟩
      exact List.mem_map.mpr ⟨kill, by simpa [Signal.kills] using known, rfl⟩

theorem terminated_shutdown {process : ManagedProcess} :
    (state.shutdown killed).Terminated process ↔
      state.Terminated process ∨ process ∈ state.supervisor.tracked "" := by
  unfold Terminated
  rw [mem_sent_shutdown, mem_sent_shutdown]
  constructor
  · rintro ⟨termed | termed, killedToo | killedToo⟩
    · exact .inl ⟨termed, killedToo⟩
    · exact .inr killedToo.1
    · exact .inr termed.1
    · exact .inr termed.1
  · rintro (⟨termed, killedToo⟩ | here)
    · exact ⟨.inl termed, .inl killedToo⟩
    · exact ⟨.inr ⟨here, .inl rfl⟩, .inr ⟨here, .inr rfl⟩⟩

end Shutdown

/-- The shutdown leaves no process behind exactly when every process tracked
under a name that is not empty has exited or has been terminated before. -/
theorem leavesNoneBehind_iff (calls : List SupervisorCall)
    (killed : ManagedProcess → Bool) :
    (reached calls).LeavesNoneBehind killed ↔
      ∀ plugin ≠ "", ∀ process ∈ (reached calls).supervisor.tracked plugin,
        (reached calls).exited process.cell = true ∨
          (reached calls).Terminated process := by
  have filed := filed_reached calls
  constructor
  · intro none plugin named process here
    rcases none plugin process here with exited | terminated
    · exact .inl exited
    · rcases terminated_shutdown.mp terminated with before | unnamed
      · exact .inr before
      · have empty := filed.one_name plugin "" process here process unnamed rfl
        exact absurd empty named
  · intro done plugin process here
    by_cases named : plugin = ""
    · subst named
      exact .inr (terminated_shutdown.mpr (.inr here))
    · rcases done plugin named process here with exited | before
      · exact .inl exited
      · exact .inr (terminated_shutdown.mpr (.inl before))

/-- One process for the plugin `tool`, then the shutdown: nothing is sent. -/
theorem shutdown_misses_tool :
    ((reached [.spawn "tool" 100 "tool" ["run"] 1]).shutdown
        fun _ => true).sent = [] ∧
      ¬ (reached [.spawn "tool" 100 "tool" ["run"] 1]).LeavesNoneBehind
        fun _ => true := by
  refine ⟨rfl, ?_⟩
  intro none
  rcases none "tool" ⟨100, "tool", ["run"], 0, 1⟩ (by decide) with
    exited | terminated
  · cases exited
  · cases terminated.1

end Supervised

end NetGuardian
