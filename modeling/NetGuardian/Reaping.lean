import NetGuardian.JobControl
import NetGuardian.ProcessSegments

/-!
# Who waits for processes and who signals them

The events of an executor: segments of its tasks, and calls of the supervisor by
the rest of the program.  Each of them is taken as a whole here.
-/

namespace NetGuardian

open CooperativeTasks

/-- What happens to the executor: its tasks run, others list or forget
processes or signal them by plugin name, and the rest of the program changes
everything but the supervisor. -/
inductive ExecutorEvent where
  | task (label : ExecutorLabel)
  | allRunning (waited : ManagedProcess → Except String (Option Int))
  | signalAll (signal : Signal) (plugin : String)
      (killed : ManagedProcess → Bool)
  | cleanup (plugin : String) (killed : ManagedProcess → Bool)
  | elsewhere (system : System)

namespace ExecutorEvent

def step (pool : ExecutorPool) : ExecutorEvent → Option ExecutorPool
  | task label => CooperativeTasks.step executor pool label
  | allRunning waited =>
      some { pool with
        shared := { pool.shared with
          supervisor := (pool.shared.supervisor.allRunning waited).1 } }
  | signalAll signal plugin killed =>
      some { pool with
        shared := (pool.shared.signalAll none signal plugin killed).1 }
  | cleanup plugin killed =>
      some { pool with shared := pool.shared.cleanup none plugin killed }
  | elsewhere system =>
      some { pool with
        shared := { system with
          supervisor := pool.shared.supervisor
          signals := pool.shared.signals } }

/-- The processes for which `try_wait` returns an exit code. -/
def reaps (pool : ExecutorPool) : ExecutorEvent → List ManagedProcess
  | task (.advance index answer) =>
      match pool.tasks[index]? with
      | none => []
      | some frame => frame.reaps answer
  | allRunning waited =>
      (pool.shared.supervisor.allTracked.filter fun entry =>
        !ProcessSupervisor.countsAsRunning (waited entry.2)).map Prod.snd
  | task (.start _) | signalAll _ _ _ | cleanup _ _ | elsewhere _ => []

/-- The processes that are signalled. -/
def targets (pool : ExecutorPool) : ExecutorEvent → List ManagedProcess
  | task (.advance index answer) =>
      match pool.tasks[index]? with
      | none => []
      | some frame => frame.targets pool.shared answer
  | signalAll _ plugin _ | cleanup plugin _ =>
      pool.shared.supervisor.tracked plugin
  | task (.start _) | allRunning _ | elsewhere _ => []

end ExecutorEvent

/-- Every handle that is kept, and every recorded exit, belongs to a process
that has been started. -/
structure Started (pool : ExecutorPool) : Prop where
  tracked : ∀ plugin, ∀ process ∈ pool.shared.supervisor.tracked plugin,
    process.cell < pool.shared.supervisor.nextCell
  handles : ∀ frame ∈ pool.tasks, ∀ process, frame.process? = some process →
    process.cell < pool.shared.supervisor.nextCell
  exits : ∀ cell, (pool.shared.supervisor.statuses cell).IsExited →
    cell < pool.shared.supervisor.nextCell

section Started

variable {pool next : ExecutorPool} {event : ExecutorEvent}

/-- Everything an event can do to the processes. -/
structure ProcessEvent (pool next : ExecutorPool)
    (reaps targets : List ManagedProcess) : Prop where
  touches : Touches pool.shared.supervisor next.shared.supervisor
    (reaps.map (·.cell)) (targets.map (·.cell))
  signals : next.shared.signals.map (·.process) =
    pool.shared.signals.map (·.process) ++ targets
  tracked : ∀ plugin, ∀ process ∈ next.shared.supervisor.tracked plugin,
    process ∈ pool.shared.supervisor.tracked plugin ∨
      ∃ frame ∈ pool.tasks, frame.process? = some process
  handles : ∀ frame ∈ next.tasks, ∀ process, frame.process? = some process →
    (∃ earlier ∈ pool.tasks, earlier.process? = some process) ∨
      process.cell = pool.shared.supervisor.nextCell ∧
        pool.shared.supervisor.nextCell < next.shared.supervisor.nextCell
  reaped : ∀ process ∈ reaps,
    (∃ plugin, process ∈ pool.shared.supervisor.tracked plugin) ∨
      ∃ frame ∈ pool.tasks, frame.process? = some process

/-- A task that is started has no process yet. -/
theorem processEvent_of_start {frame : Frame}
    (entry : frame.isEntry = true) :
    ProcessEvent pool { pool with tasks := pool.tasks ++ [frame] } [] [] where
  touches := ProcessSupervisor.touches_of_same rfl rfl
  signals := (List.append_nil _).symm
  tracked _ _ here := .inl here
  handles task member process kept := by
    rcases List.mem_append.mp member with old | new
    · exact .inl ⟨task, old, kept⟩
    · rw [List.mem_singleton.mp new, Frame.process_of_isEntry entry] at kept
      cases kept
  reaped process here := absurd here List.not_mem_nil

/-- A task that is resumed does what its segment does. -/
theorem processEvent_of_resume {answer : Answer} {index : Nat}
    {frame resumed : Frame} {shared : System}
    (found : pool.tasks[index]? = some frame)
    (resumption : Frame.resume pool.shared frame answer =
      some (shared, resumed)) :
    ProcessEvent pool ⟨shared, pool.tasks.set index resumed⟩
      (frame.reaps answer) (frame.targets pool.shared answer) := by
  have present := List.mem_of_getElem? found
  have segment := resume_processes resumption
  constructor
  · exact segment.touches
  · exact segment.signals
  · intro plugin process here
    rcases resume_tracked resumption here with old | own
    · exact .inl old
    · exact .inr ⟨frame, present, own⟩
  · intro task member process kept
    rcases List.mem_or_eq_of_mem_set member with old | rfl
    · exact .inl ⟨task, old, kept⟩
    · rcases segment.handle process kept with own | new
      · exact .inl ⟨frame, present, own⟩
      · exact .inr new
  · intro process here
    exact .inr ⟨frame, present, Frame.process_of_reaps here⟩

/-- Others do not resume tasks, and track nothing. -/
theorem processEvent_of_others {after : System}
    {reaps targets : List ManagedProcess}
    (touches : Touches pool.shared.supervisor after.supervisor
      (reaps.map (·.cell)) (targets.map (·.cell)))
    (signals : after.signals.map (·.process) =
      pool.shared.signals.map (·.process) ++ targets)
    (tracked : ∀ plugin, ∀ process ∈ after.supervisor.tracked plugin,
      process ∈ pool.shared.supervisor.tracked plugin)
    (reaped : ∀ process ∈ reaps,
      ∃ plugin, process ∈ pool.shared.supervisor.tracked plugin) :
    ProcessEvent pool { pool with shared := after } reaps targets where
  touches := touches
  signals := signals
  tracked plugin process here := .inl (tracked plugin process here)
  handles frame member _ kept := .inl ⟨frame, member, kept⟩
  reaped process here := .inl (reaped process here)

theorem processEvent_of_step (taken : event.step pool = some next) :
    ProcessEvent pool next (event.reaps pool) (event.targets pool) := by
  cases event with
  | task label =>
      cases label with
      | start frame =>
          obtain ⟨entry, rfl⟩ := step_start taken
          exact processEvent_of_start entry
      | advance index answer =>
          obtain ⟨frame, shared, resumed, found, _, resumption, rfl⟩ :=
            step_advance taken
          simp only [ExecutorEvent.reaps, ExecutorEvent.targets, found]
          exact processEvent_of_resume found resumption
  | allRunning waited =>
      cases taken
      have waits := @ProcessSupervisor.touches_foldl_tryWait
        pool.shared.supervisor waited pool.shared.supervisor.allTracked
      have same := @ProcessSupervisor.foldl_tryWait pool.shared.supervisor
        waited pool.shared.supervisor.allTracked
      apply processEvent_of_others
      · simp only [ExecutorEvent.reaps, List.map_map]
        exact waits
      · exact (List.append_nil _).symm
      · intro plugin process here
        exact same.1 ▸ here
      · intro process here
        obtain ⟨entry, listed, rfl⟩ := List.mem_map.mp here
        exact ⟨entry.1, ProcessSupervisor.mem_tracked_of_mem_allTracked
          (List.mem_of_mem_filter listed)⟩
  | signalAll signal plugin killed =>
      cases taken
      have delivered := @ProcessSegment.deliver pool.shared
        (pool.shared.signalAll none signal plugin killed).1 none none signal
        killed (pool.shared.supervisor.tracked plugin) pool.shared.supervisor
        rfl rfl rfl rfl
      apply processEvent_of_others delivered.touches delivered.signals
      · intro other process here
        change process ∈ (ProcessSupervisor.signalAll _ _ _ _).1.tracked _
          at here
        rwa [ProcessSupervisor.tracked_signalAll] at here
      · intro process here
        cases here
  | cleanup plugin killed =>
      cases taken
      have delivered := @ProcessSegment.deliver pool.shared
        (pool.shared.cleanup none plugin killed) none none
        (.terminate (Duration.fromSecs 1)) killed
        (pool.shared.supervisor.tracked plugin)
        { pool.shared.supervisor with
          processes := pool.shared.supervisor.processes.erase plugin }
        rfl rfl rfl rfl
      apply processEvent_of_others delivered.touches delivered.signals
      · intro other process here
        exact ProcessSupervisor.mem_tracked_of_cleanup here
      · intro process here
        cases here
  | elsewhere system =>
      cases taken
      apply processEvent_of_others
      · exact ProcessSupervisor.touches_of_same rfl rfl
      · exact (List.append_nil _).symm
      · intro plugin process here
        exact here
      · intro process here
        cases here

theorem Started.step (started : Started pool)
    (taken : event.step pool = some next) : Started next := by
  have effect := processEvent_of_step taken
  have grows := effect.touches.grows
  constructor
  · intro plugin process here
    rcases effect.tracked plugin process here with old | ⟨frame, present, own⟩
    · exact (started.tracked plugin process old).trans_le grows
    · exact (started.handles frame present process own).trans_le grows
  · intro frame present process kept
    rcases effect.handles frame present process kept with
      ⟨earlier, before, own⟩ | ⟨new, more⟩
    · exact (started.handles earlier before process own).trans_le grows
    · rw [new]
      exact more
  · intro cell ended
    rcases effect.touches.only cell ended with before | now
    · exact (started.exits cell before).trans_le grows
    · obtain ⟨process, reaped, rfl⟩ := List.mem_map.mp now
      rcases effect.reaped process reaped with
        ⟨plugin, here⟩ | ⟨frame, present, own⟩
      · exact (started.tracked plugin process here).trans_le grows
      · exact (started.handles frame present process own).trans_le grows

end Started

/-- An executor that has not started any process. -/
def freshExecutor (system : System) : ExecutorPool where
  shared := { system with
    supervisor := .new
    signals := [] }
  tasks := []

theorem started_freshExecutor (system : System) :
    Started (freshExecutor system) where
  tracked _ _ here := nomatch here
  handles _ here := nomatch here
  exits _ ended := ended.elim

end NetGuardian
