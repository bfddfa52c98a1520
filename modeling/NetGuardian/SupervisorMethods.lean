import NetGuardian.Reaping
import NetGuardian.Shutdown

/-!
# The methods of the supervisor, action by action

A method of the supervisor that signals or waits for several processes is no single
step: `terminate` sleeps between its two kills, and the polling loop of another task
asks for the same processes in the meantime.  Here such a method is entered, acts on
one handle after the other, and is left.  A method that nothing interrupts does what
the event does as a whole.
-/

namespace NetGuardian

open CooperativeTasks LabelledRun

/-- What a method does to one handle without interruption: it calls `kill`, writes
the status that belongs to a signal, or waits. -/
inductive ProcessAction where
  | kill (signal : UnixSignal) (process : ManagedProcess)
  | write (signal : Signal) (process : ManagedProcess)
  | wait (process : ManagedProcess) (waited : Except String (Option Int))

namespace ProcessAction

def process : ProcessAction → ManagedProcess
  | kill _ process | write _ process | wait process _ => process

def apply (supervisor : ProcessSupervisor) : ProcessAction → ProcessSupervisor
  | kill _ _ => supervisor
  | write signal process => supervisor.setStatus process.cell signal.status
  | wait process waited => supervisor.tryWait process waited

/-- The process that is found to have exited. -/
def reaps : ProcessAction → List ManagedProcess
  | wait process waited =>
      if ProcessSupervisor.countsAsRunning waited then [] else [process]
  | kill _ _ | write _ _ => []

def kills : ProcessAction → List (UnixSignal × ManagedProcess)
  | kill signal process => [(signal, process)]
  | write _ _ | wait _ _ => []

/-- The process whose status is set by a method that signals. -/
def writes : ProcessAction → List ManagedProcess
  | write _ process => [process]
  | kill _ _ | wait _ _ => []

theorem eq_process_of_reaps {action : ProcessAction} {process : ManagedProcess}
    (reaped : process ∈ action.reaps) : process = action.process := by
  cases action with
  | kill signal process | write signal process => cases reaped
  | wait waitedFor waited =>
      simp only [reaps] at reaped
      split at reaped
      · cases reaped
      · exact List.mem_singleton.mp reaped

end ProcessAction

/-- `stop`, `cont` or `terminate` on one handle.  Between the two kills of
`terminate` lies the grace period. -/
def Signal.actions (signal : Signal) (killed : ManagedProcess → Bool)
    (process : ManagedProcess) : List ProcessAction :=
  signal.kills.map (.kill · process) ++
    if signal.succeeds (killed process) then [.write signal process] else []

/-- The actions of `all_running`. -/
def ProcessSupervisor.waits (supervisor : ProcessSupervisor)
    (waited : ManagedProcess → Except String (Option Int)) : List ProcessAction :=
  supervisor.allTracked.map fun entry => .wait entry.2 (waited entry.2)

/-- The actions of a method that signals what is tracked under a name. -/
def ProcessSupervisor.signals (supervisor : ProcessSupervisor) (signal : Signal)
    (plugin : String) (killed : ManagedProcess → Bool) : List ProcessAction :=
  (supervisor.tracked plugin).flatMap (signal.actions killed)

/-- The actions of the method that a segment calls, if it signals: the timeout of the
polling loop, the cleanups, and the signal of a control call. -/
def Frame.method? (system : System) (answer : Answer) :
    Frame → Option (List ProcessAction)
  | execute (.poll _ process round) =>
      if Duration.fromSecs 3600 < Instant.elapsed round.start answer.now then
        some ((Signal.terminate (Duration.fromSecs 3)).actions answer.killed process)
      else none
  | execute (.cleanup job) =>
      some (system.supervisor.signals (.terminate (Duration.fromSecs 1)) job.plugin
        answer.killed)
  | control call (.signal plugin) =>
      some (system.supervisor.signals call.kind.signal plugin answer.killed)
  | control _ (.cleanup plugin _) =>
      some (system.supervisor.signals (.terminate (Duration.fromSecs 1)) plugin
        answer.killed)
  | _ => none

namespace ExecutorEvent

/-- The actions of the method of the supervisor that an event calls, if it signals or
waits for several processes. -/
def method? (pool : ExecutorPool) : ExecutorEvent → Option (List ProcessAction)
  | task (.advance index answer) =>
      (pool.tasks[index]?).bind fun frame => frame.method? pool.shared answer
  | allRunning waited => some (pool.shared.supervisor.waits waited)
  | signalAll signal plugin killed =>
      some (pool.shared.supervisor.signals signal plugin killed)
  | cleanup plugin killed =>
      some (pool.shared.supervisor.signals (.terminate (Duration.fromSecs 1)) plugin
        killed)
  | task (.start _) | elsewhere _ => none

/-- The event takes the mutex of the map.  The timeout of the polling loop uses its
own handle and does not. -/
def locksMap (pool : ExecutorPool) : ExecutorEvent → Bool
  | task (.advance index _) =>
      (pool.tasks[index]?).any fun frame => frame.awaits = some .processes
  | allRunning _ | signalAll _ _ _ | cleanup _ _ => true
  | task (.start _) | elsewhere _ => false

def resumes? : ExecutorEvent → Option Nat
  | task (.advance index _) => some index
  | task (.start _) | allRunning _ | signalAll _ _ _ | cleanup _ _
  | elsewhere _ => none

end ExecutorEvent

/-- A method that has been entered: the actions it still has to do, whether it holds
the mutex of the map, and the task that goes on when it is left. -/
structure MethodCall where
  actions : List ProcessAction
  locksMap : Bool
  task : Option (Nat × Frame)

/-- An executor whose tasks run on several threads.  A task that is inside a method
stays at its await point, with its guards. -/
structure ThreadedPool where
  pool : ExecutorPool
  calls : List MethodCall
  sent : List (UnixSignal × ManagedProcess)

inductive ThreadedEvent where
  | whole (event : ExecutorEvent)
  | enter (event : ExecutorEvent)
  | act (call : Nat)
  | leave (call : Nat)

namespace ThreadedPool

/-- The mutex of the map is free if the event needs it, and the task that the event
resumes is not inside a method. -/
def Admits (state : ThreadedPool) (event : ExecutorEvent) : Prop :=
  ∀ call ∈ state.calls,
    (event.locksMap state.pool = true → call.locksMap = false) ∧
      (event.resumes? = none ∨ call.task.map Prod.fst ≠ event.resumes?)

instance (state : ThreadedPool) (event : ExecutorEvent) :
    Decidable (state.Admits event) :=
  inferInstanceAs (Decidable (∀ call ∈ state.calls, _ ∧ _))

/-- A method has been entered: the map is as the method leaves it, the statuses are
still as they were. -/
def entered (pool next : ExecutorPool) : ExecutorPool where
  shared := { next.shared with
    supervisor := { next.shared.supervisor with
      statuses := pool.shared.supervisor.statuses } }
  tasks := pool.tasks

/-- A method has been left. -/
def resumed (pool : ExecutorPool) : Option (Nat × Frame) → ExecutorPool
  | none => pool
  | some (index, frame) => { pool with tasks := pool.tasks.set index frame }

@[simp]
theorem resumed_shared (pool : ExecutorPool) (task : Option (Nat × Frame)) :
    (resumed pool task).shared = pool.shared := by
  cases task with
  | none => rfl
  | some going => rfl

def step (state : ThreadedPool) : ThreadedEvent → Option ThreadedPool
  | .whole event =>
      if state.Admits event ∧ (event.method? state.pool).isNone then
        (event.step state.pool).map fun next => { state with pool := next }
      else none
  | .enter event =>
      if state.Admits event then
        (event.method? state.pool).bind fun actions =>
          (event.step state.pool).map fun next =>
            { state with
              pool := entered state.pool next
              calls := state.calls ++ [
                { actions := actions
                  locksMap := event.locksMap state.pool
                  task := event.resumes?.bind fun index =>
                    (next.tasks[index]?).map fun frame => (index, frame) }] }
      else none
  | .act index =>
      match state.calls[index]? with
      | some ⟨action :: actions, locks, task⟩ =>
          some
            { pool := { state.pool with
                shared := { state.pool.shared with
                  supervisor := action.apply state.pool.shared.supervisor } }
              calls := state.calls.set index ⟨actions, locks, task⟩
              sent := state.sent ++ action.kills }
      | _ => none
  | .leave index =>
      match state.calls[index]? with
      | some ⟨[], _, task⟩ =>
          some { state with
            pool := resumed state.pool task
            calls := state.calls.eraseIdx index }
      | _ => none

/-- The action that a method does next. -/
def next? (state : ThreadedPool) (index : Nat) : Option ProcessAction :=
  (state.calls[index]?).bind fun call => call.actions.head?

end ThreadedPool

namespace ThreadedEvent

/-- The processes for which `try_wait` returns an exit code. -/
def reaps (state : ThreadedPool) : ThreadedEvent → List ManagedProcess
  | whole event => event.reaps state.pool
  | act index => ((state.next? index).map ProcessAction.reaps).getD []
  | enter _ | leave _ => []

/-- The calls of `kill`. -/
def kills (state : ThreadedPool) :
    ThreadedEvent → List (UnixSignal × ManagedProcess)
  | act index => ((state.next? index).map ProcessAction.kills).getD []
  | whole _ | enter _ | leave _ => []

/-- The processes whose status is set by `stop`, `cont` or `terminate`. -/
def writes (state : ThreadedPool) : ThreadedEvent → List ManagedProcess
  | act index => ((state.next? index).map ProcessAction.writes).getD []
  | whole _ | enter _ | leave _ => []

end ThreadedEvent

section Methods

variable {supervisor : ProcessSupervisor} {actions : List ProcessAction}

@[simp]
theorem ProcessAction.apply_processes (action : ProcessAction) :
    (action.apply supervisor).processes = supervisor.processes := by
  cases action with
  | kill signal process => rfl
  | write signal process => rfl
  | wait process waited => exact ProcessSupervisor.tryWait_processes process waited

@[simp]
theorem ProcessAction.apply_nextCell (action : ProcessAction) :
    (action.apply supervisor).nextCell = supervisor.nextCell := by
  cases action with
  | kill signal process => rfl
  | write signal process => rfl
  | wait process waited => exact ProcessSupervisor.tryWait_nextCell process waited

/-- The actions on one handle come to `deliver`. -/
theorem Signal.foldl_actions (signal : Signal) (killed : ManagedProcess → Bool)
    (process : ManagedProcess) :
    (signal.actions killed process).foldl ProcessAction.apply supervisor =
      supervisor.deliver signal killed process := by
  have kills : ∀ sent : List UnixSignal,
      (sent.map (ProcessAction.kill · process)).foldl ProcessAction.apply supervisor =
        supervisor := by
    intro sent
    induction sent with
    | nil => rfl
    | cons first rest ih => exact ih
  rw [Signal.actions, List.foldl_append, kills, ProcessSupervisor.deliver]
  split
  · rfl
  · rfl

theorem foldl_signal_actions (signal : Signal) (killed : ManagedProcess → Bool)
    (targets : List ManagedProcess) :
    (targets.flatMap (signal.actions killed)).foldl ProcessAction.apply supervisor =
      targets.foldl (ProcessSupervisor.deliver signal killed) supervisor := by
  induction targets generalizing supervisor with
  | nil => rfl
  | cons process targets ih =>
      rw [List.flatMap_cons, List.foldl_append, Signal.foldl_actions, ih,
        List.foldl_cons]

theorem foldl_waits (waited : ManagedProcess → Except String (Option Int)) :
    (supervisor.waits waited).foldl ProcessAction.apply supervisor =
      (supervisor.allRunning waited).1 := by
  rw [ProcessSupervisor.waits, List.foldl_map]
  rfl

theorem mem_signal_actions {signal : Signal} {killed : ManagedProcess → Bool}
    {process : ManagedProcess} {action : ProcessAction}
    (member : action ∈ signal.actions killed process) : action.process = process := by
  rcases List.mem_append.mp member with kill | write
  · obtain ⟨_, _, rfl⟩ := List.mem_map.mp kill
    rfl
  · split at write
    · rw [List.mem_singleton.mp write]
      rfl
    · cases write

theorem mem_signals {signal : Signal} {plugin : String}
    {killed : ManagedProcess → Bool} {action : ProcessAction}
    (member : action ∈ supervisor.signals signal plugin killed) :
    action.process ∈ supervisor.tracked plugin := by
  obtain ⟨process, tracked, here⟩ := List.mem_flatMap.mp member
  rw [mem_signal_actions here]
  exact tracked

theorem mem_waits {waited : ManagedProcess → Except String (Option Int)}
    {action : ProcessAction} (member : action ∈ supervisor.waits waited) :
    ∃ plugin, action.process ∈ supervisor.tracked plugin := by
  obtain ⟨entry, listed, rfl⟩ := List.mem_map.mp member
  exact ⟨entry.1, ProcessSupervisor.mem_tracked_of_mem_allTracked listed⟩

/-- Everything a method does: it starts from a map that may have lost an entry, its
actions lead to what the segment leaves, and they are about processes that are
tracked or that its task keeps. -/
structure MethodSpec (system after : System) (own : Option ManagedProcess)
    (actions : List ProcessAction) : Prop where
  supervisor : ∃ base : ProcessSupervisor,
    base.statuses = system.supervisor.statuses ∧
      after.supervisor = actions.foldl ProcessAction.apply base
  processes : ∀ action ∈ actions,
    (∃ plugin, action.process ∈ system.supervisor.tracked plugin) ∨
      own = some action.process

theorem foldl_apply_frame (base : ProcessSupervisor) :
    (actions.foldl ProcessAction.apply base).processes = base.processes ∧
      (actions.foldl ProcessAction.apply base).nextCell = base.nextCell := by
  induction actions generalizing base with
  | nil => exact ⟨rfl, rfl⟩
  | cons action actions ih =>
      obtain ⟨processes, nextCell⟩ := ih (action.apply base)
      rw [List.foldl_cons, processes, nextCell]
      exact ⟨action.apply_processes, action.apply_nextCell⟩

/-- From the map as the method leaves it, with the statuses as they were, the actions
lead to the end of the segment. -/
theorem MethodSpec.foldl_entered {system after : System}
    {own : Option ManagedProcess} (spec : MethodSpec system after own actions) :
    actions.foldl ProcessAction.apply
        { after.supervisor with statuses := system.supervisor.statuses } =
      after.supervisor := by
  obtain ⟨base, statuses, reached⟩ := spec.supervisor
  obtain ⟨processes, nextCell⟩ := @foldl_apply_frame actions base
  have same : { after.supervisor with statuses := system.supervisor.statuses } =
      base := by
    rw [reached, ← statuses]
    simp only [processes, nextCell]
  rw [same, reached]

theorem MethodSpec.of_signals {system after : System} {own : Option ManagedProcess}
    {signal : Signal} {plugin : String} {killed : ManagedProcess → Bool}
    (base : ProcessSupervisor) (statuses : base.statuses = system.supervisor.statuses)
    (delivered : after.supervisor = (system.supervisor.tracked plugin).foldl
      (ProcessSupervisor.deliver signal killed) base) :
    MethodSpec system after own (system.supervisor.signals signal plugin killed) where
  supervisor := by
    refine ⟨base, statuses, ?_⟩
    rw [delivered, ProcessSupervisor.signals, foldl_signal_actions]
  processes _ member := .inl ⟨plugin, mem_signals member⟩

variable {answer : Answer} {system after : System} {frame following : Frame}

theorem resume_method (resumption : Frame.resume system frame answer =
      some (after, following))
    (method : frame.method? system answer = some actions) :
    MethodSpec system after frame.process? actions := by
  cases frame with
  | execute point =>
      obtain ⟨next, rfl, segment⟩ := Frame.resume_execute resumption
      cases point with
      | poll job process round =>
          simp only [Frame.method?] at method
          split at method
          · next late =>
              cases method
              simp only [executeStep, pollStep, late, if_true] at segment
              cases segment
              refine ⟨⟨system.supervisor, rfl, ?_⟩, ?_⟩
              · rw [Signal.foldl_actions]
                rfl
              · intro action member
                right
                rw [mem_signal_actions member]
                rfl
          · cases method
      | cleanup job =>
          cases method
          cases segment
          exact .of_signals { system.supervisor with
            processes := system.supervisor.processes.erase job.plugin } rfl rfl
      | _ => cases method
  | control call point =>
      obtain ⟨next, rfl, segment⟩ := Frame.resume_control resumption
      cases point with
      | signal plugin =>
          cases method
          cases segment
          exact .of_signals system.supervisor rfl rfl
      | cleanup plugin results =>
          cases method
          cases segment
          exact .of_signals { system.supervisor with
            processes := system.supervisor.processes.erase plugin } rfl rfl
      | _ => cases method

/-- The method of an event, with the task that is inside it. -/
theorem method_of_step {pool next : ExecutorPool} {event : ExecutorEvent}
    (taken : event.step pool = some next)
    (method : event.method? pool = some actions) :
    ∃ own, MethodSpec pool.shared next.shared own actions ∧
      ∀ process, own = some process →
        ∃ frame ∈ pool.tasks, frame.process? = some process := by
  cases event with
  | task label =>
      cases label with
      | start frame => cases method
      | advance index answer =>
          obtain ⟨frame, shared, resumed, found, _, resumption, rfl⟩ :=
            step_advance taken
          simp only [ExecutorEvent.method?, found, Option.bind_some] at method
          exact ⟨frame.process?, resume_method resumption method,
            fun process kept => ⟨frame, List.mem_of_getElem? found, kept⟩⟩
  | allRunning waited =>
      cases taken
      cases method
      refine ⟨none, ⟨⟨pool.shared.supervisor, rfl, ?_⟩, ?_⟩, by simp⟩
      · exact (foldl_waits waited).symm
      · intro action member
        exact .inl (mem_waits member)
  | signalAll signal plugin killed =>
      cases taken
      cases method
      exact ⟨none, .of_signals pool.shared.supervisor rfl rfl, by simp⟩
  | cleanup plugin killed =>
      cases taken
      cases method
      exact ⟨none, .of_signals { pool.shared.supervisor with
        processes := pool.shared.supervisor.processes.erase plugin } rfl rfl, by simp⟩
  | elsewhere system => cases method

/-- An event without a method signals nothing. -/
theorem targets_of_no_method {pool : ExecutorPool} {event : ExecutorEvent}
    (single : event.method? pool = none) : event.targets pool = [] := by
  cases event with
  | task label =>
      cases label with
      | start frame => rfl
      | advance index answer =>
          simp only [ExecutorEvent.method?] at single
          simp only [ExecutorEvent.targets]
          cases found : pool.tasks[index]? with
          | none => rfl
          | some frame =>
              rw [found, Option.bind_some] at single
              cases frame with
              | execute point =>
                  cases point with
                  | poll job process round =>
                      simp only [Frame.method?] at single
                      split at single
                      · cases single
                      · next inTime =>
                          simp only [Frame.targets, ExecPoint.targets, inTime, if_false]
                  | cleanup job => cases single
                  | _ => rfl
              | control call point =>
                  cases point with
                  | signal plugin | cleanup plugin results => cases single
                  | _ => rfl
  | allRunning waited | elsewhere system => rfl
  | signalAll signal plugin killed | cleanup plugin killed => cases single

end Methods

namespace ThreadedPool

section Steps

variable {state next : ThreadedPool} {event : ExecutorEvent} {index : Nat}

/-- Everything an event without a method can do. -/
theorem step_whole (taken : state.step (.whole event) = some next) :
    event.method? state.pool = none ∧
      ∃ pool, event.step state.pool = some pool ∧
        next = { state with pool := pool } := by
  simp only [step] at taken
  split at taken
  · next admitted =>
      obtain ⟨pool, stepped, rfl⟩ := Option.map_eq_some_iff.mp taken
      exact ⟨Option.isNone_iff_eq_none.mp admitted.2, pool, stepped, rfl⟩
  · cases taken

/-- Everything the entry of a method can do. -/
theorem step_enter (taken : state.step (.enter event) = some next) :
    ∃ actions pool, event.method? state.pool = some actions ∧
      event.step state.pool = some pool ∧
      next.pool = entered state.pool pool ∧ next.sent = state.sent ∧
      next.calls = state.calls ++ [
        { actions := actions
          locksMap := event.locksMap state.pool
          task := event.resumes?.bind fun index =>
            (pool.tasks[index]?).map fun frame => (index, frame) }] := by
  simp only [step] at taken
  split at taken
  · obtain ⟨actions, method, rest⟩ := Option.bind_eq_some_iff.mp taken
    obtain ⟨pool, stepped, rfl⟩ := Option.map_eq_some_iff.mp rest
    exact ⟨actions, pool, method, stepped, rfl, rfl, rfl⟩
  · cases taken

/-- Everything an action can do. -/
theorem step_act (taken : state.step (.act index) = some next) :
    ∃ action actions locks task,
      state.calls[index]? = some ⟨action :: actions, locks, task⟩ ∧
      next.pool = { state.pool with
        shared := { state.pool.shared with
          supervisor := action.apply state.pool.shared.supervisor } } ∧
      next.calls = state.calls.set index ⟨actions, locks, task⟩ ∧
      next.sent = state.sent ++ action.kills := by
  simp only [step] at taken
  split at taken
  · next action actions locks task found =>
      cases taken
      exact ⟨action, actions, locks, task, found, rfl, rfl, rfl⟩
  · cases taken

/-- Everything the end of a method can do. -/
theorem step_leave (taken : state.step (.leave index) = some next) :
    ∃ locks task, state.calls[index]? = some ⟨[], locks, task⟩ ∧
      next = { state with
        pool := resumed state.pool task
        calls := state.calls.eraseIdx index } := by
  simp only [step] at taken
  split at taken
  · next locks task found =>
      cases taken
      exact ⟨locks, task, found, rfl⟩
  · cases taken

theorem next?_of_found {action : ProcessAction} {actions : List ProcessAction}
    {locks : Bool} {task : Option (Nat × Frame)}
    (found : state.calls[index]? = some ⟨action :: actions, locks, task⟩) :
    state.next? index = some action := by
  rw [next?, found]
  rfl

end Steps

end ThreadedPool

section Uninterrupted

variable {pool next : ExecutorPool} {event : ExecutorEvent}
variable {actions : List ProcessAction} {state : ThreadedPool}

/-- The actions of a method, one after the other. -/
theorem exec_actions (pool : ExecutorPool) (locks : Bool)
    (task : Option (Nat × Frame)) (sent : List (UnixSignal × ManagedProcess)) :
    exec ThreadedPool.step ⟨pool, [⟨actions, locks, task⟩], sent⟩
        (List.replicate actions.length (.act 0)) =
      some
        { pool := { pool with
            shared := { pool.shared with
              supervisor :=
                actions.foldl ProcessAction.apply pool.shared.supervisor } }
          calls := [⟨[], locks, task⟩]
          sent := sent ++ actions.flatMap ProcessAction.kills } := by
  induction actions generalizing pool sent with
  | nil => simp [exec]
  | cons action actions ih =>
      have rest := ih { pool with
        shared := { pool.shared with
          supervisor := action.apply pool.shared.supervisor } } (sent ++ action.kills)
      rw [List.flatMap_cons, ← List.append_assoc]
      exact rest

/-- The task that goes on after a method stands where its segment leads. -/
theorem resumed_of_step (taken : event.step pool = some next)
    (method : event.method? pool = some actions) :
    ThreadedPool.resumed { pool with shared := next.shared }
      (event.resumes?.bind fun index =>
        (next.tasks[index]?).map fun frame => (index, frame)) = next := by
  cases event with
  | task label =>
      cases label with
      | start frame => cases method
      | advance index answer =>
          obtain ⟨frame, shared, following, found, _, _, rfl⟩ := step_advance taken
          obtain ⟨below, _⟩ := List.getElem?_eq_some_iff.mp found
          simp [ExecutorEvent.resumes?, ThreadedPool.resumed, below]
  | allRunning waited | signalAll signal plugin killed | cleanup plugin killed =>
      cases taken
      rfl
  | elsewhere system => cases method

/-- A method that nothing interrupts does what the whole event does. -/
theorem uninterrupted_method (idle : state.calls = [])
    (taken : event.step state.pool = some next)
    (method : event.method? state.pool = some actions) :
    Run ThreadedPool.step state
      (.enter event :: List.replicate actions.length (.act 0) ++ [.leave 0])
      ⟨next, [], state.sent ++ actions.flatMap ProcessAction.kills⟩ := by
  obtain ⟨own, spec, -⟩ := method_of_step taken method
  have admitted : state.Admits event := by
    intro call member
    rw [idle] at member
    cases member
  have entering : state.step (.enter event) = some
      ⟨ThreadedPool.entered state.pool next,
        [⟨actions, event.locksMap state.pool, event.resumes?.bind fun index =>
          (next.tasks[index]?).map fun frame => (index, frame)⟩], state.sent⟩ := by
    simp [ThreadedPool.step, admitted, method, taken, idle]
  apply run_of_exec_eq
  rw [exec_append_singleton, exec, List.foldlM_cons, entering]
  change (exec ThreadedPool.step _ _).bind _ = _
  rw [exec_actions]
  have reached : ({ state.pool with
      shared := { next.shared with
        supervisor := actions.foldl ProcessAction.apply
          (ThreadedPool.entered state.pool next).shared.supervisor } } : ExecutorPool) =
        { state.pool with shared := next.shared } := by
    have led := spec.foldl_entered
    simp only [ThreadedPool.entered, led]
  simp only [Option.bind_some, ThreadedPool.step, List.getElem?_cons_zero,
    List.eraseIdx_cons_zero, Option.some.injEq, ThreadedPool.mk.injEq, and_true]
  exact (congrArg (ThreadedPool.resumed · _) reached).trans
    (resumed_of_step taken method)

end Uninterrupted

end NetGuardian
