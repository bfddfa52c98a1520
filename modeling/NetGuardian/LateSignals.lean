import NetGuardian.Foundation.EndRecords
import NetGuardian.JobIsolation
import NetGuardian.SupervisorMethods

/-!
# Signals to processes that are gone

Once `try_wait` has returned an exit code, the kernel may give the pid to another
process.  `try_wait` records the exit in the status cell of the process, but no
method that signals reads it: not before its first kill, and not after the grace
period, in which another task may have waited for the process.
-/

namespace NetGuardian

open CooperativeTasks EndRecords LabelledRun

/-- Every handle that is kept, in the map, by a task or by a method, and every
recorded exit belongs to a process that has been started. -/
structure ThreadedPool.Started (state : ThreadedPool) : Prop where
  pool : NetGuardian.Started state.pool
  actions : ∀ call ∈ state.calls, ∀ action ∈ call.actions,
    action.process.cell < state.pool.shared.supervisor.nextCell
  frames : ∀ call ∈ state.calls, ∀ index frame, call.task = some (index, frame) →
    ∀ process, frame.process? = some process →
      process.cell < state.pool.shared.supervisor.nextCell

namespace ThreadedPool

section Started

variable {state next : ThreadedPool} {event : ExecutorEvent} {index : Nat}

theorem Started.whole (started : state.Started)
    (taken : state.step (.whole event) = some next) : next.Started := by
  obtain ⟨_, pool, stepped, rfl⟩ := step_whole taken
  have grows := (processEvent_of_step stepped).touches.grows
  constructor
  · exact started.pool.step stepped
  · intro call member action here
    exact (started.actions call member action here).trans_le grows
  · intro call member index frame task process kept
    exact (started.frames call member index frame task process kept).trans_le grows

theorem Started.enter (started : state.Started)
    (taken : state.step (.enter event) = some next) : next.Started := by
  obtain ⟨actions, pool, method, stepped, entering, -, calls⟩ := step_enter taken
  obtain ⟨own, spec, kept⟩ := method_of_step stepped method
  have effect := processEvent_of_step stepped
  have after := started.pool.step stepped
  have grows : state.pool.shared.supervisor.nextCell ≤
      next.pool.shared.supervisor.nextCell := by
    rw [entering]
    exact effect.touches.grows
  have sameNext : next.pool.shared.supervisor.nextCell =
      pool.shared.supervisor.nextCell := by
    rw [entering]
    rfl
  constructor
  · rw [entering]
    refine ⟨after.tracked, ?_, ?_⟩
    · intro frame member process handle
      exact (started.pool.handles frame member process handle).trans_le
        effect.touches.grows
    · intro cell ended
      exact (started.pool.exits cell ended).trans_le effect.touches.grows
  · intro call member action here
    rw [calls, List.mem_append] at member
    rcases member with old | new
    · exact (started.actions call old action here).trans_le grows
    · rw [List.mem_singleton.mp new] at here
      refine lt_of_lt_of_le ?_ grows
      rcases spec.processes action here with ⟨plugin, tracked⟩ | handle
      · exact started.pool.tracked plugin action.process tracked
      · obtain ⟨frame, present, same⟩ := kept action.process handle
        exact started.pool.handles frame present action.process same
  · intro call member index frame task process handle
    rw [calls, List.mem_append] at member
    rcases member with old | new
    · exact (started.frames call old index frame task process handle).trans_le grows
    · rw [List.mem_singleton.mp new] at task
      obtain ⟨resumed, _, found⟩ := Option.bind_eq_some_iff.mp task
      obtain ⟨following, there, same⟩ := Option.map_eq_some_iff.mp found
      cases same
      rw [sameNext]
      exact after.handles frame (List.mem_of_getElem? there) process handle

theorem exits_apply {supervisor : ProcessSupervisor} {action : ProcessAction}
    {cell : Nat} (ended : ((action.apply supervisor).statuses cell).IsExited) :
    (supervisor.statuses cell).IsExited ∨ cell ∈ action.reaps.map (·.cell) := by
  cases action with
  | kill signal process => exact .inl ended
  | write signal process =>
      left
      change ((supervisor.setStatus process.cell signal.status).statuses
        cell).IsExited at ended
      rw [ProcessSupervisor.setStatus_statuses] at ended
      split at ended
      · exact absurd ended signal.not_isExited_status
      · exact ended
  | wait process waited =>
      rcases ProcessSupervisor.isExited_tryWait.mp ended with before | ⟨exited, rfl⟩
      · exact .inl before
      · right
        simp [ProcessAction.reaps, exited]

/-- What an action learns is on record, and only a write loses a record. -/
theorem exits_of_apply {supervisor : ProcessSupervisor} {action : ProcessAction}
    {cell : Nat} (known : cell ∈ action.reaps.map (·.cell) ∨
      (supervisor.statuses cell).IsExited ∧ cell ∉ action.writes.map (·.cell)) :
    ((action.apply supervisor).statuses cell).IsExited := by
  cases action with
  | kill signal process =>
      rcases known with learned | ⟨ended, -⟩
      · cases learned
      · exact ended
  | write signal process =>
      rcases known with learned | ⟨ended, kept⟩
      · cases learned
      · have other : cell ≠ process.cell := fun same =>
          kept (List.mem_singleton.mpr same)
        change ((supervisor.setStatus process.cell signal.status).statuses
          cell).IsExited
        rwa [ProcessSupervisor.setStatus_statuses, if_neg other]
  | wait process waited =>
      refine ProcessSupervisor.isExited_tryWait.mpr ?_
      rcases known with learned | ⟨ended, -⟩
      · right
        cases exited : ProcessSupervisor.countsAsRunning waited with
        | true => simp [ProcessAction.reaps, exited] at learned
        | false =>
            refine ⟨rfl, ?_⟩
            simpa [ProcessAction.reaps, exited] using learned
      · exact .inl ended

theorem Started.act (started : state.Started)
    (taken : state.step (.act index) = some next) : next.Started := by
  obtain ⟨action, actions, locks, task, found, pool, calls, -⟩ := step_act taken
  have present := List.mem_of_getElem? found
  have sameNext : next.pool.shared.supervisor.nextCell =
      state.pool.shared.supervisor.nextCell := by
    rw [pool]
    exact action.apply_nextCell
  have origin : ∀ {call}, call ∈ next.calls →
      ∃ earlier ∈ state.calls, call.task = earlier.task ∧
        ∀ action ∈ call.actions, action ∈ earlier.actions := by
    intro call member
    rw [calls] at member
    rcases List.mem_or_eq_of_mem_set member with old | rfl
    · exact ⟨call, old, rfl, fun _ here => here⟩
    · exact ⟨_, present, rfl, fun _ here => List.mem_cons_of_mem _ here⟩
  constructor
  · rw [pool]
    have nextCell := @ProcessAction.apply_nextCell state.pool.shared.supervisor action
    have tracked : (action.apply state.pool.shared.supervisor).tracked =
        state.pool.shared.supervisor.tracked := by
      funext plugin
      simp [ProcessSupervisor.tracked]
    refine ⟨?_, ?_, ?_⟩
    · intro plugin process here
      rw [tracked] at here
      exact (started.pool.tracked plugin process here).trans_eq nextCell.symm
    · intro frame member process handle
      exact (started.pool.handles frame member process handle).trans_eq nextCell.symm
    · intro cell ended
      refine lt_of_lt_of_eq ?_ nextCell.symm
      rcases exits_apply ended with before | learned
      · exact started.pool.exits cell before
      · obtain ⟨process, reaped, rfl⟩ := List.mem_map.mp learned
        rw [ProcessAction.eq_process_of_reaps reaped]
        exact started.actions _ present action List.mem_cons_self
  · intro call member action here
    obtain ⟨earlier, old, -, kept⟩ := origin member
    rw [sameNext]
    exact started.actions earlier old action (kept action here)
  · intro call member index frame task process handle
    obtain ⟨earlier, old, same, -⟩ := origin member
    rw [sameNext]
    exact started.frames earlier old index frame (same ▸ task) process handle

theorem Started.leave (started : state.Started)
    (taken : state.step (.leave index) = some next) : next.Started := by
  obtain ⟨locks, task, found, rfl⟩ := step_leave taken
  have present := List.mem_of_getElem? found
  constructor
  · cases task with
    | none => exact started.pool
    | some going =>
        obtain ⟨resumed, frame⟩ := going
        refine ⟨started.pool.tracked, ?_, started.pool.exits⟩
        intro other member process handle
        rcases List.mem_or_eq_of_mem_set member with old | rfl
        · exact started.pool.handles other old process handle
        · exact started.frames _ present resumed other rfl process handle
  · intro call member
    rw [resumed_shared]
    exact started.actions call (List.mem_of_mem_eraseIdx member)
  · intro call member
    rw [resumed_shared]
    exact started.frames call (List.mem_of_mem_eraseIdx member)

theorem Started.step {event : ThreadedEvent} (started : state.Started)
    (taken : state.step event = some next) : next.Started := by
  cases event with
  | whole event => exact started.whole taken
  | enter event => exact started.enter taken
  | act index => exact started.act taken
  | leave index => exact started.leave taken

/-- What a step does to the status cells: a reaped process is recorded, and only a
method that signals loses a record. -/
structure Records (state next : ThreadedPool) (event : ThreadedEvent) : Prop where
  recorded : ∀ cell ∈ (event.reaps state).map (·.cell),
    (next.pool.shared.supervisor.statuses cell).IsExited
  kept : ∀ cell, (state.pool.shared.supervisor.statuses cell).IsExited →
    cell ∉ (event.writes state).map (·.cell) →
      (next.pool.shared.supervisor.statuses cell).IsExited
  only : ∀ cell, (next.pool.shared.supervisor.statuses cell).IsExited →
    (state.pool.shared.supervisor.statuses cell).IsExited ∨
      cell ∈ (event.reaps state).map (·.cell)

theorem records_of_same {event : ThreadedEvent}
    (statuses : next.pool.shared.supervisor.statuses =
      state.pool.shared.supervisor.statuses)
    (learns : event.reaps state = []) : Records state next event where
  recorded cell learned := by
    rw [learns] at learned
    cases learned
  kept cell ended _ := by rwa [statuses]
  only cell ended := by
    rw [statuses] at ended
    exact .inl ended

theorem records_of_step {event : ThreadedEvent} (started : state.Started)
    (taken : state.step event = some next) : Records state next event := by
  cases event with
  | whole event =>
      obtain ⟨single, pool, stepped, rfl⟩ := step_whole taken
      have touches := (processEvent_of_step stepped).touches
      rw [targets_of_no_method single] at touches
      exact ⟨touches.recorded, fun cell ended _ => touches.kept cell ended
        (started.pool.exits cell ended) (by simp), touches.only⟩
  | enter event =>
      obtain ⟨_, _, _, _, entering, -⟩ := step_enter taken
      exact records_of_same (by rw [entering]; rfl) rfl
  | act index =>
      obtain ⟨action, actions, locks, task, found, pool, -⟩ := step_act taken
      have following := next?_of_found found
      constructor
      · intro cell learned
        simp only [ThreadedEvent.reaps, following, Option.map_some,
          Option.getD_some] at learned
        rw [pool]
        exact exits_of_apply (.inl learned)
      · intro cell ended kept
        simp only [ThreadedEvent.writes, following, Option.map_some,
          Option.getD_some] at kept
        rw [pool]
        exact exits_of_apply (.inr ⟨ended, kept⟩)
      · intro cell ended
        rw [pool] at ended
        simp only [ThreadedEvent.reaps, following, Option.map_some, Option.getD_some]
        exact exits_apply ended
  | leave index =>
      obtain ⟨_, task, _, rfl⟩ := step_leave taken
      exact records_of_same (by rw [resumed_shared]) rfl

end Started

end ThreadedPool

/-- The executor as a recorder: `try_wait` learns that a process has exited and
records it in the status cell, `kill` addresses a process, and the methods that
signal overwrite the cell. -/
def reaping : Recorder ThreadedPool ThreadedEvent Nat where
  step := ThreadedPool.step
  learns state event := (event.reaps state).map (·.cell)
  addresses state event := (event.kills state).map (·.2.cell)
  overwrites state event := (event.writes state).map (·.cell)
  ended state cell := (state.pool.shared.supervisor.statuses cell).IsExited

/-- The status cells are a faithful record: only a method that signals overwrites an
exit. -/
theorem reaping_faithful : reaping.Faithful ThreadedPool.Started where
  keeps started taken := started.step taken
  recorded started taken learned :=
    (ThreadedPool.records_of_step started taken).recorded _ learned
  kept started taken ended spared :=
    (ThreadedPool.records_of_step started taken).kept _ ended spared
  only started taken ended :=
    (ThreadedPool.records_of_step started taken).only _ ended

/-- The calls of `kill` are those on the log. -/
theorem ThreadedPool.sent_of_step {state next : ThreadedPool} {event : ThreadedEvent}
    (taken : state.step event = some next) :
    next.sent = state.sent ++ event.kills state := by
  cases event with
  | whole event =>
      obtain ⟨_, _, _, rfl⟩ := step_whole taken
      exact (List.append_nil _).symm
  | enter event =>
      obtain ⟨_, _, _, _, _, sent, -⟩ := step_enter taken
      rw [sent]
      exact (List.append_nil _).symm
  | act index =>
      obtain ⟨_, _, _, _, found, -, -, sent⟩ := step_act taken
      rw [sent, ThreadedEvent.kills, next?_of_found found]
      rfl
  | leave index =>
      obtain ⟨_, _, _, rfl⟩ := step_leave taken
      exact (List.append_nil _).symm

/-- The executor of a fresh system, with no method entered. -/
def freshThreads (system : System) : ThreadedPool where
  pool := freshExecutor system
  calls := []
  sent := []

theorem started_freshThreads (system : System) : (freshThreads system).Started where
  pool := started_freshExecutor system
  actions _ here := nomatch here
  frames _ here := nomatch here

/-- No process whose status is an exit is signalled. -/
def HeedsExited (observed : Observed ThreadedPool Nat) (event : ThreadedEvent) :
    Prop :=
  ∀ kill ∈ event.kills observed.state,
    ¬ (observed.state.pool.shared.supervisor.statuses kill.2.cell).IsExited

/-- No process whose status is an exit is signalled, and `stop`, `cont` and
`terminate` do not set the status of one. -/
def SparesExited (observed : Observed ThreadedPool Nat) (event : ThreadedEvent) :
    Prop :=
  HeedsExited observed event ∧ ∀ process ∈ event.writes observed.state,
    ¬ (observed.state.pool.shared.supervisor.statuses process.cell).IsExited

theorem heeds_iff {observed : Observed ThreadedPool Nat} {event : ThreadedEvent} :
    reaping.Heeds observed event ↔ HeedsExited observed event :=
  List.forall_mem_map

theorem spares_iff {observed : Observed ThreadedPool Nat} {event : ThreadedEvent} :
    reaping.Spares observed event ↔ SparesExited observed event := by
  rw [SparesExited, ← heeds_iff]
  simp [Recorder.Spares, Recorder.Heeds, reaping, or_imp, forall_and]

/-- In a run in which every kill and every status that a signal writes finds the
process not exited, no process is signalled after its exit code was returned; and in
a run in which none is, every kill finds its process not exited. -/
theorem noLateSignal_of_sparesExited (system : System) {events : List ThreadedEvent}
    {last : Observed ThreadedPool Nat}
    (run : Run reaping.observe (Recorder.start (freshThreads system)) events last) :
    (Guarded reaping.observe SparesExited (Recorder.start (freshThreads system)) events
        last → last.late = []) ∧
      (last.late = [] → Guarded reaping.observe HeedsExited
        (Recorder.start (freshThreads system)) events last) := by
  have spares : reaping.Spares = SparesExited := by
    funext observed event
    exact propext spares_iff
  have heeds : reaping.Heeds = HeedsExited := by
    funext observed event
    exact propext heeds_iff
  rw [← spares, ← heeds]
  constructor
  · intro spared
    exact reaping_faithful.late_eq_nil spared (started_freshThreads system)
  · exact reaping_faithful.heeds_of_late_eq_nil run (started_freshThreads system)
      fun _ ended => ended

/-- One call of `execute_next` whose process exits with code zero, up to the first
kill of its cleanup. -/
def successfulCall : List ThreadedEvent :=
  let exits : Answer := { plainAnswer with waited := fun _ => .ok (some 0) }
  .whole (.task (.start .executeNext)) ::
    List.replicate 7 (.whole (.task (.advance 0 exits))) ++
      [.enter (.task (.advance 0 exits)), .act 0]

theorem successfulCall_run :
    ∃ last, Run reaping.observe
        (Recorder.start (freshThreads (oneJob ["tool"]))) successfulCall last ∧
      last.late = [0] := by
  have computed : (exec reaping.observe
      (Recorder.start (freshThreads (oneJob ["tool"]))) successfulCall).map
        (·.late) = some [0] := rfl
  obtain ⟨last, reached, late⟩ := Option.map_eq_some_iff.mp computed
  exact ⟨last, run_of_exec_eq reached, late⟩

/-- The cleanup at the end of a successful call terminates the process whose
exit code the call has just read. -/
theorem cleanup_signals_reaped :
    ¬ ∀ (system : System) (events : List ThreadedEvent)
      (last : Observed ThreadedPool Nat),
      Run reaping.observe (Recorder.start (freshThreads system)) events last →
        last.late = [] := by
  intro never
  obtain ⟨last, run, late⟩ := successfulCall_run
  rw [never _ _ _ run] at late
  cases late

/-- One job runs, and the other one of its plugin is cancelled.  The polling loop
finds the process gone after SIGTERM, and SIGKILL follows after the grace period. -/
def reapedInGracePeriod : List ThreadedEvent :=
  let gone : Answer := { plainAnswer with waited := fun _ => .ok (some (-1)) }
  .whole (.task (.start .executeNext)) ::
    List.replicate 3 (.whole (.task (.advance 0 plainAnswer))) ++
      [.whole (.task (.start (.cancelJob 1 0))),
        .whole (.task (.advance 1 plainAnswer)),
        .enter (.task (.advance 1 plainAnswer)), .act 0,
        .whole (.task (.advance 0 gone)), .act 0]

theorem reapedInGracePeriod_run :
    ∃ last, Run reaping.observe (Recorder.start (freshThreads twoJobs))
        reapedInGracePeriod last ∧
      last.state.sent.map Prod.fst = [.sigterm, .sigkill] ∧ last.late = [0] := by
  have computed : (exec reaping.observe (Recorder.start (freshThreads twoJobs))
      reapedInGracePeriod).map (fun last =>
        (last.state.sent.map Prod.fst, last.late)) =
          some ([.sigterm, .sigkill], [0]) := rfl
  obtain ⟨last, reached, same⟩ := Option.map_eq_some_iff.mp computed
  exact ⟨last, run_of_exec_eq reached, congrArg Prod.fst same, congrArg Prod.snd same⟩

theorem noLateSignal_of_sparesExited_gracePeriod :
    ∃ last, Run reaping.observe (Recorder.start (freshThreads twoJobs))
        reapedInGracePeriod last ∧
      (Guarded reaping.observe SparesExited (Recorder.start (freshThreads twoJobs))
          reapedInGracePeriod last → last.late = []) ∧
        (last.late = [] → Guarded reaping.observe HeedsExited
          (Recorder.start (freshThreads twoJobs)) reapedInGracePeriod last) := by
  obtain ⟨last, run, _⟩ := reapedInGracePeriod_run
  exact ⟨last, run, noLateSignal_of_sparesExited twoJobs run⟩

end NetGuardian
