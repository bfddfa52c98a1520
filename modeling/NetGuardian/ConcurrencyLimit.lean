import NetGuardian.ExecuteLoop

/-!
# The concurrency limit

`execute_loop` counts the running processes before it calls `execute_next`, and
it receives or counts again only when that call has returned.  A call tracks one
process, under the name of its plugin, from the second half of `spawn` to its
cleanup.  So at most one process is tracked at a time, and none between calls.
-/

namespace NetGuardian

open LabelledRun

namespace ProcessSupervisor

/-- Nothing is tracked, or exactly one process and that under the given name. -/
def Holds (supervisor : ProcessSupervisor) : Option String → Prop
  | none => supervisor.processes = ∅
  | some plugin =>
      ∃ process, supervisor.processes = AList.singleton plugin [process]

/-- The tracked processes that have not exited. -/
def unexited (supervisor : ProcessSupervisor)
    (exited : ManagedProcess → Bool) : List (String × ManagedProcess) :=
  supervisor.allTracked.filter fun entry => !exited entry.2

section Holds

variable {supervisor after : ProcessSupervisor} {plugin : String}

theorem Holds.congr {slot : Option String} (holds : supervisor.Holds slot)
    (same : after.processes = supervisor.processes) : after.Holds slot := by
  cases slot with
  | none => exact same.trans holds
  | some plugin =>
      obtain ⟨process, here⟩ := holds
      exact ⟨process, same.trans here⟩

theorem Holds.tracked_eq_nil (holds : supervisor.Holds none) :
    supervisor.tracked plugin = [] := by
  have empty : supervisor.processes = ∅ := holds
  rw [tracked, empty, AList.lookup_empty, Option.getD_none]

theorem Holds.register (holds : supervisor.Holds none)
    (process : ManagedProcess) :
    (supervisor.register plugin process).Holds (some plugin) := by
  refine ⟨process, ?_⟩
  have empty : supervisor.processes = ∅ := holds
  rw [ProcessSupervisor.register, holds.tracked_eq_nil, empty, List.nil_append,
    AList.insert_empty]

/-- A cleanup forgets the process of its plugin. -/
theorem Holds.cleanup (holds : supervisor.Holds (some plugin))
    (killed : ManagedProcess → Bool) :
    (supervisor.cleanup plugin killed).Holds none := by
  obtain ⟨process, here⟩ := holds
  change (supervisor.cleanup plugin killed).processes = ∅
  rw [ProcessSupervisor.cleanup, foldl_deliver_processes, here]
  apply AList.ext
  exact List.kerase_cons_eq rfl

/-- A cleanup finds nothing to forget. -/
theorem Holds.cleanup_none (holds : supervisor.Holds none)
    (killed : ManagedProcess → Bool) :
    (supervisor.cleanup plugin killed).Holds none := by
  have empty : supervisor.processes = ∅ := holds
  change (supervisor.cleanup plugin killed).processes = ∅
  rw [ProcessSupervisor.cleanup, foldl_deliver_processes, empty]
  rfl

theorem Holds.signalAll {slot : Option String} (holds : supervisor.Holds slot)
    (signal : Signal) (killed : ManagedProcess → Bool) :
    (supervisor.signalAll signal plugin killed).1.Holds slot :=
  holds.congr (foldl_deliver_processes signal killed _)

/-- There are never more unexited processes than names that are held. -/
theorem Holds.unexited_length {slot : Option String}
    (holds : supervisor.Holds slot) (exited : ManagedProcess → Bool) :
    (supervisor.unexited exited).length ≤ slot.toList.length := by
  refine (List.length_filter_le _ _).trans ?_
  cases slot with
  | none =>
      have empty : supervisor.processes = ∅ := holds
      rw [allTracked, empty]
      exact Nat.le_refl 0
  | some plugin =>
      obtain ⟨process, here⟩ := holds
      rw [allTracked, here]
      exact Nat.le_refl 1

end Holds

end ProcessSupervisor

/-! ## What the segments keep -/

namespace ExecPoint

/-- The name under which the process of the call is tracked. -/
def slot : ExecPoint → Option String
  | track job _ | poll job _ _ | updateDownload job _ _ _ | timedOut job
  | succeeded job | completeQueue job | completeDownload job | failed job _
  | failedPlugins job _ | failedQueue job _ | failedDownload job _
  | waitFailed job | cleanup job => some job.plugin
  | dequeue | lockPlugins _ | missing _ | spawnFailed _ _ | register _ _
  | returned _ => none

end ExecPoint

section Segments

variable {answer : Answer} {system after : System}

theorem pollStep_holds {job : Job} {process : ManagedProcess}
    {round : PollRound} (holds : system.supervisor.Holds (some job.plugin)) :
    (pollStep answer system job process round).1.supervisor.Holds
      (pollStep answer system job process round).2.slot := by
  unfold pollStep
  dsimp only
  split
  · exact holds.congr (ProcessSupervisor.deliver_processes _ _ _)
  · split
    · have reaped := holds.congr
        (ProcessSupervisor.tryWait_processes process (answer.waited process))
      split
      · exact reaped
      · exact reaped
    · split
      · exact holds
      · exact holds
    · exact holds

/-- A segment of `execute_next` keeps the process of the call in its place: it
appears when it is registered and disappears in the cleanup. -/
theorem executeStep_holds {point next : ExecPoint}
    (segment : executeStep answer system point = some (after, next))
    (holds : system.supervisor.Holds point.slot) :
    after.supervisor.Holds next.slot := by
  cases point with
  | dequeue =>
      rw [executeStep] at segment
      split at segment
      · cases segment
        exact holds
      · cases segment
        exact holds
  | lockPlugins job =>
      rw [executeStep] at segment
      split at segment
      · split at segment
        · cases segment
          exact holds
        · cases segment
          exact holds
      · cases segment
        exact holds
  | register job process =>
      have registered :
          (system.supervisor.register job.plugin process).Holds
            (some job.plugin) :=
        ProcessSupervisor.Holds.register holds process
      rw [executeStep] at segment
      split at segment
      · cases segment
        exact registered
      · cases segment
        exact registered
  | poll job process round =>
      rw [executeStep, Option.some.injEq] at segment
      have polled := @pollStep_holds answer system job process round holds
      rw [segment] at polled
      exact polled
  | failedPlugins job err =>
      have samePlugin :
          (system.orchestrator.handleFailure answer.readings job err).job.plugin =
            job.plugin :=
        congrArg Prod.snd
          (system.orchestrator.handleFailure_identity answer.readings job err)
      cases segment
      change system.supervisor.Holds (some _)
      rw [samePlugin]
      exact holds
  | cleanup job =>
      cases segment
      exact holds.cleanup answer.killed
  | returned job => cases segment
  | missing job | spawnFailed job err | track job process
  | updateDownload job process round elapsed | timedOut job | succeeded job
  | completeQueue job | completeDownload job | failed job err
  | failedQueue job err | failedDownload job err | waitFailed job =>
      cases segment
      exact holds

/-- A control call adds nothing. -/
theorem controlStep_holds {call : ControlCall} {point next : ControlPoint}
    (segment : controlStep call answer system point = some (after, next))
    (holds : system.supervisor.Holds none) : after.supervisor.Holds none := by
  cases point with
  | list =>
      rw [controlStep] at segment
      split at segment
      · cases segment
        exact holds
      · cases segment
        exact holds
  | signal plugin =>
      cases segment
      exact holds.signalAll call.kind.signal answer.killed
  | update plugin results =>
      rw [controlStep] at segment
      split at segment
      · cases segment
        exact holds
      · cases segment
        exact holds
  | cleanup plugin results =>
      cases segment
      exact holds.cleanup_none answer.killed
  | returned result => cases segment

/-- Control calls track nothing. -/
def Frame.slot : Frame → Option String
  | execute point => point.slot
  | control _ _ => none

theorem resume_holds {frame next : Frame}
    (resumption : Frame.resume system frame answer = some (after, next))
    (holds : system.supervisor.Holds frame.slot) :
    after.supervisor.Holds next.slot := by
  cases frame with
  | execute point =>
      obtain ⟨next, rfl, segment⟩ := Frame.resume_execute resumption
      exact executeStep_holds segment holds
  | control call point =>
      obtain ⟨next, rfl, segment⟩ := Frame.resume_control resumption
      exact controlStep_holds segment holds

theorem Frame.slot_of_isReturned {frame : Frame}
    (returned : frame.isReturned = true) : frame.slot = none := by
  cases frame with
  | control call point => rfl
  | execute point =>
      cases point with
      | returned job => rfl
      | _ => cases returned

end Segments

/-! ## Whole runs -/

/-- What happens to the loop: it takes a step, or others signal processes by
plugin name or change anything but the supervisor and the bus.  What others
publish is a label of the loop. -/
inductive LoopEvent where
  | loop (label : LoopLabel)
  | signalAll (signal : Signal) (plugin : String)
      (killed : ManagedProcess → Bool)
  | elsewhere (system : System)

namespace LoopEvent

def step (loop : ExecuteLoop) : LoopEvent → Option ExecuteLoop
  | .loop label => loop.step label
  | signalAll signal plugin killed =>
      some { loop with
        system := (loop.system.signalAll none signal plugin killed).1 }
  | elsewhere system =>
      some { loop with
        system := { system with
          supervisor := loop.system.supervisor
          signals := loop.system.signals
          bus := loop.system.bus } }

end LoopEvent

namespace ExecuteLoop

/-- The loop on a supervisor that has not tracked anything. -/
def fresh (system : System) (maxConcurrent : Nat) : ExecuteLoop :=
  initial { system with supervisor := .new } maxConcurrent

/-- The name under which a process is tracked. -/
def slot (loop : ExecuteLoop) : Option String :=
  match loop.point with
  | .calling frame => frame.slot
  | .select | .sleeping | .counting => none

/-- A call is made only where there is room for its process. -/
structure Limited (maxConcurrent : Nat) (loop : ExecuteLoop) : Prop where
  limit : loop.maxConcurrent = maxConcurrent
  holds : loop.system.supervisor.Holds loop.slot
  room : ∀ point, loop.point = .calling (.execute point) → 0 < maxConcurrent

section Limited

variable {maxConcurrent : Nat} {loop next : ExecuteLoop}

theorem limited_fresh (system : System) (maxConcurrent : Nat) :
    (fresh system maxConcurrent).Limited maxConcurrent where
  limit := rfl
  holds := rfl
  room := by rintro _ ⟨⟩

/-- The loop starts a control call or goes on waiting. -/
theorem Limited.handle {received : Broadcast.Reception NetGuardianEvent ×
      Broadcast.Receiver NetGuardianEvent}
    (limited : loop.Limited maxConcurrent) (waits : loop.point = .select)
    (handled : loop.handle received = some next) :
    next.Limited maxConcurrent := by
  have holds := limited.holds
  rw [slot, waits] at holds
  unfold ExecuteLoop.handle at handled
  split at handled
  · cases handled
  · cases handled
    exact ⟨limited.limit, holds, by rintro _ ⟨⟩⟩
  · next event _ =>
      split at handled
      · cases handled
        exact ⟨limited.limit, limited.holds, limited.room⟩
      · next frame call =>
          cases handled
          cases event with
          | jobControlPause jobId | jobControlResume jobId
          | jobControlCancel jobId =>
              cases call
              exact ⟨limited.limit, holds, by rintro _ ⟨⟩⟩
          | _ => cases call

/-- The call goes on, or it has returned and nothing is tracked. -/
theorem Limited.call {frame : Frame} {answer : Answer}
    (limited : loop.Limited maxConcurrent) (calls : loop.point = .calling frame)
    (taken : loop.step (.call answer) = some next) :
    next.Limited maxConcurrent := by
  have holds := limited.holds
  rw [slot, calls] at holds
  simp only [ExecuteLoop.step, calls, Option.map_eq_some_iff] at taken
  obtain ⟨⟨after, moved⟩, stepped, rfl⟩ := taken
  have resumption := resume_of_callStep stepped
  have holdsAfter := resume_holds resumption holds
  by_cases returned : moved.isReturned = true
  · simp only [returned, if_true]
    rw [Frame.slot_of_isReturned returned] at holdsAfter
    exact ⟨limited.limit, holdsAfter, by rintro _ ⟨⟩⟩
  · simp only [returned]
    refine ⟨limited.limit, holdsAfter, ?_⟩
    rintro point ⟨⟩
    cases frame with
    | execute earlier => exact limited.room earlier calls
    | control call earlier =>
        obtain ⟨_, same, _⟩ := Frame.resume_control resumption
        cases same

theorem Limited.step {label : LoopLabel} (limited : loop.Limited maxConcurrent)
    (taken : loop.step label = some next) : next.Limited maxConcurrent := by
  cases label with
  | publish event =>
      cases taken
      exact ⟨limited.limit, limited.holds, limited.room⟩
  | receive =>
      cases waits : loop.point with
      | select =>
          simp only [ExecuteLoop.step, waits] at taken
          exact limited.handle waits taken
      | _ => simp [ExecuteLoop.step, waits] at taken
  | timer =>
      have holds := limited.holds
      cases waits : loop.point with
      | select | sleeping =>
          rw [slot, waits] at holds
          simp only [ExecuteLoop.step, waits, Option.some.injEq] at taken
          subst taken
          exact ⟨limited.limit, holds, by rintro _ ⟨⟩⟩
      | _ => simp [ExecuteLoop.step, waits] at taken
  | count waited =>
      have holds := limited.holds
      cases counts : loop.point with
      | counting =>
          rw [slot, counts] at holds
          have counted := holds.congr
            (ProcessSupervisor.foldl_tryWait_processes waited
              loop.system.supervisor.allTracked)
          simp only [ExecuteLoop.step, counts] at taken
          split at taken
          · next below =>
              cases taken
              refine ⟨limited.limit, counted, fun _ _ => ?_⟩
              rw [← limited.limit]
              exact Nat.zero_lt_of_lt below
          · cases taken
            exact ⟨limited.limit, counted, by rintro _ ⟨⟩⟩
      | _ => simp [ExecuteLoop.step, counts] at taken
  | call answer =>
      cases calls : loop.point with
      | calling frame => exact limited.call calls taken
      | _ => simp [ExecuteLoop.step, calls] at taken

theorem Limited.event {event : LoopEvent} (limited : loop.Limited maxConcurrent)
    (taken : event.step loop = some next) : next.Limited maxConcurrent := by
  cases event with
  | loop label => exact limited.step taken
  | signalAll signal plugin killed =>
      cases taken
      exact ⟨limited.limit, limited.holds.signalAll signal killed, limited.room⟩
  | elsewhere system =>
      cases taken
      exact ⟨limited.limit, limited.holds, limited.room⟩

/-- Only a call of `execute_next` holds a name, and it was made where there is
room. -/
theorem Limited.slot_length (limited : loop.Limited maxConcurrent) :
    loop.slot.toList.length ≤ maxConcurrent := by
  cases point : loop.point with
  | select | sleeping | counting =>
      rw [slot, point]
      exact Nat.zero_le _
  | calling frame =>
      rw [slot, point]
      cases frame with
      | control call point => exact Nat.zero_le _
      | execute inside =>
          have room := limited.room inside point
          change inside.slot.toList.length ≤ maxConcurrent
          cases inside.slot with
          | none => exact Nat.zero_le _
          | some plugin => exact room

end Limited

/-- In every run, whatever is queued, published, signalled or exits meanwhile,
at most `maxConcurrent` tracked processes have not exited, and nothing is
tracked any more when `execute_next` returns. -/
theorem concurrency_limit (system : System) (maxConcurrent : Nat)
    {events : List LoopEvent} {last : ExecuteLoop}
    (run : Run LoopEvent.step (fresh system maxConcurrent) events last) :
    (∀ exited, (last.system.supervisor.unexited exited).length ≤
        maxConcurrent) ∧
      ∀ point answer after job, last.point = .calling (.execute point) →
        last.callStep (.execute point) answer =
          some (after, .execute (.returned job)) →
        ∀ plugin, after.supervisor.tracked plugin = [] := by
  have limited : last.Limited maxConcurrent :=
    run.invariant (Limited maxConcurrent) (limited_fresh system maxConcurrent)
      fun _ _ _ before _ taken => before.event taken
  constructor
  · intro exited
    exact (limited.holds.unexited_length exited).trans limited.slot_length
  · intro point answer after job calls returns plugin
    have holds := limited.holds
    rw [slot, calls] at holds
    have holdsAfter := resume_holds (resume_of_callStep returns) holds
    exact holdsAfter.tracked_eq_nil

/-- The loop dispatches a job whose process exits, up to its cleanup. -/
def dispatchOne : List LoopEvent :=
  [.loop .timer, .loop (.count fun _ => .ok none)] ++
    List.replicate 7 (.loop (.call
      { plainAnswer with waited := fun _ => .ok (some 0) }))

theorem concurrency_limit_one_job :
    ∃ last, exec LoopEvent.step (fresh (oneJob ["tool"]) 1) dispatchOne =
        some last ∧
      last.system.supervisor.allTracked.length = 1 ∧
      (∀ exited, (last.system.supervisor.unexited exited).length ≤ 1) ∧
      ∀ point answer after job, last.point = .calling (.execute point) →
        last.callStep (.execute point) answer =
          some (after, .execute (.returned job)) →
        ∀ plugin, after.supervisor.tracked plugin = [] := by
  have computed : (exec LoopEvent.step (fresh (oneJob ["tool"]) 1)
      dispatchOne).map (·.system.supervisor.allTracked.length) = some 1 := rfl
  obtain ⟨last, reached, tracked⟩ := Option.map_eq_some_iff.mp computed
  exact ⟨last, reached, tracked,
    concurrency_limit (oneJob ["tool"]) 1 (run_of_exec_eq reached)⟩

end ExecuteLoop

end NetGuardian
