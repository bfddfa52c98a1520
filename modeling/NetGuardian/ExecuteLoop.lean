import NetGuardian.Foundation.Broadcast
import NetGuardian.Segments

/-!
# The executor's event loop

`execute_loop` receives control events and starts jobs in one task.  It receives
only between two calls, and its channel keeps 256 events of all kinds.  When the
receiver has fallen further behind, `recv` fails once, the failed pattern leaves
only the timer of that `select!`, and the overwritten events are never passed on.
-/

namespace NetGuardian

open CooperativeTasks LabelledRun

namespace NetGuardianEvent

/-- The call that `execute_loop` makes for an event. -/
def controlCall (ticket : Nat) : NetGuardianEvent → Option Frame
  | jobControlPause jobId => some (.pauseJob jobId ticket)
  | jobControlResume jobId => some (.resumeJob jobId ticket)
  | jobControlCancel jobId => some (.cancelJob jobId ticket)
  | _ => none

def isControl : NetGuardianEvent → Bool
  | jobControlPause _ | jobControlResume _ | jobControlCancel _ => true
  | _ => false

theorem controlCall_isSome (ticket : Nat) (event : NetGuardianEvent) :
    (event.controlCall ticket).isSome = event.isControl := by
  cases event <;> rfl

end NetGuardianEvent

namespace Frame

/-- The call has returned. -/
def isReturned : Frame → Bool
  | .execute (.returned _) | .control _ (.returned _) => true
  | _ => false

end Frame

/-- Where the loop is: at the `select!`, at a `select!` whose receive branch is
disabled, before the count of running processes, or inside a call. -/
inductive LoopPoint where
  | select
  | sleeping
  | counting
  | calling (frame : Frame)

/-- The loop, the state it shares and its receiver.  `passed` lists the events
for which a control method was called. -/
structure ExecuteLoop where
  system : System
  receiver : Broadcast.Receiver NetGuardianEvent
  point : LoopPoint
  passed : List NetGuardianEvent
  maxConcurrent : Nat

/-- An event published by another task, or a step of the loop. -/
inductive LoopLabel where
  | publish (event : NetGuardianEvent)
  | receive
  | timer
  | count (waited : ManagedProcess → Except String (Option Int))
  | call (answer : Answer)

namespace ExecuteLoop

/-- The loop right after it has subscribed. -/
def initial (system : System) (maxConcurrent : Nat) : ExecuteLoop where
  system := system
  receiver := Broadcast.subscribe system.bus.published
  point := .select
  passed := []
  maxConcurrent := maxConcurrent

/-- All events published so far. -/
def sent (loop : ExecuteLoop) : List NetGuardianEvent :=
  loop.system.bus.published

/-- The system has changed and has published events on the way. -/
def afterPublishing (loop : ExecuteLoop) (system : System)
    (events : List NetGuardianEvent) (point : LoopPoint) : ExecuteLoop :=
  { loop with
    system := system
    receiver :=
      Broadcast.publish EventBus.capacity loop.sent events loop.receiver
    point := point }

/-- What the loop does with the answer of `recv`. -/
def handle (loop : ExecuteLoop)
    (received : Broadcast.Reception NetGuardianEvent ×
      Broadcast.Receiver NetGuardianEvent) : Option ExecuteLoop :=
  match received.1 with
  | .empty => none
  | .lagged _ =>
      some { loop with receiver := received.2, point := .sleeping }
  | .event event =>
      match event.controlCall loop.passed.length with
      | none => some { loop with receiver := received.2 }
      | some frame =>
          some { loop with
            receiver := received.2
            point := .calling frame
            passed := loop.passed ++ [event] }

/-- One segment of the call that the loop is in, if it can move. -/
def callStep (loop : ExecuteLoop) (frame : Frame) (answer : Answer) :
    Option (System × Frame) :=
  if SelfBlocked executor frame then none
  else Frame.resume loop.system frame answer

/-- The events that a step publishes. -/
def emits (loop : ExecuteLoop) : LoopLabel → List NetGuardianEvent
  | .publish event => [event]
  | .call answer =>
      match loop.point with
      | .calling frame =>
          match loop.callStep frame answer with
          | none => []
          | some next => next.1.bus.published.drop loop.sent.length
      | _ => []
  | _ => []

def step (loop : ExecuteLoop) (label : LoopLabel) : Option ExecuteLoop :=
  match label, loop.point with
  | .publish event, point =>
      some (loop.afterPublishing (loop.system.publish [event]) [event] point)
  | .receive, .select =>
      loop.handle
        (Broadcast.receive EventBus.capacity loop.sent loop.receiver)
  | .timer, .select | .timer, .sleeping =>
      some { loop with point := .counting }
  | .count waited, .counting =>
      let result := loop.system.supervisor.allRunning waited
      let counted := { loop.system with supervisor := result.1 }
      if result.2.length < loop.maxConcurrent then
        some { loop with system := counted, point := .calling .executeNext }
      else some { loop with system := counted, point := .select }
  | .call answer, .calling frame =>
      (loop.callStep frame answer).map fun next =>
        loop.afterPublishing next.1 (loop.emits (.call answer))
          (if next.2.isReturned then .select else .calling next.2)
  | _, _ => none

/-- Every control event published since the subscription was passed on once, in
order, or can still be received. -/
def NoControlLost (loop : ExecuteLoop) : Prop :=
  loop.passed ++
      (Broadcast.unread EventBus.capacity loop.sent loop.receiver).filter
        NetGuardianEvent.isControl =
    (loop.sent.drop loop.receiver.subscribedAt).filter
      NetGuardianEvent.isControl

/-- No event that the step pushes out of the channel is an unread control
event. -/
def KeepsControl (loop : ExecuteLoop) (label : LoopLabel) : Prop :=
  ∀ event ∈ Broadcast.newlyOverwritten EventBus.capacity loop.sent
    (loop.emits label) loop.receiver, event.isControl = false

section Step

variable {loop next : ExecuteLoop} {label : LoopLabel}

/-- A call that moves is resumed. -/
theorem resume_of_callStep {frame moved : Frame} {answer : Answer}
    {after : System}
    (stepped : loop.callStep frame answer = some (after, moved)) :
    Frame.resume loop.system frame answer = some (after, moved) := by
  unfold callStep at stepped
  split at stepped
  · cases stepped
  · exact stepped

/-- Everything a step does to the channel: it receives, or it publishes. -/
theorem step_channel (taken : loop.step label = some next) :
    (loop.emits label = [] ∧ next.sent = loop.sent ∧
      loop.handle (Broadcast.receive EventBus.capacity loop.sent
        loop.receiver) = some next) ∨
    (next.sent = loop.sent ++ loop.emits label ∧
      next.receiver = Broadcast.publish EventBus.capacity loop.sent
        (loop.emits label) loop.receiver ∧
      next.passed = loop.passed) := by
  cases label with
  | publish event =>
      cases taken
      exact .inr ⟨rfl, rfl, rfl⟩
  | receive =>
      cases point : loop.point with
      | select =>
          simp only [step, point] at taken
          refine .inl ⟨rfl, ?_, taken⟩
          unfold handle at taken
          split at taken
          · cases taken
          · cases taken
            rfl
          · split at taken <;> cases taken <;> rfl
      | _ => simp [step, point] at taken
  | timer =>
      right
      cases point : loop.point with
      | select | sleeping =>
          simp only [step, point, Option.some.injEq] at taken
          subst taken
          exact ⟨(List.append_nil _).symm, (Broadcast.publish_nil _ _ _).symm, rfl⟩
      | _ => simp [step, point] at taken
  | count waited =>
      right
      cases point : loop.point with
      | counting =>
          simp only [step, point] at taken
          split at taken <;> cases taken <;>
            exact ⟨(List.append_nil _).symm,
              (Broadcast.publish_nil _ _ _).symm, rfl⟩
      | _ => simp [step, point] at taken
  | call answer =>
      right
      cases point : loop.point with
      | calling frame =>
          simp only [step, point, Option.map_eq_some_iff] at taken
          obtain ⟨⟨after, moved⟩, segment, rfl⟩ := taken
          refine ⟨?_, rfl, rfl⟩
          obtain ⟨events, published⟩ :=
            resume_published (resume_of_callStep segment)
          change after.bus.published = _
          simp only [emits, point, segment, published, sent]
          rw [List.drop_left]
      | _ => simp [step, point] at taken

/-- The bookkeeping of the receiver is right, and exactly the control events
among the delivered ones were passed on. -/
structure Sound (loop : ExecuteLoop) : Prop where
  accounted : Broadcast.Accounted EventBus.capacity loop.sent loop.receiver
  passed : loop.passed =
    loop.receiver.delivered.filter NetGuardianEvent.isControl

theorem sound_initial (system : System) (maxConcurrent : Nat) :
    (initial system maxConcurrent).Sound where
  accounted := Broadcast.accounted_subscribe _ _
  passed := rfl

/-- A received event is passed on at once if it is a control event. -/
theorem handle_eq_some
    (handled : loop.handle (Broadcast.receive EventBus.capacity loop.sent
      loop.receiver) = some next)
    (passed : loop.passed =
      loop.receiver.delivered.filter NetGuardianEvent.isControl) :
    next.receiver = (Broadcast.receive EventBus.capacity loop.sent
        loop.receiver).2 ∧
      next.passed =
        next.receiver.delivered.filter NetGuardianEvent.isControl := by
  have delivered := Broadcast.receive_delivered EventBus.capacity loop.sent
    loop.receiver
  generalize Broadcast.receive EventBus.capacity loop.sent loop.receiver =
    received at handled delivered ⊢
  unfold handle at handled
  cases reception : received.1 with
  | empty => simp [reception] at handled
  | lagged missed =>
      simp only [reception, Option.some.injEq] at handled delivered
      subst handled
      exact ⟨rfl, by rw [delivered]; exact passed⟩
  | event event =>
      simp only [reception] at handled delivered
      have control := event.controlCall_isSome loop.passed.length
      cases call : event.controlCall loop.passed.length with
      | none =>
          simp only [call, Option.some.injEq] at handled
          subst handled
          rw [call, Option.isSome_none] at control
          refine ⟨rfl, ?_⟩
          rw [delivered, List.filter_append, ← passed]
          simp [← control]
      | some frame =>
          simp only [call, Option.some.injEq] at handled
          subst handled
          rw [call, Option.isSome_some] at control
          refine ⟨rfl, ?_⟩
          rw [delivered, List.filter_append, ← passed]
          simp [← control]

theorem sound_step (sound : loop.Sound) (taken : loop.step label = some next) :
    next.Sound := by
  rcases step_channel taken with
    ⟨_, sameSent, handled⟩ | ⟨grown, receiver, samePassed⟩
  · obtain ⟨receiver, passed⟩ := handle_eq_some handled sound.passed
    refine ⟨?_, passed⟩
    rw [sameSent, receiver]
    exact Broadcast.accounted_receive sound.accounted
  · constructor
    · rw [grown, receiver]
      exact Broadcast.accounted_publish sound.accounted _
    · rw [samePassed, receiver]
      exact sound.passed

/-- What a step adds to the overwritten events. -/
theorem overwritten_step (sound : loop.Sound)
    (taken : loop.step label = some next) :
    next.receiver.overwritten = loop.receiver.overwritten ++
      Broadcast.newlyOverwritten EventBus.capacity loop.sent
        (loop.emits label) loop.receiver := by
  rcases step_channel taken with ⟨silent, _, handled⟩ | ⟨_, receiver, _⟩
  · rw [(handle_eq_some handled sound.passed).1, silent]
    simp
  · rw [receiver]
    rfl

/-- A control event is lost exactly when it was overwritten. -/
theorem noControlLost_iff (sound : loop.Sound) :
    loop.NoControlLost ↔
      ∀ event ∈ loop.receiver.overwritten, event.isControl = false := by
  rw [← Broadcast.lossless_iff NetGuardianEvent.isControl sound.accounted,
    NoControlLost, Broadcast.Lossless, List.filter_append, ← sound.passed]

end Step

/-- Over every interleaving of publishers with the loop, no control request is
lost exactly when none is overwritten before the loop comes to receive it. -/
theorem noControlLost_iff_keepsControl (system : System) (maxConcurrent : Nat)
    {labels : List LoopLabel} {last : ExecuteLoop}
    (run : Run step (initial system maxConcurrent) labels last) :
    last.NoControlLost ↔
      Guarded step KeepsControl (initial system maxConcurrent) labels last := by
  have initially := sound_initial system maxConcurrent
  apply Guarded.good_iff_guarded Sound NoControlLost run initially
  · rw [noControlLost_iff initially]
    intro event member
    cases member
  · exact fun _ _ _ sound taken => sound_step sound taken
  · intro loop label next sound kept keeps taken
    rw [noControlLost_iff (sound_step sound taken), overwritten_step sound taken]
    intro event member
    rcases List.mem_append.mp member with old | new
    · exact (noControlLost_iff sound).mp kept event old
    · exact keeps event new
  · intro loop label next sound loses taken kept
    rw [noControlLost_iff (sound_step sound taken), overwritten_step sound taken]
      at kept
    exact loses fun event new => kept event (List.mem_append_right _ new)
  · intro loop label next sound lost taken kept
    rw [noControlLost_iff (sound_step sound taken), overwritten_step sound taken]
      at kept
    exact lost ((noControlLost_iff sound).mpr fun event old =>
      kept event (List.mem_append_left _ old))

theorem noControlLost_iff_keepsControl_one_event :
    ∃ last, exec step (initial (oneJob ["tool"]) 3)
        [.publish (.jobControlCancel 1), .receive] = some last ∧
      (last.NoControlLost ↔
        Guarded step KeepsControl (initial (oneJob ["tool"]) 3)
          [.publish (.jobControlCancel 1), .receive] last) := by
  have run : Run step (initial (oneJob ["tool"]) 3)
      [.publish (.jobControlCancel 1), .receive] _ := run_of_exec_eq rfl
  exact ⟨_, run.exec_eq, noControlLost_iff_keepsControl _ _ run⟩

/-- Other tasks can publish any number of events between two steps of the
loop. -/
theorem run_publish (loop : ExecuteLoop) (events : List NetGuardianEvent) :
    ∃ next, Run step loop (events.map .publish) next ∧
      next.sent = loop.sent ++ events ∧ next.passed = loop.passed ∧
      next.receiver.cursor = loop.receiver.cursor ∧
      next.receiver.subscribedAt = loop.receiver.subscribedAt := by
  induction events using List.reverseRecOn with
  | nil => exact ⟨loop, .start, (List.append_nil _).symm, rfl, rfl, rfl⟩
  | append_singleton events event ih =>
      obtain ⟨next, run, sent, passed, cursor, subscribedAt⟩ := ih
      let after := next.afterPublishing (next.system.publish [event]) [event]
        next.point
      refine ⟨after, ?_, ?_, passed, cursor, subscribedAt⟩
      · rw [List.map_append]
        exact run.extend trivial rfl
      · change next.sent ++ [event] = _
        rw [sent, List.append_assoc]

/-- A cancel request, and 256 events of any other kind before the loop comes to
receive. -/
theorem cancel_request_lost :
    ∃ last, Run step (initial (oneJob ["tool"]) 3)
        ((.jobControlCancel 1 :: List.replicate 256 .internetLost).map .publish)
        last ∧
      ¬ last.NoControlLost := by
  obtain ⟨last, run, sent, passed, cursor, subscribedAt⟩ :=
    run_publish (initial (oneJob ["tool"]) 3)
      (.jobControlCancel 1 :: List.replicate 256 .internetLost)
  refine ⟨last, run, ?_⟩
  have allSent : last.sent =
      .jobControlCancel 1 :: List.replicate 256 .internetLost := sent
  have nothingPassed : last.passed = [] := passed
  have atStart : last.receiver.cursor = 0 := cursor
  have sinceStart : last.receiver.subscribedAt = 0 := subscribedAt
  have window : Broadcast.windowStart EventBus.capacity last.sent
      last.receiver = 1 := by
    rw [Broadcast.windowStart, allSent, atStart, List.length_cons,
      List.length_replicate]
    rfl
  have unread : Broadcast.unread EventBus.capacity last.sent last.receiver =
      List.replicate 256 .internetLost := by
    rw [Broadcast.unread, window, allSent, List.drop_one, List.tail_cons]
  intro kept
  rw [NoControlLost, nothingPassed, unread, sinceStart, allSent, List.drop_zero,
    List.filter_cons_of_pos rfl, List.filter_replicate_of_neg (by decide)] at kept
  cases kept

end ExecuteLoop

end NetGuardian
