import NetGuardian.EventBus
import NetGuardian.Foundation.Broadcast
import NetGuardian.Foundation.LabelledRun
import NetGuardian.ProcessSupervisor

/-!
# The daemon's event loop

The loop of `cmd_daemon` waits for the shutdown signal and for events.  Its
shutdown branch cleans up before it leaves the loop.  The other way out is an
error of `recv`: the channel reports that the receiver has fallen behind, and
the loop ends as if the bus were gone.
-/

namespace NetGuardian

open LabelledRun

/-- The actions of the shutdown branch. -/
inductive CleanupAction where
  | terminateAll (plugin : String) (grace : Nat)
  | saveStore
  | removePidFile
deriving DecidableEq

/-- The loop with the bus it listens to.  `done` lists the cleanup actions that
have been executed. -/
structure DaemonLoop where
  supervisor : ProcessSupervisor
  bus : EventBus
  receiver : Broadcast.Receiver NetGuardianEvent
  signalled : Bool
  done : List CleanupAction
  exited : Bool

/-- An event published by another task, the arrival of the signal, or one of the
two branches of the loop. -/
inductive DaemonLabel where
  | publish (event : NetGuardianEvent)
  | signal
  | shutdown (killed : ManagedProcess → Bool)
  | receive

namespace DaemonLoop

/-- The loop right after the daemon has subscribed. -/
def initial (supervisor : ProcessSupervisor) (bus : EventBus) : DaemonLoop where
  supervisor := supervisor
  bus := bus
  receiver := Broadcast.subscribe bus.published
  signalled := false
  done := []
  exited := false

/-- What the shutdown branch executes, in order. -/
def cleanupActions : List CleanupAction :=
  [.terminateAll "" (Duration.fromSecs 3), .saveStore, .removePidFile]

def step (loop : DaemonLoop) : DaemonLabel → Option DaemonLoop
  | .publish event =>
      some { loop with
        bus := loop.bus.publish event
        receiver := Broadcast.publish EventBus.capacity loop.bus.published [event]
          loop.receiver }
  | .signal => some { loop with signalled := true }
  | .shutdown killed =>
      if loop.signalled && !loop.exited then
        some { loop with
          supervisor := (loop.supervisor.terminateAll (Duration.fromSecs 3) ""
            killed).1
          done := loop.done ++ cleanupActions
          exited := true }
      else none
  | .receive =>
      if loop.exited then none
      else
        let received :=
          Broadcast.receive EventBus.capacity loop.bus.published loop.receiver
        match received.1 with
        | .empty => none
        | .event _ => some { loop with receiver := received.2 }
        | .lagged _ => some { loop with receiver := received.2, exited := true }

/-- When the loop has ended, everything has been cleaned up. -/
def CleansUp (loop : DaemonLoop) : Prop :=
  loop.exited = true → ∀ action ∈ cleanupActions, action ∈ loop.done

/-- The loop does not receive while it is further behind than the channel. -/
def Timely (loop : DaemonLoop) : DaemonLabel → Prop
  | .receive =>
      ¬ Broadcast.Lags EventBus.capacity loop.bus.published loop.receiver
  | _ => True

/-- Nothing is cleaned up while the loop runs. -/
def Running (loop : DaemonLoop) : Prop :=
  loop.exited = false → loop.done = []

section Step

variable {loop next : DaemonLoop} {label : DaemonLabel}

/-- Everything a receive can do. -/
theorem step_receive (taken : loop.step .receive = some next) :
    loop.exited = false ∧ next.done = loop.done ∧
      (next.exited = true ↔
        Broadcast.Lags EventBus.capacity loop.bus.published loop.receiver) := by
  cases exited : loop.exited with
  | true => simp [step, exited] at taken
  | false =>
      simp only [step, exited, Broadcast.receive] at taken
      by_cases lags : Broadcast.Lags EventBus.capacity loop.bus.published
          loop.receiver
      · simp only [lags, if_true, Bool.false_eq_true, if_false,
          Option.some.injEq] at taken
        subst taken
        exact ⟨rfl, rfl, by simp [lags]⟩
      · simp only [lags, if_false, Bool.false_eq_true] at taken
        cases event : loop.bus.published[loop.receiver.cursor]? with
        | none => simp [event] at taken
        | some value =>
            simp only [event, Option.some.injEq] at taken
            subst taken
            exact ⟨rfl, rfl, by simp [lags]⟩

theorem running_step (running : loop.Running)
    (taken : loop.step label = some next) : next.Running := by
  intro goesOn
  cases label with
  | publish event =>
      cases taken
      exact running goesOn
  | signal =>
      cases taken
      exact running goesOn
  | shutdown killed =>
      simp only [step] at taken
      split at taken
      · cases taken
        cases goesOn
      · cases taken
  | receive =>
      obtain ⟨before, same, _⟩ := step_receive taken
      rw [same]
      exact running before

theorem cleansUp_step (clean : loop.CleansUp) (timely : loop.Timely label)
    (taken : loop.step label = some next) : next.CleansUp := by
  cases label with
  | publish event =>
      cases taken
      exact clean
  | signal =>
      cases taken
      exact clean
  | shutdown killed =>
      simp only [step] at taken
      split at taken
      · cases taken
        intro _ action member
        exact List.mem_append_right _ member
      · cases taken
  | receive =>
      intro ended
      exact absurd ((step_receive taken).2.2.mp ended) timely

/-- A late receive ends the loop without any cleanup. -/
theorem not_cleansUp_of_late (running : loop.Running)
    (late : ¬ loop.Timely label) (taken : loop.step label = some next) :
    ¬ next.CleansUp := by
  cases label with
  | receive =>
      obtain ⟨before, same, ended⟩ := step_receive taken
      intro clean
      have saved := clean (ended.mpr (not_not.mp late)) .saveStore (by decide)
      rw [same, running before] at saved
      cases saved
  | _ => exact absurd trivial late

/-- A loop that has ended does nothing more. -/
theorem ended_step (ended : loop.exited = true)
    (taken : loop.step label = some next) :
    next.exited = true ∧ next.done = loop.done := by
  cases label with
  | publish event =>
      cases taken
      exact ⟨ended, rfl⟩
  | signal =>
      cases taken
      exact ⟨ended, rfl⟩
  | shutdown killed => simp [step, ended] at taken
  | receive => simp [step, ended] at taken

end Step

/-- Over every sequence of events and signals, the loop cleans up before it ends
exactly when it never comes to receive too late. -/
theorem cleansUp_iff_timely (supervisor : ProcessSupervisor) (bus : EventBus)
    {labels : List DaemonLabel} {last : DaemonLoop}
    (run : Run step (initial supervisor bus) labels last) :
    last.CleansUp ↔
      Guarded step Timely (initial supervisor bus) labels last := by
  apply Guarded.good_iff_guarded Running CleansUp run
  · exact fun _ => rfl
  · intro ended
    cases ended
  · exact fun _ _ _ running taken => running_step running taken
  · exact fun _ _ _ _ clean timely taken => cleansUp_step clean timely taken
  · exact fun _ _ _ running late taken => not_cleansUp_of_late running late taken
  · intro loop label next _ dirty taken clean
    apply dirty
    intro ended
    obtain ⟨stillEnded, same⟩ := ended_step ended taken
    rw [← same]
    exact clean stillEnded

theorem cleansUp_iff_timely_shutdown :
    ∃ last, exec step (initial .new .new)
        [.publish .internetLost, .receive, .signal, .shutdown fun _ => true] =
          some last ∧
      (last.CleansUp ↔
        Guarded step Timely (initial .new .new)
          [.publish .internetLost, .receive, .signal, .shutdown fun _ => true]
          last) := by
  have run : Run step (initial .new .new)
      [.publish .internetLost, .receive, .signal, .shutdown fun _ => true] _ :=
    run_of_exec_eq rfl
  exact ⟨_, run.exec_eq, cleansUp_iff_timely _ _ run⟩

/-- Other tasks can publish any number of events between two steps of the
loop. -/
theorem run_publish (loop : DaemonLoop) (events : List NetGuardianEvent) :
    ∃ next, Run step loop (events.map .publish) next ∧
      next.bus.published = loop.bus.published ++ events ∧
      next.receiver.cursor = loop.receiver.cursor ∧
      next.exited = loop.exited ∧ next.done = loop.done := by
  induction events using List.reverseRecOn with
  | nil => exact ⟨loop, .start, (List.append_nil _).symm, rfl, rfl, rfl⟩
  | append_singleton events event ih =>
      obtain ⟨next, run, published, cursor, exited, done⟩ := ih
      rw [List.map_append]
      refine ⟨_, run.extend trivial rfl, ?_, cursor, exited, done⟩
      change next.bus.published ++ [event] = _
      rw [published, List.append_assoc]

/-- After 257 events in a row the loop ends with its first receive, without a
shutdown signal and without any cleanup. -/
theorem burst_ends_daemon :
    ∃ last, Run step (initial .new .new)
        ((List.replicate 257 .internetLost).map .publish ++ [.receive]) last ∧
      last.exited = true ∧ last.done = [] ∧ ¬ last.CleansUp := by
  obtain ⟨behind, run, published, cursor, _, done⟩ :=
    run_publish (initial .new .new) (List.replicate 257 .internetLost)
  have running : behind.exited = false := by assumption
  have lags : Broadcast.Lags EventBus.capacity behind.bus.published
      behind.receiver := by
    rw [Broadcast.Lags, published, cursor, List.length_append,
      List.length_replicate]
    decide
  have taken : behind.step .receive = some
      { behind with
        receiver := (Broadcast.receive EventBus.capacity behind.bus.published
          behind.receiver).2
        exited := true } := by
    simp [step, running, Broadcast.receive, lags]
  refine ⟨_, run.extend trivial taken, rfl, done, ?_⟩
  intro clean
  have saved := clean rfl .saveStore (by decide)
  rw [show behind.done = [] from done] at saved
  cases saved

end DaemonLoop

end NetGuardian
