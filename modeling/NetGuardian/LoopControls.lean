import NetGuardian.ConcurrencyLimit

/-!
# Control requests in the loop

The loop takes up a request only between two calls, when no process is tracked.  So
the control methods that it calls find no process: none of them signals one, and
all of them return `false`.
-/

namespace NetGuardian

open CooperativeTasks LabelledRun

namespace ControlPoint

/-- What the signals of the call have answered so far. -/
def results : ControlPoint → List Bool
  | update _ results | cleanup _ results => results
  | list | signal _ | returned _ => []

end ControlPoint

section Segments

variable {answer : Answer} {system after : System} {call : ControlCall}
variable {point next : ControlPoint}

/-- Where nothing is tracked nothing is signalled, so that there is nothing to
answer. -/
theorem controlStep_results (untracked : ∀ plugin, system.supervisor.tracked plugin = [])
    (nothing : point.results = [])
    (segment : controlStep call answer system point = some (after, next)) :
    next.results = [] ∧ next ≠ .returned true := by
  cases point with
  | list =>
      rw [controlStep] at segment
      split at segment <;> cases segment <;> exact ⟨rfl, by simp⟩
  | signal plugin =>
      cases segment
      refine ⟨?_, by simp⟩
      change (system.supervisor.tracked plugin).map _ = []
      rw [untracked, List.map_nil]
  | update plugin results =>
      rw [controlStep] at segment
      split at segment
      · cases segment
        exact ⟨nothing, by simp⟩
      · cases segment
        rw [show results = [] from nothing]
        exact ⟨rfl, by simp⟩
  | cleanup plugin results =>
      cases segment
      rw [show results = [] from nothing]
      exact ⟨rfl, by simp⟩
  | returned result => cases segment

theorem targets_eq_nil (untracked : ∀ plugin, system.supervisor.tracked plugin = [])
    (point : ControlPoint) : point.targets system = [] := by
  cases point with
  | signal plugin | cleanup plugin results => exact untracked plugin
  | list | update plugin results | returned result => rfl

end Segments

namespace ExecuteLoop

/-- No control call has signalled a process, and the current one has not been
answered. -/
structure Unheard (first : System) (maxConcurrent : Nat) (loop : ExecuteLoop) :
    Prop extends loop.Limited maxConcurrent where
  signals : ∃ records, loop.system.signals = first.signals ++ records ∧
    ∀ record ∈ records, record.sender = none
  results : ∀ call point, loop.point = .calling (.control call point) →
    point.results = []

section Step

variable {first : System} {maxConcurrent : Nat} {loop next : ExecuteLoop}

theorem Limited.untracked (limited : loop.Limited maxConcurrent)
    (between : loop.slot = none) (plugin : String) :
    loop.system.supervisor.tracked plugin = [] := by
  have holds := limited.holds
  rw [between] at holds
  exact holds.tracked_eq_nil

theorem results_of_controlCall {ticket : Nat} {event : NetGuardianEvent}
    {call : ControlCall} {point : ControlPoint}
    (called : event.controlCall ticket = some (.control call point)) :
    point.results = [] := by
  cases event <;> cases called <;> rfl

/-- A step outside of calls changes no signal, and starts a call at its first
point. -/
theorem unheard_outside {label : LoopLabel} (unheard : loop.Unheard first maxConcurrent)
    (outside : ∀ answer, label ≠ .call answer) (taken : loop.step label = some next) :
    next.system.signals = loop.system.signals ∧
      ∀ call point, next.point = .calling (.control call point) →
        point.results = [] := by
  cases label with
  | publish event =>
      cases taken
      exact ⟨rfl, unheard.results⟩
  | receive =>
      cases waits : loop.point with
      | select =>
          simp only [step, waits, handle] at taken
          split at taken
          · cases taken
          · cases taken
            exact ⟨rfl, fun _ _ calling => by cases calling⟩
          · split at taken
            · cases taken
              exact ⟨rfl, fun _ _ calling => by cases calling⟩
            · next frame called =>
                cases taken
                refine ⟨rfl, fun call point calling => ?_⟩
                cases calling
                exact results_of_controlCall called
      | _ => simp [step, waits] at taken
  | timer =>
      cases waits : loop.point with
      | select | sleeping =>
          simp only [step, waits, Option.some.injEq] at taken
          subst taken
          exact ⟨rfl, fun _ _ calling => by cases calling⟩
      | _ => simp [step, waits] at taken
  | count waited =>
      cases counts : loop.point with
      | counting =>
          simp only [step, counts] at taken
          split at taken <;> cases taken <;>
            exact ⟨rfl, fun _ _ calling => by cases calling⟩
      | _ => simp [step, counts] at taken
  | call answer => exact absurd rfl (outside answer)

/-- A call signals in its own name only if it is a call of `execute_next`. -/
theorem unheard_call {answer : Answer} (unheard : loop.Unheard first maxConcurrent)
    (taken : loop.step (.call answer) = some next) :
    (∃ records, next.system.signals = loop.system.signals ++ records ∧
      ∀ record ∈ records, record.sender = none) ∧
      ∀ call point, next.point = .calling (.control call point) →
        point.results = [] := by
  cases calls : loop.point with
  | calling frame =>
      simp only [step, calls, Option.map_eq_some_iff] at taken
      obtain ⟨⟨after, moved⟩, stepped, rfl⟩ := taken
      have resumption := resume_of_callStep stepped
      obtain ⟨records, log, own⟩ := resume_signals resumption
      constructor
      · refine ⟨records, log, fun record member => ?_⟩
        cases sender : record.sender with
        | none => rfl
        | some call =>
            obtain ⟨point, rfl, target⟩ := own record member call sender
            have between : loop.slot = none := by rw [slot, calls]; rfl
            rw [targets_eq_nil (unheard.untracked between)] at target
            cases target
      · intro call point calling
        change (if moved.isReturned then LoopPoint.select else .calling moved) =
          .calling (.control call point) at calling
        split at calling
        · cases calling
        · cases calling
          cases frame with
          | execute earlier =>
              obtain ⟨_, same, _⟩ := Frame.resume_execute resumption
              cases same
          | control made earlier =>
              obtain ⟨following, same, segment⟩ := Frame.resume_control resumption
              cases same
              have between : loop.slot = none := by rw [slot, calls]; rfl
              exact (controlStep_results (unheard.untracked between)
                (unheard.results _ _ calls) segment).1
  | _ => simp [step, calls] at taken

theorem Unheard.step {label : LoopLabel} (unheard : loop.Unheard first maxConcurrent)
    (taken : loop.step label = some next) : next.Unheard first maxConcurrent := by
  have limited := unheard.toLimited.step taken
  by_cases inside : ∃ answer, label = .call answer
  · obtain ⟨answer, rfl⟩ := inside
    obtain ⟨⟨more, log, own⟩, results⟩ := unheard_call unheard taken
    obtain ⟨records, before, others⟩ := unheard.signals
    refine ⟨limited, ⟨records ++ more, ?_, fun record member => ?_⟩, results⟩
    · rw [log, before, List.append_assoc]
    · rcases List.mem_append.mp member with old | new
      · exact others record old
      · exact own record new
  · obtain ⟨same, results⟩ := unheard_outside unheard (not_exists.mp inside) taken
    refine ⟨limited, ?_, results⟩
    rw [same]
    exact unheard.signals

theorem Unheard.event {event : LoopEvent} (unheard : loop.Unheard first maxConcurrent)
    (taken : event.step loop = some next) : next.Unheard first maxConcurrent := by
  cases event with
  | loop label => exact unheard.step taken
  | signalAll signal plugin killed =>
      have limited := @Limited.event _ _ _ (.signalAll signal plugin killed)
        unheard.toLimited taken
      cases taken
      obtain ⟨records, before, others⟩ := unheard.signals
      let more := (loop.system.supervisor.tracked plugin).map fun process =>
        (⟨none, signal, process⟩ : SignalRecord)
      refine ⟨limited, ⟨records ++ more, ?_, fun record member => ?_⟩, unheard.results⟩
      · change loop.system.signals ++ more = _
        rw [before, List.append_assoc]
      · rcases List.mem_append.mp member with old | new
        · exact others record old
        · obtain ⟨process, _, rfl⟩ := List.mem_map.mp new
          rfl
  | elsewhere system =>
      have limited := @Limited.event _ _ _ (.elsewhere system) unheard.toLimited taken
      cases taken
      exact ⟨limited, unheard.signals, unheard.results⟩

/-- Requests are taken up by receiving them. -/
theorem passed_of_not_receive {label : LoopLabel} (other : label ≠ .receive)
    (taken : loop.step label = some next) : next.passed = loop.passed := by
  cases label with
  | publish event =>
      cases taken
      rfl
  | receive => exact absurd rfl other
  | timer =>
      cases waits : loop.point with
      | select | sleeping =>
          simp only [step, waits, Option.some.injEq] at taken
          subst taken
          rfl
      | _ => simp [step, waits] at taken
  | count waited =>
      cases counts : loop.point with
      | counting =>
          simp only [step, counts] at taken
          split at taken <;> cases taken <;> rfl
      | _ => simp [step, counts] at taken
  | call answer =>
      cases calls : loop.point with
      | calling frame =>
          simp only [step, calls, Option.map_eq_some_iff] at taken
          obtain ⟨_, _, rfl⟩ := taken
          rfl
      | _ => simp [step, calls] at taken

/-- A request is taken up where no process is tracked. -/
theorem untracked_of_passed {label : LoopLabel} (limited : loop.Limited maxConcurrent)
    (taken : loop.step label = some next) (passes : next.passed ≠ loop.passed)
    (plugin : String) : loop.system.supervisor.tracked plugin = [] := by
  by_cases receives : label = .receive
  · subst receives
    cases waits : loop.point with
    | select => exact limited.untracked (by rw [slot, waits]) plugin
    | _ => simp [step, waits] at taken
  · exact absurd (passed_of_not_receive receives taken) passes

end Step

/-- In every run of the loop, whatever is queued, published, signalled by others or
exits meanwhile: a request is taken up only while no process is tracked, no control
call has signalled a process, and every control call that returns returns `false`. -/
theorem controls_reach_no_process (system : System) (maxConcurrent : Nat)
    {events : List LoopEvent} {last : ExecuteLoop}
    (run : Run LoopEvent.step (fresh system maxConcurrent) events last) :
    (∃ records, last.system.signals = system.signals ++ records ∧
      ∀ record ∈ records, record.sender = none) ∧
      (∀ call point answer after result, last.point = .calling (.control call point) →
        last.callStep (.control call point) answer =
          some (after, .control call (.returned result)) → result = false) ∧
      ∀ label next, last.step label = some next → next.passed ≠ last.passed →
        ∀ plugin, last.system.supervisor.tracked plugin = [] := by
  have unheard : last.Unheard system maxConcurrent := by
    refine run.invariant (Unheard system maxConcurrent) ?_
      fun _ _ _ before _ taken => before.event taken
    exact ⟨limited_fresh system maxConcurrent,
      ⟨[], (List.append_nil _).symm, by simp⟩, fun _ _ calling => by cases calling⟩
  refine ⟨unheard.signals, ?_, fun _ _ => untracked_of_passed unheard.toLimited⟩
  intro call point answer after result calls returns
  obtain ⟨following, same, segment⟩ := Frame.resume_control (resume_of_callStep returns)
  cases same
  have between : last.slot = none := by rw [slot, calls]; rfl
  have silent := (controlStep_results (unheard.untracked between)
    (unheard.results _ _ calls) segment).2
  cases result with
  | false => rfl
  | true => exact absurd rfl silent

/-- A client asks to cancel the job that is being executed; the loop comes to it after
the process has exited. -/
def cancelledMeanwhile : List LoopEvent :=
  [.loop .timer, .loop (.count fun _ => .ok none)] ++
    List.replicate 3 (.loop (.call plainAnswer)) ++
    [.loop (.publish (.jobControlCancel 1))] ++
    List.replicate 5 (.loop (.call
      { plainAnswer with waited := fun _ => .ok (some 0) })) ++
    [.loop .receive, .loop .receive]

theorem controls_reach_no_process_cancelled :
    ∃ last, Run LoopEvent.step (fresh (oneJob ["tool"]) 1) cancelledMeanwhile last ∧
      last.passed = [.jobControlCancel 1] ∧
      (∃ records, last.system.signals = [] ++ records ∧
        ∀ record ∈ records, record.sender = none) ∧
      ∀ call point answer after result, last.point = .calling (.control call point) →
        last.callStep (.control call point) answer =
          some (after, .control call (.returned result)) → result = false := by
  have run : Run LoopEvent.step (fresh (oneJob ["tool"]) 1) cancelledMeanwhile _ :=
    run_of_exec_eq rfl
  have unheard := controls_reach_no_process (oneJob ["tool"]) 1 run
  exact ⟨_, run, rfl, unheard.1, unheard.2.1⟩

end ExecuteLoop

end NetGuardian
