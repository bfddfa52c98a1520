import NetGuardian.ProcessSegments

/-!
# The exit status of a process

`try_wait` records the exit code of a process in the status cell that all of its
handles share.  The standard library remembers the exit status of a child that
it has waited for and reports it again, so that another `try_wait` records the
same code.  The methods that signal the process write the cell as well, and
`terminate` does so whether or not its signals reached anybody.
-/

namespace NetGuardian

/-- The status of a child that the kernel has reported as exited.  A child that
a signal has ended has no code. -/
structure WaitStatus where
  code : Option Int
deriving DecidableEq

/-- The code that `try_wait` returns. -/
def WaitStatus.exitCode (status : WaitStatus) : Int := status.code.getD (-1)

/-- The supervisor together with the exit statuses that the children of its
cells remember. -/
structure Processes where
  supervisor : ProcessSupervisor
  remembered : Nat → Option WaitStatus

/-- A call of a method of a process, with what the system calls answer. -/
inductive ProcessCall where
  | signal (signal : Signal) (killed : Bool)
  | tryWait (waited : Except String (Option WaitStatus))

/-- A call on one of the handles of a process. -/
structure HandleCall where
  process : ManagedProcess
  call : ProcessCall

namespace Processes

/-- `Child::try_wait` asks the kernel until it knows the exit status. -/
def childTryWait (processes : Processes) (cell : Nat)
    (waited : Except String (Option WaitStatus)) :
    Except String (Option WaitStatus) :=
  match processes.remembered cell with
  | some status => .ok (some status)
  | none => waited

/-- `try_wait` of the process, with the result that it returns. -/
def tryWait (processes : Processes) (process : ManagedProcess)
    (waited : Except String (Option WaitStatus)) :
    Except String (Option Int) × Processes :=
  match processes.childTryWait process.cell waited with
  | .error error => (.error error, processes)
  | .ok none => (.ok none, processes)
  | .ok (some status) =>
      (.ok (some status.exitCode),
        { supervisor :=
            processes.supervisor.tryWait process (.ok (some status.exitCode))
          remembered := fun other =>
            if other = process.cell then some status
            else processes.remembered other })

/-- The exit code that a call returns. -/
def returnedCode (processes : Processes) (made : HandleCall) : Option Int :=
  match made.call with
  | .signal _ _ => none
  | .tryWait waited =>
      match (processes.tryWait made.process waited).1 with
      | .ok code => code
      | .error _ => none

def apply (processes : Processes) (made : HandleCall) : Processes :=
  match made.call with
  | .signal signal killed =>
      { processes with
        supervisor :=
          processes.supervisor.deliver signal (fun _ => killed) made.process }
  | .tryWait waited => (processes.tryWait made.process waited).2

def afterCalls (processes : Processes) (calls : List HandleCall) : Processes :=
  calls.foldl apply processes

def status (processes : Processes) (process : ManagedProcess) : ProcessStatus :=
  processes.supervisor.statuses process.cell

end Processes

namespace HandleCall

/-- The call is on the same process and signals it; for `stop` and `cont`, the
signal was sent. -/
def Overwrites (made : HandleCall) (process : ManagedProcess) : Prop :=
  made.process.cell = process.cell ∧
    match made.call with
    | .signal signal killed => signal.succeeds killed = true
    | .tryWait _ => False

def Waits (made : HandleCall) : Prop :=
  ∃ waited, made.call = .tryWait waited

/-- The kernel is ready to report the exit of the process. -/
def ReportsExit (made : HandleCall) : Prop :=
  ∃ status, made.call = .tryWait (.ok (some status))

end HandleCall

namespace Processes

variable {processes : Processes} {process : ManagedProcess} {made : HandleCall}
variable {code : Int}

/-- The child remembers its exit code, and the cell shows it. -/
structure Ended (processes : Processes) (process : ManagedProcess) (code : Int) :
    Prop where
  remembered : ∃ status, processes.remembered process.cell = some status ∧
    status.exitCode = code
  shown : processes.status process = .exited code

/-- What `try_wait` returns is recorded. -/
theorem ended_of_returnedCode (returned : processes.returnedCode made = some code) :
    (processes.apply made).Ended made.process code := by
  obtain ⟨process, call⟩ := made
  cases call with
  | signal signal killed => cases returned
  | tryWait waited =>
      simp only [returnedCode, tryWait] at returned
      simp only [apply, tryWait]
      cases answered : processes.childTryWait process.cell waited with
      | error error => simp [answered] at returned
      | ok known =>
          cases known with
          | none => simp [answered] at returned
          | some status =>
              have same : status.exitCode = code := by simpa [answered] using returned
              subst same
              exact ⟨⟨status, by simp, rfl⟩,
                by simp [Processes.status, ProcessSupervisor.tryWait,
                  ProcessSupervisor.setStatus]⟩

/-- An exit status outlasts every call that does not signal the process. -/
theorem Ended.apply (ended : processes.Ended process code)
    (harmless : ¬ made.Overwrites process) :
    (processes.apply made).Ended process code := by
  obtain ⟨⟨status, remembered, rfl⟩, shown⟩ := ended
  change processes.supervisor.statuses process.cell = _ at shown
  obtain ⟨target, call⟩ := made
  by_cases same : target.cell = process.cell
  · cases call with
    | signal signal killed =>
        have failed : ¬ signal.succeeds killed = true :=
          fun succeeded => harmless ⟨same, succeeded⟩
        have untouched : processes.apply ⟨target, .signal signal killed⟩ = processes := by
          simp [Processes.apply, ProcessSupervisor.deliver, failed]
        rw [untouched]
        exact ⟨⟨status, remembered, rfl⟩, shown⟩
    | tryWait waited =>
        have answered : processes.childTryWait target.cell waited =
            .ok (some status) := by
          rw [childTryWait, same, remembered]
        simp only [Processes.apply, tryWait, answered]
        exact ⟨⟨status, by simp [same], rfl⟩,
          by simp [Processes.status, ProcessSupervisor.tryWait,
            ProcessSupervisor.setStatus, same]⟩
  · have other : ¬ process.cell = target.cell := fun equal => same equal.symm
    cases call with
    | signal signal killed =>
        refine ⟨⟨status, remembered, rfl⟩, ?_⟩
        simp only [Processes.apply, Processes.status, ProcessSupervisor.deliver]
        split
        · simpa [ProcessSupervisor.setStatus, other] using shown
        · exact shown
    | tryWait waited =>
        simp only [Processes.apply, tryWait]
        split
        · exact ⟨⟨status, remembered, rfl⟩, shown⟩
        · exact ⟨⟨status, remembered, rfl⟩, shown⟩
        · refine ⟨⟨status, by simpa [other] using remembered, rfl⟩, ?_⟩
          simpa [Processes.status, ProcessSupervisor.tryWait,
            ProcessSupervisor.setStatus, other] using shown

theorem Ended.afterCalls (ended : processes.Ended process code)
    {calls : List HandleCall} (harmless : ∀ made ∈ calls, ¬ made.Overwrites process) :
    (processes.afterCalls calls).Ended process code := by
  induction calls generalizing processes with
  | nil => exact ended
  | cons made calls ih =>
      obtain ⟨first, rest⟩ := List.forall_mem_cons.mp harmless
      exact ih (ended.apply first) rest

/-- A signal replaces whatever the cell shows. -/
theorem not_exited_of_overwrites (overwrites : made.Overwrites process) :
    (processes.apply made).status process ≠ .exited code := by
  obtain ⟨target, call⟩ := made
  obtain ⟨same, signalled⟩ := overwrites
  cases call with
  | tryWait waited => exact signalled.elim
  | signal signal killed =>
      change signal.succeeds killed = true at signalled
      have shown : (processes.apply ⟨target, .signal signal killed⟩).status process =
          signal.status := by
        change target.cell = process.cell at same
        simp [apply, status, ProcessSupervisor.deliver, signalled,
          ProcessSupervisor.setStatus, same]
      rw [shown]
      intro exited
      exact signal.not_isExited_status (by rw [exited]; trivial)

/-- In a run: after `try_wait` has returned a code, every later call leaves the
status at that code. -/
def ExitIsFinal (processes : Processes) (calls : List HandleCall) : Prop :=
  ∀ earlier made later more code, calls = earlier ++ made :: (later ++ more) →
    (processes.afterCalls earlier).returnedCode made = some code →
      (processes.afterCalls (earlier ++ made :: later)).status made.process =
        .exited code

/-- The exit of a process is known after some calls: the child has remembered
it from the start, or the kernel has reported it to one of them. -/
def ExitKnown (processes : Processes) (calls : List HandleCall) (cell : Nat) :
    Prop :=
  (processes.remembered cell).isSome = true ∨
    ∃ made ∈ calls, made.process.cell = cell ∧ made.ReportsExit

/-- After a `try_wait` that finds the exit known, nobody signals the process. -/
def NeverSignalledAfterExit (processes : Processes) (calls : List HandleCall) :
    Prop :=
  ∀ earlier made later, calls = earlier ++ made :: later → made.Waits →
    processes.ExitKnown (earlier ++ [made]) made.process.cell →
      ∀ other ∈ later, ¬ other.Overwrites made.process

theorem afterCalls_append (earlier later : List HandleCall) :
    processes.afterCalls (earlier ++ later) =
      (processes.afterCalls earlier).afterCalls later :=
  List.foldl_append

theorem remembered_apply_isSome (cell : Nat) :
    ((processes.apply made).remembered cell).isSome = true ↔
      (processes.remembered cell).isSome = true ∨
        made.process.cell = cell ∧ made.ReportsExit := by
  obtain ⟨target, call⟩ := made
  cases call with
  | signal signal killed => simp [apply, HandleCall.ReportsExit]
  | tryWait waited =>
      by_cases same : target.cell = cell
      · subst same
        simp only [apply, tryWait, childTryWait, HandleCall.ReportsExit,
          ProcessCall.tryWait.injEq]
        cases known : processes.remembered target.cell with
        | some status => simp
        | none =>
            match waited with
            | .ok (some status) => simp
            | .ok none => simp [known]
            | .error error => simp [known]
      · have other : ¬ cell = target.cell := fun equal => same equal.symm
        simp only [apply, tryWait]
        split <;> simp [same, other]

/-- What the child of a cell remembers depends on the calls alone. -/
theorem remembered_afterCalls_isSome (calls : List HandleCall) (cell : Nat) :
    ((processes.afterCalls calls).remembered cell).isSome = true ↔
      processes.ExitKnown calls cell := by
  induction calls using List.reverseRecOn with
  | nil => simp [afterCalls, ExitKnown]
  | append_singleton calls made ih =>
      rw [afterCalls_append]
      change ((_ : Processes).apply made |>.remembered cell).isSome = true ↔ _
      rw [remembered_apply_isSome, ih, ExitKnown, ExitKnown]
      simp only [List.mem_append, List.mem_singleton, or_and_right, exists_or,
        exists_eq_left, or_assoc]

/-- A call returns a code exactly if it waits for a process that is known to
have exited. -/
theorem exists_returnedCode_iff :
    (∃ code, processes.returnedCode made = some code) ↔
      made.Waits ∧ ((processes.remembered made.process.cell).isSome = true ∨
        made.ReportsExit) := by
  obtain ⟨target, call⟩ := made
  cases call with
  | signal signal killed => simp [returnedCode, HandleCall.Waits]
  | tryWait waited =>
      simp only [returnedCode, tryWait, childTryWait, HandleCall.Waits,
        HandleCall.ReportsExit, ProcessCall.tryWait.injEq]
      cases processes.remembered target.cell with
      | some status => simp
      | none =>
          match waited with
          | .ok (some status) => simp
          | .ok none => simp
          | .error error => simp

theorem exists_returnedCode_after_iff (earlier : List HandleCall) :
    (∃ code, (processes.afterCalls earlier).returnedCode made = some code) ↔
      made.Waits ∧ processes.ExitKnown (earlier ++ [made]) made.process.cell := by
  rw [exists_returnedCode_iff, ← remembered_afterCalls_isSome, afterCalls_append]
  exact and_congr_right fun _ => by
    change _ ↔ ((_ : Processes).apply made |>.remembered _).isSome = true
    rw [remembered_apply_isSome]
    simp

/-- The exit status of a process is final in a run exactly as long as no call
signals the process after its exit was reported. -/
theorem exitIsFinal_iff (processes : Processes) (calls : List HandleCall) :
    processes.ExitIsFinal calls ↔ processes.NeverSignalledAfterExit calls := by
  constructor
  · intro final earlier made later split waits known other member overwrites
    obtain ⟨code, returned⟩ := (exists_returnedCode_after_iff earlier).mpr ⟨waits, known⟩
    obtain ⟨between, rest, rfl⟩ := List.append_of_mem member
    have shown := final earlier made (between ++ [other]) rest code
      (by simpa using split) returned
    have replaced : earlier ++ made :: (between ++ [other]) =
        (earlier ++ made :: between) ++ [other] := by simp
    rw [replaced, afterCalls_append] at shown
    exact not_exited_of_overwrites overwrites shown
  · intro never earlier made later more code split returned
    obtain ⟨waits, known⟩ := (exists_returnedCode_after_iff earlier).mp ⟨code, returned⟩
    have harmless := never earlier made (later ++ more) split waits known
    rw [afterCalls_append]
    exact ((ended_of_returnedCode returned).afterCalls fun other member =>
      harmless other (List.mem_append_left _ member)).shown

/-- Calls that signal some processes, one after another. -/
def signalCalls (signal : Signal) (killed : ManagedProcess → Bool)
    (targets : List ManagedProcess) : List HandleCall :=
  targets.map fun target => ⟨target, .signal signal (killed target)⟩

theorem afterCalls_signalCalls (signal : Signal) (killed : ManagedProcess → Bool)
    (targets : List ManagedProcess) :
    processes.afterCalls (signalCalls signal killed targets) =
      { processes with
        supervisor :=
          targets.foldl (ProcessSupervisor.deliver signal killed)
            processes.supervisor } := by
  induction targets generalizing processes with
  | nil => rfl
  | cons target targets ih =>
      change (processes.apply _).afterCalls (signalCalls signal killed targets) = _
      rw [ih]
      rfl

/-- The signals for all processes of a plugin are calls on their handles. -/
theorem afterCalls_signalAll (signal : Signal) (plugin : String)
    (killed : ManagedProcess → Bool) :
    (processes.afterCalls (signalCalls signal killed
        (processes.supervisor.tracked plugin))).supervisor =
      (processes.supervisor.signalAll signal plugin killed).1 := by
  rw [afterCalls_signalCalls]
  rfl

/-- Forgetting the processes of a plugin commutes with a signal. -/
theorem deliver_cleared (signal : Signal) (killed : ManagedProcess → Bool)
    (supervisor : ProcessSupervisor) (target : ManagedProcess) (plugin : String) :
    ({ supervisor with
        processes := supervisor.processes.erase plugin }.deliver signal killed
          target) =
      { supervisor.deliver signal killed target with
        processes :=
          (supervisor.deliver signal killed target).processes.erase plugin } := by
  unfold ProcessSupervisor.deliver
  split <;> rfl

/-- So are those of `cleanup`, whose statuses nobody protects. -/
theorem afterCalls_cleanup (plugin : String) (killed : ManagedProcess → Bool) :
    (processes.afterCalls (signalCalls (.terminate (Duration.fromSecs 1)) killed
        (processes.supervisor.tracked plugin))).supervisor.statuses =
      (processes.supervisor.cleanup plugin killed).statuses := by
  rw [afterCalls_signalCalls, ProcessSupervisor.cleanup]
  change ((processes.supervisor.tracked plugin).foldl _ processes.supervisor).statuses = _
  generalize processes.supervisor.tracked plugin = targets
  generalize processes.supervisor = supervisor
  induction targets generalizing supervisor with
  | nil => rfl
  | cons target targets ih =>
      rw [List.foldl_cons, List.foldl_cons, deliver_cleared]
      exact ih _

/-- A process that has exited with code zero counts as killed after a call of
`terminate`, whose signals reach nobody. -/
theorem terminate_overwrites_exit :
    let process : ManagedProcess := ⟨77, "wget", [], 0, 1⟩
    let processes : Processes :=
      ⟨(ProcessSupervisor.new.spawnProcess 77 "wget" [] 1).2, fun _ => none⟩
    let waits : HandleCall := ⟨process, .tryWait (.ok (some ⟨some 0⟩))⟩
    let terminates : HandleCall := ⟨process, .signal (.terminate 0) false⟩
    processes.returnedCode waits = some 0 ∧
      (processes.afterCalls [waits, terminates]).status process = .killed ∧
        ¬ processes.ExitIsFinal [waits, terminates] := by
  intro process processes waits terminates
  refine ⟨by rfl, by rfl, fun final => ?_⟩
  have shown := final [] waits [terminates] [] 0 rfl rfl
  cases shown

end Processes

end NetGuardian
