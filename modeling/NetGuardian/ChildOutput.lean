import NetGuardian.ExecuteNext
import NetGuardian.Foundation.Pipes
import NetGuardian.ProcessSegments

/-!
# The output of a child

`spawn_with_pgroup` gives the child a pipe for each of its two output streams.
Nothing reads them: the polling loop asks `try_wait` and nothing else.  One
call of `execute_next` is composed here with its child, which writes its output
byte by byte and then exits; `try_wait` reports what has become of the child.
-/

namespace NetGuardian

open CooperativeTasks LabelledRun Pipes

inductive OutputStream where
  | stdout
  | stderr
deriving DecidableEq

/-- What the started program does: the bytes it writes, named by their streams,
and its exit code. -/
structure ChildProgram where
  output : List OutputStream
  code : Int

/-- Both streams fit into their pipes. -/
def ChildProgram.Fits (program : ChildProgram) (capacity : OutputStream → Nat) :
    Prop :=
  ∀ stream, program.output.count stream ≤ capacity stream

structure Child where
  process : ManagedProcess
  writer : Writer OutputStream
  ended : Option Int

namespace Child

def start (process : ManagedProcess) (program : ChildProgram) : Child where
  process := process
  writer := .start program.output
  ended := none

/-- The child writes its next byte, or exits when it has none left. -/
def step (capacity : OutputStream → Nat) (program : ChildProgram)
    (child : Child) : Option Child :=
  match child.ended with
  | some _ => none
  | none =>
      match child.writer.write capacity with
      | some writer => some { child with writer := writer }
      | none =>
          if child.writer.pending = [] then
            some { child with ended := some program.code }
          else none

/-- What the kernel tells `try_wait`. -/
def report (child : Child) : Except String (Option Int) :=
  .ok child.ended

/-- A terminated child has no exit code; `try_wait` makes it minus one. -/
def signalled (targets : List ManagedProcess) (child : Child) : Child :=
  if child.process ∈ targets ∧ child.ended = none then
    { child with ended := some (-1) }
  else child

/-- The child lives and waits for room in a pipe. -/
def Blocked (capacity : OutputStream → Nat) (child : Child) : Prop :=
  child.ended = none ∧ child.writer.Blocked capacity

variable {capacity : OutputStream → Nat} {program : ChildProgram}
variable {child next : Child}

@[simp]
theorem signalled_nil (child : Child) : child.signalled [] = child := by
  simp [signalled]

@[simp]
theorem signalled_writer (targets : List ManagedProcess) (child : Child) :
    (child.signalled targets).writer = child.writer := by
  unfold signalled
  split <;> rfl

/-- A blocked child takes no step. -/
theorem Blocked.step_eq_none (blocked : child.Blocked capacity) :
    child.step capacity program = none := by
  obtain ⟨alive, waiting⟩ := blocked
  rw [step, alive]
  dsimp only
  rw [waiting.write_eq_none]
  exact if_neg waiting.pending_ne_nil

/-- Steps of a child keep what its pipes will have to hold. -/
theorem total_step (taken : child.step capacity program = some next)
    (stream : OutputStream) : next.writer.total stream = child.writer.total stream := by
  unfold step at taken
  split at taken
  · cases taken
  · split at taken
    · next writer written =>
        cases taken
        exact Writer.total_write written stream
    · split at taken
      · cases taken
        rfl
      · cases taken

end Child

/-- One call of `execute_next` and the child it starts. -/
structure PipedCall where
  shared : System
  point : ExecPoint
  child : Option Child

/-- The call is resumed, or the child takes a step. -/
inductive PipedLabel where
  | call (answer : Answer)
  | child

namespace PipedCall

def start (system : System) : PipedCall where
  shared := system
  point := .dequeue
  child := none

/-- The answers of the environment, with `try_wait` telling the truth. -/
def told (state : PipedCall) (answer : Answer) : Answer :=
  match state.child with
  | none => answer
  | some child => { answer with waited := fun _ => child.report }

/-- A spawn starts the child, and a signal ends it. -/
def childAfter (program : ChildProgram) (state : PipedCall) (answer : Answer)
    (next : ExecPoint) : Option Child :=
  match state.point, next with
  | .lockPlugins _, .register _ process => some (.start process program)
  | point, _ => state.child.map (·.signalled (point.targets state.shared answer))

def step (capacity : OutputStream → Nat) (program : ChildProgram)
    (state : PipedCall) : PipedLabel → Option PipedCall
  | .child =>
      state.child.bind fun child =>
        (child.step capacity program).map fun next =>
          { state with child := some next }
  | .call answer =>
      if SelfBlocked executor (.execute state.point) then none
      else
        (executeStep (state.told answer) state.shared state.point).map
          fun next => ⟨next.1, next.2,
            state.childAfter program (state.told answer) next.2⟩

/-- The round of the polling loop that finds the hour to be over. -/
def IsTimeout (state : PipedCall) (label : PipedLabel) : Prop :=
  ∃ answer job process round, label = .call answer ∧
    state.point = .poll job process round ∧
      Duration.fromSecs 3600 < Instant.elapsed round.start answer.now

/-- The child waits for room in a pipe. -/
def Blocked (capacity : OutputStream → Nat) (state : PipedCall) : Prop :=
  ∃ child, state.child = some child ∧ child.Blocked capacity

/-- The child waits, and nothing but the timeout can change that. -/
def Stuck (capacity : OutputStream → Nat) (program : ChildProgram)
    (state : PipedCall) : Prop :=
  state.Blocked capacity ∧ ∀ labels last,
    Guarded (step capacity program) (fun state label => ¬ IsTimeout state label)
      state labels last → last.Blocked capacity

/-- No state of the call and its child is stuck. -/
def NeverStuck (capacity : OutputStream → Nat) (program : ChildProgram)
    (system : System) : Prop :=
  ∀ labels state, Run (step capacity program) (start system) labels state →
    ¬ state.Stuck capacity program

section Step

variable {capacity : OutputStream → Nat} {program : ChildProgram}
variable {state next : PipedCall} {answer : Answer}

/-- Everything a step of the child can do. -/
theorem step_child (taken : step capacity program state .child = some next) :
    ∃ before after, state.child = some before ∧
      before.step capacity program = some after ∧
      next = { state with child := some after } := by
  obtain ⟨before, present, moved⟩ := Option.bind_eq_some_iff.mp taken
  obtain ⟨after, stepped, rfl⟩ := Option.map_eq_some_iff.mp moved
  exact ⟨before, after, present, stepped, rfl⟩

/-- Everything a step of the call can do. -/
theorem step_call
    (taken : step capacity program state (.call answer) = some next) :
    ∃ after point, executeStep (state.told answer) state.shared state.point =
        some (after, point) ∧
      next = ⟨after, point,
        state.childAfter program (state.told answer) point⟩ := by
  rw [step] at taken
  split at taken
  · cases taken
  · obtain ⟨⟨after, point⟩, segment, rfl⟩ := Option.map_eq_some_iff.mp taken
    exact ⟨after, point, segment, rfl⟩

/-- A call that is not blocked on itself is resumed. -/
theorem call_step {after : System} {point : ExecPoint}
    (free : ∀ job err, state.point ≠ .failedPlugins job err)
    (segment : executeStep (state.told answer) state.shared state.point =
      some (after, point)) :
    step capacity program state (.call answer) =
      some ⟨after, point,
        state.childAfter program (state.told answer) point⟩ := by
  rw [step, if_neg, segment, Option.map_some]
  rw [selfBlocked_execute_iff]
  rintro ⟨job, err, same⟩
  exact free job err same

@[simp]
theorem told_now (state : PipedCall) (answer : Answer) :
    (state.told answer).now = answer.now := by
  unfold told
  split <;> rfl

/-- Where a child comes from. -/
theorem childAfter_eq_some {told : Answer} {point : ExecPoint} {child : Child}
    (present : state.childAfter program told point = some child) :
    (∃ process, child = .start process program) ∨
      ∃ before targets, state.child = some before ∧
        child = before.signalled targets := by
  unfold childAfter at present
  split at present
  · next process _ _ =>
      cases present
      exact .inl ⟨_, rfl⟩
  · obtain ⟨before, was, rfl⟩ := Option.map_eq_some_iff.mp present
    exact .inr ⟨before, _, was, rfl⟩

/-- A segment that signals nothing leaves the child alone. -/
theorem childAfter_of_no_targets {told : Answer} {point : ExecPoint}
    (started : ∀ job, state.point ≠ .lockPlugins job)
    (spared : state.point.targets state.shared told = []) :
    state.childAfter program told point = state.child := by
  unfold childAfter
  split
  · next here => exact absurd here (started _)
  · rw [spared]
    cases state.child with
    | none => rfl
    | some child => simp

end Step

section Sufficient

variable {capacity : OutputStream → Nat} {program : ChildProgram}
variable {system : System} {state next : PipedCall} {label : PipedLabel}

/-- Whatever the child has still to write fits. -/
def HasRoom (capacity : OutputStream → Nat) (state : PipedCall) : Prop :=
  ∀ child, state.child = some child → child.writer.Fits capacity

theorem HasRoom.step (room : state.HasRoom capacity)
    (fits : program.Fits capacity)
    (taken : PipedCall.step capacity program state label = some next) :
    next.HasRoom capacity := by
  intro child present stream
  cases label with
  | child =>
      obtain ⟨before, after, was, stepped, rfl⟩ := step_child taken
      cases present
      rw [Child.total_step stepped]
      exact room before was stream
  | call answer =>
      obtain ⟨after, point, _, rfl⟩ := step_call taken
      rcases childAfter_eq_some present with
        ⟨process, rfl⟩ | ⟨before, targets, was, rfl⟩
      · change (Writer.start program.output).total stream ≤ capacity stream
        rw [Writer.total_start]
        exact fits stream
      · rw [Child.signalled_writer]
        exact room before was stream

theorem HasRoom.not_blocked (room : state.HasRoom capacity) :
    ¬ state.Blocked capacity := by
  rintro ⟨child, present, _, waiting⟩
  exact (room child present).not_blocked waiting

/-- The call has not started a child and will not start one. -/
structure Childless (system : System) (state : PipedCall) : Prop where
  child : state.child = none
  shared : state.point = .dequeue → state.shared = system
  unknown : ∀ job, state.point = .lockPlugins job →
    state.shared.plugins.has job.plugin = false

/-- Only the dequeue leads to the lookup of the plugin. -/
theorem executeStep_lockPlugins {answer : Answer} {before after : System}
    {point : ExecPoint} {job : Job}
    (segment : executeStep answer before point =
      some (after, .lockPlugins job)) :
    point = .dequeue ∧ after.plugins = before.plugins ∧
      ∃ rest, before.queue.dequeue = some (job, rest) := by
  cases point with
  | dequeue =>
      rw [executeStep] at segment
      split at segment
      · cases segment
      · next taken =>
          cases segment
          exact ⟨rfl, rfl, _, taken⟩
  | lockPlugins running =>
      rw [executeStep] at segment
      split at segment
      · split at segment
        · cases segment
        · cases segment
      · cases segment
  | register running process =>
      rw [executeStep] at segment
      split at segment
      · cases segment
      · cases segment
  | poll running process round =>
      rw [executeStep, Option.some.injEq, pollStep] at segment
      dsimp only at segment
      split at segment
      · cases segment
      · split at segment
        · split at segment
          · cases segment
          · cases segment
        · split at segment
          · cases segment
          · cases segment
        · cases segment
  | _ => cases segment

theorem Childless.step (childless : Childless system state)
    (unknown : ∀ job rest, system.queue.dequeue = some (job, rest) →
      system.plugins.has job.plugin = false)
    (taken : PipedCall.step capacity program state label = some next) :
    Childless system next := by
  cases label with
  | child =>
      obtain ⟨before, _, present, _⟩ := step_child taken
      rw [childless.child] at present
      cases present
  | call answer =>
      obtain ⟨after, point, segment, rfl⟩ := step_call taken
      constructor
      · change state.childAfter program (state.told answer) point = none
        unfold childAfter
        split
        · next here =>
            rw [here, lockPlugins_of_unknown (childless.unknown _ here)]
              at segment
            cases segment
        · rw [childless.child]
          rfl
      · rintro rfl
        rcases (executeStep_segment segment).ids with
          ⟨_, ⟨next, _⟩ | ⟨_, _, _, next, _⟩⟩ | ⟨_, _, _, works, _⟩
        · cases next
        · cases next
        · cases works
      · rintro job rfl
        obtain ⟨here, samePlugins, rest, dequeued⟩ :=
          executeStep_lockPlugins segment
        rw [childless.shared here] at dequeued samePlugins
        change after.plugins.has job.plugin = false
        rw [samePlugins]
        exact unknown job rest dequeued

end Sufficient

section Necessary

variable {capacity : OutputStream → Nat} {program : ChildProgram}
variable {first state next : PipedCall} {label : PipedLabel}
variable {labels : List PipedLabel}

/-- While the process runs and the hour is not over, the loop goes on and
signals nothing. -/
theorem loop_segment {answer : Answer} {before after : System}
    {point next : ExecPoint}
    (segment : executeStep answer before point = some (after, next))
    (inLoop : point.InLoop)
    (early : ∀ job process round, point = .poll job process round →
      ¬ Duration.fromSecs 3600 < Instant.elapsed round.start answer.now)
    (running : ∀ process, answer.waited process = .ok none) :
    next.InLoop ∧ point.targets before answer = [] := by
  cases point with
  | updateDownload job process round elapsed =>
      cases segment
      exact ⟨trivial, rfl⟩
  | poll job process round =>
      have inTime := early job process round rfl
      have leads := @pollStep_of_running answer before job process round inTime
        (running process)
      rw [executeStep, Option.some.injEq] at segment
      rw [segment] at leads
      dsimp only at leads
      refine ⟨?_, if_neg inTime⟩
      split at leads
      · rw [leads]
        trivial
      · rw [leads]
        trivial
  | _ => exact inLoop.elim

/-- In the polling loop a blocked child stays blocked until the timeout. -/
theorem loop_blocked (inLoop : state.point.InLoop)
    (blocked : state.Blocked capacity)
    (inTime : ¬ IsTimeout state label)
    (taken : step capacity program state label = some next) :
    next.point.InLoop ∧ next.Blocked capacity := by
  obtain ⟨child, present, waits⟩ := blocked
  cases label with
  | child =>
      obtain ⟨before, after, was, stepped, _⟩ := step_child taken
      rw [present] at was
      cases was
      rw [waits.step_eq_none] at stepped
      cases stepped
  | call answer =>
      obtain ⟨after, point, segment, rfl⟩ := step_call taken
      have running : ∀ process, (state.told answer).waited process =
          .ok none := by
        intro process
        rw [told, present]
        exact congrArg Except.ok waits.1
      have early : ∀ job process round, state.point = .poll job process round →
          ¬ Duration.fromSecs 3600 <
            Instant.elapsed round.start (state.told answer).now := by
        intro job process round here late
        rw [told_now] at late
        exact inTime ⟨answer, job, process, round, rfl, here, late⟩
      obtain ⟨goesOn, spared⟩ := loop_segment segment inLoop early running
      refine ⟨goesOn, child, ?_, waits⟩
      rw [← present]
      apply childAfter_of_no_targets _ spared
      intro job here
      rw [here] at inLoop
      exact inLoop

/-- A child that is blocked while the call polls is stuck. -/
theorem stuck_of_blocked (inLoop : state.point.InLoop)
    (blocked : state.Blocked capacity) : state.Stuck capacity program := by
  refine ⟨blocked, ?_⟩
  intro labels last run
  have both : last.point.InLoop ∧ last.Blocked capacity := by
    refine run.invariant
      (fun state => state.point.InLoop ∧ state.Blocked capacity)
      ⟨inLoop, blocked⟩ ?_
    intro before label after holds inTime taken
    exact loop_blocked holds.1 holds.2 inTime taken
  exact both.2

/-- A child can write on its own. -/
theorem run_writes {shared : System} {point : ExecPoint} {child : Child}
    (run : Run (step capacity program) first labels ⟨shared, point, some child⟩)
    (alive : child.ended = none) {last : Writer OutputStream}
    (writes : Relation.ReflTransGen
      (fun writer next => writer.write capacity = some next) child.writer last) :
    ∃ labels, Run (step capacity program) first labels
      ⟨shared, point, some { child with writer := last }⟩ := by
  induction writes with
  | refl => exact ⟨labels, run⟩
  | @tail before after _ written ih =>
      obtain ⟨earlier, reached⟩ := ih
      have stepped : Child.step capacity program { child with writer := before } =
          some { child with writer := after } := by
        rw [Child.step]
        simp only [alive, written]
      have moved : step capacity program
          ⟨shared, point, some { child with writer := before }⟩ .child =
            some ⟨shared, point, some { child with writer := after }⟩ := by
        rw [step, Option.bind_some, stepped]
        rfl
      exact ⟨_, reached.extend trivial moved⟩

/-- The call can be resumed. -/
theorem run_call {shared after : System} {point following : ExecPoint}
    {child : Option Child} (answer : Answer)
    (run : Run (step capacity program) first labels ⟨shared, point, child⟩)
    (free : ∀ job err, point ≠ .failedPlugins job err)
    (segment : executeStep (told ⟨shared, point, child⟩ answer) shared point =
      some (after, following)) :
    ∃ labels, Run (step capacity program) first labels
      ⟨after, following, childAfter program ⟨shared, point, child⟩
        (told ⟨shared, point, child⟩ answer) following⟩ :=
  ⟨_, run.extend trivial (call_step free segment)⟩

theorem childAfter_register {shared : System} {job : Job}
    {process : ManagedProcess} {child : Option Child} {told : Answer}
    {point : ExecPoint} :
    childAfter program ⟨shared, .register job process, child⟩ told point =
      child :=
  childAfter_of_no_targets (by simp) rfl

theorem childAfter_track {shared : System} {job : Job}
    {process : ManagedProcess} {child : Option Child} {told : Answer}
    {point : ExecPoint} :
    childAfter program ⟨shared, .track job process, child⟩ told point = child :=
  childAfter_of_no_targets (by simp) rfl

/-- A call whose plugin is known starts the child and gets into the polling
loop before the child has written anything. -/
theorem run_started {shared : System} {job : Job}
    (run : Run (step capacity program) first labels
      ⟨shared, .lockPlugins job, none⟩)
    (known : shared.plugins.has job.plugin = true) :
    ∃ labels after point process, point.InLoop ∧
      Run (step capacity program) first labels
        ⟨after, point, some (.start process program)⟩ := by
  have started : (told ⟨shared, .lockPlugins job, none⟩ plainAnswer).spawned =
      .ok 100 := rfl
  obtain ⟨_, spawned⟩ := run_call plainAnswer run (by simp)
    (lockPlugins_of_spawned known started)
  by_cases download : job.command = "curl" ∨ job.command = "wget"
  · obtain ⟨_, registered⟩ := run_call plainAnswer spawned (by simp)
      (by rw [executeStep, if_pos download])
    obtain ⟨labels, tracked⟩ := run_call plainAnswer registered (by simp) rfl
    rw [childAfter_track, childAfter_register] at tracked
    exact ⟨labels, _, .poll _ _ _, _, trivial, tracked⟩
  · obtain ⟨labels, registered⟩ := run_call plainAnswer spawned (by simp)
      (by rw [executeStep, if_neg download])
    rw [childAfter_register] at registered
    exact ⟨labels, _, .poll _ _ _, _, trivial, registered⟩

/-- A child that writes more than its pipes hold gets stuck. -/
theorem exists_stuck {system : System} {job : Job} {rest : QueueManager}
    (taken : system.queue.dequeue = some (job, rest))
    (known : system.plugins.has job.plugin = true)
    (overflow : ¬ program.Fits capacity) :
    ∃ labels state, Run (step capacity program) (start system) labels state ∧
      state.Stuck capacity program := by
  obtain ⟨_, dequeued⟩ := run_call plainAnswer
    (@Guarded.start _ _ (step capacity program) _ (start system)) (by simp)
    (by rw [executeStep, taken])
  obtain ⟨labels, shared, point, process, inLoop, polling⟩ :=
    run_started dequeued known
  have tooMuch : ¬ (Writer.start program.output).Fits capacity := by
    intro fits
    apply overflow
    intro stream
    rw [← Writer.total_start program.output stream]
    exact fits stream
  obtain ⟨last, writes, waits⟩ :=
    Writer.exists_blocked (fun _ => Nat.zero_le _) tooMuch
  obtain ⟨more, reached⟩ := run_writes polling rfl writes
  exact ⟨more, _, reached, stuck_of_blocked inLoop ⟨_, rfl, rfl, waits⟩⟩

end Necessary

/-- The call and its child never get stuck exactly if no process is started or
what the child writes fits into its pipes. -/
theorem neverStuck_iff (capacity : OutputStream → Nat) (program : ChildProgram)
    (system : System) :
    NeverStuck capacity program system ↔
      ∀ job rest, system.queue.dequeue = some (job, rest) →
        system.plugins.has job.plugin = true → program.Fits capacity := by
  constructor
  · intro never job rest taken known
    by_contra overflow
    obtain ⟨labels, state, run, stuck⟩ := exists_stuck taken known overflow
    exact never labels state run stuck
  · intro fits labels state run stuck
    by_cases starts : ∃ job rest, system.queue.dequeue = some (job, rest) ∧
        system.plugins.has job.plugin = true
    · obtain ⟨job, rest, taken, known⟩ := starts
      have room : state.HasRoom capacity := by
        refine run.invariant (HasRoom capacity) ?_ ?_
        · rintro child ⟨⟩
        · intro before label after room _ stepped
          exact room.step (fits job rest taken known) stepped
      exact room.not_blocked stuck.1
    · have unknown : ∀ job rest, system.queue.dequeue = some (job, rest) →
          system.plugins.has job.plugin = false := by
        intro job rest taken
        by_contra known
        exact starts ⟨job, rest, taken, Bool.not_eq_false _ ▸ known⟩
      have childless : Childless system state := by
        refine run.invariant (Childless system) ?_ ?_
        · refine ⟨rfl, fun _ => rfl, ?_⟩
          rintro job ⟨⟩
        · intro before label after childless _ stepped
          exact childless.step unknown stepped
      obtain ⟨child, present, _⟩ := stuck.1
      rw [childless.child] at present
      cases present

/-- One byte too many. -/
theorem overflow_succ (size : Nat) :
    ¬ ChildProgram.Fits ⟨List.replicate (size + 1) .stdout, 0⟩
      (fun _ => size) := by
  intro fits
  have enough := fits .stdout
  rw [List.count_replicate_self] at enough
  exact Nat.not_succ_le_self size enough

/-- Pipes of 64 KiB, and a child with one byte more for its standard output. -/
theorem stuck_on_full_pipe :
    ¬ NeverStuck (fun _ => 65536) ⟨List.replicate (65536 + 1) .stdout, 0⟩
      (oneJob ["tool"]) := by
  intro never
  obtain ⟨labels, state, run, stuck⟩ :=
    @exists_stuck (fun _ => 65536) _ (oneJob ["tool"]) _ _ rfl rfl
      (overflow_succ 65536)
  exact never labels state run stuck

end PipedCall

end NetGuardian
