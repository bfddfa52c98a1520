import NetGuardian.ExecuteNext

/-!
# The executor's mutexes

`execute_next` keeps the guard of the plugin manager from the lookup of the
plugin to the end of the call.  The failure branch locks the plugin manager
again, for an argument of `handle_failure`, and waits for its own guard for ever.
No other call gets past the lookup of its plugin from then on.
-/

namespace NetGuardian

open CooperativeTasks LabelledRun

/-- Only the failure branch of `execute_next` waits for a mutex it holds. -/
theorem selfBlocked_iff {frame : Frame} :
    SelfBlocked executor frame ↔
      ∃ job err, frame = .execute (.failedPlugins job err) := by
  cases frame with
  | execute point => simpa using selfBlocked_execute_iff
  | control call point =>
      simp [SelfBlocked, executor, Frame.guards]

/-- No segment of the call waits for a mutex that the call holds. -/
def NeverBlocksOnItself (work : Work) (system : System) : Prop :=
  ∀ steps, ¬ SelfBlocked executor (callState work system steps).2

/-- A call blocks on itself exactly when its work fails with an exit code. -/
theorem neverBlocksOnItself_iff (work : Work) (system : System) :
    NeverBlocksOnItself work system ↔ ¬ WorkFails work system := by
  constructor
  · intro never fails
    have ⟨job, rest, _, _, taken, _⟩ := fails
    rcases reaches_final taken with
      ⟨_, after, failed, err, steps, blocked⟩ | ⟨succeeds, _⟩
    · apply never steps
      rw [blocked]
      exact selfBlocked_execute_iff.mpr ⟨failed, err, rfl⟩
    · exact succeeds fails
  · intro succeeds steps blocked
    obtain ⟨job, err, frame⟩ := selfBlocked_iff.mp blocked
    have here : Reaches work system (callState work system steps).1
        (.failedPlugins job err) := ⟨steps, by rw [← frame]⟩
    cases taken : system.queue.dequeue with
    | none =>
        have same := here.final_unique (reaches_returned_none taken) trivial
          trivial
        cases same.2
    | some next =>
        rcases @reaches_final work system _ _ taken with
          ⟨fails, _⟩ | ⟨_, after, returned, there⟩
        · exact succeeds fails
        · have same := here.final_unique there trivial trivial
          cases same.2

/-- A process that has exited by the first poll. -/
def exitsWith (code : Int) : Work where
  spawned := .ok 100
  startAt := 0
  pollAt := fun round => round * Duration.fromMillis 500
  waited := fun _ => .ok (some code)
  others := fun _ => plainAnswer
  start_le := Nat.zero_le _
  spaced round := by rw [Nat.succ_mul]

/-- Exit code one on an otherwise healthy system. -/
theorem blocksOnItself_exit_one :
    SelfBlocked executor (callState (exitsWith 1) (oneJob ["tool"]) 5).2 ∧
      ¬ NeverBlocksOnItself (exitsWith 1) (oneJob ["tool"]) := by
  have blocked :
      SelfBlocked executor (callState (exitsWith 1) (oneJob ["tool"]) 5).2 :=
    ⟨.plugins, rfl, List.mem_cons_self⟩
  exact ⟨blocked, fun never => never 5 blocked⟩

section Stalled

variable {pool next : Pool System Frame}

/-- A call of `execute_next` that has not got past the lookup of its plugin, or
that waits for a retry decision; control calls are not concerned. -/
def Stalled : Frame → Prop
  | .execute .dequeue | .execute (.lockPlugins _)
  | .execute (.failedPlugins _ _) | .execute (.returned none) => True
  | .execute _ => False
  | .control _ _ => True

/-- Nobody gets the plugin manager from a call that waits for it. -/
theorem not_available_of_blocked {job : Job} {err : String} {frame : Frame}
    (blocked : .execute (.failedPlugins job err) ∈ pool.tasks)
    (waits : executor.awaits frame = some .plugins) :
    ¬ Available executor pool.tasks frame :=
  fun available => available .plugins waits _ blocked List.mem_cons_self

theorem stalled_step {label : Label Frame Answer} {job : Job} {err : String}
    (blocked : .execute (.failedPlugins job err) ∈ pool.tasks)
    (stalled : ∀ frame ∈ pool.tasks, Stalled frame)
    (taken : step executor pool label = some next) :
    ∀ frame ∈ next.tasks, Stalled frame := by
  intro frame member
  cases label with
  | start entered =>
      obtain ⟨entry, rfl⟩ := step_start taken
      rcases List.mem_append.mp member with old | new
      · exact stalled frame old
      · rw [List.mem_singleton.mp new]
        cases entered with
        | control call point => trivial
        | execute point =>
            cases point with
            | dequeue => trivial
            | _ => cases entry
  | advance index answer =>
      obtain ⟨moved, shared, resumed, found, available, resumption, rfl⟩ :=
        step_advance taken
      rcases List.mem_or_eq_of_mem_set member with old | rfl
      · exact stalled frame old
      · have still := stalled moved (List.mem_of_getElem? found)
        cases moved with
        | control call point =>
            obtain ⟨_, rfl, _⟩ := Frame.resume_control resumption
            trivial
        | execute point =>
            obtain ⟨following, rfl, segment⟩ := Frame.resume_execute resumption
            cases point with
            | dequeue =>
                rcases (executeStep_segment segment).ids with
                  ⟨_, ⟨rfl, _⟩ | ⟨_, _, _, rfl, _⟩⟩ | ⟨_, _, working, _⟩
                · trivial
                · trivial
                · cases working
            | lockPlugins job | failedPlugins job err =>
                exact absurd available (not_available_of_blocked blocked rfl)
            | returned job => cases segment
            | _ => exact still.elim

theorem stalled_run {labels : List (Label Frame Answer)} {index : Nat}
    {job : Job} {err : String}
    (blocked : pool.tasks[index]? = some (.execute (.failedPlugins job err)))
    (stalled : ∀ frame ∈ pool.tasks, Stalled frame)
    (run : Run (step executor) pool labels next) :
    next.tasks[index]? = some (.execute (.failedPlugins job err)) ∧
      ∀ frame ∈ next.tasks, Stalled frame := by
  have selfBlocked : SelfBlocked executor (.execute (.failedPlugins job err)) :=
    selfBlocked_execute_iff.mpr ⟨job, err, rfl⟩
  refine ⟨selfBlocked_forever run blocked selfBlocked, ?_⟩
  induction run with
  | start => exact stalled
  | extend before _ taken ih =>
      have still := selfBlocked_forever before blocked selfBlocked
      exact stalled_step (List.mem_of_getElem? still) ih taken

/-- A call whose work fails with an exit code stops the executor for good: it
stays where it is, and no call of `execute_next` that is made later starts a
process. -/
theorem executor_stalls (work : Work) (system : System)
    (fails : WorkFails work system) :
    ∃ labels pool blocked, Run (step executor) ⟨system, [.executeNext]⟩ labels
        pool ∧ SelfBlocked executor blocked ∧
      ∀ labelsAfter later, Run (step executor) pool labelsAfter later →
        later.tasks[0]? = some blocked ∧
          ∀ frame ∈ later.tasks, Stalled frame := by
  have ⟨_, _, _, _, taken, _⟩ := fails
  rcases reaches_final taken with
    ⟨_, shared, job, err, steps, blocked⟩ | ⟨succeeds, _⟩
  · obtain ⟨labels, run⟩ := @solo_is_run _ _ _ _ _ executor work.answers
      (system, Frame.executeNext) steps
    change solo executor work.answers (system, Frame.executeNext) steps = _
      at blocked
    rw [blocked] at run
    refine ⟨labels, _, _, run, selfBlocked_execute_iff.mpr ⟨job, err, rfl⟩, ?_⟩
    intro labelsAfter later continuation
    refine stalled_run rfl ?_ continuation
    intro frame member
    rw [List.mem_singleton.mp member]
    trivial
  · exact absurd fails succeeds

end Stalled

end NetGuardian
