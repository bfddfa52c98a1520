import NetGuardian.QueueConservation

/-!
# The lifecycle of a queued job

`update_status` goes through `set_status`, but `retry_failed` and `resume_all`
write the status field directly.  The transitions that a job can really make
while it stays in the queue are therefore collected from all operations.
-/

namespace NetGuardian

/-- The status changes that a call can make. -/
def QueueCall.Allows (call : QueueCall) (before next : JobStatus) : Prop :=
  match before, next with
  | .pending, .running | .pending, .cancelled => True
  | .running, .paused | .running, .completed | .running, .failed _
  | .running, .cancelled => True
  | .paused, .running | .paused, .cancelled => True
  | .paused, .pending => call = .resumeAll
  | .failed _, .pending => call = .retryFailed
  | _, _ => False

/-- A change from `Failed` to `Pending`. -/
def isRetry (before next : JobStatus) : Bool :=
  match before, next with
  | .failed _, .pending => true
  | _, _ => false

/-- What a call can do to a job that it leaves in the queue. -/
structure JobStep (call : QueueCall) (job next : Job) : Prop where
  status : next.status = job.status ∨ call.Allows job.status next.status
  retries : next.retryCount =
    job.retryCount + if isRetry job.status next.status then 1 else 0
  withinBudget : job.retryCount ≤ job.maxRetries →
    next.retryCount ≤ next.maxRetries
  budget : next.maxRetries = job.maxRetries

theorem isRetry_self (status : JobStatus) : isRetry status status = false := by
  cases status <;> rfl

theorem JobStep.refl (call : QueueCall) (job : Job) : JobStep call job job where
  status := .inl rfl
  retries := by rw [isRetry_self]; rfl
  withinBudget bound := bound
  budget := rfl

/-- Every transition that `can_transition` admits is one of the list, and none
of them is a retry. -/
theorem Job.allows_of_canTransition {job : Job} {requested : JobStatus}
    (admitted : job.canTransition requested = true) (call : QueueCall) :
    call.Allows job.status requested ∧ isRetry job.status requested = false := by
  unfold canTransition at admitted
  unfold QueueCall.Allows isRetry
  split at admitted <;> simp_all

namespace QueueManager

theorem jobStep_trySetStatus (now id : Nat) (status : JobStatus) (job : Job) :
    JobStep (.updateStatus id status) job (trySetStatus now status job) := by
  unfold trySetStatus Job.setStatus
  by_cases admitted : job.canTransition status = true
  · obtain ⟨allowed, noRetry⟩ :=
      Job.allows_of_canTransition admitted (.updateStatus id status)
    rw [if_pos admitted]
    exact ⟨.inr allowed, by simp [noRetry], fun bound => bound, rfl⟩
  · rw [if_neg admitted]
    exact .refl _ _

theorem jobStep_retried {job : Job} (fits : job.maxRetries < 2 ^ 32) :
    JobStep .retryFailed job (retried job) := by
  unfold retried
  split
  · next retryable =>
      unfold isRetryable at retryable
      cases status : job.status with
      | failed reason =>
          have below : job.retryCount < job.maxRetries := by
            simpa [status] using retryable
          have counted : addU32 job.retryCount 1 = job.retryCount + 1 :=
            Nat.mod_eq_of_lt (by omega)
          refine ⟨.inr ?_, ?_, ?_, rfl⟩
          · simp [QueueCall.Allows, status]
          · simp [isRetry, status, counted]
          · intro _
            change addU32 job.retryCount 1 ≤ job.maxRetries
            omega
      | _ => simp [status] at retryable
  · exact .refl _ _

theorem jobStep_resumed (job : Job) : JobStep .resumeAll job (resumed job) := by
  unfold resumed
  split
  · next paused =>
      refine ⟨.inr ?_, ?_, fun bound => bound, rfl⟩
      · simp [QueueCall.Allows, paused]
      · simp [isRetry, paused]
  · exact .refl _ _

end QueueManager

namespace QueueHistory

open TicketLine QueueManager

/-- The retry counts that jobs have in the queue. -/
structure Budgeted (history : QueueHistory) : Prop where
  built : ∀ entry ∈ history.building,
    entry.2.retryCount = 0 ∧ entry.2.maxRetries < 2 ^ 32
  waiting : ∀ entry ∈ history.line.waiting,
    entry.2.retryCount ≤ entry.2.maxRetries ∧ entry.2.maxRetries < 2 ^ 32

section Step

variable {history : QueueHistory}

/-- A job in the queue has just been pushed, or it was there before and the
call has done to it what a call can do. -/
theorem Budgeted.waiting_takes (budgeted : history.Budgeted) {now : Nat}
    {call : QueueCall} {after : QueueHistory} (taken : history.Takes now call after)
    {ticket : Nat} {next : Job} (member : (ticket, next) ∈ after.line.waiting) :
    (∃ position, call = .push position ∧ (ticket, next) ∈ history.building) ∨
      ∃ job, (ticket, job) ∈ history.line.waiting ∧ JobStep call job next := by
  have untouched : (ticket, next) ∈ history.line.waiting →
      ∃ job, (ticket, job) ∈ history.line.waiting ∧ JobStep call job next :=
    fun stays => ⟨next, stays, .refl _ _⟩
  cases taken with
  | idle => exact .inr (untouched member)
  | creates plugin description command args priority => exact .inr (untouched member)
  | pushes position entry found =>
      rcases List.mem_append.mp member with old | new
      · exact .inr (untouched old)
      · rw [List.mem_singleton.mp new]
        exact .inl ⟨position, rfl, List.mem_of_getElem? found⟩
  | dequeues position chosen => exact .inr (untouched (Line.mem_of_mem_leaveAt member))
  | updates id position status found =>
      rcases Line.mem_changeAt member with old | ⟨job, old, changed⟩
      · exact .inr (untouched old)
      · refine .inr ⟨job, old, ?_⟩
        change next = _ at changed
        rw [changed]
        exact jobStep_trySetStatus now id status job
  | removes id => exact .inr (untouched (List.mem_of_mem_filter member))
  | retries =>
      obtain ⟨⟨_, job⟩, old, same⟩ := List.mem_map.mp member
      cases same
      exact .inr ⟨job, old, jobStep_retried (budgeted.waiting _ old).2⟩
  | resumes =>
      obtain ⟨⟨_, job⟩, old, same⟩ := List.mem_map.mp member
      cases same
      exact .inr ⟨job, old, jobStep_resumed job⟩
  | clears => exact .inr (untouched (List.mem_of_mem_filter member))
  | switches enabled => exact .inr (untouched member)

/-- A job that is being built comes from before or from `Job::new`. -/
theorem Takes.building {now : Nat} {call : QueueCall} {after : QueueHistory}
    (taken : history.Takes now call after) {entry : Nat × Job}
    (member : entry ∈ after.building) :
    entry ∈ history.building ∨
      entry.2.retryCount = 0 ∧ entry.2.maxRetries < 2 ^ 32 := by
  cases taken with
  | creates plugin description command args priority =>
      rcases List.mem_append.mp member with old | new
      · exact .inl old
      · rw [List.mem_singleton.mp new]
        exact .inr ⟨rfl, by change 3 < 2 ^ 32; decide⟩
  | pushes position pushed found => exact .inl (List.mem_of_mem_eraseIdx member)
  | _ => exact .inl member

theorem Budgeted.takes (budgeted : history.Budgeted) {now : Nat} {call : QueueCall}
    {after : QueueHistory} (taken : history.Takes now call after) :
    after.Budgeted where
  built entry member := by
    rcases taken.building member with old | new
    · exact budgeted.built entry old
    · exact new
  waiting entry member := by
    rcases budgeted.waiting_takes taken member with ⟨_, _, built⟩ | ⟨job, old, step⟩
    · obtain ⟨noRetries, fits⟩ := budgeted.built _ built
      exact ⟨noRetries ▸ Nat.zero_le _, fits⟩
    · obtain ⟨within, fits⟩ := budgeted.waiting _ old
      exact ⟨step.withinBudget within, step.budget ▸ fits⟩

end Step

theorem budgeted_after (calls : List (Nat × QueueCall)) :
    (after calls).Budgeted := by
  induction calls using List.reverseRecOn with
  | nil =>
      exact ⟨fun _ member => absurd member List.not_mem_nil,
        fun _ member => absurd member List.not_mem_nil⟩
  | append_singleton calls call ih =>
      rw [after_append]
      exact ih.takes (takes_apply _ call)

/-- The status of a job, as long as it is in the queue. -/
def statusOf (history : QueueHistory) (ticket : Nat) : Option JobStatus :=
  (history.line.waiting.find? (·.1 = ticket)).map fun entry => entry.2.status

/-- The status change that one call makes to a job in the queue, if any. -/
def moveOf (ticket : Nat) (history : QueueHistory) (call : Nat × QueueCall) :
    List (QueueCall × JobStatus × JobStatus) :=
  match history.statusOf ticket, (history.apply call).statusOf ticket with
  | some before, some next =>
      if before = next then [] else [(call.2, before, next)]
  | _, _ => []

/-- All status changes of a job in the queue, oldest first. -/
def statusMoves (ticket : Nat) :
    QueueHistory → List (Nat × QueueCall) →
      List (QueueCall × JobStatus × JobStatus)
  | _, [] => []
  | history, call :: calls =>
      moveOf ticket history call ++ statusMoves ticket (history.apply call) calls

def retryMoves (ticket : Nat) (calls : List (Nat × QueueCall)) : Nat :=
  (statusMoves ticket initial calls).countP fun move => isRetry move.2.1 move.2.2

section Moves

variable {ticket : Nat} {history : QueueHistory}

theorem statusMoves_append (calls : List (Nat × QueueCall))
    (call : Nat × QueueCall) :
    statusMoves ticket history (calls ++ [call]) =
      statusMoves ticket history calls ++
        moveOf ticket (calls.foldl apply history) call := by
  induction calls generalizing history with
  | nil => simp [statusMoves]
  | cons first calls ih => simp [statusMoves, ih]

theorem statusOf_of_mem (distinct : history.line.tickets.Nodup) {job : Job}
    (member : (ticket, job) ∈ history.line.waiting) :
    history.statusOf ticket = some job.status := by
  unfold statusOf
  cases found : history.line.waiting.find? (·.1 = ticket) with
  | none =>
      rw [List.find?_eq_none] at found
      exact absurd (decide_eq_true rfl) (found _ member)
  | some entry =>
      have same : entry.1 = ticket := by
        simpa using List.find?_some found
      have equal : entry = (ticket, job) :=
        List.inj_on_of_nodup_map distinct (List.mem_of_find?_eq_some found) member
          same
      rw [equal]
      rfl

theorem mem_of_statusOf {status : JobStatus}
    (known : history.statusOf ticket = some status) :
    ∃ job, (ticket, job) ∈ history.line.waiting ∧ job.status = status := by
  obtain ⟨⟨number, job⟩, found, same⟩ := Option.map_eq_some_iff.mp known
  have number_eq : number = ticket := by simpa using List.find?_some found
  subst number_eq
  exact ⟨job, List.mem_of_find?_eq_some found, same⟩

theorem moveOf_of_absent {call : Nat × QueueCall}
    (absent : ticket ∉ history.line.tickets) :
    moveOf ticket history call = [] := by
  unfold moveOf
  split
  · next known _ =>
      obtain ⟨job, member, _⟩ := mem_of_statusOf known
      exact absurd (List.mem_map_of_mem member) absent
  · rfl

theorem moveOf_of_mem (distinct : history.line.tickets.Nodup)
    {call : Nat × QueueCall} (distinctNext : (history.apply call).line.tickets.Nodup)
    {job next : Job} (before : (ticket, job) ∈ history.line.waiting)
    (after : (ticket, next) ∈ (history.apply call).line.waiting) :
    moveOf ticket history call =
      if job.status = next.status then [] else [(call.2, job.status, next.status)] := by
  unfold moveOf
  rw [statusOf_of_mem distinct before, statusOf_of_mem distinctNext after]

end Moves

section Runs

theorem tickets_nodup (calls : List (Nat × QueueCall)) :
    (after calls).line.tickets.Nodup :=
  (ticketed_after calls).conserved.tickets_nodup
    (List.nodup_append.mp (ticketed_after calls).distinct).2.1

/-- A job that is still being built has never been in the queue. -/
theorem notMem_arrivals_of_building {calls : List (Nat × QueueCall)}
    {entry : Nat × Job} (built : entry ∈ (after calls).building) :
    entry.1 ∉ (after calls).line.arrivals := by
  intro arrived
  have apart := (List.nodup_append.mp (ticketed_after calls).distinct).2.2
  exact apart _ (List.mem_map_of_mem built) _ arrived rfl

theorem statusMoves_of_notArrived {calls : List (Nat × QueueCall)} {ticket : Nat}
    (absent : ticket ∉ (after calls).line.arrivals) :
    statusMoves ticket initial calls = [] := by
  induction calls using List.reverseRecOn with
  | nil => rfl
  | append_singleton calls call ih =>
      rw [after_append] at absent
      have before : ticket ∉ (after calls).line.arrivals :=
        fun arrived => absent ((takes_apply _ call).arrivals arrived)
      have outside : ticket ∉ (after calls).line.tickets :=
        fun waits => before ((ticketed_after calls).conserved.inOrder.subset waits)
      rw [statusMoves_append, ih before, List.nil_append]
      exact moveOf_of_absent outside

/-- A job in the queue arrived with the last call, or it was there before and
the call made the recorded move. -/
theorem waiting_after {calls : List (Nat × QueueCall)} {call : Nat × QueueCall}
    {ticket : Nat} {next : Job}
    (member : (ticket, next) ∈ (after (calls ++ [call])).line.waiting) :
    ((ticket, next) ∈ (after calls).building ∧
        statusMoves ticket initial (calls ++ [call]) = []) ∨
      ∃ job, (ticket, job) ∈ (after calls).line.waiting ∧
        JobStep call.2 job next ∧
        statusMoves ticket initial (calls ++ [call]) =
          statusMoves ticket initial calls ++
            if job.status = next.status then []
            else [(call.2, job.status, next.status)] := by
  have distinct := tickets_nodup calls
  have distinctNext := tickets_nodup (calls ++ [call])
  rw [after_append] at member distinctNext
  rw [statusMoves_append]
  rcases (budgeted_after calls).waiting_takes (takes_apply _ call) member with
    ⟨_, _, built⟩ | ⟨job, before, step⟩
  · have notArrived := notMem_arrivals_of_building built
    have outside : ticket ∉ (after calls).line.tickets := fun waits =>
      notArrived ((ticketed_after calls).conserved.inOrder.subset waits)
    refine .inl ⟨built, ?_⟩
    rw [statusMoves_of_notArrived notArrived]
    exact moveOf_of_absent outside
  · refine .inr ⟨job, before, step, ?_⟩
    exact congrArg _ (moveOf_of_mem distinct distinctNext before member)

/-- The calls do to every job in the queue what the lifecycle allows. -/
theorem statusMoves_allowed (calls : List (Nat × QueueCall)) (ticket : Nat) :
    ∀ move ∈ statusMoves ticket initial calls, move.1.Allows move.2.1 move.2.2 := by
  induction calls using List.reverseRecOn with
  | nil => exact fun _ member => absurd member List.not_mem_nil
  | append_singleton calls call ih =>
      cases known : (after (calls ++ [call])).statusOf ticket with
      | none =>
          have silent : moveOf ticket (after calls) call = [] := by
            rw [after_append] at known
            unfold moveOf
            rw [known]
            cases (after calls).statusOf ticket <;> rfl
          rw [statusMoves_append]
          change ∀ move ∈ _ ++ moveOf ticket (after calls) call, _
          rw [silent, List.append_nil]
          exact ih
      | some status =>
          obtain ⟨next, member, _⟩ := mem_of_statusOf known
          rcases waiting_after member with ⟨_, silent⟩ | ⟨job, _, step, moves⟩
          · rw [silent]
            exact fun _ member => absurd member List.not_mem_nil
          · rw [moves]
            intro move recorded
            rcases List.mem_append.mp recorded with old | new
            · exact ih move old
            · by_cases same : job.status = next.status
              · simp [same] at new
              · rw [if_neg same] at new
                rw [List.mem_singleton.mp new]
                exact step.status.resolve_left (Ne.symm same)

/-- The retry count of a job is the number of its retries. -/
theorem retryCount_eq {calls : List (Nat × QueueCall)} {ticket : Nat} {job : Job}
    (member : (ticket, job) ∈ (after calls).line.waiting) :
    job.retryCount = retryMoves ticket calls := by
  induction calls using List.reverseRecOn generalizing job with
  | nil => exact absurd member List.not_mem_nil
  | append_singleton calls call ih =>
      unfold retryMoves
      rcases waiting_after member with ⟨built, silent⟩ | ⟨old, before, step, moves⟩
      · rw [silent]
        exact ((budgeted_after calls).built _ built).1
      · rw [moves, List.countP_append, step.retries, ih before, retryMoves]
        congr 1
        by_cases same : old.status = job.status
        · simp [same, isRetry_self]
        · simp [same]

/-- A job that was completed or cancelled stays so. -/
theorem terminal_kept {calls more : List (Nat × QueueCall)} {ticket : Nat}
    {job later : Job} (member : (ticket, job) ∈ (after calls).line.waiting)
    (terminal : job.status = .completed ∨ job.status = .cancelled)
    (stays : (ticket, later) ∈ (after (calls ++ more)).line.waiting) :
    later.status = job.status := by
  induction more using List.reverseRecOn generalizing later with
  | nil =>
      rw [List.append_nil] at stays
      have same := statusOf_of_mem (tickets_nodup calls) stays
      rw [statusOf_of_mem (tickets_nodup calls) member] at same
      exact (Option.some.inj same).symm
  | append_singleton more call ih =>
      rw [← List.append_assoc] at stays
      rcases waiting_after stays with ⟨built, _⟩ | ⟨before, waits, step, _⟩
      · have arrived : ticket ∈ (after (calls ++ more)).line.arrivals := by
          rw [after, List.foldl_append]
          apply arrivals_foldl
          have waiting : ticket ∈ (after calls).line.tickets :=
            List.mem_map_of_mem member
          exact (ticketed_after calls).conserved.inOrder.subset waiting
        exact absurd arrived (notMem_arrivals_of_building built)
      · have same := ih waits
        rcases step.status with kept | allowed
        · exact kept.trans same
        · rw [same] at allowed
          rcases terminal with completed | cancelled
          · rw [completed] at allowed
            exact absurd allowed id
          · rw [cancelled] at allowed
            exact absurd allowed id

/-- The lifecycle of every job while it is in the queue: its status changes are
the listed ones, its retry count counts its retries within the budget, and a
completed or cancelled job stays that way. -/
theorem jobs_follow_lifecycle (calls : List (Nat × QueueCall)) (ticket : Nat) :
    (∀ move ∈ statusMoves ticket initial calls,
        move.1.Allows move.2.1 move.2.2) ∧
      (∀ job, (ticket, job) ∈ (after calls).line.waiting →
        job.retryCount = retryMoves ticket calls ∧
          job.retryCount ≤ job.maxRetries) ∧
      ∀ more job later, (ticket, job) ∈ (after calls).line.waiting →
        (job.status = .completed ∨ job.status = .cancelled) →
          (ticket, later) ∈ (after (calls ++ more)).line.waiting →
            later.status = job.status := by
  refine ⟨statusMoves_allowed calls ticket, ?_, ?_⟩
  · intro job member
    exact ⟨retryCount_eq member, ((budgeted_after calls).waiting _ member).1⟩
  · intro more job later member terminal stays
    exact terminal_kept member terminal stays

end Runs

end QueueHistory

end NetGuardian
