import NetGuardian.QueueOrder

/-!
# The time of the last update

`Job::set_status` writes `updated_at` together with the status.  Three
operations of the queue write the status themselves, and leave `updated_at`
alone: `dequeue`, `retry_failed` and `resume_all`.  A run keeps `updated_at` in
step with the statuses exactly if every job that these three touch happens to
carry the time of the call already.
-/

namespace NetGuardian

namespace QueueManager

/-- The last of the front runners. -/
def LastFrontRunner (queue : QueueManager) (job : Job) : Prop :=
  ∃ position : Nat, queue.jobs[position]? = some job ∧ queue.FrontRunner job ∧
    ∀ (other : Nat) rival, queue.jobs[other]? = some rival → queue.FrontRunner rival →
      other ≤ position

/-- The jobs whose status a call writes without `set_status`. -/
def WritesDirectly (queue : QueueManager) (call : QueueCall) (job : Job) : Prop :=
  match call with
  | .dequeue => queue.LastFrontRunner job
  | .retryFailed => job ∈ queue.jobs ∧ isRetryable job = true
  | .resumeAll => job ∈ queue.jobs ∧ job.status = .paused
  | _ => False

section Jobs

variable {job : Job} {now : Nat} {status : JobStatus}

/-- `set_status` keeps the time in step. -/
theorem trySetStatus_stamps :
    ((trySetStatus now status job).status ≠ job.status →
        (trySetStatus now status job).updatedAt = now) ∧
      ((trySetStatus now status job).status = job.status →
        (trySetStatus now status job).updatedAt = job.updatedAt) := by
  unfold trySetStatus Job.setStatus
  by_cases admitted : job.canTransition status = true
  · rw [if_pos admitted]
    refine ⟨fun _ => rfl, fun same => ?_⟩
    change status = job.status at same
    rw [same] at admitted
    unfold Job.canTransition at admitted
    split at admitted <;> simp_all
  · rw [if_neg admitted]
    exact ⟨fun differs => absurd rfl differs, fun _ => rfl⟩

theorem updatedAt_retried : (retried job).updatedAt = job.updatedAt := by
  unfold retried
  split <;> rfl

theorem updatedAt_resumed : (resumed job).updatedAt = job.updatedAt := by
  unfold resumed
  split <;> rfl

theorem status_retried_ne_iff :
    (retried job).status ≠ job.status ↔ isRetryable job = true := by
  unfold retried
  split
  · next retryable =>
      refine iff_of_true ?_ retryable
      intro pending
      unfold isRetryable at retryable
      rw [← pending] at retryable
      cases retryable
  · next kept => exact iff_of_false (fun differs => differs rfl) kept

theorem status_resumed_ne_iff :
    (resumed job).status ≠ job.status ↔ job.status = .paused := by
  unfold resumed
  split
  · next paused => simp [paused]
  · next kept => exact iff_of_false (fun differs => differs rfl) kept

variable {queue : QueueManager}

/-- The job that `dequeue` takes is the last front runner. -/
theorem lastFrontRunner_iff :
    queue.LastFrontRunner job ↔
      ∃ position, queue.nextPosition = some position ∧
        queue.jobs[position]? = some job := by
  constructor
  · rintro ⟨position, found, runs, last⟩
    cases next : queue.nextPosition with
    | none =>
        have nonePending := nextPosition_eq_none.mp next
        exact absurd runs.1 (nonePending job (List.mem_of_getElem? found))
    | some chosen =>
        obtain ⟨stored, atChosen, storedRuns, lastChosen⟩ :=
          nextPosition_frontRunner next
        have same : position = chosen := Nat.le_antisymm
          (lastChosen position job found runs) (last chosen stored atChosen storedRuns)
        exact ⟨chosen, rfl, same ▸ found⟩
  · rintro ⟨position, next, found⟩
    obtain ⟨stored, atPosition, runs, last⟩ := nextPosition_frontRunner next
    rw [found, Option.some.injEq] at atPosition
    subst atPosition
    exact ⟨position, found, runs, last⟩

end Jobs

end QueueManager

namespace QueueHistory

open TicketLine QueueManager

/-- A ticket holds this job: in the queue, or as it left the queue. -/
def Holds (history : QueueHistory) (ticket : Nat) (job : Job) : Prop :=
  (ticket, job) ∈ history.line.waiting ∨
    ∃ departure ∈ history.line.departures,
      departure.ticket = ticket ∧ departure.item = job

/-- Of the jobs in the queue, a call stamps those whose status it changes with
its time, and no others. -/
def StampsChanges (history : QueueHistory) (call : Nat × QueueCall) : Prop :=
  ∀ ticket job next, (ticket, job) ∈ history.line.waiting →
    (history.apply call).Holds ticket next →
      (next.status ≠ job.status → next.updatedAt = call.1) ∧
        (next.status = job.status → next.updatedAt = job.updatedAt)

/-- The jobs whose status the call writes itself carry its time already. -/
def AlreadyStamped (history : QueueHistory) (call : Nat × QueueCall) : Prop :=
  ∀ job, history.queue.WritesDirectly call.2 job → job.updatedAt = call.1

/-- What a call makes of a job in the queue. -/
inductive Becomes (history : QueueHistory) (now : Nat) (job : Job) :
    QueueCall → Job → Prop
  | same (call : QueueCall) : Becomes history now job call job
  | started : history.queue.LastFrontRunner job →
      Becomes history now job .dequeue (started job)
  | set (id : Nat) (status : JobStatus) :
      Becomes history now job (.updateStatus id status) (trySetStatus now status job)
  | retried : Becomes history now job .retryFailed (retried job)
  | resumed : Becomes history now job .resumeAll (resumed job)

section Step

variable {history : QueueHistory}

/-- A ticket in the queue holds one job. -/
theorem Ticketed.waiting_unique (ticketed : history.Ticketed) {ticket : Nat}
    {job other : Job} (member : (ticket, job) ∈ history.line.waiting)
    (alsoMember : (ticket, other) ∈ history.line.waiting) : other = job := by
  have distinct := ticketed.conserved.tickets_nodup
    (List.nodup_append.mp ticketed.distinct).2.1
  have same := List.inj_on_of_nodup_map distinct alsoMember member rfl
  exact congrArg Prod.snd same

/-- A ticket in the queue has not left it. -/
theorem Ticketed.not_gone (ticketed : history.Ticketed) {ticket : Nat} {job : Job}
    (member : (ticket, job) ∈ history.line.waiting)
    (departure : Departure Job QueueExit)
    (left : departure ∈ history.line.departures) : departure.ticket ≠ ticket := by
  have distinct : (history.line.tickets ++ history.line.gone).Nodup :=
    (ticketed.conserved.accounted.nodup_iff).mpr
      (List.nodup_append.mp ticketed.distinct).2.1
  have apart := (List.nodup_append.mp distinct).2.2
  exact fun same => apart ticket (List.mem_map_of_mem member) departure.ticket
    (List.mem_map_of_mem left) same.symm

/-- A job in the queue is not among those under construction. -/
theorem Ticketed.not_building (ticketed : history.Ticketed) {ticket position : Nat}
    {job : Job} {entry : Nat × Job} (member : (ticket, job) ∈ history.line.waiting)
    (found : history.building[position]? = some entry) : ticket ≠ entry.1 := by
  have built : entry.1 ∈ history.building.map Prod.fst :=
    List.mem_map_of_mem (List.mem_of_getElem? found)
  have waits : ticket ∈ history.line.arrivals :=
    ticketed.conserved.inOrder.subset (List.mem_map_of_mem member)
  have apart := (List.nodup_append.mp ticketed.distinct).2.2
  exact (apart _ built _ waits).symm

/-- A job that was in the queue and is held afterwards as it was then is the
same one. -/
theorem Ticketed.holds_unique (ticketed : history.Ticketed) {ticket : Nat}
    {job next : Job} (member : (ticket, job) ∈ history.line.waiting)
    (held : history.Holds ticket next) : next = job := by
  rcases held with stays | ⟨departure, left, same, _⟩
  · exact ticketed.waiting_unique member stays
  · exact absurd same (ticketed.not_gone member departure left)

/-- Where jobs leave by a condition, nothing happens to any of them. -/
theorem Ticketed.leaveIf_unique (ticketed : history.Ticketed) {ticket : Nat}
    {job next : Job} {reason : QueueExit} {leaves : Job → Bool}
    (member : (ticket, job) ∈ history.line.waiting)
    (held : (ticket, next) ∈ (history.line.leaveIf reason leaves).waiting ∨
      ∃ departure ∈ (history.line.leaveIf reason leaves).departures,
        departure.ticket = ticket ∧ departure.item = next) : next = job := by
  rcases held with stays | ⟨departure, left, same⟩
  · exact ticketed.waiting_unique member (List.mem_of_mem_filter stays)
  · rcases List.mem_append.mp left with old | new
    · exact absurd same.1 (ticketed.not_gone member departure old)
    · obtain ⟨entry, leaving, rfl⟩ := List.mem_map.mp new
      obtain ⟨rfl, rfl⟩ := same
      exact ticketed.waiting_unique member (List.mem_of_mem_filter leaving)

/-- A change of all jobs changes every one of them. -/
theorem Ticketed.changeAll_unique (ticketed : history.Ticketed) {ticket : Nat}
    {job next : Job} {change : Job → Job}
    (member : (ticket, job) ∈ history.line.waiting)
    (held : (ticket, next) ∈ (history.line.changeAll change).waiting ∨
      ∃ departure ∈ history.line.departures,
        departure.ticket = ticket ∧ departure.item = next) : next = change job := by
  rcases held with stays | ⟨departure, left, same⟩
  · obtain ⟨⟨_, stored⟩, old, changed⟩ := List.mem_map.mp stays
    cases changed
    rw [ticketed.waiting_unique member old]
  · exact absurd same.1 (ticketed.not_gone member departure left)

/-- A job that was in the queue before the call has become what the call makes
of it, in the queue or on its way out. -/
theorem Ticketed.becomes (ticketed : history.Ticketed) {now : Nat}
    {call : QueueCall} {after : QueueHistory}
    (taken : history.Takes now call after) {ticket : Nat} {job next : Job}
    (member : (ticket, job) ∈ history.line.waiting)
    (held : after.Holds ticket next) : history.Becomes now job call next := by
  have unchanged : next = job → history.Becomes now job call next := by
    rintro rfl
    exact .same call
  cases taken with
  | idle => exact unchanged (ticketed.holds_unique member held)
  | creates plugin description command args priority =>
      exact unchanged (ticketed.holds_unique member held)
  | pushes position entry found =>
      rcases held with stays | gone
      · rcases List.mem_append.mp stays with old | new
        · exact unchanged (ticketed.waiting_unique member old)
        · have sameTicket : ticket = entry.1 :=
            congrArg Prod.fst (List.mem_singleton.mp new)
          exact absurd sameTicket (ticketed.not_building member found)
      · exact unchanged (ticketed.holds_unique member (.inr gone))
  | dequeues position chosen =>
      obtain ⟨stored, found⟩ := nextPosition_getElem? chosen
      obtain ⟨number, atPosition⟩ := items_getElem? found
      rcases held with stays | ⟨departure, left, same⟩
      · exact unchanged (ticketed.waiting_unique member (Line.mem_of_mem_leaveAt stays))
      · simp only [Line.leaveAt, atPosition] at left
        rcases List.mem_append.mp left with old | new
        · exact absurd same.1 (ticketed.not_gone member departure old)
        · rw [List.mem_singleton.mp new] at same
          obtain ⟨rfl, rfl⟩ := same
          have sameJob := ticketed.waiting_unique member
            (List.mem_of_getElem? atPosition)
          subst sameJob
          exact .started (lastFrontRunner_iff.mpr ⟨position, chosen, found⟩)
  | updates id position status found =>
      rcases held with stays | gone
      · rcases Line.mem_changeAt stays with old | ⟨stored, old, changed⟩
        · exact unchanged (ticketed.waiting_unique member old)
        · change next = _ at changed
          rw [changed, ticketed.waiting_unique member old]
          exact .set id status
      · exact unchanged (ticketed.holds_unique member (.inr gone))
  | removes id => exact unchanged (ticketed.leaveIf_unique member held)
  | retries =>
      rw [ticketed.changeAll_unique member held]
      exact .retried
  | resumes =>
      rw [ticketed.changeAll_unique member held]
      exact .resumed
  | clears => exact unchanged (ticketed.leaveIf_unique member held)
  | switches enabled => exact unchanged (ticketed.holds_unique member held)

/-- One step of the characterisation, from the condition to the stamps. -/
theorem stampsChanges_of_alreadyStamped (ticketed : history.Ticketed)
    {call : Nat × QueueCall} (stamped : history.AlreadyStamped call) :
    history.StampsChanges call := by
  obtain ⟨now, operation⟩ := call
  intro ticket job next member held
  have isIn : job ∈ history.queue.jobs := List.mem_map_of_mem member
  cases ticketed.becomes (history.takes_apply (now, operation)) member held with
  | same => exact ⟨fun differs => absurd rfl differs, fun _ => rfl⟩
  | started runs =>
      have pending : job.status = .pending := by
        obtain ⟨_, _, frontRunner, _⟩ := runs
        exact frontRunner.1
      refine ⟨fun _ => stamped job runs, fun same => ?_⟩
      rw [pending] at same
      cases same
  | set id status => exact trySetStatus_stamps
  | retried =>
      rw [updatedAt_retried]
      refine ⟨fun differs => ?_, fun _ => rfl⟩
      exact stamped job ⟨isIn, status_retried_ne_iff.mp differs⟩
  | resumed =>
      rw [updatedAt_resumed]
      refine ⟨fun differs => ?_, fun _ => rfl⟩
      exact stamped job ⟨isIn, status_resumed_ne_iff.mp differs⟩

/-- A job whose status is written directly keeps its old time. -/
theorem alreadyStamped_of_stampsChanges {call : Nat × QueueCall}
    (stamps : history.StampsChanges call) : history.AlreadyStamped call := by
  obtain ⟨now, operation⟩ := call
  intro job written
  cases operation with
  | dequeue =>
      obtain ⟨position, next, found⟩ := lastFrontRunner_iff.mp written
      obtain ⟨ticket, atPosition⟩ := items_getElem? found
      obtain ⟨_, _, frontRunner, _⟩ := written
      have left : (history.apply (now, .dequeue)).Holds ticket (started job) := by
        refine .inr ⟨⟨.dequeued, ticket, started job⟩, ?_, rfl, rfl⟩
        rw [departures_dequeue next atPosition]
        exact List.mem_append_right _ (List.mem_singleton_self _)
      apply (stamps ticket job _ (List.mem_of_getElem? atPosition) left).1
      rw [frontRunner.1]
      exact fun same => by cases same
  | retryFailed =>
      obtain ⟨isIn, retryable⟩ := written
      obtain ⟨⟨ticket, _⟩, member, rfl⟩ := List.mem_map.mp isIn
      have changed := (stamps ticket _ (retried _) member
        (.inl (List.mem_map_of_mem (f := Prod.map id retried) member))).1
          (status_retried_ne_iff.mpr retryable)
      rwa [updatedAt_retried] at changed
  | resumeAll =>
      obtain ⟨isIn, paused⟩ := written
      obtain ⟨⟨ticket, _⟩, member, rfl⟩ := List.mem_map.mp isIn
      have changed := (stamps ticket _ (resumed _) member
        (.inl (List.mem_map_of_mem (f := Prod.map id resumed) member))).1
          (status_resumed_ne_iff.mpr paused)
      rwa [updatedAt_resumed] at changed
  | create | push | updateStatus | remove | clearCompleted | setAutoResume =>
      exact written.elim

end Step

/-- Every call of the run stamps the jobs whose status it changes, and no
others. -/
def UpdatedAtFollows (calls : List (Nat × QueueCall)) : Prop :=
  ∀ earlier call later, calls = earlier ++ call :: later →
    (after earlier).StampsChanges call

/-- No call of the run changes a status behind the back of `set_status`, except
for jobs that carry the time of the call. -/
def NeverBehindBack (calls : List (Nat × QueueCall)) : Prop :=
  ∀ earlier call later, calls = earlier ++ call :: later →
    (after earlier).AlreadyStamped call

/-- `updated_at` follows the statuses of a run exactly as long as nobody writes
a status without `set_status` to a job of an older time. -/
theorem updatedAtFollows_iff (calls : List (Nat × QueueCall)) :
    UpdatedAtFollows calls ↔ NeverBehindBack calls := by
  constructor
  · intro follows earlier call later split
    exact alreadyStamped_of_stampsChanges (follows earlier call later split)
  · intro never earlier call later split
    exact stampsChanges_of_alreadyStamped (ticketed_after earlier)
      (never earlier call later split)

/-- A job that is enqueued at time 0 and dequeued at time 1 is returned as a
running job of time 0. -/
theorem dequeue_keeps_updatedAt :
    let calls : List (Nat × QueueCall) :=
      [(0, .create "curl" "page" "curl" [] .normal), (0, .push 0), (1, .dequeue)]
    (calls.foldl QueueSystem.apply .initial).returned.map
        (fun job => (job.status, job.updatedAt)) = [(.running, 0)] ∧
      ¬ UpdatedAtFollows calls := by
  intro calls
  refine ⟨by rfl, fun follows => ?_⟩
  have stamps := follows
    [(0, .create "curl" "page" "curl" [] .normal), (0, .push 0)] (1, .dequeue) [] rfl
  have late := (stamps 1 _ _ List.mem_cons_self
    (.inr ⟨_, List.mem_cons_self, rfl, rfl⟩)).1 (by decide)
  cases late

end QueueHistory

end NetGuardian
