import NetGuardian.QueueHistory
import Mathlib.Data.List.Range

/-!
# Conservation of queued jobs

Every job that was put into the queue is in the queue once, was returned by one
`dequeue`, or was dropped by `remove` or by `clear_completed`; jobs never change
places in the queue.  This holds without any assumption on ids, since a job is
followed by its ticket.

Ids are tickets modulo `2 ^ 64`.  The first `2 ^ 64` jobs are told apart by
their ids; a longer run can return one id twice.
-/

namespace NetGuardian

/-- What a call may do to the contents of the queue and to their order. -/
def QueueCall.MovesOnly (call : QueueCall) (before next : List Nat) : Prop :=
  match call with
  | .push _ => next = before ∨ ∃ ticket, ticket ∉ before ∧ next = before ++ [ticket]
  | .dequeue | .remove _ | .clearCompleted => List.Sublist next before
  | _ => next = before

namespace QueueHistory

open TicketLine QueueManager

/-- The tickets handed out so far. -/
def issued (history : QueueHistory) : List Nat :=
  history.building.map Prod.fst ++ history.line.arrivals

/-- Tickets are handed out once and below the counter, and they determine ids. -/
structure Ticketed (history : QueueHistory) : Prop where
  conserved : history.line.Conserved
  begun : 1 ≤ history.counter
  distinct : history.issued.Nodup
  counted : ∀ ticket ∈ history.issued, 1 ≤ ticket ∧ ticket < history.counter
  built : ∀ entry ∈ history.building, entry.2.id = entry.1 % 2 ^ 64
  labelled : history.line.Everywhere fun ticket job => job.id = ticket % 2 ^ 64

section Labels

variable {ticket : Nat} {job : Job}

theorem started_id (labelled : job.id = ticket % 2 ^ 64) :
    (started job).id = ticket % 2 ^ 64 :=
  labelled

theorem retried_id (labelled : job.id = ticket % 2 ^ 64) :
    (retried job).id = ticket % 2 ^ 64 := by
  unfold retried
  split <;> exact labelled

theorem resumed_id (labelled : job.id = ticket % 2 ^ 64) :
    (resumed job).id = ticket % 2 ^ 64 := by
  unfold resumed
  split <;> exact labelled

theorem trySetStatus_id (now : Nat) (status : JobStatus)
    (labelled : job.id = ticket % 2 ^ 64) :
    (trySetStatus now status job).id = ticket % 2 ^ 64 := by
  have same := congrArg Prod.fst (trySetStatus_identity now status job)
  exact same.trans labelled

end Labels

theorem ticketed_initial : initial.Ticketed where
  conserved := .empty
  begun := Nat.le_refl 1
  distinct := List.nodup_nil
  counted _ member := absurd member List.not_mem_nil
  built _ member := absurd member List.not_mem_nil
  labelled := ⟨fun _ member => absurd member List.not_mem_nil,
    fun _ member => absurd member List.not_mem_nil⟩

namespace Ticketed

variable {history : QueueHistory}

/-- A call that neither builds a job nor takes one in. -/
theorem withLine (ticketed : history.Ticketed) {line : Line Job QueueExit}
    (conserved : line.Conserved)
    (arrivals : line.arrivals = history.line.arrivals)
    (labelled : line.Everywhere fun ticket job => job.id = ticket % 2 ^ 64) :
    Ticketed { history with line := line } := by
  have same : issued { history with line := line } = history.issued := by
    rw [issued, issued, arrivals]
  refine ⟨conserved, ticketed.begun, ?_, ?_, ticketed.built, labelled⟩
  · rw [same]
    exact ticketed.distinct
  · rw [same]
    exact ticketed.counted

theorem creates (ticketed : history.Ticketed) {job : Job}
    (built : job.id = history.counter % 2 ^ 64) :
    Ticketed { history with
      counter := history.counter + 1
      building := history.building ++ [(history.counter, job)] } := by
  let next : QueueHistory :=
    { history with
      counter := history.counter + 1
      building := history.building ++ [(history.counter, job)] }
  have moved : next.issued.Perm (history.counter :: history.issued) := by
    change ((history.building ++ [_]).map Prod.fst ++ history.line.arrivals).Perm _
    rw [List.map_append, List.map_singleton, List.append_assoc]
    exact List.perm_middle
  have unused : history.counter ∉ history.issued :=
    fun member => Nat.lt_irrefl _ (ticketed.counted _ member).2
  refine ⟨ticketed.conserved, Nat.le_add_left 1 _, ?_, ?_, ?_,
    ticketed.labelled⟩
  · exact moved.nodup_iff.mpr (List.nodup_cons.mpr ⟨unused, ticketed.distinct⟩)
  · intro ticket member
    change 1 ≤ ticket ∧ ticket < history.counter + 1
    have begun := ticketed.begun
    rcases List.mem_cons.mp (moved.mem_iff.mp member) with rfl | old
    · omega
    · have counted := ticketed.counted ticket old
      omega
  · intro entry member
    rcases List.mem_append.mp member with old | new
    · exact ticketed.built entry old
    · rw [List.mem_singleton.mp new]
      exact built

theorem pushes (ticketed : history.Ticketed) {position : Nat} {entry : Nat × Job}
    (found : history.building[position]? = some entry) :
    Ticketed { history with
      building := history.building.eraseIdx position
      line := history.line.arrive entry.1 entry.2 } := by
  obtain ⟨below, atPosition⟩ := List.getElem?_eq_some_iff.mp found
  have stored := List.mem_of_getElem? found
  let next : QueueHistory :=
    { history with
      building := history.building.eraseIdx position
      line := history.line.arrive entry.1 entry.2 }
  have moved : next.issued.Perm history.issued := by
    have split := (List.getElem_cons_eraseIdx_perm below).map Prod.fst
    rw [atPosition, List.map_cons] at split
    calc
      next.issued = (history.building.eraseIdx position).map Prod.fst ++
          (history.line.arrivals ++ [entry.1]) := rfl
      List.Perm _ ((history.building.eraseIdx position).map Prod.fst ++
          (entry.1 :: history.line.arrivals)) :=
        (List.perm_append_singleton _ _).append_left _
      List.Perm _ (entry.1 :: ((history.building.eraseIdx position).map
          Prod.fst ++ history.line.arrivals)) := List.perm_middle
      List.Perm _ history.issued := split.append_right _
  refine ⟨ticketed.conserved.arrive _ _, ticketed.begun, ?_, ?_, ?_, ?_⟩
  · exact moved.nodup_iff.mpr ticketed.distinct
  · intro ticket member
    exact ticketed.counted ticket (moved.mem_iff.mp member)
  · intro other member
    exact ticketed.built other (List.mem_of_mem_eraseIdx member)
  · exact ticketed.labelled.arrive (ticketed.built entry stored)

theorem takes (ticketed : history.Ticketed) {now : Nat} {call : QueueCall}
    {next : QueueHistory} (taken : history.Takes now call next) :
    next.Ticketed := by
  cases taken with
  | idle => exact ticketed
  | creates plugin description command args priority =>
      exact ticketed.creates rfl
  | pushes position entry found => exact ticketed.pushes found
  | dequeues position chosen =>
      exact ticketed.withLine (ticketed.conserved.leaveAt _ _ _)
        (history.line.arrivals_leaveAt _ _ _)
        (ticketed.labelled.leaveAt _ _ fun _ _ => started_id)
  | updates id position status found =>
      exact ticketed.withLine (ticketed.conserved.changeAt _ _) rfl
        (ticketed.labelled.changeAt _ fun _ _ => trySetStatus_id now status)
  | removes id =>
      exact ticketed.withLine (ticketed.conserved.leaveIf _ _) rfl
        (ticketed.labelled.leaveIf _ _)
  | retries =>
      exact ticketed.withLine (ticketed.conserved.changeAll _) rfl
        (ticketed.labelled.changeAll fun _ _ => retried_id)
  | resumes =>
      exact ticketed.withLine (ticketed.conserved.changeAll _) rfl
        (ticketed.labelled.changeAll fun _ _ => resumed_id)
  | clears =>
      exact ticketed.withLine (ticketed.conserved.leaveIf _ _) rfl
        (ticketed.labelled.leaveIf _ _)
  | switches enabled =>
      exact ⟨ticketed.conserved, ticketed.begun, ticketed.distinct,
        ticketed.counted, ticketed.built, ticketed.labelled⟩

end Ticketed

theorem ticketed_after (calls : List (Nat × QueueCall)) :
    (after calls).Ticketed := by
  induction calls using List.reverseRecOn with
  | nil => exact ticketed_initial
  | append_singleton calls call ih =>
      rw [after_append]
      exact ih.takes (takes_apply _ call)

/-- Every job that was enqueued is at exactly one place, and there once. -/
def EachAtOnePlace (history : QueueHistory) : Prop :=
  history.line.arrivals.Nodup ∧ ∀ ticket ∈ history.line.arrivals,
    history.line.tickets.count ticket + history.line.goneFor .dequeued ticket +
      history.line.goneFor .removed ticket +
        history.line.goneFor .cleared ticket = 1

/-- What `clear_completed` has dropped was completed. -/
def ClearedCompleted (history : QueueHistory) : Prop :=
  ∀ departure ∈ history.line.departures, departure.reason = .cleared →
    departure.item.status = .completed

theorem sum_exits (count : QueueExit → Nat) :
    ∑ reason, count reason =
      count .dequeued + count .removed + count .cleared := by
  change ∑ reason ∈ {.dequeued, .removed, .cleared}, count reason = _
  rw [Finset.sum_insert (by decide), Finset.sum_insert (by decide),
    Finset.sum_singleton]
  omega

theorem Ticketed.eachAtOnePlace {history : QueueHistory}
    (ticketed : history.Ticketed) : history.EachAtOnePlace := by
  have distinct := (List.nodup_append.mp ticketed.distinct).2.1
  refine ⟨distinct, fun ticket arrived => ?_⟩
  have place := ticketed.conserved.onePlace distinct arrived
  rw [sum_exits] at place
  omega

theorem Ticketed.movesOnly {history next : QueueHistory}
    (ticketed : history.Ticketed) {now : Nat} {call : QueueCall}
    (taken : history.Takes now call next) :
    call.MovesOnly history.line.tickets next.line.tickets := by
  cases taken with
  | idle =>
      cases call with
      | push position => exact .inl rfl
      | dequeue | remove id | clearCompleted => exact List.Sublist.refl _
      | _ => rfl
  | creates plugin description command args priority => rfl
  | pushes position entry found =>
      refine .inr ⟨entry.1, ?_, Line.tickets_arrive _ _ _⟩
      have built : entry.1 ∈ history.building.map Prod.fst :=
        List.mem_map_of_mem (List.mem_of_getElem? found)
      have apart := (List.nodup_append.mp ticketed.distinct).2.2
      intro waiting
      exact apart _ built _ (ticketed.conserved.inOrder.subset waiting) rfl
  | dequeues position chosen => exact Line.tickets_leaveAt _ _ _ _
  | updates id position status found => exact Line.tickets_changeAt _ _ _
  | removes id => exact Line.tickets_leaveIf _ _ _
  | retries => exact Line.tickets_changeAll _ _
  | resumes => exact Line.tickets_changeAll _ _
  | clears => exact Line.tickets_leaveIf _ _ _
  | switches enabled => rfl

theorem Takes.arrivals {history next : QueueHistory} {now : Nat} {call : QueueCall}
    (taken : history.Takes now call next) :
    history.line.arrivals ⊆ next.line.arrivals := by
  cases taken with
  | pushes position entry found => exact List.subset_append_left _ _
  | dequeues position chosen =>
      rw [Line.arrivals_leaveAt]
      exact List.Subset.refl _
  | _ => exact List.Subset.refl _

theorem arrivals_foldl {history : QueueHistory} {ticket : Nat}
    (arrived : ticket ∈ history.line.arrivals) (calls : List (Nat × QueueCall)) :
    ticket ∈ (calls.foldl apply history).line.arrivals := by
  induction calls generalizing history with
  | nil => exact arrived
  | cons call calls ih => exact ih ((takes_apply history call).arrivals arrived)

theorem ClearedCompleted.takes {history next : QueueHistory}
    (completed : history.ClearedCompleted) {now : Nat} {call : QueueCall}
    (taken : history.Takes now call next) : next.ClearedCompleted := by
  cases taken with
  | dequeues position chosen =>
      intro departure member cleared
      rcases Line.mem_departures_leaveAt member with old | reason
      · exact completed departure old cleared
      · rw [reason] at cleared
        cases cleared
  | removes id =>
      intro departure member cleared
      rcases Line.mem_departures_leaveIf member with old | ⟨reason, _⟩
      · exact completed departure old cleared
      · rw [reason] at cleared
        cases cleared
  | clears =>
      intro departure member cleared
      rcases Line.mem_departures_leaveIf member with old | ⟨_, leaves⟩
      · exact completed departure old cleared
      · simpa using leaves
  | _ => exact completed

theorem clearedCompleted_after (calls : List (Nat × QueueCall)) :
    (after calls).ClearedCompleted := by
  induction calls using List.reverseRecOn with
  | nil => exact fun _ member => absurd member List.not_mem_nil
  | append_singleton calls call ih =>
      rw [after_append]
      exact ih.takes (takes_apply _ call)

/-- Tickets from `1` to `2 ^ 64` are told apart by their remainders. -/
theorem mod_inj {first second : Nat} (firstPos : 1 ≤ first)
    (secondPos : 1 ≤ second) (firstLe : first ≤ 2 ^ 64)
    (secondLe : second ≤ 2 ^ 64) (same : first % 2 ^ 64 = second % 2 ^ 64) :
    first = second := by
  omega

/-- Among the first `2 ^ 64` jobs no two that were dequeued have the same id. -/
theorem Ticketed.returned_ids_nodup {history : QueueHistory}
    (ticketed : history.Ticketed) (bound : history.counter ≤ 2 ^ 64 + 1) :
    (history.returned.map Job.id).Nodup := by
  let dequeued := history.line.departures.filter (·.reason = .dequeued)
  have ids : history.returned.map Job.id =
      (dequeued.map Departure.ticket).map (· % 2 ^ 64) := by
    simp only [returned, Line.goneItems, List.map_map]
    apply List.map_congr_left
    intro departure member
    exact ticketed.labelled.departed departure (List.mem_of_mem_filter member)
  have distinct := (List.nodup_append.mp ticketed.distinct).2.1
  have gone : history.line.gone.Nodup := by
    have whole := ticketed.conserved.accounted.nodup_iff.mpr distinct
    exact (List.nodup_append.mp whole).2.1
  have tickets : (dequeued.map Departure.ticket).Nodup :=
    gone.sublist (List.filter_sublist.map Departure.ticket)
  have arrived : ∀ ticket ∈ dequeued.map Departure.ticket,
      1 ≤ ticket ∧ ticket ≤ 2 ^ 64 := by
    intro ticket member
    obtain ⟨departure, stored, rfl⟩ := List.mem_map.mp member
    have departed : departure.ticket ∈ history.line.gone :=
      List.mem_map_of_mem (List.mem_of_mem_filter stored)
    have arrival := ticketed.conserved.accounted.subset
      (List.mem_append_right _ departed)
    have counted := ticketed.counted _ (List.mem_append_right _ arrival)
    omega
  rw [ids]
  apply tickets.map_on
  intro first firstMember second secondMember same
  obtain ⟨firstPos, firstLe⟩ := arrived first firstMember
  obtain ⟨secondPos, secondLe⟩ := arrived second secondMember
  exact mod_inj firstPos secondPos firstLe secondLe same

/-- Conservation: after any sequence of calls, every enqueued job is at exactly
one place, only `push` and the three exits change what is in the queue, none of
them its order, and the first `2 ^ 64` jobs are dequeued under different ids. -/
theorem queue_conserves_jobs (calls : List (Nat × QueueCall)) :
    (after calls).system = calls.foldl QueueSystem.apply .initial ∧
      (after calls).EachAtOnePlace ∧ (after calls).ClearedCompleted ∧
      (∀ call : Nat × QueueCall, call.2.MovesOnly (after calls).line.tickets
        ((after calls).apply call).line.tickets) ∧
      ((after calls).counter ≤ 2 ^ 64 + 1 →
        ((after calls).returned.map Job.id).Nodup) :=
  ⟨system_after calls, (ticketed_after calls).eachAtOnePlace,
    clearedCompleted_after calls,
    fun call => (ticketed_after calls).movesOnly (takes_apply _ call),
    (ticketed_after calls).returned_ids_nodup⟩

end QueueHistory

namespace QueueSystem

/-- Enqueue one job and dequeue it again. -/
def passThrough : List (Nat × QueueCall) :=
  [(0, .create "curl" "" "curl" [] .normal), (0, .push 0), (0, .dequeue)]

theorem foldl_passThrough {system : QueueSystem}
    (noJobs : system.queue.jobs = []) (noneBuilding : system.building = []) :
    passThrough.foldl apply system =
      { system with
        counter := system.counter + 1
        returned := system.returned ++ [QueueManager.started
          (Job.new system.counter 0 "curl" "" "curl" [] .normal)] } := by
  obtain ⟨⟨jobs, autoResume⟩, counter, building, returned⟩ := system
  subst noJobs noneBuilding
  rfl

/-- `rounds` jobs pass through the queue, one after another. -/
theorem foldl_passThrough_rounds (rounds : Nat) :
    ((List.replicate rounds passThrough).flatten.foldl apply initial) =
      { initial with
        counter := rounds + 1
        returned := (List.range rounds).map fun earlier =>
          QueueManager.started (Job.new (earlier + 1) 0 "curl" "" "curl" []
            .normal) } := by
  induction rounds with
  | zero => rfl
  | succ rounds ih =>
      rw [List.replicate_succ', List.flatten_append, List.flatten_singleton,
        List.foldl_append, ih, foldl_passThrough rfl rfl, List.range_succ,
        List.map_append]
      rfl

/-- After `2 ^ 64 + 1` jobs the dequeues have returned an id twice. -/
theorem id_returned_twice :
    ¬ (((List.replicate (2 ^ 64 + 1) passThrough).flatten.foldl apply
      initial).returned.map Job.id).Nodup := by
  rw [foldl_passThrough_rounds, List.map_map]
  intro distinct
  have below : ∀ id ∈ (List.range (2 ^ 64 + 1)).map (Job.id ∘ fun earlier =>
      QueueManager.started (Job.new (earlier + 1) 0 "curl" "" "curl" [] .normal)),
      id ∈ List.range (2 ^ 64) := by
    intro id member
    obtain ⟨earlier, _, rfl⟩ := List.mem_map.mp member
    exact List.mem_range.mpr (Nat.mod_lt _ (by decide))
  have tooMany := (distinct.subperm below).length_le
  simp only [List.length_map, List.length_range] at tooMany
  omega

end QueueSystem

end NetGuardian
