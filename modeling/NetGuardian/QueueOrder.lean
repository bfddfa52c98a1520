import NetGuardian.QueueConservation

/-!
# Order of service within a priority

Jobs are appended at the back of the queue, and `dequeue` picks a pending job of
the highest priority with `Iterator::max_by_key`.  That adaptor returns the
*last* of several maxima, so that among equals the youngest job is served first.
A dequeue is in order exactly when it has no choice between equals.
-/

namespace NetGuardian

section LastMaximum

variable {Item : Type*} {items : List Item} {best : Item}

/-- The first maximum of the reversed list is the last maximum of the list. -/
theorem argmax_reverse_eq_some (measure : Item → Nat)
    (found : items.reverse.argmax measure = some best) :
    ∃ before after, items = before ++ best :: after ∧
      (∀ item ∈ before, measure item ≤ measure best) ∧
        ∀ item ∈ after, measure item < measure best := by
  induction items generalizing best with
  | nil => cases found
  | cons first items ih =>
      rw [List.reverse_cons, List.argmax_concat] at found
      cases rest : items.reverse.argmax measure with
      | none =>
          rw [List.argmax_eq_none, List.reverse_eq_nil_iff] at rest
          subst rest
          cases found
          exact ⟨[], [], rfl, fun _ member => absurd member List.not_mem_nil,
            fun _ member => absurd member List.not_mem_nil⟩
      | some other =>
          obtain ⟨before, after, split, notAbove, below⟩ := ih rest
          rw [rest] at found
          dsimp only at found
          by_cases smaller : measure other < measure first
          · rw [if_pos smaller] at found
            cases found
            refine ⟨[], items, rfl, fun _ member => absurd member List.not_mem_nil,
              ?_⟩
            intro item member
            rw [split] at member
            rcases List.mem_append.mp member with early | late
            · have := notAbove item early
              omega
            · rcases List.mem_cons.mp late with rfl | later
              · exact smaller
              · have := below item later
                omega
          · rw [if_neg smaller] at found
            cases found
            refine ⟨first :: before, after, by rw [split]; rfl, ?_, below⟩
            intro item member
            rcases List.mem_cons.mp member with rfl | early
            · exact Nat.le_of_not_lt smaller
            · exact notAbove item early

end LastMaximum

namespace QueueManager

variable {queue : QueueManager}

/-- A pending job such that no pending job has a higher priority. -/
def FrontRunner (queue : QueueManager) (job : Job) : Prop :=
  job.status = .pending ∧ ∀ other ∈ queue.jobs, other.status = .pending →
    other.priority.asU8 ≤ job.priority.asU8

/-- No two pending jobs share the highest priority among the pending jobs. -/
def OneFrontRunner (queue : QueueManager) : Prop :=
  queue.jobs.Pairwise fun first second =>
    ¬ (queue.FrontRunner first ∧ queue.FrontRunner second)

theorem pendingPositions_sorted :
    queue.pendingPositions.Pairwise fun first second => first.2 < second.2 := by
  apply List.Pairwise.filter
  apply List.pairwise_map.mp
  rw [List.zipIdx_map_snd]
  exact List.pairwise_lt_range'

/-- The next job is the last of the front runners. -/
theorem nextPosition_frontRunner {position : Nat}
    (next : queue.nextPosition = some position) :
    ∃ job, queue.jobs[position]? = some job ∧ queue.FrontRunner job ∧
      ∀ other rival, queue.jobs[other]? = some rival → queue.FrontRunner rival →
        other ≤ position := by
  obtain ⟨entry, best, rfl⟩ := Option.map_eq_some_iff.mp next
  obtain ⟨before, after, split, notAbove, below⟩ :=
    argmax_reverse_eq_some (fun entry : Job × Nat => entry.1.priority.asU8) best
  have isPending : entry ∈ queue.pendingPositions := by
    rw [split]
    simp
  obtain ⟨found, pending⟩ := mem_pendingPositions.mp isPending
  have highest : ∀ other ∈ queue.pendingPositions,
      other.1.priority.asU8 ≤ entry.1.priority.asU8 := by
    intro other member
    rw [split] at member
    rcases List.mem_append.mp member with early | late
    · exact notAbove other early
    · rcases List.mem_cons.mp late with rfl | later
      · exact Nat.le_refl _
      · exact Nat.le_of_lt (below other later)
  refine ⟨entry.1, found, ⟨pending, ?_⟩, ?_⟩
  · intro other member otherPending
    obtain ⟨index, atIndex⟩ := List.mem_iff_getElem?.mp member
    exact highest (other, index) (mem_pendingPositions.mpr ⟨atIndex, otherPending⟩)
  · intro other rival atOther runner
    have sorted := @pendingPositions_sorted queue
    have member : (rival, other) ∈ queue.pendingPositions :=
      mem_pendingPositions.mpr ⟨atOther, runner.1⟩
    rw [split] at member sorted
    rw [List.pairwise_append, List.pairwise_cons] at sorted
    rcases List.mem_append.mp member with early | late
    · exact Nat.le_of_lt (sorted.2.2 _ early entry List.mem_cons_self)
    · rcases List.mem_cons.mp late with same | later
      · rw [← same]
      · have lower := below _ later
        have atLeast := runner.2 entry.1 (List.mem_of_getElem? found) pending
        exact absurd lower (Nat.not_lt.mpr atLeast)

end QueueManager

theorem JobPriority.asU8_injective : Function.Injective JobPriority.asU8 := by
  intro first second same
  cases first <;> cases second <;> first | rfl | cases same

namespace QueueHistory

open TicketLine QueueManager

/-- A dequeue now does not return a job while another one of its priority, which
was enqueued before it, is pending. -/
def InOrder (history : QueueHistory) (now : Nat) : Prop :=
  ∀ ticket job earlier other,
    (history.apply (now, .dequeue)).line.departures =
        history.line.departures ++ [⟨.dequeued, ticket, job⟩] →
      (earlier, other) ∈ history.line.waiting → other.status = .pending →
        other.priority = job.priority →
          ¬ List.Sublist [earlier, ticket] history.line.arrivals

section Dequeue

variable {history : QueueHistory} {now : Nat}

theorem items_getElem? {position : Nat} {job : Job}
    (found : history.queue.jobs[position]? = some job) :
    ∃ ticket, history.line.waiting[position]? = some (ticket, job) := by
  change (history.line.waiting.map Prod.snd)[position]? = some job at found
  rw [List.getElem?_map, Option.map_eq_some_iff] at found
  obtain ⟨⟨ticket, stored⟩, atPosition, rfl⟩ := found
  exact ⟨ticket, atPosition⟩

theorem jobs_getElem? {position ticket : Nat} {job : Job}
    (found : history.line.waiting[position]? = some (ticket, job)) :
    history.queue.jobs[position]? = some job := by
  change (history.line.waiting.map Prod.snd)[position]? = some job
  rw [List.getElem?_map, found, Option.map_some]

/-- The ticket that a dequeue serves. -/
theorem departures_dequeue {position ticket : Nat} {job : Job}
    (next : history.queue.nextPosition = some position)
    (found : history.line.waiting[position]? = some (ticket, job)) :
    (history.apply (now, .dequeue)).line.departures =
      history.line.departures ++ [⟨.dequeued, ticket, started job⟩] := by
  simp [apply, next, Line.leaveAt, found]

/-- Between two front runners the later one is served, and the earlier one is
overtaken. -/
theorem oneFrontRunner_of_inOrder (ticketed : history.Ticketed)
    (inOrder : history.InOrder now) : history.queue.OneFrontRunner := by
  unfold OneFrontRunner
  rw [List.pairwise_iff_getElem]
  intro first second firstBelow secondBelow before both
  have firstAt : history.queue.jobs[first]? = some history.queue.jobs[first] :=
    List.getElem?_eq_getElem firstBelow
  have secondAt : history.queue.jobs[second]? = some history.queue.jobs[second] :=
    List.getElem?_eq_getElem secondBelow
  generalize history.queue.jobs[first] = rival at firstAt both
  generalize history.queue.jobs[second] = other at secondAt both
  obtain ⟨rivalRuns, otherRuns⟩ := both
  cases next : history.queue.nextPosition with
  | none =>
      rw [nextPosition_eq_none] at next
      exact next rival (List.mem_of_getElem? firstAt) rivalRuns.1
  | some position =>
      obtain ⟨job, found, runs, last⟩ := nextPosition_frontRunner next
      have behind := last second other secondAt otherRuns
      obtain ⟨ticket, atPosition⟩ := items_getElem? found
      obtain ⟨earlier, atFirst⟩ := items_getElem? firstAt
      have samePriority : rival.priority = job.priority := by
        apply JobPriority.asU8_injective
        have up := runs.2 rival (List.mem_of_getElem? firstAt) rivalRuns.1
        have down := rivalRuns.2 job (List.mem_of_getElem? found) runs.1
        omega
      apply inOrder ticket (started job) earlier rival
        (departures_dequeue next atPosition) (List.mem_of_getElem? atFirst)
        rivalRuns.1 samePriority
      have ahead : first < position := by omega
      exact ticketed.conserved.arrived_before ahead atFirst atPosition

theorem inOrder_of_oneFrontRunner (ticketed : history.Ticketed)
    (one : history.queue.OneFrontRunner) : history.InOrder now := by
  intro ticket job earlier other served waits pending samePriority arrivedBefore
  have arrivals := (List.nodup_append.mp ticketed.distinct).2.1
  cases next : history.queue.nextPosition with
  | none =>
      have silent : history.apply (now, .dequeue) = history := by
        simp [apply, next]
      rw [silent] at served
      have lengths := congrArg List.length served
      simp at lengths
  | some position =>
      obtain ⟨chosen, found, runs, _⟩ := nextPosition_frontRunner next
      obtain ⟨number, atPosition⟩ := items_getElem? found
      rw [departures_dequeue next atPosition] at served
      obtain ⟨rfl, rfl⟩ : number = ticket ∧ started chosen = job := by
        simpa using served
      obtain ⟨index, atIndex⟩ := List.mem_iff_getElem?.mp waits
      have otherAt := jobs_getElem? atIndex
      have otherRuns : history.queue.FrontRunner other := by
        refine ⟨pending, fun third member thirdPending => ?_⟩
        rw [samePriority]
        exact runs.2 third member thirdPending
      have apart : index ≠ position := by
        rintro rfl
        rw [atPosition] at atIndex
        cases atIndex
        have twice := arrivals.sublist arrivedBefore
        simp at twice
      obtain ⟨chosenBelow, chosenAt⟩ := List.getElem?_eq_some_iff.mp found
      obtain ⟨otherBelow, otherAt⟩ := List.getElem?_eq_some_iff.mp otherAt
      unfold OneFrontRunner at one
      rw [List.pairwise_iff_getElem] at one
      rcases Nat.lt_or_gt_of_ne apart with ahead | behind
      · apply one index position otherBelow chosenBelow ahead
        rw [chosenAt, otherAt]
        exact ⟨otherRuns, runs⟩
      · apply one position index chosenBelow otherBelow behind
        rw [chosenAt, otherAt]
        exact ⟨runs, otherRuns⟩

end Dequeue

/-- First in, first out within every priority, at every dequeue of a run. -/
def FirstInFirstOut (calls : List (Nat × QueueCall)) : Prop :=
  ∀ earlier now later, calls = earlier ++ (now, .dequeue) :: later →
    (after earlier).InOrder now

/-- No dequeue of the run has to choose between pending jobs of the highest
priority. -/
def NeverContested (calls : List (Nat × QueueCall)) : Prop :=
  ∀ earlier now later, calls = earlier ++ (now, QueueCall.dequeue) :: later →
    (after earlier).queue.OneFrontRunner

/-- A run serves its jobs first in, first out exactly as long as it has no two
of them to choose from. -/
theorem firstInFirstOut_iff (calls : List (Nat × QueueCall)) :
    FirstInFirstOut calls ↔ NeverContested calls := by
  constructor
  · intro fifo earlier now later split
    exact oneFrontRunner_of_inOrder (ticketed_after earlier)
      (fifo earlier now later split)
  · intro never earlier now later split
    exact inOrder_of_oneFrontRunner (ticketed_after earlier)
      (never earlier now later split)

/-- Two jobs of normal priority, and one dequeue. -/
def twoEnqueued : List (Nat × QueueCall) :=
  [(0, .create "curl" "first" "curl" [] .normal), (0, .push 0),
    (0, .create "curl" "second" "curl" [] .normal), (0, .push 0)]

/-- The second of the two is dequeued first. -/
theorem second_served_first :
    ((twoEnqueued ++ [(0, QueueCall.dequeue)]).foldl QueueSystem.apply
        .initial).returned.map Job.description = ["second"] ∧
      ¬ FirstInFirstOut (twoEnqueued ++ [(0, .dequeue)]) := by
  refine ⟨by rfl, fun fifo => ?_⟩
  have inOrder := fifo twoEnqueued 0 [] rfl
  exact inOrder 2 _ 1 _ rfl List.mem_cons_self rfl rfl (List.Sublist.refl _)

end QueueHistory

end NetGuardian
