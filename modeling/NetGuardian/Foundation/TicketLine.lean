import Mathlib.Algebra.BigOperators.Group.Finset.Piecewise
import Mathlib.Data.List.InsertIdx
import Mathlib.Data.List.Perm.Basic

/-!
# Waiting lines with tickets

Items join a line at its end and leave it from any position, for one of several
reasons.  Each item holds a numbered ticket, so that equal items are told apart
and an item that is changed while it waits stays the same one.  The line keeps
the order of all arrivals and a record of all departures.

A program that keeps a plain list of items is compared with a line through
`Line.items`, on which every operation below is an ordinary list operation.
-/

namespace TicketLine

structure Departure (Item Reason : Type*) where
  reason : Reason
  ticket : Nat
  item : Item

structure Line (Item Reason : Type*) where
  waiting : List (Nat × Item)
  arrivals : List Nat
  departures : List (Departure Item Reason)

namespace Line

variable {Item Reason : Type*}

def empty : Line Item Reason where
  waiting := []
  arrivals := []
  departures := []

/-- The line without its tickets. -/
def items (line : Line Item Reason) : List Item := line.waiting.map Prod.snd

def tickets (line : Line Item Reason) : List Nat := line.waiting.map Prod.fst

/-- The tickets of all departures. -/
def gone (line : Line Item Reason) : List Nat :=
  line.departures.map Departure.ticket

/-- The items that departed for a reason, in the order of their departures. -/
def goneItems [DecidableEq Reason] (line : Line Item Reason) (reason : Reason) :
    List Item :=
  (line.departures.filter (·.reason = reason)).map Departure.item

/-- How often a ticket has departed for a reason. -/
def goneFor [DecidableEq Reason] (line : Line Item Reason) (reason : Reason)
    (ticket : Nat) : Nat :=
  line.departures.countP fun departure =>
    departure.reason = reason && departure.ticket = ticket

def arrive (line : Line Item Reason) (ticket : Nat) (item : Item) :
    Line Item Reason :=
  { line with
    waiting := line.waiting ++ [(ticket, item)]
    arrivals := line.arrivals ++ [ticket] }

/-- One position leaves; the item may be changed on its way out. -/
def leaveAt (line : Line Item Reason) (reason : Reason) (index : Nat)
    (handOut : Item → Item) : Line Item Reason :=
  match line.waiting[index]? with
  | none => line
  | some (ticket, item) =>
      { line with
        waiting := line.waiting.eraseIdx index
        departures := line.departures ++ [⟨reason, ticket, handOut item⟩] }

/-- Every item with a property leaves. -/
def leaveIf (line : Line Item Reason) (reason : Reason) (leaves : Item → Bool) :
    Line Item Reason :=
  { line with
    waiting := line.waiting.filter fun entry => !leaves entry.2
    departures := line.departures ++
      (line.waiting.filter fun entry => leaves entry.2).map fun entry =>
        ⟨reason, entry.1, entry.2⟩ }

def changeAt (line : Line Item Reason) (index : Nat) (change : Item → Item) :
    Line Item Reason :=
  { line with waiting := line.waiting.modify index (Prod.map id change) }

def changeAll (line : Line Item Reason) (change : Item → Item) :
    Line Item Reason :=
  { line with waiting := line.waiting.map (Prod.map id change) }

section Items

variable (line : Line Item Reason)

@[simp]
theorem items_arrive (ticket : Nat) (item : Item) :
    (line.arrive ticket item).items = line.items ++ [item] := by
  simp [arrive, items]

@[simp]
theorem items_leaveAt (reason : Reason) (index : Nat) (handOut : Item → Item) :
    (line.leaveAt reason index handOut).items = line.items.eraseIdx index := by
  unfold leaveAt
  split
  · next outside =>
      have short : line.items.length ≤ index := by
        simpa [items] using outside
      rw [List.eraseIdx_of_length_le short]
  · exact (List.eraseIdx_map _ _ _).symm

@[simp]
theorem items_leaveIf (reason : Reason) (leaves : Item → Bool) :
    (line.leaveIf reason leaves).items =
      line.items.filter fun item => !leaves item := by
  simp [leaveIf, items, List.filter_map, Function.comp_def]

@[simp]
theorem items_changeAt (index : Nat) (change : Item → Item) :
    (line.changeAt index change).items = line.items.modify index change := by
  apply List.ext_getElem?
  intro position
  simp only [items, changeAt, List.getElem?_map, List.getElem?_modify]
  cases line.waiting[position]? with
  | none => simp
  | some entry => by_cases same : index = position <;> simp [same]

@[simp]
theorem items_changeAll (change : Item → Item) :
    (line.changeAll change).items = line.items.map change := by
  simp [items, changeAll, Function.comp_def]

end Items

section GoneItems

variable [DecidableEq Reason] (line : Line Item Reason) (reason : Reason)

@[simp]
theorem goneItems_arrive (ticket : Nat) (item : Item) :
    (line.arrive ticket item).goneItems reason = line.goneItems reason :=
  rfl

@[simp]
theorem goneItems_changeAt (index : Nat) (change : Item → Item) :
    (line.changeAt index change).goneItems reason = line.goneItems reason :=
  rfl

@[simp]
theorem goneItems_changeAll (change : Item → Item) :
    (line.changeAll change).goneItems reason = line.goneItems reason :=
  rfl

theorem goneItems_leaveAt {index : Nat} {item : Item}
    (found : line.items[index]? = some item) (handOut : Item → Item) :
    (line.leaveAt reason index handOut).goneItems reason =
      line.goneItems reason ++ [handOut item] := by
  rw [items, List.getElem?_map, Option.map_eq_some_iff] at found
  obtain ⟨⟨ticket, stored⟩, atIndex, rfl⟩ := found
  simp [leaveAt, atIndex, goneItems]

theorem goneItems_leaveIf_of_ne {other : Reason} (differs : other ≠ reason)
    (leaves : Item → Bool) :
    (line.leaveIf other leaves).goneItems reason = line.goneItems reason := by
  simp [leaveIf, goneItems, List.filter_map, Function.comp_def, differs]

end GoneItems

section Tickets

variable (line : Line Item Reason)

@[simp]
theorem tickets_arrive (ticket : Nat) (item : Item) :
    (line.arrive ticket item).tickets = line.tickets ++ [ticket] := by
  simp [arrive, tickets]

@[simp]
theorem tickets_changeAt (index : Nat) (change : Item → Item) :
    (line.changeAt index change).tickets = line.tickets := by
  apply List.ext_getElem?
  intro position
  simp only [tickets, changeAt, List.getElem?_map, List.getElem?_modify]
  cases line.waiting[position]? with
  | none => simp
  | some entry => by_cases same : index = position <;> simp [same]

@[simp]
theorem tickets_changeAll (change : Item → Item) :
    (line.changeAll change).tickets = line.tickets := by
  simp [tickets, changeAll, Function.comp_def]

theorem tickets_leaveAt (reason : Reason) (index : Nat)
    (handOut : Item → Item) :
    List.Sublist (line.leaveAt reason index handOut).tickets line.tickets := by
  unfold leaveAt
  split
  · exact List.Sublist.refl _
  · exact (List.eraseIdx_sublist _ _).map Prod.fst

@[simp]
theorem arrivals_leaveAt (reason : Reason) (index : Nat)
    (handOut : Item → Item) :
    (line.leaveAt reason index handOut).arrivals = line.arrivals := by
  unfold leaveAt
  split <;> rfl

theorem tickets_leaveIf (reason : Reason) (leaves : Item → Bool) :
    List.Sublist (line.leaveIf reason leaves).tickets line.tickets :=
  List.filter_sublist.map Prod.fst

end Tickets

/-- An entry of a changed line is an old one or the changed one. -/
theorem mem_changeAt {line : Line Item Reason} {index : Nat}
    {change : Item → Item} {entry : Nat × Item}
    (member : entry ∈ (line.changeAt index change).waiting) :
    entry ∈ line.waiting ∨
      ∃ item, (entry.1, item) ∈ line.waiting ∧ entry.2 = change item := by
  obtain ⟨position, found⟩ := List.mem_iff_getElem?.mp member
  rw [changeAt, List.getElem?_modify, Option.map_eq_map,
    Option.map_eq_some_iff] at found
  obtain ⟨old, atPosition, same⟩ := found
  have stored := List.mem_of_getElem? atPosition
  split at same
  · subst same
    exact .inr ⟨old.2, stored, rfl⟩
  · subst same
    exact .inl stored

theorem mem_of_mem_leaveAt {line : Line Item Reason} {reason : Reason}
    {index : Nat} {handOut : Item → Item} {entry : Nat × Item}
    (member : entry ∈ (line.leaveAt reason index handOut).waiting) :
    entry ∈ line.waiting := by
  unfold leaveAt at member
  split at member
  · exact member
  · exact List.mem_of_mem_eraseIdx member

theorem mem_departures_leaveAt {line : Line Item Reason} {reason : Reason}
    {index : Nat} {handOut : Item → Item} {departure : Departure Item Reason}
    (member : departure ∈ (line.leaveAt reason index handOut).departures) :
    departure ∈ line.departures ∨ departure.reason = reason := by
  unfold leaveAt at member
  split at member
  · exact .inl member
  · rcases List.mem_append.mp member with old | new
    · exact .inl old
    · rw [List.mem_singleton.mp new]
      exact .inr rfl

theorem mem_departures_leaveIf {line : Line Item Reason} {reason : Reason}
    {leaves : Item → Bool} {departure : Departure Item Reason}
    (member : departure ∈ (line.leaveIf reason leaves).departures) :
    departure ∈ line.departures ∨
      departure.reason = reason ∧ leaves departure.item = true := by
  rcases List.mem_append.mp member with old | new
  · exact .inl old
  · obtain ⟨entry, leaving, rfl⟩ := List.mem_map.mp new
    exact .inr ⟨rfl, (List.mem_filter.mp leaving).2⟩

/-- Every ticket that has arrived is waiting or gone, as often as it arrived,
and the line is in the order of arrival. -/
structure Conserved (line : Line Item Reason) : Prop where
  accounted : (line.tickets ++ line.gone).Perm line.arrivals
  inOrder : List.Sublist line.tickets line.arrivals

namespace Conserved

variable {line : Line Item Reason}

theorem empty : (Line.empty : Line Item Reason).Conserved where
  accounted := .nil
  inOrder := List.Sublist.refl _

theorem arrive (conserved : line.Conserved) (ticket : Nat) (item : Item) :
    (line.arrive ticket item).Conserved where
  accounted := by
    rw [tickets_arrive, List.append_assoc]
    have moved : (line.tickets ++ ([ticket] ++ line.gone)).Perm
        (line.tickets ++ (line.gone ++ [ticket])) :=
      List.perm_append_comm.append_left line.tickets
    rw [← List.append_assoc line.tickets line.gone] at moved
    exact moved.trans (conserved.accounted.append_right [ticket])
  inOrder := by
    rw [tickets_arrive]
    exact conserved.inOrder.append (List.Sublist.refl _)

theorem leaveAt (conserved : line.Conserved) (reason : Reason) (index : Nat)
    (handOut : Item → Item) : (line.leaveAt reason index handOut).Conserved where
  accounted := by
    unfold Line.leaveAt
    split
    · exact conserved.accounted
    · next ticket item found =>
        obtain ⟨below, atIndex⟩ := List.getElem?_eq_some_iff.mp found
        have split : (ticket :: (line.waiting.eraseIdx index).map Prod.fst).Perm
            line.tickets := by
          have whole := (List.getElem_cons_eraseIdx_perm below).map Prod.fst
          rw [atIndex] at whole
          exact whole
        have moved : (line.gone ++ [ticket]).Perm (ticket :: line.gone) :=
          List.perm_append_singleton _ _
        have together := (moved.append_left
          ((line.waiting.eraseIdx index).map Prod.fst)).trans
            List.perm_middle
        simp only [tickets, gone, List.map_append, List.map_singleton] at *
        exact (together.trans (split.append_right _)).trans conserved.accounted
  inOrder := by
    rw [arrivals_leaveAt]
    exact (tickets_leaveAt line reason index handOut).trans conserved.inOrder

theorem leaveIf (conserved : line.Conserved) (reason : Reason)
    (leaves : Item → Bool) : (line.leaveIf reason leaves).Conserved where
  accounted := by
    let kept := (line.waiting.filter fun entry => !leaves entry.2).map Prod.fst
    let leaving := (line.waiting.filter fun entry => leaves entry.2).map Prod.fst
    have split : (leaving ++ kept).Perm line.tickets := by
      rw [tickets, ← List.map_append]
      exact (List.filter_append_perm _ _).map Prod.fst
    have record : (line.leaveIf reason leaves).gone = line.gone ++ leaving := by
      simp [gone, Line.leaveIf, leaving, Function.comp_def]
    calc
      (line.leaveIf reason leaves).tickets ++ (line.leaveIf reason leaves).gone =
          kept ++ (line.gone ++ leaving) := by rw [record]; rfl
      List.Perm _ (kept ++ (leaving ++ line.gone)) :=
        List.perm_append_comm.append_left kept
      _ = kept ++ leaving ++ line.gone := (List.append_assoc _ _ _).symm
      List.Perm _ (leaving ++ kept ++ line.gone) :=
        List.perm_append_comm.append_right line.gone
      List.Perm _ (line.tickets ++ line.gone) := split.append_right line.gone
      List.Perm _ line.arrivals := conserved.accounted
  inOrder := (tickets_leaveIf line reason leaves).trans conserved.inOrder

theorem changeAt (conserved : line.Conserved) (index : Nat)
    (change : Item → Item) : (line.changeAt index change).Conserved where
  accounted := by
    rw [tickets_changeAt]
    exact conserved.accounted
  inOrder := by
    rw [tickets_changeAt]
    exact conserved.inOrder

theorem changeAll (conserved : line.Conserved) (change : Item → Item) :
    (line.changeAll change).Conserved where
  accounted := by
    rw [tickets_changeAll]
    exact conserved.accounted
  inOrder := by
    rw [tickets_changeAll]
    exact conserved.inOrder

/-- Distinct arrivals have distinct tickets in the line. -/
theorem tickets_nodup (conserved : line.Conserved)
    (distinct : line.arrivals.Nodup) : line.tickets.Nodup :=
  distinct.sublist conserved.inOrder

/-- Who stands further ahead has arrived earlier. -/
theorem arrived_before (conserved : line.Conserved) {first second : Nat}
    {ahead behind : Nat × Item} (before : first < second)
    (firstAt : line.waiting[first]? = some ahead)
    (secondAt : line.waiting[second]? = some behind) :
    List.Sublist [ahead.1, behind.1] line.arrivals := by
  have early : ahead ∈ line.waiting.take second := by
    rw [List.mem_iff_getElem?]
    exact ⟨first, by rw [List.getElem?_take_of_lt before, firstAt]⟩
  have late : behind ∈ line.waiting.drop second := by
    rw [List.mem_iff_getElem?]
    exact ⟨0, by rw [List.getElem?_drop, Nat.add_zero, secondAt]⟩
  have pair : List.Sublist ([ahead] ++ [behind]) line.waiting := by
    rw [← List.take_append_drop second line.waiting]
    exact (List.singleton_sublist.mpr early).append
      (List.singleton_sublist.mpr late)
  exact (pair.map Prod.fst).trans conserved.inOrder

end Conserved

section Places

variable [DecidableEq Reason] [Fintype Reason] {line : Line Item Reason}

/-- Every departure has one reason. -/
theorem sum_goneFor (ticket : Nat) :
    ∑ reason, line.goneFor reason ticket = line.gone.count ticket := by
  unfold goneFor gone
  induction line.departures with
  | nil => simp
  | cons departure departures ih =>
      have head : ∑ reason, (if (departure.reason = reason &&
          departure.ticket = ticket) = true then 1 else 0) =
            if departure.ticket = ticket then 1 else 0 := by
        by_cases same : departure.ticket = ticket
        · simp [same]
        · simp [same]
      simp only [List.countP_cons, Finset.sum_add_distrib, ih, head,
        List.map_cons, List.count_cons, beq_iff_eq]

/-- A ticket that has arrived is at exactly one place: in the line once, or
gone once and for one reason. -/
theorem Conserved.onePlace (conserved : line.Conserved)
    (distinct : line.arrivals.Nodup) {ticket : Nat}
    (arrived : ticket ∈ line.arrivals) :
    line.tickets.count ticket + ∑ reason, line.goneFor reason ticket = 1 := by
  rw [sum_goneFor, ← List.count_append, conserved.accounted.count_eq]
  exact List.count_eq_one_of_mem distinct arrived

end Places

/-- A property of tickets and items that holds of all who wait and of all who
have left. -/
structure Everywhere (holds : Nat → Item → Prop) (line : Line Item Reason) :
    Prop where
  waiting : ∀ entry ∈ line.waiting, holds entry.1 entry.2
  departed : ∀ departure ∈ line.departures, holds departure.ticket departure.item

namespace Everywhere

variable {line : Line Item Reason} {holds : Nat → Item → Prop}

theorem arrive (everywhere : line.Everywhere holds) {ticket : Nat} {item : Item}
    (arriving : holds ticket item) : (line.arrive ticket item).Everywhere holds where
  waiting entry member := by
    rcases List.mem_append.mp member with old | new
    · exact everywhere.waiting entry old
    · rw [List.mem_singleton.mp new]
      exact arriving
  departed := everywhere.departed

theorem leaveAt (everywhere : line.Everywhere holds) (reason : Reason)
    (index : Nat) {handOut : Item → Item}
    (kept : ∀ ticket item, holds ticket item → holds ticket (handOut item)) :
    (line.leaveAt reason index handOut).Everywhere holds := by
  unfold Line.leaveAt
  split
  · exact everywhere
  · next ticket item found =>
      refine ⟨?_, ?_⟩
      · intro entry member
        exact everywhere.waiting entry (List.mem_of_mem_eraseIdx member)
      · intro departure member
        rcases List.mem_append.mp member with old | new
        · exact everywhere.departed departure old
        · rw [List.mem_singleton.mp new]
          exact kept ticket item
            (everywhere.waiting _ (List.mem_of_getElem? found))

theorem leaveIf (everywhere : line.Everywhere holds) (reason : Reason)
    (leaves : Item → Bool) : (line.leaveIf reason leaves).Everywhere holds where
  waiting entry member :=
    everywhere.waiting entry (List.mem_of_mem_filter member)
  departed departure member := by
    rcases List.mem_append.mp member with old | new
    · exact everywhere.departed departure old
    · obtain ⟨entry, leaving, rfl⟩ := List.mem_map.mp new
      exact everywhere.waiting entry (List.mem_of_mem_filter leaving)

theorem changeAt (everywhere : line.Everywhere holds) (index : Nat)
    {change : Item → Item}
    (kept : ∀ ticket item, holds ticket item → holds ticket (change item)) :
    (line.changeAt index change).Everywhere holds where
  waiting entry member := by
    rcases mem_changeAt member with old | ⟨item, old, same⟩
    · exact everywhere.waiting entry old
    · rw [same]
      exact kept entry.1 item (everywhere.waiting _ old)
  departed := everywhere.departed

theorem changeAll (everywhere : line.Everywhere holds) {change : Item → Item}
    (kept : ∀ ticket item, holds ticket item → holds ticket (change item)) :
    (line.changeAll change).Everywhere holds where
  waiting entry member := by
    obtain ⟨old, stored, rfl⟩ := List.mem_map.mp member
    exact kept old.1 old.2 (everywhere.waiting old stored)
  departed := everywhere.departed

end Everywhere

end Line

end TicketLine
