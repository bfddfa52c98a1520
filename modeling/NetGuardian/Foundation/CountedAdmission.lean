import Mathlib.Data.List.Perm.Subperm
import Mathlib.Data.List.Nodup

/-!
# Admission by the number admitted before

Visitors come one after the other, and whether one of them is admitted depends on
how many have been admitted before it.  The order in which they come makes no
difference exactly if, for the numbers that can come up, the admission of every
visitor is what it would have been as the first one.
-/

namespace CountedAdmission

variable {Visitor : Type*}

/-- The admitted ones of a line of visitors, behind `count` admitted before. -/
def admitted (admits : Visitor → Nat → Bool) : Nat → List Visitor → List Visitor
  | _, [] => []
  | count, visitor :: visitors =>
      if admits visitor count then visitor :: admitted admits (count + 1) visitors
      else admitted admits count visitors

/-- Those that would be admitted as the first one. -/
def welcome (admits : Visitor → Nat → Bool) (visitors : List Visitor) :
    List Visitor :=
  visitors.filter (admits · 0)

/-- The numbers that a visitor can meet do not change its admission: it meets all
welcome visitors but itself at most. -/
def Stable (admits : Visitor → Nat → Bool) (visitors : List Visitor) : Prop :=
  ∀ visitor ∈ visitors, ∀ count,
    count < (welcome admits visitors).length ∨
        count = (welcome admits visitors).length ∧ admits visitor 0 = false →
      admits visitor count = admits visitor 0

/-- The order of the visitors makes no difference. -/
def OrderFree (admits : Visitor → Nat → Bool) (visitors : List Visitor) : Prop :=
  ∀ one other, one.Perm visitors → other.Perm visitors →
    ∀ visitor, visitor ∈ admitted admits 0 one ↔ visitor ∈ admitted admits 0 other

section Admission

variable {admits : Visitor → Nat → Bool} {visitors : List Visitor}
variable {visitor : Visitor} {count : Nat}

theorem admitted_append (first rest : List Visitor) :
    admitted admits count (first ++ rest) = admitted admits count first ++
      admitted admits (count + (admitted admits count first).length) rest := by
  induction first generalizing count with
  | nil => rfl
  | cons visitor first ih =>
      rw [List.cons_append, admitted, admitted]
      split
      · rw [ih, List.length_cons, List.cons_append, Nat.add_right_comm,
          Nat.add_assoc]
      · exact ih

theorem admitted_sublist : List.Sublist (admitted admits count visitors) visitors := by
  induction visitors generalizing count with
  | nil => exact .refl _
  | cons visitor visitors ih =>
      rw [admitted]
      split
      · exact ih.cons_cons visitor
      · exact ih.cons visitor

/-- With admissions that the numbers do not change, the welcome ones get in. -/
theorem admitted_eq_welcome {limit : Nat}
    (room : count + (welcome admits visitors).length ≤ limit)
    (stable : ∀ visitor ∈ visitors, ∀ number, number < limit ∨
      number = limit ∧ admits visitor 0 = false →
        admits visitor number = admits visitor 0) :
    admitted admits count visitors = welcome admits visitors := by
  induction visitors generalizing count with
  | nil => rfl
  | cons visitor visitors ih =>
      have rest : ∀ other ∈ visitors, ∀ number, number < limit ∨
          number = limit ∧ admits other 0 = false →
            admits other number = admits other 0 :=
        fun other member => stable other (List.mem_cons_of_mem _ member)
      have own := stable visitor List.mem_cons_self count
      cases first : admits visitor 0 with
      | true =>
          have joined : welcome admits (visitor :: visitors) =
              visitor :: welcome admits visitors := List.filter_cons_of_pos first
          rw [joined, List.length_cons] at room
          rw [admitted, own (.inl (by omega)), first, if_pos rfl, joined,
            ih (by omega) rest]
      | false =>
          have refused : ¬ admits visitor 0 = true := by simp [first]
          have skipped : welcome admits (visitor :: visitors) =
              welcome admits visitors := List.filter_cons_of_neg refused
          rw [skipped] at room
          have meets : count < limit ∨ count = limit ∧ admits visitor 0 = false := by
            rw [first]
            simp only [and_true]
            omega
          rw [admitted, own meets, first, if_neg Bool.false_ne_true, skipped]
          exact ih room rest

theorem orderFree_of_stable (stable : Stable admits visitors) :
    OrderFree admits visitors := by
  have welcomed : ∀ line, line.Perm visitors → ∀ visitor,
      visitor ∈ admitted admits 0 line ↔ visitor ∈ welcome admits visitors := by
    intro line perm visitor
    have same : (welcome admits line).Perm (welcome admits visitors) :=
      perm.filter _
    rw [@admitted_eq_welcome _ admits line 0 (welcome admits visitors).length]
    · exact same.mem_iff
    · rw [Nat.zero_add]
      exact Nat.le_of_eq same.length_eq
    · exact fun other member => stable other (perm.subset member)
  intro one other onePerm otherPerm visitor
  rw [welcomed one onePerm, welcomed other otherPerm]

/-- A visitor that comes once is admitted by the number admitted before it. -/
theorem mem_admitted_iff {before after : List Visitor}
    (distinct : (before ++ visitor :: after).Nodup) :
    visitor ∈ admitted admits 0 (before ++ visitor :: after) ↔
      admits visitor (admitted admits 0 before).length = true := by
  rw [List.nodup_middle, List.nodup_cons, List.mem_append, not_or] at distinct
  obtain ⟨⟨notBefore, notAfter⟩, _⟩ := distinct
  have elsewhere : ∀ {number line}, visitor ∉ line →
      visitor ∉ admitted admits number line :=
    fun absent member => absent (admitted_sublist.subset member)
  rw [admitted_append, List.mem_append, Nat.zero_add, admitted,
    or_iff_right (elsewhere notBefore)]
  split
  · next fits => simp [fits]
  · next fits => simp [fits, elsewhere notAfter]

/-- In every order the welcome ones get in, since each is the first in some. -/
theorem mem_admitted_of_orderFree (distinct : visitors.Nodup)
    (orderFree : OrderFree admits visitors) {line : List Visitor}
    (perm : line.Perm visitors) :
    visitor ∈ admitted admits 0 line ↔ visitor ∈ welcome admits visitors := by
  rw [welcome, List.mem_filter]
  by_cases member : visitor ∈ visitors
  · obtain ⟨before, after, rfl⟩ := List.append_of_mem member
    have first : (visitor :: (before ++ after)).Perm (before ++ visitor :: after) :=
      List.perm_middle.symm
    rw [orderFree line _ perm first, and_iff_right member]
    exact @mem_admitted_iff _ admits visitor [] (before ++ after)
      (first.nodup_iff.mpr distinct)
  · refine iff_of_false (fun here => member ?_) (fun here => member here.1)
    exact perm.subset (admitted_sublist.subset here)

/-- A visitor that comes behind welcome ones is admitted by their number. -/
theorem admits_length_of_orderFree (distinct : visitors.Nodup)
    (orderFree : OrderFree admits visitors) {before after : List Visitor}
    (perm : (before ++ visitor :: after).Perm visitors)
    (allWelcome : ∀ other ∈ before, other ∈ welcome admits visitors) :
    admits visitor before.length = admits visitor 0 := by
  have once : (before ++ visitor :: after).Nodup := perm.nodup_iff.mpr distinct
  have allIn : before ⊆ admitted admits 0 before := by
    intro other member
    have here := (mem_admitted_of_orderFree distinct orderFree perm).mpr
      (allWelcome other member)
    rw [admitted_append, List.mem_append] at here
    rcases here with early | late
    · exact early
    · exact absurd rfl ((List.nodup_append.mp once).2.2 other member other
        (admitted_sublist.subset late))
  have short : before.length ≤ (admitted admits 0 before).length :=
    ((List.nodup_append.mp once).1.subperm allIn).length_le
  have whole : admitted admits 0 before = before :=
    admitted_sublist.eq_of_length_le short
  have own := @mem_admitted_iff _ admits visitor before after once
  rw [mem_admitted_of_orderFree distinct orderFree perm, whole, welcome,
    List.mem_filter, and_iff_right (perm.subset (by simp))] at own
  exact Bool.eq_iff_iff.mpr own.symm

theorem stable_of_orderFree (distinct : visitors.Nodup)
    (orderFree : OrderFree admits visitors) : Stable admits visitors := by
  classical
  intro visitor member count meets
  have others : List.Sublist ((welcome admits visitors).erase visitor)
      (visitors.erase visitor) := List.filter_sublist.erase visitor
  have enough : count ≤ ((welcome admits visitors).erase visitor).length := by
    rw [List.length_erase]
    split
    · next welcomed =>
        have first := (List.mem_filter.mp welcomed).2
        rcases meets with fewer | ⟨_, refused⟩
        · omega
        · rw [first] at refused
          cases refused
    · omega
  have early : List.Sublist (((welcome admits visitors).erase visitor).take count)
      (visitors.erase visitor) := (List.take_sublist _ _).trans others
  obtain ⟨rest, split⟩ := early.exists_perm_append
  have line : (((welcome admits visitors).erase visitor).take count ++
      visitor :: rest).Perm visitors :=
    List.perm_middle.trans
      ((split.symm.cons visitor).trans (List.perm_cons_erase member).symm)
  have stays := admits_length_of_orderFree distinct orderFree line
    fun other here => List.mem_of_mem_erase (List.mem_of_mem_take here)
  rwa [List.length_take, Nat.min_eq_left enough] at stays

/-- Among distinct visitors the order makes no difference exactly if no number
that can come up changes an admission. -/
theorem orderFree_iff_stable (distinct : visitors.Nodup) :
    OrderFree admits visitors ↔ Stable admits visitors :=
  ⟨stable_of_orderFree distinct, orderFree_of_stable⟩

end Admission

end CountedAdmission
