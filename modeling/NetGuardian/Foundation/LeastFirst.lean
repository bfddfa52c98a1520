import NetGuardian.Foundation.DistinctKeys
import Mathlib.Data.List.MinMax

/-!
# Removing least items first

A list that does not fit is trimmed: the item of the least rank is removed, and
again the least of the others, until the rest fits.  What stays can be told from
the list itself.  An item stays if already the items from some item on that is
not above it fit together, since the trimming stops there at the latest.
-/

namespace LeastFirst

variable {Item Rank : Type*} [LinearOrder Rank]

/-- The items that are not below an item, in the order of the list. -/
def upward (rank : Item → Rank) (items : List Item) (least : Item) : List Item :=
  items.filter fun item => rank least ≤ rank item

/-- The trimming stops before it comes to the item. -/
def Stays (rank : Item → Rank) (fits : List Item → Prop) (items : List Item)
    (item : Item) : Prop :=
  ∃ least ∈ items, rank least ≤ rank item ∧ fits (upward rank items least)

/-- `kept` is left when the least items have been removed until the rest fits;
nothing is left of a list of which no part fits. -/
inductive Trims (rank : Item → Rank) (fits : List Item → Prop) :
    List Item → List Item → Prop
  | exhausted : Trims rank fits [] []
  | fitting {items : List Item} : fits items → Trims rank fits items items
  | remove {items kept : List Item} {index : Nat} {least : Item} :
      ¬ fits items → items[index]? = some least →
        (∀ item ∈ items.eraseIdx index, rank least < rank item) →
          Trims rank fits (items.eraseIdx index) kept →
            Trims rank fits items kept

section Upward

variable {rank : Item → Rank} {items : List Item} {least : Item} {index : Nat}

theorem upward_of_least (isLeast : ∀ item ∈ items, rank least ≤ rank item) :
    upward rank items least = items :=
  List.filter_eq_self.mpr fun item member =>
    decide_eq_true (isLeast item member)

/-- The least item is above nothing that is left. -/
theorem upward_eraseIdx (found : items[index]? = some least) {item : Item}
    (above : rank least < rank item) :
    upward rank (items.eraseIdx index) item = upward rank items item := by
  obtain ⟨before, behind, split, rest⟩ := DistinctKeys.exists_split found
  have dropped : ¬ rank item ≤ rank least := not_le.mpr above
  rw [rest, split]
  simp [upward, List.filter_append, dropped]

end Upward

variable {rank : Item → Rank} {fits : List Item → Prop}
variable {items kept : List Item}

theorem Trims.sublist (trims : Trims rank fits items kept) :
    List.Sublist kept items := by
  induction trims with
  | exhausted => exact .refl _
  | fitting fit => exact .refl _
  | remove unfit found isLeast _ ih => exact ih.trans (List.eraseIdx_sublist _ _)

/-- What is left of a list. -/
theorem Trims.mem_iff (trims : Trims rank fits items kept) {item : Item}
    (member : item ∈ items) :
    item ∈ kept ↔ Stays rank fits items item := by
  induction trims generalizing item with
  | exhausted => cases member
  | @fitting items fit =>
      refine iff_of_true member ?_
      cases best : items.argmin rank with
      | none =>
          rw [List.argmin_eq_none.mp best] at member
          cases member
      | some least =>
          refine ⟨least, List.argmin_mem best, List.le_of_mem_argmin member best,
            ?_⟩
          rw [upward_of_least fun other here => List.le_of_mem_argmin here best]
          exact fit
  | @remove items kept index least unfit found isLeast rest ih =>
      have notBelow : ∀ other ∈ items, rank least ≤ rank other := by
        intro other here
        rcases DistinctKeys.eq_or_mem_eraseIdx found here with rfl | left
        · exact le_rfl
        · exact (isLeast other left).le
      have gone : ¬ Stays rank fits items least := by
        rintro ⟨first, here, notAbove, fit⟩
        rcases DistinctKeys.eq_or_mem_eraseIdx found here with rfl | left
        · rw [upward_of_least notBelow] at fit
          exact unfit fit
        · exact absurd (isLeast first left) (not_lt.mpr notAbove)
      rcases DistinctKeys.eq_or_mem_eraseIdx found member with rfl | left
      · refine iff_of_false (fun stays => ?_) gone
        exact lt_irrefl _ (isLeast item (rest.sublist.subset stays))
      · rw [ih left]
        constructor
        · rintro ⟨first, here, notAbove, fit⟩
          refine ⟨first, (List.eraseIdx_sublist _ _).subset here, notAbove, ?_⟩
          rwa [upward_eraseIdx found (isLeast first here)] at fit
        · rintro ⟨first, here, notAbove, fit⟩
          rcases DistinctKeys.eq_or_mem_eraseIdx found here with rfl | other
          · rw [upward_of_least notBelow] at fit
            exact absurd fit unfit
          · refine ⟨first, other, notAbove, ?_⟩
            rwa [upward_eraseIdx found (isLeast first other)]

end LeastFirst
