import Mathlib.Data.List.InsertIdx
import Mathlib.Data.List.Nodup

/-!
# Lists with distinct keys

A list of items whose keys are pairwise distinct serves as a finite map.  These
are the facts about removing and replacing single positions in such a list.
-/

namespace DistinctKeys

variable {Item Key : Type*} {items : List Item}

/-- Appending an item with a new key. -/
theorem nodup_map_append_singleton (key : Item → Key)
    (distinct : (items.map key).Nodup) {new : Item}
    (fresh : ∀ item ∈ items, key item ≠ key new) :
    ((items ++ [new]).map key).Nodup := by
  rw [List.map_append, List.nodup_append]
  refine ⟨distinct, List.nodup_singleton _, ?_⟩
  intro itemKey member other single
  obtain ⟨item, itemMember, rfl⟩ := List.mem_map.mp member
  rw [List.mem_singleton.mp single]
  exact fresh item itemMember

/-- Removing a position removes the key that was there. -/
theorem key_ne_of_mem_eraseIdx (key : Item → Key)
    (distinct : (items.map key).Nodup) {index : Nat} {removed item : Item}
    (found : items[index]? = some removed)
    (member : item ∈ items.eraseIdx index) : key item ≠ key removed := by
  intro same
  obtain ⟨other, apart, foundOther⟩ := List.mem_eraseIdx_iff_getElem?.mp member
  have below : other < (items.map key).length := by
    rw [List.length_map]
    exact (List.getElem?_eq_some_iff.mp foundOther).1
  apply apart
  apply (List.getElem?_inj below distinct).mp
  rw [List.getElem?_map, List.getElem?_map, found, foundOther,
    Option.map_some, Option.map_some, same]

/-- The items before and behind a position are what is left without it. -/
theorem exists_split {index : Nat} {removed : Item}
    (found : items[index]? = some removed) :
    ∃ before behind, items = before ++ removed :: behind ∧
      items.eraseIdx index = before ++ behind := by
  obtain ⟨below, atIndex⟩ := List.getElem?_eq_some_iff.mp found
  refine ⟨items.take index, items.drop (index + 1), ?_,
    List.eraseIdx_eq_take_drop_succ _ _⟩
  rw [← atIndex, List.getElem_cons_drop, List.take_append_drop]

/-- An item is the removed one or one of the others. -/
theorem eq_or_mem_eraseIdx {index : Nat} {removed item : Item}
    (found : items[index]? = some removed) (member : item ∈ items) :
    item = removed ∨ item ∈ items.eraseIdx index := by
  obtain ⟨before, behind, split, rest⟩ := exists_split found
  rw [rest, List.mem_append]
  rw [split, List.mem_append, List.mem_cons] at member
  rcases member with early | same | late
  · exact .inr (.inl early)
  · exact .inl same
  · exact .inr (.inr late)

/-- Every other item stays. -/
theorem mem_eraseIdx_of_key_ne (key : Item → Key) {index : Nat} {removed item : Item}
    (found : items[index]? = some removed) (member : item ∈ items)
    (apart : key item ≠ key removed) : item ∈ items.eraseIdx index := by
  rcases eq_or_mem_eraseIdx found member with rfl | left
  · exact absurd rfl apart
  · exact left

/-- The items before and behind an item have other keys. -/
theorem key_ne_of_split (key : Item → Key) {before behind : List Item}
    {item other : Item} (distinct : ((before ++ item :: behind).map key).Nodup)
    (member : other ∈ before ++ behind) : key other ≠ key item := by
  rw [List.map_append, List.map_cons, List.nodup_append, List.nodup_cons] at distinct
  obtain ⟨_, ⟨notBehind, _⟩, notBefore⟩ := distinct
  intro same
  rcases List.mem_append.mp member with early | late
  · exact notBefore _ (List.mem_map_of_mem early) _ List.mem_cons_self same
  · exact notBehind (same ▸ List.mem_map_of_mem late)

/-- Whatever stands at a position, among items with other keys it is the only one
with its key. -/
theorem eq_of_key_eq (key : Item → Key) {before behind : List Item}
    {item other : Item} (apart : ∀ other ∈ before ++ behind, key other ≠ key item)
    (member : other ∈ before ++ item :: behind) (same : key other = key item) :
    other = item := by
  rw [List.mem_append, List.mem_cons] at member
  rcases member with early | rfl | late
  · exact absurd same (apart other (List.mem_append_left _ early))
  · rfl
  · exact absurd same (apart other (List.mem_append_right _ late))

/-- Changing one position in a way that a view does not show leaves the view of
the list as it is. -/
theorem map_modify {View : Type*} (view : Item → View) (change : Item → Item)
    (index : Nat) (unseen : ∀ item, view (change item) = view item) :
    (items.modify index change).map view = items.map view := by
  apply List.ext_getElem?
  intro position
  simp only [List.getElem?_map, List.getElem?_modify]
  split
  · cases items[position]? <;> simp [unseen]
  · simp

end DistinctKeys
