import Mathlib.Algebra.BigOperators.Group.List.Basic
import Mathlib.Data.List.AList
import Mathlib.Data.List.Induction
import Mathlib.Data.Nat.ModEq

/-!
# Sums by key

A map collects the amounts of some items, each under the key of its item, in a
counter that wraps around.  It has the keys that occur, and under each of them the
sum of the amounts there; all its sums together are the sum of all amounts.
-/

namespace KeyedSums

variable {Key Item : Type*} [DecidableEq Key]

def add (modulus : Nat) (sums : AList fun _ : Key => Nat) (key : Key)
    (amount : Nat) : AList fun _ : Key => Nat :=
  sums.insert key (((sums.lookup key).getD 0 + amount) % modulus)

def collect (modulus : Nat) (keyOf : Item → Key) (amount : Item → Nat)
    (items : List Item) : AList fun _ : Key => Nat :=
  items.foldl (fun sums item => add modulus sums (keyOf item) (amount item)) ∅

/-- The sum of the amounts under a key. -/
def sumAt (keyOf : Item → Key) (amount : Item → Nat) (items : List Item) (key : Key) :
    Nat :=
  ((items.filter fun item => keyOf item = key).map amount).sum

section Collecting

variable {modulus : Nat} {keyOf : Item → Key} {amount : Item → Nat} {key : Key}

theorem collect_append (items : List Item) (item : Item) :
    collect modulus keyOf amount (items ++ [item]) =
      add modulus (collect modulus keyOf amount items) (keyOf item) (amount item) := by
  simp [collect]

theorem sumAt_append (items : List Item) (item : Item) :
    sumAt keyOf amount (items ++ [item]) key =
      sumAt keyOf amount items key + if keyOf item = key then amount item else 0 := by
  by_cases same : keyOf item = key <;> simp [sumAt, List.filter_append, same]

theorem sumAt_of_absent {items : List Item} (absent : key ∉ items.map keyOf) :
    sumAt keyOf amount items key = 0 := by
  have empty : items.filter (fun item => keyOf item = key) = [] := by
    rw [List.filter_eq_nil_iff]
    intro item member same
    exact absent (List.mem_map.mpr ⟨item, member, of_decide_eq_true same⟩)
  rw [sumAt, empty]
  rfl

/-- Under every key that occurs there is the sum of its amounts. -/
theorem lookup_collect (items : List Item) (key : Key) :
    (collect modulus keyOf amount items).lookup key =
      if key ∈ items.map keyOf then some (sumAt keyOf amount items key % modulus)
      else none := by
  induction items using List.reverseRecOn with
  | nil => rfl
  | append_singleton items item ih =>
      rw [collect_append, add, sumAt_append]
      by_cases same : keyOf item = key
      · subst same
        have present : keyOf item ∈ (items ++ [item]).map keyOf := by simp
        rw [AList.lookup_insert, if_pos present, if_pos rfl, ih]
        split
        · rw [Option.getD_some, Nat.mod_add_mod]
        · next absent => rw [Option.getD_none, sumAt_of_absent absent]
      · have others : key ∈ (items ++ [item]).map keyOf ↔ key ∈ items.map keyOf := by
          simp [Ne.symm same]
        rw [AList.lookup_insert_ne (Ne.symm same), ih, if_neg same, Nat.add_zero]
        simp only [others]

theorem getD_lookup_collect (items : List Item) (key : Key) :
    ((collect modulus keyOf amount items).lookup key).getD 0 =
      sumAt keyOf amount items key % modulus := by
  rw [lookup_collect]
  split
  · rfl
  · next absent => rw [sumAt_of_absent absent, Nat.zero_mod, Option.getD_none]

theorem sum_indicator {keys : List Key} (distinct : keys.Nodup) {key : Key}
    (member : key ∈ keys) (value : Nat) :
    (keys.map fun other => if key = other then value else 0).sum = value := by
  induction keys with
  | nil => cases member
  | cons first keys ih =>
      obtain ⟨notLater, laterDistinct⟩ := List.nodup_cons.mp distinct
      rw [List.map_cons, List.sum_cons]
      rcases List.mem_cons.mp member with rfl | later
      · have others : (keys.map fun other => if key = other then value else 0).sum = 0 := by
          rw [List.sum_eq_zero_iff_forall_eq_nat]
          intro summand inMap
          obtain ⟨other, inKeys, rfl⟩ := List.mem_map.mp inMap
          rw [if_neg]
          rintro rfl
          exact notLater inKeys
        rw [if_pos rfl, others, Nat.add_zero]
      · have other : key ≠ first := by
          rintro rfl
          exact notLater later
        rw [if_neg other, ih laterDistinct later, Nat.zero_add]

/-- Over a list that has every key once, the sums add up to the whole. -/
theorem sum_sumAt (amount : Item → Nat) {keys : List Key} (distinct : keys.Nodup)
    (items : List Item)
    (covered : ∀ item ∈ items, keyOf item ∈ keys) :
    (keys.map (sumAt keyOf amount items)).sum = (items.map amount).sum := by
  induction items using List.reverseRecOn with
  | nil =>
      refine List.sum_eq_zero_iff_forall_eq_nat.mpr ?_
      intro summand inMap
      obtain ⟨key, _, rfl⟩ := List.mem_map.mp inMap
      rfl
  | append_singleton items item ih =>
      obtain ⟨earlier, last⟩ := List.forall_mem_append.mp covered
      have added := sum_indicator distinct (last item (by simp)) (amount item)
      calc (keys.map (sumAt keyOf amount (items ++ [item]))).sum
          _ = (keys.map fun key => sumAt keyOf amount items key +
                if keyOf item = key then amount item else 0).sum := by
              simp only [← sumAt_append]
          _ = (items.map amount).sum + amount item := by
              rw [List.sum_map_add, ih earlier, added]
          _ = ((items ++ [item]).map amount).sum := by simp

/-- The same for the counters, which wrap around. -/
theorem sum_collect (modulus : Nat) (amount : Item → Nat) {keys : List Key}
    (distinct : keys.Nodup) (items : List Item)
    (covered : ∀ item ∈ items, keyOf item ∈ keys) :
    (keys.map fun key => ((collect modulus keyOf amount items).lookup key).getD 0).sum ≡
      (items.map amount).sum [MOD modulus] := by
  have wrapped : ∀ keys : List Key,
      (keys.map fun key => ((collect modulus keyOf amount items).lookup key).getD 0).sum ≡
        (keys.map (sumAt keyOf amount items)).sum [MOD modulus] := by
    intro keys
    induction keys with
    | nil => rfl
    | cons key keys ih =>
        rw [List.map_cons, List.sum_cons, List.map_cons, List.sum_cons,
          getD_lookup_collect]
        exact (Nat.mod_modEq _ _).add ih
  rw [← sum_sumAt amount distinct items covered]
  exact wrapped keys

end Collecting

end KeyedSums
