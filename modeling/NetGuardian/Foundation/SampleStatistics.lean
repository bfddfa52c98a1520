import Mathlib.Algebra.Order.BigOperators.Group.List
import Mathlib.Algebra.Order.Field.Basic
import Mathlib.Order.Bounds.Basic

/-!
# Mean and maximum of samples

The mean of a list of samples lies between its bounds.  A running maximum that
starts from a floor is the greatest sample, provided that there is a sample and
none lies below the floor.
-/

namespace SampleStatistics

section Mean

variable {Number : Type*} [Field Number] [LinearOrder Number]
  [IsStrictOrderedRing Number]
variable {samples : List Number} {bound : Number}

theorem length_pos (nonempty : samples ≠ []) : (0 : Number) < samples.length :=
  Nat.cast_pos.mpr (List.length_pos_of_ne_nil nonempty)

theorem mean_le (nonempty : samples ≠ []) (below : ∀ sample ∈ samples, sample ≤ bound) :
    samples.sum / samples.length ≤ bound := by
  rw [div_le_iff₀ (length_pos nonempty), mul_comm, ← nsmul_eq_mul]
  exact List.sum_le_card_nsmul samples bound below

theorem le_mean (nonempty : samples ≠ []) (above : ∀ sample ∈ samples, bound ≤ sample) :
    bound ≤ samples.sum / samples.length := by
  rw [le_div_iff₀ (length_pos nonempty), mul_comm, ← nsmul_eq_mul]
  exact List.card_nsmul_le_sum samples bound above

end Mean

section Maximum

variable {Number : Type*} [LinearOrder Number] {samples : List Number} {floor : Number}

theorem isGreatest_foldl_max (nonempty : samples ≠ [])
    (above : ∀ sample ∈ samples, floor ≤ sample) :
    IsGreatest { sample | sample ∈ samples } (samples.foldl max floor) := by
  obtain ⟨greatest, found⟩ := Option.isSome_iff_exists.mp
    (List.isSome_max?_of_ne_nil nonempty)
  obtain ⟨member, bounds⟩ := List.max?_eq_some_iff.mp found
  rw [List.foldl_max, found, Option.getD_some, max_eq_right (above greatest member)]
  exact ⟨member, bounds⟩

end Maximum

end SampleStatistics
