import Mathlib.Algebra.Order.Field.Power
import Mathlib.Tactic.Linarith

/-!
# Growth under a cap

A quantity that grows by a constant factor from step to step, is cut off at a
cap, and gets a spread on top.  The cap bounds the quantity, and the sum only
where there is room for the spread.
-/

namespace CappedGrowth

variable {Value : Type*} [Field Value] [LinearOrder Value]

/-- The spread is added behind the cap. -/
def capped (cap spread value : Value) : Value := min value cap + spread

/-- The quantity after some steps. -/
def grown (initial factor : Value) (steps : ℤ) : Value := initial * factor ^ steps

variable [IsStrictOrderedRing Value]
variable {cap spread value initial factor : Value} {steps more : ℤ}

theorem capped_mono (cap spread : Value) : Monotone (capped cap spread) := by
  intro value greater le
  unfold capped
  gcongr

/-- The cap is kept exactly without a spread, or with room for it. -/
theorem capped_le_iff (spreadNonneg : 0 ≤ spread) :
    capped cap spread value ≤ cap ↔ spread = 0 ∨ value + spread ≤ cap := by
  unfold capped
  rcases le_total value cap with below | above
  · rw [min_eq_left below]
    constructor
    · exact .inr
    · rintro (rfl | room)
      · linarith
      · exact room
  · rw [min_eq_right above]
    constructor
    · intro kept
      left
      linarith
    · rintro (rfl | room)
      · linarith
      · linarith

theorem capped_nonneg (capNonneg : 0 ≤ cap) (spreadNonneg : 0 ≤ spread)
    (valueNonneg : 0 ≤ value) : 0 ≤ capped cap spread value :=
  add_nonneg (le_min valueNonneg capNonneg) spreadNonneg

theorem capped_lt {limit : Value} (room : cap + spread < limit) :
    capped cap spread value < limit := by
  have le : min value cap ≤ cap := min_le_right value cap
  unfold capped
  linarith

theorem grown_nonneg (initialNonneg : 0 ≤ initial) (factorNonneg : 0 ≤ factor) :
    0 ≤ grown initial factor steps :=
  mul_nonneg initialNonneg (zpow_nonneg factorNonneg steps)

theorem grown_le (initialNonneg : 0 ≤ initial) (growing : 1 ≤ factor)
    (notMore : steps ≤ more) : grown initial factor steps ≤ grown initial factor more :=
  mul_le_mul_of_nonneg_left (zpow_le_zpow_right₀ growing notMore) initialNonneg

end CappedGrowth
