import NetGuardian.VersionOrder

/-!
# Versions in order

`version_lt` compares what it keeps of the two versions as lists.  It is the
order of lists seen through the parsing, and thus a strict weak order on all
texts, malformed ones among them: two texts are on a par if the same components
are kept of them.
-/

namespace NetGuardian

/-- Neither of the two versions is less than the other. -/
def OnAPar (left right : String) : Prop :=
  ¬ versionLt left right = true ∧ ¬ versionLt right left = true

section Order

variable {left middle right : String}

theorem versionLt_iff_parts :
    versionLt left right = true ↔ versionParts left < versionParts right :=
  versionPartsLt_iff

/-- The order of versions is that of lists, pulled back along the parsing. -/
theorem versionLt_eq_preimage :
    (fun left right => versionLt left right = true) =
      Order.Preimage versionParts (· < ·) := by
  funext left right
  exact propext versionLt_iff_parts

instance versionLt_isStrictWeakOrder :
    IsStrictWeakOrder String fun left right => versionLt left right = true := by
  have ofLists : IsStrictWeakOrder (List Nat) (· < ·) :=
    isStrictWeakOrder_of_isOrderConnected
  rw [versionLt_eq_preimage]
  infer_instance

theorem onAPar_iff : OnAPar left right ↔ versionParts left = versionParts right := by
  rw [OnAPar, versionLt_iff_parts, versionLt_iff_parts, not_lt, not_lt]
  constructor
  · rintro ⟨notLess, notGreater⟩
    exact le_antisymm notGreater notLess
  · intro same
    exact ⟨same.ge, same.le⟩

theorem onAPar_equivalence : Equivalence OnAPar where
  refl _ := onAPar_iff.mpr rfl
  symm par := onAPar_iff.mpr (onAPar_iff.mp par).symm
  trans par other := onAPar_iff.mpr ((onAPar_iff.mp par).trans (onAPar_iff.mp other))

end Order

/-- On all texts `version_lt` is irreflexive, asymmetric and transitive, and the
texts on a par are those of which the same components are kept. -/
theorem versionLt_strictWeakOrder :
    (∀ version, ¬ versionLt version version = true) ∧
      (∀ left right, versionLt left right = true → ¬ versionLt right left = true) ∧
        (∀ left middle right, versionLt left middle = true →
          versionLt middle right = true → versionLt left right = true) ∧
          Equivalence OnAPar ∧
            ∀ left right, OnAPar left right ↔ versionParts left = versionParts right := by
  let less : String → String → Prop := fun left right => versionLt left right = true
  refine ⟨?_, ?_, ?_, onAPar_equivalence, fun _ _ => onAPar_iff⟩
  · exact irrefl_of less
  · exact fun left right => @asymm_of _ less left right _
  · exact fun left middle right => @trans_of _ less left middle right _

end NetGuardian
