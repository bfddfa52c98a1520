import NetGuardian.CommunityPlugins
import Mathlib.Data.List.Lex

/-!
# The order of versions

Versions are meant to be compared number by number, with missing numbers counted
as zero.  `version_lt` first drops the components that are no `u32`, and then
compares what is left as lists, so that a shorter list is below every longer one
that it begins.  The two orders agree on versions of one length with small
components, and not on `1.0` and `1.0.0`.
-/

namespace NetGuardian

theorem numeric_of_all {parts : List (List Char)}
    (all : parts.all (fun part => !part.isEmpty && part.all Char.isDigit) = true) :
    ∀ part ∈ parts, part ≠ [] ∧ ∀ digit ∈ part, digit.isDigit = true := by
  simpa using all

/-- A version of one or more components, all of them decimal digits. -/
structure DottedVersion where
  text : String
  numeric : ∀ part ∈ text.toList.splitOn '.',
    part ≠ [] ∧ ∀ digit ∈ part, digit.isDigit = true

/-- Component by component, with missing components counted as zero. -/
def NumericallyBelow (left right : List Nat) : Prop :=
  ∃ place, left.getD place 0 < right.getD place 0 ∧
    ∀ earlier < place, left.getD earlier 0 = right.getD earlier 0

namespace DottedVersion

/-- The components, however large. -/
def components (version : DottedVersion) : List Nat :=
  (version.text.toList.splitOn '.').map PlainText.digitsValue

def Below (left right : DottedVersion) : Prop :=
  NumericallyBelow left.components right.components

/-- Below, or the same in every component. -/
def AtMost (left right : DottedVersion) : Prop :=
  left.Below right ∨
    ∀ place, left.components.getD place 0 = right.components.getD place 0

/-- `CURRENT_API_VERSION`. -/
def current : DottedVersion where
  text := currentApiVersion
  numeric := numeric_of_all (by decide)

end DottedVersion

/-- The components that are a `u32`. -/
def fittingParts (parts : List Nat) : List Nat :=
  parts.filter fun part => part < 2 ^ 32

/-- The right version is the left one with more components behind it, all of one
kind. -/
def ExtendedBy (kind : Nat → Prop) (left right : List Nat) : Prop :=
  ∃ rest, rest ≠ [] ∧ right = left ++ rest ∧ ∀ part ∈ rest, kind part

/-- The same number, written with more zeros. -/
def ZeroExtended : List Nat → List Nat → Prop :=
  ExtendedBy fun part => part = 0

/-- A greater number, by components that are all dropped. -/
def DroppedExtended : List Nat → List Nat → Prop :=
  ExtendedBy fun part => 2 ^ 32 ≤ part

/-- The first two components that differ are not both a `u32`.  One of them is
dropped, and whatever stands behind it decides in its place. -/
def DropsFirstDifference : List Nat → List Nat → Prop
  | left :: lefts, right :: rights =>
      if left = right then DropsFirstDifference lefts rights
      else 2 ^ 32 ≤ left ∨ 2 ^ 32 ≤ right
  | _, _ => False

section Extensions

variable {kind : Nat → Prop} {left right : List Nat}

theorem extendedBy_nil_iff :
    ExtendedBy kind [] right ↔ right ≠ [] ∧ ∀ part ∈ right, kind part := by
  constructor
  · rintro ⟨rest, nonempty, rfl, allOfKind⟩
    exact ⟨nonempty, allOfKind⟩
  · rintro ⟨nonempty, allOfKind⟩
    exact ⟨right, nonempty, rfl, allOfKind⟩

theorem not_extendedBy_nil_right : ¬ ExtendedBy kind left [] := by
  rintro ⟨rest, nonempty, ended, _⟩
  exact nonempty (List.append_eq_nil_iff.mp ended.symm).2

theorem extendedBy_cons_iff {first second : Nat} :
    ExtendedBy kind (first :: left) (second :: right) ↔
      first = second ∧ ExtendedBy kind left right := by
  constructor
  · rintro ⟨rest, nonempty, extended, allOfKind⟩
    obtain ⟨rfl, rfl⟩ := List.cons.inj extended
    exact ⟨rfl, rest, nonempty, rfl, allOfKind⟩
  · rintro ⟨rfl, rest, nonempty, rfl, allOfKind⟩
    exact ⟨rest, nonempty, rfl, allOfKind⟩

end Extensions

section Numeric

variable {left right : List Nat}

/-- The first components decide, or the others do. -/
theorem numericallyBelow_iff :
    NumericallyBelow left right ↔
      left.headD 0 < right.headD 0 ∨
        left.headD 0 = right.headD 0 ∧ NumericallyBelow left.tail right.tail := by
  have atHead : ∀ parts : List Nat, parts.getD 0 0 = parts.headD 0 := by
    intro parts
    cases parts <;> rfl
  have behind : ∀ (parts : List Nat) (place : Nat),
      parts.getD (place + 1) 0 = parts.tail.getD place 0 := by
    intro parts place
    cases parts <;> simp
  constructor
  · rintro ⟨place, below, same⟩
    cases place with
    | zero =>
        rw [atHead, atHead] at below
        exact .inl below
    | succ place =>
        have sameHead := same 0 (Nat.succ_pos _)
        rw [atHead, atHead] at sameHead
        rw [behind, behind] at below
        refine .inr ⟨sameHead, place, below, fun earlier before => ?_⟩
        have sameBehind := same (earlier + 1) (Nat.succ_lt_succ before)
        rwa [behind, behind] at sameBehind
  · rintro (below | ⟨sameHead, place, below, same⟩)
    · refine ⟨0, ?_, fun earlier before => absurd before (Nat.not_lt_zero _)⟩
      rwa [atHead, atHead]
    · refine ⟨place + 1, by rwa [behind, behind], fun earlier before => ?_⟩
      cases earlier with
      | zero => rwa [atHead, atHead]
      | succ earlier =>
          rw [behind, behind]
          exact same earlier (Nat.lt_of_succ_lt_succ before)

theorem not_numericallyBelow_nil : ¬ NumericallyBelow left [] := by
  rintro ⟨place, below, _⟩
  exact absurd below (by simp)

theorem nil_numericallyBelow_iff :
    NumericallyBelow [] right ↔ ∃ part ∈ right, part ≠ 0 := by
  induction right with
  | nil => simp [not_numericallyBelow_nil]
  | cons part right ih =>
      rw [numericallyBelow_iff, List.tail_nil, List.tail_cons, ih]
      simp only [List.headD_nil, List.headD_cons, List.mem_cons, exists_eq_or_imp,
        Nat.pos_iff_ne_zero]
      by_cases zero : part = 0
      · simp [zero]
      · simp [zero]

theorem cons_numericallyBelow_iff {first second : Nat} :
    NumericallyBelow (first :: left) (second :: right) ↔
      first < second ∨ first = second ∧ NumericallyBelow left right :=
  numericallyBelow_iff

/-- Two versions are the same in every component, or one of them is below the
other. -/
theorem numericallyBelow_trichotomy (left right : List Nat) :
    NumericallyBelow left right ∨
      (∀ place, left.getD place 0 = right.getD place 0) ∨
        NumericallyBelow right left := by
  by_cases same : ∀ place, left.getD place 0 = right.getD place 0
  · exact .inr (.inl same)
  · rw [not_forall] at same
    have before := fun earlier => @Nat.find_min _ _ same earlier
    rcases Nat.lt_or_gt_of_ne (Nat.find_spec same) with below | above
    · exact .inl ⟨_, below, fun earlier smaller =>
        not_not.mp (before earlier smaller)⟩
    · exact .inr (.inr ⟨_, above, fun earlier smaller =>
        (not_not.mp (before earlier smaller)).symm⟩)

theorem NumericallyBelow.asymm (below : NumericallyBelow left right) :
    ¬ NumericallyBelow right left := by
  rintro ⟨other, above, sameBefore⟩
  obtain ⟨place, below, same⟩ := below
  rcases Nat.lt_trichotomy place other with before | rfl | after
  · have := sameBefore place before
    omega
  · omega
  · have := same other after
    omega

end Numeric

theorem DottedVersion.atMost_iff {left right : DottedVersion} :
    left.AtMost right ↔ ¬ right.Below left := by
  constructor
  · rintro (below | same) above
    · exact below.asymm above
    · obtain ⟨place, strictly, _⟩ := above
      rw [same place] at strictly
      exact absurd strictly (Nat.lt_irrefl _)
  · intro notAbove
    rcases numericallyBelow_trichotomy left.components right.components with
      below | same | above
    · exact .inl below
    · exact .inr same
    · exact absurd above notAbove

section Comparison

variable {left right : List Nat}

/-- The loop over the two lists with its tie-break is the order of lists. -/
theorem versionPartsLt_iff : versionPartsLt left right = true ↔ left < right := by
  induction left generalizing right with
  | nil => cases right <;> simp [versionPartsLt]
  | cons first left ih =>
      cases right with
      | nil => simp [versionPartsLt]
      | cons second right =>
          rw [versionPartsLt, List.cons_lt_cons_iff]
          by_cases same : first = second
          · rw [if_neg (by simpa using same), ih]
            simp [same]
          · rw [if_pos same, decide_eq_true_eq]
            simp [same]

theorem fittingParts_cons_of_lt {part : Nat} {parts : List Nat}
    (fits : part < 2 ^ 32) :
    fittingParts (part :: parts) = part :: fittingParts parts :=
  List.filter_cons_of_pos (by simpa using fits)

theorem fittingParts_cons_of_not_lt {part : Nat} {parts : List Nat}
    (large : ¬ part < 2 ^ 32) : fittingParts (part :: parts) = fittingParts parts :=
  List.filter_cons_of_neg (by simpa using large)

/-- A component that both have in common does not decide. -/
theorem fittingParts_cons_lt_iff {first : Nat} :
    fittingParts (first :: left) < fittingParts (first :: right) ↔
      fittingParts left < fittingParts right := by
  by_cases fits : first < 2 ^ 32
  · rw [fittingParts_cons_of_lt fits, fittingParts_cons_of_lt fits,
      List.cons_lt_cons_iff]
    simp
  · rw [fittingParts_cons_of_not_lt fits, fittingParts_cons_of_not_lt fits]

theorem nil_lt_fittingParts_iff :
    [] < fittingParts right ↔ ∃ part ∈ right, part < 2 ^ 32 := by
  have nonempty : [] < fittingParts right ↔ fittingParts right ≠ [] := by
    cases fittingParts right <;> simp
  rw [nonempty, fittingParts, ne_eq, List.filter_eq_nil_iff]
  simp

/-- Two different components that come first decide alone. -/
theorem cons_numericallyBelow_of_ne {first second : Nat} (differ : first ≠ second) :
    NumericallyBelow (first :: left) (second :: right) ↔ first < second := by
  rw [cons_numericallyBelow_iff]
  exact or_iff_left fun same => differ same.1

/-- With zeros behind it the number stays, but the list grows. -/
theorem zeroExtended_misjudged (extended : ZeroExtended left right) :
    fittingParts left < fittingParts right ∧ ¬ NumericallyBelow left right := by
  induction left generalizing right with
  | nil =>
      obtain ⟨nonempty, zeros⟩ := extendedBy_nil_iff.mp extended
      obtain ⟨part, isPart⟩ := List.exists_mem_of_ne_nil _ nonempty
      have zero : part = 0 := zeros part isPart
      have fits : part < 2 ^ 32 := by omega
      refine ⟨nil_lt_fittingParts_iff.mpr ⟨part, isPart, fits⟩, ?_⟩
      rw [nil_numericallyBelow_iff]
      rintro ⟨other, isOther, notZero⟩
      exact notZero (zeros other isOther)
  | cons first left ih =>
      cases right with
      | nil => exact absurd extended not_extendedBy_nil_right
      | cons second right =>
          obtain ⟨rfl, extendedBehind⟩ := extendedBy_cons_iff.mp extended
          obtain ⟨less, notBelow⟩ := ih extendedBehind
          refine ⟨fittingParts_cons_lt_iff.mpr less, ?_⟩
          rw [cons_numericallyBelow_iff]
          simpa using notBelow

/-- With dropped components behind it the number grows, but the list stays. -/
theorem droppedExtended_misjudged (extended : DroppedExtended left right) :
    ¬ fittingParts left < fittingParts right ∧ NumericallyBelow left right := by
  induction left generalizing right with
  | nil =>
      obtain ⟨nonempty, dropped⟩ := extendedBy_nil_iff.mp extended
      obtain ⟨part, isPart⟩ := List.exists_mem_of_ne_nil _ nonempty
      have large : 2 ^ 32 ≤ part := dropped part isPart
      constructor
      · change ¬ [] < fittingParts right
        rw [nil_lt_fittingParts_iff]
        rintro ⟨other, isOther, fits⟩
        exact absurd fits (Nat.not_lt.mpr (dropped other isOther))
      · exact nil_numericallyBelow_iff.mpr ⟨part, isPart, by omega⟩
  | cons first left ih =>
      cases right with
      | nil => exact absurd extended not_extendedBy_nil_right
      | cons second right =>
          obtain ⟨rfl, extendedBehind⟩ := extendedBy_cons_iff.mp extended
          obtain ⟨notLess, below⟩ := ih extendedBehind
          refine ⟨fun less => notLess (fittingParts_cons_lt_iff.mp less), ?_⟩
          exact cons_numericallyBelow_iff.mpr (.inr ⟨rfl, below⟩)

/-- A version that has ended is compared rightly with the rest of a longer one,
unless this is all zeros or all dropped. -/
theorem nil_lt_fittingParts_iff_numericallyBelow
    (notZeros : ¬ ZeroExtended [] right) (notDropped : ¬ DroppedExtended [] right) :
    [] < fittingParts right ↔ NumericallyBelow [] right := by
  rw [nil_lt_fittingParts_iff, nil_numericallyBelow_iff]
  constructor
  · rintro ⟨part, isPart, _⟩
    by_contra noOther
    push Not at noOther
    exact notZeros (extendedBy_nil_iff.mpr ⟨List.ne_nil_of_mem isPart, noOther⟩)
  · rintro ⟨part, isPart, _⟩
    by_contra noOther
    push Not at noOther
    exact notDropped (extendedBy_nil_iff.mpr ⟨List.ne_nil_of_mem isPart, noOther⟩)

/-- The lists of the fitting components compare as the numbers do, where the first
difference is kept and neither extends the other by zeros or dropped components. -/
theorem fittingParts_lt_iff_numericallyBelow
    (kept : ¬ DropsFirstDifference left right)
    (notZeros : ¬ ZeroExtended left right) (notDropped : ¬ DroppedExtended left right) :
    fittingParts left < fittingParts right ↔ NumericallyBelow left right := by
  induction left generalizing right with
  | nil => exact nil_lt_fittingParts_iff_numericallyBelow notZeros notDropped
  | cons first left ih =>
      cases right with
      | nil => exact iff_of_false (List.not_lt_nil _) not_numericallyBelow_nil
      | cons second right =>
          rw [DropsFirstDifference] at kept
          by_cases same : first = second
          · subst same
            rw [if_pos rfl] at kept
            have behind := ih kept
              (fun zeros => notZeros (extendedBy_cons_iff.mpr ⟨rfl, zeros⟩))
              (fun dropped => notDropped (extendedBy_cons_iff.mpr ⟨rfl, dropped⟩))
            rw [fittingParts_cons_lt_iff, behind, cons_numericallyBelow_iff]
            simp
          · rw [if_neg same, not_or, not_le, not_le] at kept
            rw [cons_numericallyBelow_of_ne same, fittingParts_cons_of_lt kept.1,
              fittingParts_cons_of_lt kept.2, List.cons_lt_cons_iff]
            simp [same]

end Comparison

namespace DottedVersion

variable (left right : DottedVersion)

/-- The components that `version_lt` keeps. -/
theorem versionParts_text (version : DottedVersion) :
    versionParts version.text = fittingParts version.components := by
  have read : ∀ parts : List (List Char),
      (∀ part ∈ parts, part ≠ [] ∧ ∀ digit ∈ part, digit.isDigit = true) →
        parts.filterMap (PlainText.parseUnsigned (2 ^ 32)) =
          fittingParts (parts.map PlainText.digitsValue) := by
    intro parts numeric
    induction parts with
    | nil => rfl
    | cons part parts ih =>
        obtain ⟨⟨nonempty, digits⟩, others⟩ := List.forall_mem_cons.mp numeric
        have parsed : PlainText.parseUnsigned (2 ^ 32) part =
            if PlainText.digitsValue part < 2 ^ 32 then
              some (PlainText.digitsValue part)
            else none := by
          have allDigits : part.all Char.isDigit = true := List.all_eq_true.mpr digits
          simp [PlainText.parseUnsigned, PlainText.withoutPlus_of_isDigit digits,
            nonempty, allDigits]
        rw [List.map_cons, List.filterMap_cons, parsed, ih others]
        by_cases fits : PlainText.digitsValue part < 2 ^ 32
        · rw [if_pos fits, fittingParts_cons_of_lt fits]
        · rw [if_neg fits, fittingParts_cons_of_not_lt fits]
  exact read _ version.numeric

theorem versionLt_iff :
    versionLt left.text right.text = true ↔
      fittingParts left.components < fittingParts right.components := by
  rw [versionLt, versionPartsLt_iff, versionParts_text, versionParts_text]

/-- The right version is the left one with zeros behind it. -/
def ZeroExtends : Prop :=
  ZeroExtended left.components right.components

/-- The right version is the left one with dropped components behind it. -/
def DroppedExtends : Prop :=
  DroppedExtended left.components right.components

/-- A dropped component is the first difference of the two. -/
def DropsDifference : Prop :=
  DropsFirstDifference left.components right.components

theorem versionLt_of_zeroExtends (zeros : left.ZeroExtends right) :
    versionLt left.text right.text = true ∧ ¬ left.Below right := by
  rw [versionLt_iff]
  exact zeroExtended_misjudged zeros

theorem versionLt_of_droppedExtends (dropped : left.DroppedExtends right) :
    ¬ versionLt left.text right.text = true ∧ left.Below right := by
  rw [versionLt_iff]
  exact droppedExtended_misjudged dropped

/-- Where `version_lt` is right about two versions. -/
theorem versionLt_right_iff (kept : ¬ left.DropsDifference right) :
    (versionLt left.text right.text = true ↔ left.Below right) ↔
      ¬ left.ZeroExtends right ∧ ¬ left.DroppedExtends right := by
  constructor
  · intro agree
    constructor
    · intro zeros
      obtain ⟨less, notBelow⟩ := versionLt_of_zeroExtends left right zeros
      exact notBelow (agree.mp less)
    · intro dropped
      obtain ⟨notLess, below⟩ := versionLt_of_droppedExtends left right dropped
      exact notLess (agree.mpr below)
  · rintro ⟨notZeros, notDropped⟩
    rw [versionLt_iff]
    exact fittingParts_lt_iff_numericallyBelow kept notZeros notDropped

end DottedVersion

/-- The manifest of a plugin with its two bounds. -/
def CommunityPluginManifest.withBounds (manifest : CommunityPluginManifest)
    (minApi api : DottedVersion) : CommunityPluginManifest :=
  { manifest with compatibility := some ⟨api.text, minApi.text⟩ }

/-- A plugin that declares its bounds is accepted if neither comparison rejects
it. -/
theorem CommunityPluginManifest.isCompatible_of_declared
    {manifest : CommunityPluginManifest} {compat : CompatibilityInfo}
    (declared : manifest.compatibility = some compat) :
    manifest.isCompatible = .ok () ↔
      ¬ versionLt currentApiVersion compat.minApiVersion = true ∧
        ¬ versionLt compat.apiVersion currentApiVersion = true := by
  rw [isCompatible, declared]
  by_cases tooNew : versionLt currentApiVersion compat.minApiVersion = true
  · simp [tooNew]
  · by_cases tooOld : versionLt compat.apiVersion currentApiVersion = true
    · simp [tooNew, tooOld]
    · simp [tooNew, tooOld]

theorem CommunityPluginManifest.isCompatible_withBounds
    (manifest : CommunityPluginManifest) (minApi api : DottedVersion) :
    (manifest.withBounds minApi api).isCompatible = .ok () ↔
      ¬ versionLt currentApiVersion minApi.text = true ∧
        ¬ versionLt api.text currentApiVersion = true := by
  have declared : (manifest.withBounds minApi api).compatibility =
      some ⟨api.text, minApi.text⟩ := rfl
  exact isCompatible_of_declared declared

/-- `CURRENT_API_VERSION` has no dropped component behind another version. -/
theorem DottedVersion.not_droppedExtends_current (api : DottedVersion) :
    ¬ api.DroppedExtends .current := by
  rintro ⟨rest, nonempty, extended, dropped⟩
  obtain ⟨part, isPart⟩ := List.exists_mem_of_ne_nil _ nonempty
  have isCurrent : part ∈ DottedVersion.current.components := by
    rw [extended]
    exact List.mem_append_right _ isPart
  have small : ∀ part ∈ DottedVersion.current.components, part < 2 ^ 32 := by decide
  exact absurd (small part isCurrent) (Nat.not_lt.mpr (dropped part isPart))

/-- Where a plugin is judged rightly although one of its bounds is compared
wrongly: the other bound rejects it, as it should or by its own mistake. -/
structure RightlyJudged (minApi api : DottedVersion) : Prop where
  sameMin : DottedVersion.current.ZeroExtends minApi → api.Below .current
  laterMin : DottedVersion.current.DroppedExtends minApi →
    api.Below .current ∨ api.ZeroExtends .current
  sameApi : api.ZeroExtends .current → DottedVersion.current.Below minApi

/-- A plugin is judged by its two bounds as the numbers say, where the first
differences to the current version are kept. -/
theorem CommunityPluginManifest.isCompatible_right_iff
    (manifest : CommunityPluginManifest) {minApi api : DottedVersion}
    (keptMin : ¬ DottedVersion.current.DropsDifference minApi)
    (keptApi : ¬ api.DropsDifference .current) :
    ((manifest.withBounds minApi api).isCompatible = .ok () ↔
        minApi.AtMost .current ∧ DottedVersion.current.AtMost api) ↔
      RightlyJudged minApi api := by
  rw [isCompatible_withBounds, DottedVersion.atMost_iff, DottedVersion.atMost_iff]
  have lower := DottedVersion.versionLt_right_iff .current minApi keptMin
  have upper := DottedVersion.versionLt_right_iff api .current keptApi
  have sameMin := DottedVersion.versionLt_of_zeroExtends .current minApi
  have laterMin := DottedVersion.versionLt_of_droppedExtends .current minApi
  have sameApi := DottedVersion.versionLt_of_zeroExtends api .current
  have noLaterApi := api.not_droppedExtends_current
  change (versionLt currentApiVersion minApi.text = true ↔ _) ↔ _ at lower
  change (versionLt api.text currentApiVersion = true ↔ _) ↔ _ at upper
  change _ → versionLt currentApiVersion minApi.text = true ∧ _ at sameMin
  change _ → ¬ versionLt currentApiVersion minApi.text = true ∧ _ at laterMin
  change _ → versionLt api.text currentApiVersion = true ∧ _ at sameApi
  constructor
  · intro agree
    refine ⟨fun zeros => ?_, fun dropped => ?_, fun zeros => ?_⟩
    · by_contra notBelow
      exact (agree.mpr ⟨(sameMin zeros).2, notBelow⟩).1 (sameMin zeros).1
    · by_contra neither
      obtain ⟨notBelow, notZeros⟩ := not_or.mp neither
      have right := upper.mpr ⟨notZeros, noLaterApi⟩
      have accepted := agree.mp ⟨(laterMin dropped).1, fun less => notBelow (right.mp less)⟩
      exact accepted.1 (laterMin dropped).2
    · by_contra notBelow
      exact (agree.mpr ⟨notBelow, (sameApi zeros).2⟩).2 (sameApi zeros).1
  · rintro ⟨rejectedSame, rejectedLater, rejectedApi⟩
    by_cases zeroMin : DottedVersion.current.ZeroExtends minApi
    · exact iff_of_false (fun accepted => accepted.1 (sameMin zeroMin).1)
        (fun due => due.2 (rejectedSame zeroMin))
    by_cases zeroApi : api.ZeroExtends .current
    · exact iff_of_false (fun accepted => accepted.2 (sameApi zeroApi).1)
        (fun due => due.1 (rejectedApi zeroApi))
    have apiRight := upper.mpr ⟨zeroApi, noLaterApi⟩
    by_cases droppedMin : DottedVersion.current.DroppedExtends minApi
    · have tooOld : api.Below .current :=
        (rejectedLater droppedMin).resolve_right zeroApi
      exact iff_of_false (fun accepted => accepted.2 (apiRight.mpr tooOld))
        (fun due => due.2 tooOld)
    · rw [lower.mpr ⟨zeroMin, droppedMin⟩, apiRight]

/-- Where the first difference is not dropped, versions are compared by their
numbers exactly if the right one is not the left one with zeros or with dropped
components behind it, and plugins are accepted by their numbers exactly if such a
bound does not decide. -/
theorem comparison_numeric_iff (left right minApi api : DottedVersion)
    (manifest : CommunityPluginManifest) :
    (¬ left.DropsDifference right →
      ((versionLt left.text right.text = true ↔ left.Below right) ↔
        ¬ left.ZeroExtends right ∧ ¬ left.DroppedExtends right)) ∧
    (¬ DottedVersion.current.DropsDifference minApi → ¬ api.DropsDifference .current →
      (((manifest.withBounds minApi api).isCompatible = .ok () ↔
          minApi.AtMost .current ∧ DottedVersion.current.AtMost api) ↔
        RightlyJudged minApi api)) := by
  constructor
  · exact DottedVersion.versionLt_right_iff left right
  · exact manifest.isCompatible_right_iff

/-- `1.0.3` is below `1.0.12`, and a plugin for the versions from `0.1.0` to `0.2`
is accepted. -/
theorem comparison_numeric_iff_accepted :
    ∃ left right minApi api : DottedVersion, left.text = "1.0.3" ∧
      right.text = "1.0.12" ∧ minApi.text = "0.1.0" ∧ api.text = "0.2" ∧
      versionLt left.text right.text = true ∧
      ∃ manifest ∈ builtinIndex,
        (manifest.withBounds minApi api).isCompatible = .ok () := by
  let left : DottedVersion := ⟨"1.0.3", numeric_of_all (by decide)⟩
  let right : DottedVersion := ⟨"1.0.12", numeric_of_all (by decide)⟩
  let minApi : DottedVersion := ⟨"0.1.0", numeric_of_all (by decide)⟩
  let api : DottedVersion := ⟨"0.2", numeric_of_all (by decide)⟩
  have leftComponents : left.components = [1, 0, 3] := by decide
  have rightComponents : right.components = [1, 0, 12] := by decide
  have minComponents : minApi.components = [0, 1, 0] := by decide
  have apiComponents : api.components = [0, 2] := by decide
  have currentComponents : DottedVersion.current.components = [0, 1, 0] := by decide
  obtain ⟨manifest, isBuiltin⟩ := List.exists_mem_of_ne_nil builtinIndex (by decide)
  obtain ⟨compared, judged⟩ := comparison_numeric_iff left right minApi api manifest
  refine ⟨left, right, minApi, api, rfl, rfl, rfl, rfl, ?_, manifest, isBuiltin, ?_⟩
  · have rightly := (compared (by simp [DottedVersion.DropsDifference, leftComponents,
      rightComponents, DropsFirstDifference])).mpr (by
        simp [DottedVersion.ZeroExtends, DottedVersion.DroppedExtends, ZeroExtended,
          DroppedExtended, leftComponents, rightComponents, extendedBy_cons_iff])
    have below : left.Below right := by
      simp [DottedVersion.Below, leftComponents, rightComponents,
        cons_numericallyBelow_iff]
    exact rightly.mpr below
  · have rightly := (judged
      (by simp [DottedVersion.DropsDifference, currentComponents, minComponents,
        DropsFirstDifference])
      (by simp [DottedVersion.DropsDifference, currentComponents, apiComponents,
        DropsFirstDifference])).mpr
      ⟨by simp [DottedVersion.ZeroExtends, ZeroExtended, currentComponents,
          minComponents, extendedBy_cons_iff, not_extendedBy_nil_right],
        by simp [DottedVersion.DroppedExtends, DroppedExtended, currentComponents,
          minComponents, extendedBy_cons_iff, not_extendedBy_nil_right],
        by simp [DottedVersion.ZeroExtends, ZeroExtended, currentComponents,
          apiComponents, extendedBy_cons_iff]⟩
    have inBounds : minApi.AtMost .current ∧ DottedVersion.current.AtMost api := by
      constructor
      · refine .inr fun place => ?_
        rw [minComponents, currentComponents]
      · refine .inl ?_
        simp [DottedVersion.Below, currentComponents, apiComponents,
          cons_numericallyBelow_iff]
    exact rightly.mpr inBounds

/-- `1.0` is not below `1.0.0`, and a plugin that needs version `0.1.0.0` should
be accepted. -/
theorem shorter_version_is_less :
    versionLt "1.0" "1.0.0" = true ∧ ¬ NumericallyBelow [1, 0] [1, 0, 0] ∧
      ∃ short long : DottedVersion, short.text = "1.0" ∧ long.text = "1.0.0" ∧
        ¬ (versionLt short.text long.text = true ↔ short.Below long) := by
  have notBelow : ¬ NumericallyBelow [1, 0] [1, 0, 0] := by
    rw [cons_numericallyBelow_iff, cons_numericallyBelow_iff, nil_numericallyBelow_iff]
    decide
  let short : DottedVersion := ⟨"1.0", numeric_of_all (by decide)⟩
  let long : DottedVersion := ⟨"1.0.0", numeric_of_all (by decide)⟩
  have shortComponents : short.components = [1, 0] := by decide
  have longComponents : long.components = [1, 0, 0] := by decide
  have less : versionLt "1.0" "1.0.0" = true := by decide
  refine ⟨less, notBelow, short, long, rfl, rfl, ?_⟩
  intro same
  have below := same.mp less
  rw [DottedVersion.Below, shortComponents, longComponents] at below
  exact notBelow below

end NetGuardian
