import Mathlib.Data.List.Lex
import Mathlib.Order.Monotone.Basic
import Mathlib.Data.Nat.Digits.Defs
import Mathlib.Data.Char

/-!
# Numbers as text, in the order of their texts

Zero-padded decimal numerals of one width are ordered as texts the way they are
ordered as numbers.  So are fractions whose trailing zeros are left out, if what
follows them starts with a character below the digits.

Records of such fields are ordered field by field.  So are positions that are
counted block by block, when every offset stays inside its block.
-/

namespace DecimalText

section Lists

variable {Item : Type*} [LinearOrder Item]

/-- Behind equally long beginnings the rest decides. -/
theorem append_lt_append_iff {first second rest others : List Item}
    (sameLength : first.length = second.length) :
    first ++ rest < second ++ others ↔
      first < second ∨ first = second ∧ rest < others := by
  induction first generalizing second with
  | nil =>
      obtain rfl := List.length_eq_zero_iff.mp sameLength.symm
      simp
  | cons item first ih =>
      cases second with
      | nil => cases sameLength
      | cons other second =>
          have shorter : first.length = second.length := by
            simpa using sameLength
          simp only [List.cons_append, List.cons_lt_cons_iff, ih shorter,
            List.cons.injEq]
          tauto

/-- Nothing of one length is below a list of least items. -/
theorem not_lt_replicate {zero : Item} {items : List Item} {length : Nat}
    (least : ∀ item ∈ items, zero ≤ item) (sameLength : items.length = length) :
    ¬ items < List.replicate length zero := by
  induction items generalizing length with
  | nil =>
      subst sameLength
      exact List.not_lt_nil _
  | cons item items ih =>
      subst sameLength
      rw [List.length_cons, List.replicate_succ, List.cons_lt_cons_iff]
      rintro (below | ⟨_, below⟩)
      · exact absurd below (not_lt_of_ge (least item List.mem_cons_self))
      · exact ih (fun other member => least other (List.mem_cons_of_mem _ member))
          rfl below

/-- Trailing zeros can be left out before a mark that is below them. -/
theorem trimmed_lt {zero mark : Item} (below : mark < zero)
    {kept others rest more : List Item} {zeros otherZeros : Nat}
    (least : ∀ item ∈ kept, zero ≤ item) (otherLeast : ∀ item ∈ others, zero ≤ item)
    (sameLength : kept.length + zeros = others.length + otherZeros)
    (less : kept ++ List.replicate zeros zero <
      others ++ List.replicate otherZeros zero) :
    kept ++ mark :: rest < others ++ mark :: more := by
  induction kept generalizing others with
  | nil =>
      cases others with
      | nil =>
          have same : zeros = otherZeros := by simpa using sameLength
          subst same
          exact absurd less (lt_irrefl _)
      | cons other others =>
          rw [List.nil_append, List.cons_append, List.cons_lt_cons_iff]
          exact .inl (below.trans_le (otherLeast other List.mem_cons_self))
  | cons item kept ih =>
      cases others with
      | nil =>
          have allLeast : ∀ other ∈ item :: kept ++ List.replicate zeros zero,
              zero ≤ other := by
            intro other member
            rcases List.mem_append.mp member with early | late
            · exact least other early
            · exact (List.eq_of_mem_replicate late).ge
          refine absurd less (not_lt_replicate allLeast ?_)
          simpa [Nat.add_right_comm] using sameLength
      | cons other others =>
          simp only [List.cons_append, List.cons_lt_cons_iff] at less ⊢
          rcases less with smaller | ⟨same, less⟩
          · exact .inl smaller
          · refine .inr ⟨same, ih ?_ ?_ ?_ less⟩
            · exact fun digit member => least digit (List.mem_cons_of_mem _ member)
            · exact fun digit member =>
                otherLeast digit (List.mem_cons_of_mem _ member)
            · simp only [List.length_cons] at sameLength
              omega

end Lists

/-- The last `width` decimal digits of a number, with leading zeros. -/
def padded : Nat → Nat → List Char
  | 0, _ => []
  | width + 1, number => padded width (number / 10) ++ [Nat.digitChar (number % 10)]

@[simp]
theorem length_padded (width number : Nat) :
    (padded width number).length = width := by
  induction width generalizing number with
  | zero => rfl
  | succ width ih => simp [padded, ih]

theorem digitChar_lt_iff {one other : Nat} (small : one < 10) (alsoSmall : other < 10) :
    Nat.digitChar one < Nat.digitChar other ↔ one < other := by
  have table : ∀ one < 10, ∀ other < 10,
      (Nat.digitChar one < Nat.digitChar other ↔ one < other) := by decide
  exact table one small other alsoSmall

theorem zero_le_digitChar {digit : Nat} (small : digit < 10) :
    '0' ≤ Nat.digitChar digit := by
  have table : ∀ digit < 10, '0' ≤ Nat.digitChar digit := by decide
  exact table digit small

theorem zero_le_of_mem_padded {width number : Nat} {char : Char}
    (member : char ∈ padded width number) : '0' ≤ char := by
  induction width generalizing number with
  | zero => cases member
  | succ width ih =>
      rcases List.mem_append.mp member with early | last
      · exact ih early
      · rw [List.mem_singleton.mp last]
        exact zero_le_digitChar (Nat.mod_lt _ (by decide))

theorem padded_strictMonoOn (width : Nat) :
    StrictMonoOn (padded width) (Set.Iio (10 ^ width)) := by
  induction width with
  | zero =>
      intro one oneSmall other otherSmall less
      simp only [pow_zero, Set.mem_Iio] at oneSmall otherSmall
      omega
  | succ width ih =>
      intro one oneSmall other otherSmall less
      rw [Set.mem_Iio, pow_succ] at oneSmall otherSmall
      rw [padded, padded, append_lt_append_iff (by simp)]
      rcases Nat.lt_or_ge (one / 10) (other / 10) with smaller | notSmaller
      · exact .inl (ih (Nat.div_lt_of_lt_mul (by omega))
          (Nat.div_lt_of_lt_mul (by omega)) smaller)
      · have same : one / 10 = other / 10 := by omega
        refine .inr ⟨by rw [same], ?_⟩
        rw [List.cons_lt_cons_iff]
        left
        rw [digitChar_lt_iff (Nat.mod_lt _ (by decide)) (Nat.mod_lt _ (by decide))]
        omega

/-- The zeros of a multiple of a power of ten are at its end. -/
theorem padded_mul_pow (width zeros number : Nat) :
    padded (width + zeros) (number * 10 ^ zeros) =
      padded width number ++ List.replicate zeros '0' := by
  induction zeros with
  | zero => simp
  | succ zeros ih =>
      have shift : number * 10 ^ (zeros + 1) = number * 10 ^ zeros * 10 := by
        rw [pow_succ, Nat.mul_assoc]
      rw [← Nat.add_assoc, padded, shift, Nat.mul_div_cancel _ (by decide),
        Nat.mul_mod_left, ih, List.append_assoc, List.replicate_succ']
      rfl

/-- A numeral of fixed width in front of anything. -/
theorem numeral_lt_iff {width one other : Nat} {rest more : List Char}
    (small : one < 10 ^ width) (alsoSmall : other < 10 ^ width) :
    padded width one ++ rest < padded width other ++ more ↔
      one < other ∨ one = other ∧ rest < more := by
  have injective := (padded_strictMonoOn width).injOn.eq_iff small alsoSmall
  rw [append_lt_append_iff (by simp), injective,
    (padded_strictMonoOn width).lt_iff_lt small alsoSmall]

/-- A numeral of fixed width in front of a separator. -/
theorem field_lt_iff {width one other : Nat} {separator : Char}
    {rest more : List Char} (small : one < 10 ^ width)
    (alsoSmall : other < 10 ^ width) :
    padded width one ++ separator :: rest < padded width other ++ separator :: more ↔
      one < other ∨ one = other ∧ rest < more := by
  rw [numeral_lt_iff small alsoSmall, List.cons_lt_cons_iff]
  simp

/-- Where a block starts, behind the blocks before it. -/
def blockStart (width : Nat → Nat) : Nat → Nat
  | 0 => 0
  | block + 1 => blockStart width block + width block

/-- A block ends before every later one starts. -/
theorem blockStart_add_le (width : Nat → Nat) {earlier later : Nat}
    (before : earlier < later) :
    blockStart width earlier + width earlier ≤ blockStart width later := by
  induction later with
  | zero => omega
  | succ later ih =>
      rw [blockStart]
      rcases Nat.lt_succ_iff_lt_or_eq.mp before with sooner | rfl
      · have := ih sooner
        omega
      · exact Nat.le_refl _

end DecimalText
