import Mathlib.Data.List.DropRight
import Mathlib.Data.List.Infix

/-!
# Reading plain text

Texts are lists of letters.  The operations are the usual ones of a standard
library: trimming both ends, stripping a prefix as often as it occurs, and
reading a decimal numeral below a bound.  `Numeral` is the grammar that the
reader accepts.
-/

namespace PlainText

section Trimming

variable {Letter : Type*} (blank : Letter → Bool)

/-- Without the blank letters at both ends. -/
def trim (text : List Letter) : List Letter :=
  (text.dropWhile blank).rdropWhile blank

variable {blank} {spaces word : List Letter}

/-- Trimming recovers a word without blanks from the blanks before it. -/
theorem trim_append (blanks : ∀ letter ∈ spaces, blank letter)
    (solid : ∀ letter ∈ word, ¬ blank letter) :
    trim blank (spaces ++ word) = word := by
  have noneBefore : word.dropWhile blank = word := by
    rw [List.dropWhile_eq_self_iff]
    intro nonempty
    exact solid _ (List.getElem_mem nonempty)
  have noneAfter : word.rdropWhile blank = word := by
    rw [List.rdropWhile_eq_self_iff]
    intro nonempty
    exact solid _ (List.getLast_mem nonempty)
  rw [trim, List.dropWhile_append_of_pos blanks, noneBefore, noneAfter]

end Trimming

section Stripping

variable {Letter : Type*} [DecidableEq Letter]

/-- Strip a prefix as often as it occurs, at most `rounds` times. -/
def stripRounds (pattern : List Letter) : Nat → List Letter → List Letter
  | 0, text => text
  | rounds + 1, text =>
      if pattern <+: text then
        stripRounds pattern rounds (text.drop pattern.length)
      else text

/-- A pattern that is not empty cannot occur more often than there are
letters. -/
def stripRepeatedly (pattern text : List Letter) : List Letter :=
  stripRounds pattern text.length text

variable {pattern rest : List Letter}

theorem stripRounds_of_not_prefix (differs : ¬ pattern <+: rest)
    (rounds : Nat) : stripRounds pattern rounds rest = rest := by
  cases rounds with
  | zero => rfl
  | succ rounds => rw [stripRounds, if_neg differs]

/-- One occurrence is stripped where a second one does not follow. -/
theorem stripRepeatedly_append (nonempty : pattern ≠ [])
    (differs : ¬ pattern <+: rest) :
    stripRepeatedly pattern (pattern ++ rest) = rest := by
  have letters : 0 < (pattern ++ rest).length := by
    rw [List.length_append]
    exact Nat.add_pos_left (List.length_pos_of_ne_nil nonempty) _
  obtain ⟨rounds, count⟩ := Nat.exists_eq_succ_of_ne_zero letters.ne'
  rw [stripRepeatedly, count, stripRounds,
    if_pos (List.prefix_append pattern rest), List.drop_left,
    stripRounds_of_not_prefix differs]

end Stripping

section Numerals

/-- The value of a list of decimal digits. -/
def digitsValue (digits : List Char) : Nat :=
  digits.foldl (fun value digit => 10 * value + (digit.toNat - '0'.toNat)) 0

/-- A numeral: an optional plus sign and at least one decimal digit. -/
def Numeral (text : List Char) (number : Nat) : Prop :=
  ∃ sign digits : List Char, text = sign ++ digits ∧
    (sign = [] ∨ sign = ['+']) ∧ digits ≠ [] ∧
    (∀ digit ∈ digits, digit.isDigit) ∧ digitsValue digits = number

/-- The text after a leading plus sign. -/
def withoutPlus : List Char → List Char
  | '+' :: digits => digits
  | text => text

/-- Read a numeral whose value is below `bound`; a minus sign is not a digit. -/
def parseUnsigned (bound : Nat) (text : List Char) : Option Nat :=
  let digits := withoutPlus text
  if digits ≠ [] ∧ digits.all Char.isDigit ∧ digitsValue digits < bound then
    some (digitsValue digits)
  else none

variable {text : List Char} {bound number : Nat}

theorem withoutPlus_of_isDigit (digits : ∀ digit ∈ text, digit.isDigit) :
    withoutPlus text = text := by
  unfold withoutPlus
  split
  · next digits =>
      have plusDigit := digits '+' (by simp)
      cases plusDigit
  · rfl

/-- A numeral is what remains after the optional sign. -/
theorem numeral_iff :
    Numeral text number ↔
      withoutPlus text ≠ [] ∧ (∀ digit ∈ withoutPlus text, digit.isDigit) ∧
        digitsValue (withoutPlus text) = number := by
  constructor
  · rintro ⟨sign, digits, rfl, unsigned | plus, nonempty, allDigits, value⟩
    · subst unsigned
      rw [List.nil_append, withoutPlus_of_isDigit allDigits]
      exact ⟨nonempty, allDigits, value⟩
    · subst plus
      exact ⟨nonempty, allDigits, value⟩
  · rintro ⟨nonempty, allDigits, value⟩
    by_cases plus : ∃ digits, text = '+' :: digits
    · obtain ⟨digits, rfl⟩ := plus
      exact ⟨['+'], digits, rfl, .inr rfl, nonempty, allDigits, value⟩
    · have unsigned : withoutPlus text = text := by
        unfold withoutPlus
        split
        · next digits => exact absurd ⟨digits, rfl⟩ plus
        · rfl
      rw [unsigned] at nonempty allDigits value
      exact ⟨[], text, rfl, .inl rfl, nonempty, allDigits, value⟩

theorem parseUnsigned_eq_some_iff :
    parseUnsigned bound text = some number ↔
      Numeral text number ∧ number < bound := by
  rw [numeral_iff, parseUnsigned]
  constructor
  · intro parsed
    split at parsed
    · next accepted =>
        cases parsed
        exact ⟨⟨accepted.1, by simpa using accepted.2.1, rfl⟩, accepted.2.2⟩
    · cases parsed
  · rintro ⟨⟨nonempty, allDigits, rfl⟩, fits⟩
    rw [if_pos ⟨nonempty, by simpa using allDigits, fits⟩]

/-- The letters of a numeral. -/
theorem Numeral.isDigit_or_plus (numeral : Numeral text number) {letter : Char}
    (member : letter ∈ text) : letter.isDigit ∨ letter = '+' := by
  obtain ⟨sign, digits, rfl, signed, _, allDigits, _⟩ := numeral
  rcases List.mem_append.mp member with inSign | inDigits
  · rcases signed with rfl | rfl
    · cases inSign
    · exact .inr (List.mem_singleton.mp inSign)
  · exact .inl (allDigits letter inDigits)

end Numerals

end PlainText
