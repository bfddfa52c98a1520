import NetGuardian.Foundation.PlainText
import Mathlib.Data.Nat.Digits.Defs

/-!
# Hexadecimal text

Reading an unsigned hexadecimal numeral of either case, as a standard library
does it, and writing bytes with two upper-case digits.  What is written is read
again.
-/

namespace PlainText

/-- The value of a hexadecimal digit. -/
def hexValue (digit : Char) : Option Nat :=
  let code := digit.toNat
  if '0'.toNat ≤ code ∧ code ≤ '9'.toNat then some (code - '0'.toNat)
  else if 'A'.toNat ≤ code ∧ code ≤ 'F'.toNat then some (code - 'A'.toNat + 10)
  else if 'a'.toNat ≤ code ∧ code ≤ 'f'.toNat then some (code - 'a'.toNat + 10)
  else none

/-- Read a hexadecimal numeral with an optional plus sign and a value below
`bound`. -/
def parseHex (bound : Nat) (text : List Char) : Option Nat :=
  let digits := withoutPlus text
  if digits = [] then none
  else
    (digits.mapM hexValue).bind fun values =>
      let value := values.foldl (fun value digit => 16 * value + digit) 0
      if value < bound then some value else none

/-- The upper-case digit of a value below sixteen. -/
def hexDigit (value : Nat) : Char :=
  if value < 10 then Char.ofNat ('0'.toNat + value)
  else Char.ofNat ('A'.toNat + value - 10)

/-- The last `width` hexadecimal digits of a number, with leading zeros. -/
def paddedHex (width number : Nat) : List Char :=
  (List.range width).reverse.map fun place => hexDigit (number / 16 ^ place % 16)

/-- Every digit of sixteen, in one go. -/
theorem hexDigit_spec : ∀ value : Fin 16,
    hexValue (hexDigit value) = some value.val ∧ hexDigit value ≠ '+' ∧
      (hexDigit value).utf8Size = 1 := by
  decide

variable {value number : Nat}

theorem hexValue_hexDigit (small : value < 16) :
    hexValue (hexDigit value) = some value :=
  (hexDigit_spec ⟨value, small⟩).1

theorem hexDigit_ne_plus (small : value < 16) : hexDigit value ≠ '+' :=
  (hexDigit_spec ⟨value, small⟩).2.1

theorem utf8Size_hexDigit (small : value < 16) : (hexDigit value).utf8Size = 1 :=
  (hexDigit_spec ⟨value, small⟩).2.2

theorem withoutPlus_cons_of_ne {first : Char} {rest : List Char}
    (notPlus : first ≠ '+') : withoutPlus (first :: rest) = first :: rest := by
  unfold withoutPlus
  split
  · next starts => exact absurd (List.cons.inj starts).1 notPlus
  · rfl

/-- A byte that was written with two digits is read again. -/
theorem parseHex_byte {byte : Nat} (isByte : byte < 256) :
    parseHex 256 [hexDigit (byte / 16), hexDigit (byte % 16)] = some byte := by
  have high : byte / 16 < 16 := by omega
  have low : byte % 16 < 16 := by omega
  have unsigned : withoutPlus [hexDigit (byte / 16), hexDigit (byte % 16)] =
      [hexDigit (byte / 16), hexDigit (byte % 16)] :=
    withoutPlus_cons_of_ne (hexDigit_ne_plus high)
  have joined : 16 * (byte / 16) + byte % 16 = byte := by omega
  simp [parseHex, unsigned, hexValue_hexDigit high, hexValue_hexDigit low, joined,
    isByte]

/-- Eight digits are the four bytes of a word, the highest one first. -/
theorem paddedHex_word {first second third fourth : Nat} (isFirst : first < 256)
    (isSecond : second < 256) (isThird : third < 256) (isFourth : fourth < 256) :
    paddedHex 8 (first + 256 * (second + 256 * (third + 256 * fourth))) =
      [hexDigit (fourth / 16), hexDigit (fourth % 16),
        hexDigit (third / 16), hexDigit (third % 16),
        hexDigit (second / 16), hexDigit (second % 16),
        hexDigit (first / 16), hexDigit (first % 16)] := by
  simp only [paddedHex, List.range, List.range.loop, List.reverse_cons,
    List.reverse_nil, List.nil_append, List.cons_append, List.map_cons, List.map_nil]
  simp only [List.cons.injEq, and_true]
  refine ⟨?_, ?_, ?_, ?_, ?_, ?_, ?_, ?_⟩ <;> congr 1 <;> omega

/-- Two hexadecimal digits, or a plus sign and one digit. -/
def isHexByte : List Char → Bool
  | [first, last] =>
      (decide (first = '+') || (hexValue first).isSome) && (hexValue last).isSome
  | _ => false

/-- What is read is small, and so is the letter it is read from. -/
theorem hexValue_bounds {digit : Char} (read : hexValue digit = some value) :
    value < 16 ∧ digit.toNat ≤ 102 := by
  have codes : '0'.toNat = 48 ∧ '9'.toNat = 57 ∧ 'A'.toNat = 65 ∧ 'F'.toNat = 70 ∧
      'a'.toNat = 97 ∧ 'f'.toNat = 102 := by decide
  unfold hexValue at read
  dsimp only at read
  split at read
  · cases read
    omega
  · split at read
    · cases read
      omega
    · split at read
      · cases read
        omega
      · cases read

theorem utf8Size_of_hexValue {digit : Char} (read : hexValue digit = some value) :
    digit.utf8Size = 1 := by
  rw [Char.utf8Size_eq_one_iff, UInt32.le_iff_toNat_le]
  exact (hexValue_bounds read).2.trans (by decide)

/-- A numeral of two bytes is read exactly if it is a hexadecimal byte. -/
theorem isSome_parseHex_pair {first last : Char} :
    (parseHex 256 [first, last]).isSome = isHexByte [first, last] := by
  by_cases plus : first = '+'
  · subst plus
    cases read : hexValue last with
    | none => simp [parseHex, withoutPlus, isHexByte, read]
    | some value =>
        have small : value < 256 := (hexValue_bounds read).1.trans (by decide)
        simp [parseHex, withoutPlus, isHexByte, read, small]
  · have unsigned : withoutPlus [first, last] = [first, last] :=
      withoutPlus_cons_of_ne plus
    cases readFirst : hexValue first with
    | none => simp [parseHex, unsigned, isHexByte, readFirst, plus]
    | some high =>
        cases readLast : hexValue last with
        | none => simp [parseHex, unsigned, isHexByte, readFirst, readLast]
        | some low =>
            have highSmall := (hexValue_bounds readFirst).1
            have lowSmall := (hexValue_bounds readLast).1
            have small : 16 * high + low < 256 := by omega
            simp [parseHex, unsigned, isHexByte, readFirst, readLast, small]

/-- A letter of two bytes is no numeral. -/
theorem parseHex_wide {letter : Char} (wide : letter.utf8Size = 2) :
    parseHex 256 [letter] = none := by
  have notPlus : letter ≠ '+' := by
    rintro rfl
    exact absurd wide (by decide)
  have unsigned : withoutPlus [letter] = [letter] := withoutPlus_cons_of_ne notPlus
  cases read : hexValue letter with
  | none => simp [parseHex, unsigned, read]
  | some value =>
      rw [utf8Size_of_hexValue read] at wide
      cases wide

theorem parseHex_lt {bound : Nat} {text : List Char}
    (read : parseHex bound text = some value) : value < bound := by
  unfold parseHex at read
  dsimp only at read
  split at read
  · cases read
  · obtain ⟨values, _, shown⟩ := Option.bind_eq_some_iff.mp read
    rw [Option.ite_none_right_eq_some] at shown
    cases shown.2
    exact shown.1

end PlainText
