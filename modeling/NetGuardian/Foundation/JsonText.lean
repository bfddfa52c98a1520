import Mathlib.Data.List.Basic

/-!
# The grammar of JSON texts

Which texts are JSON documents: the grammar of RFC 8259 as predicates on lists
of letters, one predicate for each of its rules.  Two facts are needed to read a
document from the left: a string ends at the first quotation mark that is not
escaped, so that no string is the beginning of another one, and values begin
with a letter that is not white space.
-/

namespace JsonText

abbrev quote : Char := '\x22'

abbrev backslash : Char := '\x5c'

abbrev openBrace : Char := '\x7b'

abbrev closeBrace : Char := '\x7d'

section Grammar

/-- The four letters of white space. -/
def isBlank (letter : Char) : Bool :=
  letter = ' ' || letter = '\t' || letter = '\n' || letter = '\r'

def Blanks (text : List Char) : Prop :=
  ∀ letter ∈ text, isBlank letter = true

/-- The letters that stand for themselves in a string. -/
def isPlain (letter : Char) : Bool :=
  decide (0x20 ≤ letter.toNat) && letter ≠ quote && letter ≠ backslash

/-- The letters behind a backslash, except for `u`. -/
def isEscape (letter : Char) : Bool :=
  [quote, backslash, '/', 'b', 'f', 'n', 'r', 't'].contains letter

def isHexDigit (letter : Char) : Bool :=
  letter.isDigit || "abcdefABCDEF".toList.contains letter

/-- What may stand between the quotation marks of a string. -/
inductive StringChars : List Char → Prop
  | nil : StringChars []
  | plain {letter : Char} {rest : List Char} : isPlain letter = true →
      StringChars rest → StringChars (letter :: rest)
  | escape {letter : Char} {rest : List Char} : isEscape letter = true →
      StringChars rest → StringChars (backslash :: letter :: rest)
  | unicode {first second third fourth : Char} {rest : List Char} :
      isHexDigit first = true → isHexDigit second = true →
        isHexDigit third = true → isHexDigit fourth = true → StringChars rest →
          StringChars (backslash :: 'u' :: first :: second :: third :: fourth :: rest)

def IsString (text : List Char) : Prop :=
  ∃ chars, StringChars chars ∧ text = quote :: (chars ++ [quote])

def IsDigits (text : List Char) : Prop :=
  text ≠ [] ∧ ∀ digit ∈ text, digit.isDigit = true

/-- Digits without a leading zero. -/
def IsInteger (text : List Char) : Prop :=
  IsDigits text ∧ (text.head? = some '0' → text = ['0'])

def IsFraction (text : List Char) : Prop :=
  text = [] ∨ ∃ digits, IsDigits digits ∧ text = '.' :: digits

def IsExponent (text : List Char) : Prop :=
  text = [] ∨ ∃ mark sign digits, (mark = 'e' ∨ mark = 'E') ∧
    (sign = [] ∨ sign = ['+'] ∨ sign = ['-']) ∧ IsDigits digits ∧
      text = mark :: (sign ++ digits)

def IsNumber (text : List Char) : Prop :=
  ∃ sign integer fraction exponent, (sign = [] ∨ sign = ['-']) ∧
    IsInteger integer ∧ IsFraction fraction ∧ IsExponent exponent ∧
      text = sign ++ (integer ++ (fraction ++ exponent))

def IsLiteral (text : List Char) : Prop :=
  text = "true".toList ∨ text = "false".toList ∨ text = "null".toList

mutual

inductive IsValue : List Char → Prop
  | literal {text : List Char} : IsLiteral text → IsValue text
  | number {text : List Char} : IsNumber text → IsValue text
  | string {text : List Char} : IsString text → IsValue text
  | emptyObject {space : List Char} : Blanks space →
      IsValue (openBrace :: (space ++ [closeBrace]))
  | object {before member tail after : List Char} : Blanks before →
      IsMember member → IsMemberTail tail → Blanks after →
        IsValue (openBrace :: (before ++ (member ++ (tail ++ (after ++ [closeBrace])))))
  | emptyArray {space : List Char} : Blanks space → IsValue ('[' :: (space ++ [']']))
  | array {before value tail after : List Char} : Blanks before →
      IsValue value → IsElementTail tail → Blanks after →
        IsValue ('[' :: (before ++ (value ++ (tail ++ (after ++ [']'])))))

/-- A name and its value. -/
inductive IsMember : List Char → Prop
  | pair {key before after value : List Char} : IsString key → Blanks before →
      Blanks after → IsValue value →
        IsMember (key ++ (before ++ ':' :: (after ++ value)))

/-- Further members, each behind a comma. -/
inductive IsMemberTail : List Char → Prop
  | nil : IsMemberTail []
  | cons {before after member tail : List Char} : Blanks before → Blanks after →
      IsMember member → IsMemberTail tail →
        IsMemberTail (before ++ ',' :: (after ++ (member ++ tail)))

/-- Further elements, each behind a comma. -/
inductive IsElementTail : List Char → Prop
  | nil : IsElementTail []
  | cons {before after value tail : List Char} : Blanks before → Blanks after →
      IsValue value → IsElementTail tail →
        IsElementTail (before ++ ',' :: (after ++ (value ++ tail)))

end

/-- One value with white space around it. -/
def IsDocument (text : List Char) : Prop :=
  ∃ before value after, Blanks before ∧ IsValue value ∧ Blanks after ∧
    text = before ++ (value ++ after)

end Grammar

section Strings

variable {word chars others rest more : List Char}

theorem stringChars_of_plain (plain : ∀ letter ∈ word, isPlain letter = true) :
    StringChars word := by
  induction word with
  | nil => exact .nil
  | cons letter word ih =>
      obtain ⟨first, others⟩ := List.forall_mem_cons.mp plain
      exact .plain first (ih others)

theorem not_isPlain_backslash : ¬ isPlain backslash = true := by decide

theorem stringChars_cons_iff {letter : Char} (plain : isPlain letter = true) :
    StringChars (letter :: rest) ↔ StringChars rest := by
  constructor
  · intro whole
    cases whole with
    | plain _ shorter => exact shorter
    | escape _ _ => exact absurd plain not_isPlain_backslash
    | unicode _ _ _ _ _ => exact absurd plain not_isPlain_backslash
  · exact .plain plain

/-- Plain letters at the beginning make no difference. -/
theorem stringChars_append_iff (plain : ∀ letter ∈ word, isPlain letter = true) :
    StringChars (word ++ rest) ↔ StringChars rest := by
  induction word with
  | nil => rfl
  | cons letter word ih =>
      obtain ⟨first, others⟩ := List.forall_mem_cons.mp plain
      rw [List.cons_append, stringChars_cons_iff first, ih others]

theorem not_isPlain_quote : ¬ isPlain quote = true := by decide

/-- A string that begins with a quotation mark has ended. -/
theorem StringChars.of_quote (isChars : StringChars chars)
    (same : quote :: rest = chars ++ quote :: more) : chars = [] ∧ rest = more := by
  cases isChars with
  | nil => exact ⟨rfl, (List.cons.inj same).2⟩
  | plain plain _ =>
      rw [← (List.cons.inj same).1] at plain
      exact absurd plain not_isPlain_quote
  | escape _ _ => exact absurd (List.cons.inj same).1 (by decide)
  | unicode _ _ _ _ _ => exact absurd (List.cons.inj same).1 (by decide)

theorem StringChars.of_plain {letter : Char} (isChars : StringChars chars)
    (plain : isPlain letter = true) (same : letter :: rest = chars ++ quote :: more) :
    ∃ tail, StringChars tail ∧ chars = letter :: tail ∧ rest = tail ++ quote :: more := by
  cases isChars with
  | nil =>
      rw [(List.cons.inj same).1] at plain
      exact absurd plain not_isPlain_quote
  | @plain other tail _ isTail =>
      obtain ⟨rfl, sameRest⟩ := List.cons.inj same
      exact ⟨tail, isTail, rfl, sameRest⟩
  | escape _ _ =>
      rw [(List.cons.inj same).1] at plain
      exact absurd plain not_isPlain_backslash
  | unicode _ _ _ _ _ =>
      rw [(List.cons.inj same).1] at plain
      exact absurd plain not_isPlain_backslash

/-- Behind a backslash the next letter tells which escape it is. -/
theorem StringChars.of_backslash {letter : Char} (isChars : StringChars chars)
    (same : backslash :: letter :: rest = chars ++ quote :: more) :
    (isEscape letter = true ∧ ∃ tail, StringChars tail ∧
        chars = backslash :: letter :: tail ∧ rest = tail ++ quote :: more) ∨
      (letter = 'u' ∧ ∃ first second third fourth tail, StringChars tail ∧
        chars = backslash :: 'u' :: first :: second :: third :: fourth :: tail ∧
          rest = first :: second :: third :: fourth :: (tail ++ quote :: more)) := by
  cases isChars with
  | nil => exact absurd (List.cons.inj same).1 (by decide)
  | plain plain _ =>
      rw [← (List.cons.inj same).1] at plain
      exact absurd plain not_isPlain_backslash
  | @escape other tail isEscapeLetter isTail =>
      obtain ⟨rfl, sameRest⟩ := List.cons.inj (List.cons.inj same).2
      exact .inl ⟨isEscapeLetter, tail, isTail, rfl, sameRest⟩
  | @unicode first second third fourth tail _ _ _ _ isTail =>
      obtain ⟨rfl, sameRest⟩ := List.cons.inj (List.cons.inj same).2
      exact .inr ⟨rfl, first, second, third, fourth, tail, isTail, rfl, sameRest⟩

/-- The first quotation mark that is not escaped ends a string. -/
theorem StringChars.append_quote_inj (isChars : StringChars chars)
    (isOthers : StringChars others)
    (same : chars ++ quote :: rest = others ++ quote :: more) :
    chars = others ∧ rest = more := by
  induction isChars generalizing others with
  | nil =>
      obtain ⟨ended, sameRest⟩ := isOthers.of_quote same
      exact ⟨ended.symm, sameRest⟩
  | plain plain _ ih =>
      obtain ⟨tail, isTail, rfl, sameTail⟩ := isOthers.of_plain plain same
      obtain ⟨rfl, sameRest⟩ := ih isTail sameTail
      exact ⟨rfl, sameRest⟩
  | escape isEscapeLetter _ ih =>
      rcases isOthers.of_backslash same with
        ⟨_, tail, isTail, rfl, sameTail⟩ | ⟨rfl, _⟩
      · obtain ⟨rfl, sameRest⟩ := ih isTail sameTail
        exact ⟨rfl, sameRest⟩
      · exact absurd isEscapeLetter (by decide)
  | unicode _ _ _ _ _ ih =>
      rcases isOthers.of_backslash same with ⟨escape, _⟩ | ⟨_, _, _, _, _, tail, isTail,
        rfl, sameTail⟩
      · exact absurd escape (by decide)
      · simp only [List.append_eq, List.cons_append, List.cons.injEq] at sameTail
        obtain ⟨rfl, rfl, rfl, rfl, sameTail⟩ := sameTail
        obtain ⟨rfl, sameRest⟩ := ih isTail sameTail
        exact ⟨rfl, sameRest⟩

/-- No string is the beginning of another one. -/
theorem IsString.append_inj {text other : List Char} (isString : IsString text)
    (isOther : IsString other) (same : text ++ rest = other ++ more) :
    text = other ∧ rest = more := by
  obtain ⟨chars, isChars, rfl⟩ := isString
  obtain ⟨others, isOthers, rfl⟩ := isOther
  simp only [List.cons_append, List.append_assoc, List.nil_append,
    List.cons.injEq, true_and] at same
  obtain ⟨sameChars, sameRest⟩ := isChars.append_quote_inj isOthers same
  exact ⟨by rw [sameChars], sameRest⟩

theorem isString_of_plain (plain : ∀ letter ∈ word, isPlain letter = true) :
    IsString (quote :: (word ++ [quote])) :=
  ⟨word, stringChars_of_plain plain, rfl⟩

/-- Plain letters that a string's text begins with belong to the string. -/
theorem StringChars.append_of_plain (isChars : StringChars chars)
    (plain : ∀ letter ∈ word, isPlain letter = true)
    (same : chars ++ quote :: rest = word ++ more) :
    ∃ others, StringChars others ∧ chars = word ++ others := by
  induction word generalizing chars with
  | nil => exact ⟨chars, isChars, rfl⟩
  | cons letter word ih =>
      obtain ⟨first, others⟩ := List.forall_mem_cons.mp plain
      obtain ⟨tail, isTail, rfl, sameTail⟩ := isChars.of_plain first same.symm
      obtain ⟨remaining, isRemaining, rfl⟩ := ih isTail others sameTail.symm
      exact ⟨remaining, isRemaining, rfl⟩

end Strings

section Space

variable {space gap rest more : List Char} {letter mark : Char}

theorem blanks_nil : Blanks [] := by
  intro letter member
  cases member

theorem blanks_singleton (blank : isBlank letter = true) : Blanks [letter] := by
  intro other member
  rw [List.mem_singleton.mp member]
  exact blank

theorem Blanks.append (blanks : Blanks space) (others : Blanks gap) :
    Blanks (space ++ gap) := by
  intro letter member
  rcases List.mem_append.mp member with inSpace | inGap
  · exact blanks letter inSpace
  · exact others letter inGap

/-- The first letter that is not white space ends the white space. -/
theorem Blanks.append_inj (blanks : Blanks space) (others : Blanks gap)
    (solid : ¬ isBlank letter = true) (hard : ¬ isBlank mark = true)
    (same : space ++ letter :: rest = gap ++ mark :: more) :
    space = gap ∧ letter :: rest = mark :: more := by
  have sameRest : letter :: rest = mark :: more := by
    have dropped := congrArg (List.dropWhile isBlank) same
    rwa [List.dropWhile_append_of_pos blanks, List.dropWhile_append_of_pos others,
      List.dropWhile_cons_of_neg solid, List.dropWhile_cons_of_neg hard] at dropped
  rw [sameRest] at same
  exact ⟨List.append_cancel_right same, sameRest⟩

/-- The last letter that is not white space begins it. -/
theorem Blanks.append_inj_right (blanks : Blanks space) (others : Blanks gap)
    (solid : ¬ isBlank letter = true) (hard : ¬ isBlank mark = true)
    (same : rest ++ letter :: space = more ++ mark :: gap) :
    rest ++ [letter] = more ++ [mark] ∧ space = gap := by
  have reversed : space.reverse ++ letter :: rest.reverse =
      gap.reverse ++ mark :: more.reverse := by
    have backwards := congrArg List.reverse same
    simpa using backwards
  have blanksReversed : Blanks space.reverse :=
    fun letter member => blanks letter (List.mem_reverse.mp member)
  have othersReversed : Blanks gap.reverse :=
    fun letter member => others letter (List.mem_reverse.mp member)
  obtain ⟨sameSpace, sameRest⟩ :=
    blanksReversed.append_inj othersReversed solid hard reversed
  refine ⟨?_, List.reverse_injective sameSpace⟩
  have forwards := congrArg List.reverse sameRest
  simpa using forwards

/-- No white space stands behind the last letter that is none. -/
theorem Blanks.eq_nil_of_append (blanks : Blanks space)
    (solid : ¬ isBlank letter = true) (same : rest ++ [letter] = more ++ space) :
    space = [] := by
  rcases List.eq_nil_or_concat space with nil | ⟨beginning, last, rfl⟩
  · exact nil
  · have sameLast : letter = last := by
      have lasts := congrArg List.getLast? same
      simpa using lasts
    rw [sameLast] at solid
    exact absurd (blanks last (by simp)) solid

end Space

section Values

variable {text : List Char}

theorem IsDigits.head (isDigits : IsDigits text) :
    ∃ digit rest, text = digit :: rest ∧ digit.isDigit = true := by
  obtain ⟨digit, rest, rfl⟩ := List.exists_cons_of_ne_nil isDigits.1
  exact ⟨digit, rest, rfl, isDigits.2 digit List.mem_cons_self⟩

/-- The letters that a value begins with. -/
def isOpening (letter : Char) : Bool :=
  letter.isDigit || [quote, openBrace, '[', '-', 't', 'f', 'n'].contains letter

theorem not_isBlank_of_isOpening {letter : Char} (opening : isOpening letter = true) :
    ¬ isBlank letter = true := by
  intro blank
  simp only [isBlank, Bool.or_eq_true, decide_eq_true_eq] at blank
  rcases blank with ((rfl | rfl) | rfl) | rfl <;> exact absurd opening (by decide)

theorem IsNumber.head (isNumber : IsNumber text) :
    ∃ letter rest, text = letter :: rest ∧
      (letter.isDigit = true ∨ letter = '-') := by
  obtain ⟨sign, integer, fraction, exponent, signs, isInteger, _, _, rfl⟩ := isNumber
  rcases signs with rfl | rfl
  · obtain ⟨digit, rest, rfl, isDigit⟩ := isInteger.1.head
    exact ⟨digit, _, rfl, .inl isDigit⟩
  · exact ⟨'-', _, rfl, .inr rfl⟩

/-- No value is empty, and none begins with white space. -/
theorem IsValue.head (isValue : IsValue text) :
    ∃ letter rest, text = letter :: rest ∧ isOpening letter = true := by
  cases isValue with
  | literal isLiteral =>
      rcases isLiteral with rfl | rfl | rfl
      · exact ⟨'t', _, rfl, by decide⟩
      · exact ⟨'f', _, rfl, by decide⟩
      · exact ⟨'n', _, rfl, by decide⟩
  | number isNumber =>
      obtain ⟨letter, rest, rfl, isDigit | rfl⟩ := isNumber.head
      · exact ⟨letter, rest, rfl, by rw [isOpening, isDigit, Bool.true_or]⟩
      · exact ⟨'-', rest, rfl, by decide⟩
  | string isString =>
      obtain ⟨chars, _, rfl⟩ := isString
      exact ⟨quote, _, rfl, by decide⟩
  | emptyObject _ => exact ⟨openBrace, _, rfl, by decide⟩
  | object _ _ _ _ => exact ⟨openBrace, _, rfl, by decide⟩
  | emptyArray _ => exact ⟨'[', _, rfl, by decide⟩
  | array _ _ _ _ => exact ⟨'[', _, rfl, by decide⟩

/-- A member begins with a quotation mark. -/
theorem IsMember.head {member : List Char} (isMember : IsMember member) :
    ∃ rest, member = quote :: rest := by
  cases isMember with
  | pair isKey _ _ _ =>
      obtain ⟨chars, _, rfl⟩ := isKey
      exact ⟨_, rfl⟩

theorem IsLiteral.head_ne {letter : Char} {rest : List Char}
    (isLiteral : IsLiteral (letter :: rest)) : letter ≠ quote ∧ letter ≠ openBrace := by
  rcases isLiteral with same | same | same <;>
    · rw [(List.cons.inj same).1]
      exact ⟨by decide, by decide⟩

theorem IsNumber.head_ne {letter : Char} {rest : List Char}
    (isNumber : IsNumber (letter :: rest)) : letter ≠ quote ∧ letter ≠ openBrace := by
  obtain ⟨first, others, same, isDigit | rfl⟩ := isNumber.head
  · rw [← (List.cons.inj same).1] at isDigit
    constructor
    · rintro rfl
      exact absurd isDigit (by decide)
    · rintro rfl
      exact absurd isDigit (by decide)
  · rw [(List.cons.inj same).1]
    exact ⟨by decide, by decide⟩

/-- A value that begins with a quotation mark is a string. -/
theorem IsValue.isString {rest : List Char} (isValue : IsValue text)
    (first : text = quote :: rest) : IsString text := by
  cases isValue with
  | literal isLiteral => exact absurd rfl (first ▸ isLiteral).head_ne.1
  | number isNumber => exact absurd rfl (first ▸ isNumber).head_ne.1
  | string isString => exact isString
  | emptyObject _ => exact absurd (List.cons.inj first).1 (by decide)
  | object _ _ _ _ => exact absurd (List.cons.inj first).1 (by decide)
  | emptyArray _ => exact absurd (List.cons.inj first).1 (by decide)
  | array _ _ _ _ => exact absurd (List.cons.inj first).1 (by decide)

/-- What stands between the braces of an object. -/
def IsInside (inside : List Char) : Prop :=
  Blanks inside ∨ ∃ before member tail after, Blanks before ∧ IsMember member ∧
    IsMemberTail tail ∧ Blanks after ∧
      inside = before ++ (member ++ (tail ++ after))

/-- A value that begins with a brace is an object. -/
theorem IsValue.isInside {rest : List Char} (isValue : IsValue text)
    (first : text = openBrace :: rest) :
    ∃ inside, IsInside inside ∧ rest = inside ++ [closeBrace] := by
  cases isValue with
  | literal isLiteral => exact absurd rfl (first ▸ isLiteral).head_ne.2
  | number isNumber => exact absurd rfl (first ▸ isNumber).head_ne.2
  | string isString =>
      obtain ⟨chars, _, rfl⟩ := isString
      exact absurd (List.cons.inj first).1 (by decide)
  | @emptyObject space blanks =>
      exact ⟨space, .inl blanks, (List.cons.inj first).2.symm⟩
  | @object before member tail after blanks isMember isTail others =>
      refine ⟨before ++ (member ++ (tail ++ after)),
        .inr ⟨before, member, tail, after, blanks, isMember, isTail, others, rfl⟩, ?_⟩
      rw [← (List.cons.inj first).2]
      simp only [List.append_assoc]
  | emptyArray _ => exact absurd (List.cons.inj first).1 (by decide)
  | array _ _ _ _ => exact absurd (List.cons.inj first).1 (by decide)

end Values

section Numerals

/-- Only the numeral of zero begins with a zero. -/
theorem head_toDigits_ne_zero {number : Nat} (positive : 0 < number) :
    (Nat.toDigits 10 number).head? ≠ some '0' := by
  induction number using Nat.strongRecOn with
  | ind number ih =>
      rw [Nat.toDigits_eq_if (by decide)]
      split
      · intro zero
        have isZero : number = 0 :=
          Nat.digitChar_eq_zero.mp (Option.some.inj zero)
        omega
      · next large =>
          rw [List.head?_append_of_ne_nil _ Nat.toDigits_ne_nil]
          exact ih (number / 10) (by omega) (by omega)

/-- Decimal numerals are numbers. -/
theorem isNumber_toDigits (number : Nat) : IsNumber (Nat.toDigits 10 number) := by
  have isDigits : IsDigits (Nat.toDigits 10 number) :=
    ⟨Nat.toDigits_ne_nil, fun digit member =>
      Nat.isDigit_of_mem_toDigits (by decide) (by decide) member⟩
  have isInteger : IsInteger (Nat.toDigits 10 number) := by
    refine ⟨isDigits, ?_⟩
    intro zero
    rcases Nat.eq_zero_or_pos number with rfl | positive
    · exact Nat.toDigits_zero 10
    · exact absurd zero (head_toDigits_ne_zero positive)
  exact ⟨[], _, [], [], .inl rfl, isInteger, .inl rfl, .inl rfl, by simp⟩

end Numerals

section Objects

variable {key value word text : List Char}

/-- A name in quotation marks and its value, without white space. -/
def compactMember (member : List Char × List Char) : List Char :=
  quote :: (member.1 ++ quote :: ':' :: member.2)

/-- An object without white space. -/
def compactObject (first : List Char × List Char)
    (others : List (List Char × List Char)) : List Char :=
  openBrace :: (compactMember first ++
    (others.flatMap (fun member => ',' :: compactMember member) ++ [closeBrace]))

def PlainMember (member : List Char × List Char) : Prop :=
  (∀ letter ∈ member.1, isPlain letter = true) ∧ IsValue member.2

theorem PlainMember.isMember {member : List Char × List Char}
    (plain : PlainMember member) : IsMember (compactMember member) := by
  have isPair := IsMember.pair (isString_of_plain plain.1) blanks_nil blanks_nil plain.2
  simpa [compactMember] using isPair

theorem isMemberTail_of_plain {others : List (List Char × List Char)}
    (plain : ∀ member ∈ others, PlainMember member) :
    IsMemberTail (others.flatMap fun member => ',' :: compactMember member) := by
  induction others with
  | nil => exact .nil
  | cons member others ih =>
      obtain ⟨first, rest⟩ := List.forall_mem_cons.mp plain
      exact .cons blanks_nil blanks_nil first.isMember (ih rest)

theorem isValue_compactObject {first : List Char × List Char}
    {others : List (List Char × List Char)} (plain : PlainMember first)
    (plainOthers : ∀ member ∈ others, PlainMember member) :
    IsValue (compactObject first others) :=
  .object blanks_nil plain.isMember (isMemberTail_of_plain plainOthers) blanks_nil

end Objects

section Documents

variable {key value word text : List Char}

theorem blanks_newline : Blanks ['\n'] := blanks_singleton (by decide)

theorem IsValue.isDocument_line (isValue : IsValue value) :
    IsDocument (value ++ ['\n']) :=
  ⟨[], value, ['\n'], blanks_nil, isValue, blanks_newline, rfl⟩

theorem IsDocument.append_newline (isDocument : IsDocument text) :
    IsDocument (text ++ ['\n']) := by
  obtain ⟨before, value, after, blanks, isValue, others, rfl⟩ := isDocument
  exact ⟨before, value, after ++ ['\n'], blanks, isValue,
    others.append blanks_newline, by simp⟩

/-- A member whose value is written between quotation marks as it is. -/
def quotedMember (key word text : List Char) : List Char :=
  (quote :: (key ++ [quote])) ++ ':' :: ' ' :: quote :: (word ++ (text ++ [quote]))

/-- The line of an object with that member. -/
def quotedLine (key word text : List Char) : List Char :=
  openBrace :: (quotedMember key word text ++ [closeBrace, '\n'])

/-- A text that may stand between quotation marks: the letters of a string,
perhaps its end and further members. -/
def InQuotes (text : List Char) : Prop :=
  ∃ chars tail, StringChars chars ∧ IsMemberTail tail ∧
    text ++ [quote] = chars ++ quote :: tail

theorem StringChars.inQuotes (isChars : StringChars text) : InQuotes text :=
  ⟨text, [], isChars, .nil, rfl⟩

/-- Further members begin with white space or a comma. -/
theorem IsMemberTail.head {tail rest : List Char} {letter : Char}
    (isTail : IsMemberTail tail) (begins : tail = letter :: rest) :
    isBlank letter = true ∨ letter = ',' := by
  cases isTail with
  | nil => cases begins
  | @cons before after member tail blanks _ _ _ =>
      cases before with
      | nil => exact .inr (List.cons.inj begins).1.symm
      | cons blank before =>
          rw [← (List.cons.inj begins).1]
          exact .inl (blanks blank List.mem_cons_self)

/-- Behind plain letters a quotation mark has to be followed by further
members. -/
theorem inQuotes_append_quote_iff {tail : List Char}
    (plain : ∀ letter ∈ word, isPlain letter = true) :
    InQuotes (word ++ quote :: tail) ↔ IsMemberTail (tail ++ [quote]) := by
  constructor
  · rintro ⟨chars, found, isChars, isTail, same⟩
    have sameChars : word ++ quote :: (tail ++ [quote]) = chars ++ quote :: found := by
      rw [← same]
      simp
    obtain ⟨_, rfl⟩ := (stringChars_of_plain plain).append_quote_inj isChars sameChars
    exact isTail
  · intro isTail
    exact ⟨word, tail ++ [quote], stringChars_of_plain plain, isTail, by simp⟩

theorem InQuotes.isDocument (plainKey : ∀ letter ∈ key, isPlain letter = true)
    (plainWord : ∀ letter ∈ word, isPlain letter = true) (inQuotes : InQuotes text) :
    IsDocument (quotedLine key word text) := by
  obtain ⟨chars, tail, isChars, isTail, same⟩ := inQuotes
  have isString : IsString (quote :: ((word ++ chars) ++ [quote])) :=
    ⟨word ++ chars, (stringChars_append_iff plainWord).mpr isChars, rfl⟩
  have isMember : IsMember ((quote :: (key ++ [quote])) ++
      ([] ++ ':' :: ([' '] ++ (quote :: ((word ++ chars) ++ [quote]))))) :=
    .pair (isString_of_plain plainKey) blanks_nil (blanks_singleton (by decide))
      (.string isString)
  have isObject := IsValue.object blanks_nil isMember isTail blanks_nil
  have written : quotedLine key word text = openBrace :: ([] ++
      ((quote :: (key ++ [quote])) ++
        ([] ++ ':' :: ([' '] ++ (quote :: ((word ++ chars) ++ [quote])))) ++
          (tail ++ ([] ++ [closeBrace])))) ++ ['\n'] := by
    rw [quotedLine, quotedMember, same]
    simp
  rw [written]
  exact isObject.isDocument_line

/-- The braces of a line that is an object enclose its members. -/
theorem IsDocument.isInside {inside : List Char}
    (isDocument : IsDocument (openBrace :: (inside ++ [closeBrace, '\n']))) :
    IsInside inside := by
  obtain ⟨before, value, after, blanks, isValue, others, same⟩ := isDocument
  obtain ⟨letter, rest, begins, opening⟩ := isValue.head
  rw [begins, List.cons_append] at same
  obtain ⟨_, sameRest⟩ := blanks_nil.append_inj blanks (by decide)
    (not_isBlank_of_isOpening opening) same
  obtain ⟨rfl, sameInside⟩ := List.cons.inj sameRest
  obtain ⟨found, isInside, ends⟩ := isValue.isInside begins
  rw [ends] at sameInside
  have sameEnds : inside ++ closeBrace :: ['\n'] = found ++ closeBrace :: after := by
    rw [sameInside]
    simp
  obtain ⟨sameBraces, _⟩ := blanks_newline.append_inj_right others (by decide)
    (by decide) sameEnds
  rw [List.append_cancel_right sameBraces]
  exact isInside

/-- What follows a name that is known is read as its value and further
members. -/
theorem IsMember.value_of_key {member tail rest : List Char} (isMember : IsMember member)
    (isKey : IsString key) (same : member ++ tail = key ++ ':' :: rest) :
    ∃ after value, Blanks after ∧ IsValue value ∧ rest = after ++ (value ++ tail) := by
  cases isMember with
  | @pair other before after value isOther blanks others isValue =>
      have sameText : other ++ (before ++ ':' :: (after ++ (value ++ tail))) =
          key ++ ([] ++ ':' :: rest) := by
        simpa using same
      obtain ⟨_, sameColon⟩ := isOther.append_inj isKey sameText
      obtain ⟨_, sameRest⟩ := blanks.append_inj blanks_nil (by decide) (by decide)
        sameColon
      exact ⟨after, value, others, isValue, (List.cons.inj sameRest).2.symm⟩

/-- A value in quotation marks behind a space is a string. -/
theorem inQuotes_of_value {after tail : List Char}
    (plainWord : ∀ letter ∈ word, isPlain letter = true) (blanks : Blanks after)
    (isValue : IsValue value) (isTail : IsMemberTail tail)
    (same : ' ' :: quote :: (word ++ (text ++ [quote])) = after ++ (value ++ tail)) :
    InQuotes text := by
  obtain ⟨letter, rest, begins, opening⟩ := isValue.head
  have sameSpace : [' '] ++ quote :: (word ++ (text ++ [quote])) =
      after ++ letter :: (rest ++ tail) := by
    rw [begins] at same
    exact same
  obtain ⟨_, sameValue⟩ := (blanks_singleton (by decide)).append_inj blanks (by decide)
    (not_isBlank_of_isOpening opening) sameSpace
  obtain ⟨isQuote, sameRest⟩ := List.cons.inj sameValue
  obtain ⟨chars, isChars, ends⟩ := isValue.isString (isQuote ▸ begins)
  have sameChars : chars ++ quote :: tail = word ++ (text ++ [quote]) := by
    rw [begins] at ends
    rw [sameRest, (List.cons.inj ends).2]
    simp
  obtain ⟨others, isOthers, rfl⟩ := isChars.append_of_plain plainWord sameChars
  refine ⟨others, tail, isOthers, isTail, ?_⟩
  rw [List.append_assoc] at sameChars
  exact (List.append_cancel_left sameChars).symm

theorem IsDocument.inQuotes (plainKey : ∀ letter ∈ key, isPlain letter = true)
    (plainWord : ∀ letter ∈ word, isPlain letter = true)
    (isDocument : IsDocument (quotedLine key word text)) : InQuotes text := by
  rcases isDocument.isInside with blanks | ⟨before, member, tail, after, inside⟩
  · exact absurd (blanks quote List.mem_cons_self) (by decide)
  · obtain ⟨blanks, isMember, isTail, others, same⟩ := inside
    have noneAfter : after = [] := by
      have sameEnd : ((quote :: (key ++ [quote])) ++
          ':' :: ' ' :: quote :: (word ++ text)) ++ [quote] =
            (before ++ (member ++ tail)) ++ after := by
        simpa [quotedMember] using same
      exact others.eq_nil_of_append (by decide) sameEnd
    obtain ⟨rest, begins⟩ := isMember.head
    have noneBefore : before = [] := by
      rw [begins] at same
      exact ((blanks_nil.append_inj blanks (by decide) (by decide) same).1).symm
    rw [noneAfter, noneBefore, List.nil_append, List.append_nil] at same
    obtain ⟨space, value, spaces, isValue, sameRest⟩ :=
      isMember.value_of_key (isString_of_plain plainKey) same.symm
    exact inQuotes_of_value plainWord spaces isValue isTail sameRest

/-- A text written between quotation marks as it is gives a document exactly when
it may stand there. -/
theorem isDocument_quotedLine_iff (plainKey : ∀ letter ∈ key, isPlain letter = true)
    (plainWord : ∀ letter ∈ word, isPlain letter = true) :
    IsDocument (quotedLine key word text) ↔ InQuotes text :=
  ⟨IsDocument.inQuotes plainKey plainWord, InQuotes.isDocument plainKey plainWord⟩

end Documents

end JsonText
