import Mathlib.Data.List.Nodup
import NetGuardian.Foundation.TextLines

/-!
# A text of named values

A text of lines, some of them comments and the others a name, a blank and a value.
A reader that skips the comments finds the names with their values again, whatever
else the text says.
-/

namespace ExpositionText

open PlainText

inductive Line where
  | comment (text : List Char)
  | sample (name value : List Char)

namespace Line

def render : Line → List Char
  | comment text => '#' :: text
  | sample name value => name ++ ' ' :: value

/-- What the reader is to find in a line. -/
def sample? : Line → Option (List Char × List Char)
  | comment _ => none
  | sample name value => some (name, value)

/-- A line that stays one line, with a name that ends at its blank. -/
def Plain : Line → Prop
  | comment text => IsLine ('#' :: text)
  | sample name value => ' ' ∉ name ∧ name.head? ≠ some '#' ∧
      IsLine (name ++ ' ' :: value)

theorem Plain.isLine {line : Line} (plain : line.Plain) : IsLine line.render := by
  cases line with
  | comment text => exact plain
  | sample name value => exact plain.2.2

end Line

def render (lines : List Line) : List Char :=
  lines.flatMap fun line => line.render ++ ['\n']

/-- The name and the value in a line that is no comment. -/
def readLine (line : List Char) : Option (List Char × List Char) :=
  if line.head? = some '#' then none
  else cut [' '] line

def read (text : List Char) : List (List Char × List Char) :=
  (PlainText.lines text).filterMap readLine

/-- A mark is cut out where it occurs first. -/
theorem cut_mark {mark : Char} {before behind : List Char} (free : mark ∉ before) :
    cut [mark] (before ++ mark :: behind) = some (before, behind) := by
  induction before with
  | nil => simp [cut]
  | cons letter before ih =>
      rw [List.mem_cons, not_or] at free
      have differs : ¬ [mark] <+: letter :: (before ++ mark :: behind) := by
        rintro ⟨rest, same⟩
        exact free.1 (List.cons.inj same).1
      rw [List.cons_append, cut, if_neg differs, ih free.2]
      rfl

theorem readLine_render {line : Line} (plain : line.Plain) :
    readLine line.render = line.sample? := by
  cases line with
  | comment text => rfl
  | sample name value =>
      obtain ⟨noBlank, noMark, _⟩ := plain
      have head : (name ++ ' ' :: value).head? ≠ some '#' := by
        cases name with
        | nil => exact fun mark => by cases mark
        | cons letter name => exact noMark
      rw [readLine, Line.render, if_neg head, cut_mark noBlank]
      rfl

/-- The reader finds what was written. -/
theorem read_render {lines : List Line} (plain : ∀ line ∈ lines, line.Plain) :
    read (render lines) = lines.filterMap Line.sample? := by
  have written : render lines = (lines.map Line.render).flatMap (· ++ ['\n']) := by
    rw [render, List.flatMap_map]
  have areLines : ∀ line ∈ lines.map Line.render, IsLine line := by
    intro line member
    obtain ⟨source, here, rfl⟩ := List.mem_map.mp member
    exact (plain source here).isLine
  rw [read, written, lines_flatMap areLines, List.filterMap_map]
  exact List.filterMap_congr fun line member => readLine_render (plain line member)

/-- The value of a name. -/
def valueOf (name text : List Char) : Option (List Char) :=
  ((read text).find? fun sample => sample.1 = name).map Prod.snd

/-- Where no name occurs twice, a name has the value it was written with. -/
theorem valueOf_of_mem {name value text : List Char}
    (distinct : ((read text).map Prod.fst).Nodup)
    (member : (name, value) ∈ read text) : valueOf name text = some value := by
  unfold valueOf
  cases found : (read text).find? fun sample => sample.1 = name with
  | none =>
      have differs := List.find?_eq_none.mp found _ member
      simp at differs
  | some sample =>
      have here := List.mem_of_find?_eq_some found
      have same : sample.1 = name := by simpa using List.find?_some found
      have equal := List.inj_on_of_nodup_map distinct here member same
      rw [equal]
      rfl

/-- The decimal text of a number is a numeral of it. -/
theorem numeral_toDigits (number : Nat) :
    Numeral (Nat.toDigits 10 number) number :=
  ⟨[], Nat.toDigits 10 number, rfl, .inl rfl, Nat.toDigits_ne_nil,
    fun _ member => Nat.isDigit_of_mem_toDigits (by decide) (by decide) member,
    Nat.ofDigitChars_ten_toDigits⟩

end ExpositionText
