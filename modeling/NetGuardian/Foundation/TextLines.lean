import NetGuardian.Foundation.PlainText

/-!
# Lines and fields of plain text

A text is read line by line, and a line field by field, as a standard library
does it: a line ends with a line feed, before which one carriage return is
dropped, and the last line need not end.  Fields are the longest runs without
blanks.
-/

namespace PlainText

section Lines

/-- The lines of a text without their endings. -/
def lines : List Char → List (List Char)
  | [] => []
  | '\n' :: rest => [] :: lines rest
  | '\r' :: '\n' :: rest => [] :: lines rest
  | letter :: rest =>
      match lines rest with
      | [] => [[letter]]
      | line :: others => (letter :: line) :: others

/-- A text that `lines` gives back: no line feed inside, and no carriage return
at the end. -/
def IsLine (line : List Char) : Prop :=
  '\n' ∉ line ∧ line.getLast? ≠ some '\r'

variable {line rest : List Char} {written : List (List Char)}

theorem lines_append (isLine : IsLine line) :
    lines (line ++ '\n' :: rest) = line :: lines rest := by
  induction line with
  | nil => rfl
  | cons letter line ih =>
      obtain ⟨noFeed, noReturn⟩ := isLine
      rw [List.mem_cons, not_or] at noFeed
      have shorter : IsLine line := by
        refine ⟨noFeed.2, fun ends => noReturn ?_⟩
        rw [List.getLast?_cons, ends]
        rfl
      have notEnding : ∀ others, letter = '\r' →
          line ++ '\n' :: rest = '\n' :: others → False := by
        rintro others rfl starts
        cases line with
        | nil => exact noReturn rfl
        | cons second line =>
            cases starts
            exact noFeed.2 List.mem_cons_self
      rw [List.cons_append, lines, ih shorter]
      · exact fun feed => noFeed.1 feed.symm
      · exact notEnding

/-- Lines that are written one by one can be read again. -/
theorem lines_flatMap (areLines : ∀ line ∈ written, IsLine line) :
    lines (written.flatMap (· ++ ['\n'])) = written := by
  induction written with
  | nil => rfl
  | cons line written ih =>
      obtain ⟨first, others⟩ := List.forall_mem_cons.mp areLines
      rw [List.flatMap_cons, List.append_assoc]
      exact (lines_append first).trans (congrArg _ (ih others))

end Lines

section Fields

variable {Letter : Type*}

/-- The longest runs of letters that are not blank. -/
def splitBlanks (blank : Letter → Bool) (text : List Letter) :
    List (List Letter) :=
  (text.splitOnP blank).filter fun field => !field.isEmpty

/-- A mark that occurs in neither of two first fields separates them from the
rest. -/
theorem append_mark_inj {mark : Letter} {first second rest others : List Letter}
    (notInFirst : mark ∉ first) (notInSecond : mark ∉ second)
    (same : first ++ mark :: rest = second ++ mark :: others) :
    first = second ∧ rest = others := by
  induction first generalizing second with
  | nil =>
      cases second with
      | nil => exact ⟨rfl, (List.cons.inj same).2⟩
      | cons letter second =>
          exact absurd ((List.cons.inj same).1 ▸ List.mem_cons_self) notInSecond
  | cons letter first ih =>
      rw [List.mem_cons, not_or] at notInFirst
      cases second with
      | nil => exact absurd (List.cons.inj same).1.symm notInFirst.1
      | cons other second =>
          rw [List.mem_cons, not_or] at notInSecond
          obtain ⟨sameLetter, sameRest⟩ := List.cons.inj same
          obtain ⟨sameFirst, sameOthers⟩ := ih notInFirst.2 notInSecond.2 sameRest
          exact ⟨by rw [sameLetter, sameFirst], sameOthers⟩

variable [DecidableEq Letter]

/-- What comes before and after the first occurrence of a pattern. -/
def cut (pattern : List Letter) :
    List Letter → Option (List Letter × List Letter)
  | [] => none
  | letter :: rest =>
      if pattern <+: letter :: rest then
        some ([], (letter :: rest).drop pattern.length)
      else
        (cut pattern rest).map fun halves => (letter :: halves.1, halves.2)

/-- The piece between the first two occurrences of a pattern. -/
def secondPiece (pattern text : List Letter) : Option (List Letter) :=
  (cut pattern text).map fun halves =>
    match cut pattern halves.2 with
    | none => halves.2
    | some (piece, _) => piece

/-- Strip a pattern from the end as often as it occurs there. -/
def trimEndMatches (pattern text : List Letter) : List Letter :=
  (stripRepeatedly pattern.reverse text.reverse).reverse

end Fields

end PlainText
