import Mathlib.Data.List.Basic

/-!
# Reading line by line

A reader takes what arrives up to the next mark, its ending included, and at the end
of the input what is left.  The ended lines of a text do not depend on how the text
has arrived: lines that were read before more has arrived are the first lines of the
whole.
-/

namespace LineReader

variable {Letter : Type*} {mark : Letter}

/-- A line with its ending, and no other mark. -/
def IsEnded (mark : Letter) (line : List Letter) : Prop :=
  ∃ body, mark ∉ body ∧ line = body ++ [mark]

variable [DecidableEq Letter]

/-- The first line with its ending, and the rest. -/
def takeLine (mark : Letter) : List Letter → Option (List Letter × List Letter)
  | [] => none
  | letter :: rest =>
      if letter = mark then some ([letter], rest)
      else (takeLine mark rest).map fun found => (letter :: found.1, found.2)

/-- The ended lines, and what is left behind the last of them. -/
def split (mark : Letter) : List Letter → List (List Letter) × List Letter
  | [] => ([], [])
  | letter :: rest =>
      if letter = mark then ([letter] :: (split mark rest).1, (split mark rest).2)
      else
        match split mark rest with
        | ([], left) => ([], letter :: left)
        | (line :: lines, left) => ((letter :: line) :: lines, left)

/-- All lines: at the end of the input, what is left is a line too. -/
def lines (mark : Letter) (ended : Bool) (text : List Letter) :
    List (List Letter) :=
  (split mark text).1 ++
    if ended = true ∧ (split mark text).2 ≠ [] then [(split mark text).2] else []

variable {line rest text : List Letter} {read : List (List Letter)} {ended : Bool}

theorem takeLine_eq_some (found : takeLine mark text = some (line, rest)) :
    text = line ++ rest ∧ IsEnded mark line := by
  induction text generalizing line with
  | nil => cases found
  | cons letter text ih =>
      rw [takeLine] at found
      split at found
      · next here =>
          cases found
          exact ⟨rfl, [], List.not_mem_nil, by rw [here]; rfl⟩
      · next differs =>
          obtain ⟨⟨before, behind⟩, later, same⟩ := Option.map_eq_some_iff.mp found
          cases same
          obtain ⟨rfl, body, free, rfl⟩ := ih later
          refine ⟨rfl, letter :: body, ?_, rfl⟩
          rw [List.mem_cons, not_or]
          exact ⟨Ne.symm differs, free⟩

theorem takeLine_eq_none : takeLine mark text = none ↔ mark ∉ text := by
  induction text with
  | nil => simp [takeLine]
  | cons letter text ih =>
      rw [takeLine, List.mem_cons, not_or]
      split
      · next here => simp [here]
      · next differs => simp [ih, Ne.symm differs]

/-- The ended lines start with those that end first. -/
theorem split_append (isEnded : IsEnded mark line) :
    split mark (line ++ rest) = (line :: (split mark rest).1, (split mark rest).2) := by
  obtain ⟨body, free, rfl⟩ := isEnded
  induction body with
  | nil => simp [split]
  | cons letter body ih =>
      rw [List.mem_cons, not_or] at free
      rw [List.cons_append, List.cons_append, split, if_neg (Ne.symm free.1),
        ih free.2]

theorem split_of_notMem (free : mark ∉ text) : split mark text = ([], text) := by
  induction text with
  | nil => rfl
  | cons letter text ih =>
      rw [List.mem_cons, not_or] at free
      rw [split, if_neg (Ne.symm free.1), ih free.2]

/-- Lines that have been read are the first lines of everything. -/
theorem lines_flatten_append (allEnded : ∀ line ∈ read, IsEnded mark line) :
    lines mark ended (read.flatten ++ text) = read ++ lines mark ended text := by
  induction read with
  | nil => rfl
  | cons line read ih =>
      obtain ⟨first, others⟩ := List.forall_mem_cons.mp allEnded
      have later := ih others
      rw [lines] at later ⊢
      rw [List.flatten_cons, List.append_assoc, split_append first]
      rw [List.cons_append, List.cons_append, later]

theorem lines_of_notMem (free : mark ∉ text) :
    lines mark ended text = if ended = true ∧ text ≠ [] then [text] else [] := by
  rw [lines, split_of_notMem free]
  rfl

@[simp]
theorem lines_nil : lines mark ended [] = [] := by
  rw [lines_of_notMem List.not_mem_nil, if_neg (by simp)]

end LineReader
