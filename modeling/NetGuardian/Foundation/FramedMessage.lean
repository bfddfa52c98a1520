import Mathlib.Data.List.Basic
import Mathlib.Data.List.Infix

/-!
# Messages with a head and a counted body

A head of lines, each ended by two marks, an empty line, and then a body.  The body
may contain anything, also the marks: one field of the head says how long it is.  A
reader finds the lines and the body, and knows where the next message starts.
-/

namespace FramedMessage

variable {Letter : Type*} [DecidableEq Letter] (first second : Letter)

/-- The lines up to the empty one, and what follows. -/
def readHead (line : List Letter) :
    List Letter → Option (List (List Letter) × List Letter)
  | [] => none
  | [_] => none
  | letter :: next :: rest =>
      if letter = first ∧ next = second then
        if line = [] then some ([], rest)
        else (readHead [] rest).map fun found => (line :: found.1, found.2)
      else readHead (line ++ [letter]) (next :: rest)

/-- The rest of the first line that starts with the name of a field. -/
def field (name : List Letter) (lines : List (List Letter)) : Option (List Letter) :=
  (lines.find? fun line => decide (name <+: line)).map (·.drop name.length)

/-- A message as it is read. -/
structure Message (Letter : Type*) where
  head : List (List Letter)
  body : List Letter
  rest : List Letter
deriving DecidableEq

/-- A head and as many letters as it says, if so many are there. -/
def read (lengthName : List Letter) (number : List Letter → Option Nat)
    (text : List Letter) : Option (Message Letter) :=
  (readHead first second [] text).bind fun found =>
    ((field lengthName found.1).bind number).bind fun length =>
      if length ≤ found.2.length then
        some ⟨found.1, found.2.take length, found.2.drop length⟩
      else none

variable {first second} {line rest : List Letter} {lines : List (List Letter)}

end FramedMessage
