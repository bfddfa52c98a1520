import Mathlib.Data.String.Basic

/-!
# Paths and file names

A path is the text that the program hands to the operating system, taken as
resolved: two different paths are two different files.  File names are made
from keys and URLs by replacing every character that is not alphanumeric.
-/

namespace NetGuardian

abbrev Path := String

/-- `Path::join` with a name that is not an absolute path. -/
def joinPath (base name : String) : Path :=
  if base = "" ∨ base.toList.getLast? = some '/' then base ++ name
  else base ++ "/" ++ name

/-- The Unicode table behind `char::is_alphanumeric`.  Nothing is assumed of it
outside ASCII. -/
structure AlphanumericTable where
  isAlphanumeric : Char → Bool
  ascii : ∀ letter : Char, letter.val < 128 →
    isAlphanumeric letter = letter.isAlphanum

/-- The table that knows the ASCII letters and digits only. -/
def AlphanumericTable.asciiOnly : AlphanumericTable where
  isAlphanumeric := Char.isAlphanum
  ascii _ _ := rfl

/-- The characters that both `sanitize_filename` functions keep. -/
def AlphanumericTable.keeps (table : AlphanumericTable) (letter : Char) : Bool :=
  table.isAlphanumeric letter || letter = '-' || letter = '_' || letter = '.'

/-- The part that both `sanitize_filename` functions have in common. -/
def AlphanumericTable.replaceSpecial (table : AlphanumericTable)
    (text : String) : String :=
  String.ofList (text.toList.map fun letter =>
    if table.keeps letter then letter else '_')

theorem prefix_joinPath (base name : String) :
    base.toList <+: (joinPath base name).toList := by
  unfold joinPath
  split
  · rw [String.toList_append]
    exact List.prefix_append _ _
  · rw [String.toList_append, String.toList_append, List.append_assoc]
    exact List.prefix_append _ _

end NetGuardian
