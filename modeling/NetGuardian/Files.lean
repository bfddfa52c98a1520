import NetGuardian.Filenames
import Mathlib.Data.String.Basic

/-!
# Files

The files of the machine as a map from paths to bytes.  What the operating
system decides (whether a file can be read, how a write ends) is an argument of
every operation.  Serializers are third-party code: they are pairs of functions
between values and texts.
-/

namespace NetGuardian

/-- The files that exist, with their contents. -/
abbrev Disk := Path → Option (List UInt8)

namespace Disk

def write (disk : Disk) (path : Path) (data : List UInt8) : Disk :=
  fun other => if other = path then some data else disk other

/-- `fs::remove_file` with its result dropped; `removed` tells whether it
succeeds. -/
def removeFile (disk : Disk) (removed : Path → Bool) (path : Path) : Disk :=
  fun other => if other = path && removed path then none else disk other

def exists? (disk : Disk) (path : Path) : Bool := (disk path).isSome

end Disk

/-- How a write or copy ends: completely, without touching the file, or with an
error after a number of bytes. -/
inductive WriteOutcome where
  | done
  | refused
  | truncated (bytes : Nat)
deriving DecidableEq

/-- The bytes of a text. -/
def utf8 (text : String) : List UInt8 := text.toByteArray.data.toList

def fromUtf8 (bytes : List UInt8) : Option String :=
  String.fromUTF8? ⟨bytes.toArray⟩

theorem fromUtf8_utf8 (text : String) : fromUtf8 (utf8 text) = some text :=
  dif_pos text.isValidUTF8

/-- What a write leaves behind.  A file that was opened for writing has lost
its old contents even if the write then fails. -/
structure TextWrite where
  disk : Disk
  opened : Bool
  succeeded : Bool

/-- `fs::write` of a text. -/
def Disk.writeText (disk : Disk) (path : Path) (text : String) :
    WriteOutcome → TextWrite
  | .done => ⟨disk.write path (utf8 text), true, true⟩
  | .refused => ⟨disk, false, false⟩
  | .truncated bytes => ⟨disk.write path ((utf8 text).take bytes), true, false⟩

/-- `fs::read_to_string`: the file must be there, readable and valid UTF-8. -/
def Disk.readToString (disk : Disk) (readable : Bool) (path : Path) :
    Option String :=
  if readable then (disk path).bind fromUtf8 else none

/-- `serde_json::to_string_pretty` and `serde_json::from_str` for one type. -/
structure Serde (Value : Type*) where
  toStringPretty : Value → String
  fromStr : String → Option Value

/-- The order in which a hash map happens to be iterated. -/
structure IterationOrder (Value : Type*) where
  iterate : List Value → List Value
  perm : ∀ values, (iterate values).Perm values

def IterationOrder.asStored {Value : Type*} : IterationOrder Value where
  iterate values := values
  perm values := .refl values

/-- Read and deserialize a file, if it is there. -/
def Serde.load {Value : Type*} (serde : Serde Value) (disk : Disk)
    (readable : Bool) (path : Path) : Option Value :=
  if disk.exists? path then
    (disk.readToString readable path).bind serde.fromStr
  else none

namespace Disk

variable {disk : Disk} {path : Path}

@[simp]
theorem write_self (data : List UInt8) : disk.write path data path = some data :=
  if_pos rfl

/-- A text that was written completely can be read again. -/
theorem readToString_write (text : String) :
    (disk.write path (utf8 text)).readToString true path = some text := by
  rw [readToString, if_pos rfl, write_self, Option.bind_some, fromUtf8_utf8]

theorem writeText_opened (text : String) (outcome : WriteOutcome) :
    (disk.writeText path text outcome).opened = true ↔ outcome ≠ .refused := by
  cases outcome <;> simp [writeText]

end Disk

theorem Serde.load_eq_some_iff {Value : Type*} {serde : Serde Value}
    {disk : Disk} {readable : Bool} {path : Path} {value : Value} :
    serde.load disk readable path = some value ↔
      ∃ text, disk.readToString readable path = some text ∧
        serde.fromStr text = some value := by
  rw [← Option.bind_eq_some_iff, load]
  by_cases present : disk.exists? path
  · rw [if_pos present]
  · have absent : disk path = none := by simpa [Disk.exists?] using present
    have unread : disk.readToString readable path = none := by
      simp [Disk.readToString, absent]
    rw [if_neg present, unread]
    rfl

end NetGuardian
