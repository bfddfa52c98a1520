import NetGuardian.CacheReads
import NetGuardian.CacheWrites
import Mathlib.Data.List.Find

/-!
# Keys that disturb each other

The index is searched by key and type, while the files are named by type and
sanitized key.  A change under one key leaves another key alone exactly when
the two have different files, or when the file they share ends up as it was.
-/

namespace NetGuardian

theorem CacheType.asStr_injective : Function.Injective CacheType.asStr := by
  intro cacheType other same
  cases cacheType <;> cases other <;> first | rfl | exact absurd same (by decide)

theorem CacheType.slash_notMem_asStr (cacheType : CacheType) :
    '/' ∉ cacheType.asStr.toList := by
  cases cacheType <;> decide

/-- What `joinPath` puts before a name does not depend on the name. -/
theorem joinPath_eq_append (base : Path) :
    ∃ directory, ∀ name, joinPath base name = directory ++ name := by
  unfold joinPath
  by_cases bare : base = "" ∨ base.toList.getLast? = some '/'
  · exact ⟨base, fun name => if_pos bare⟩
  · exact ⟨base ++ "/", fun name => if_neg bare⟩

namespace CacheManager

section Paths

variable {table : AlphanumericTable} {basePath : Path}

theorem slash_notMem_sanitizeFilename {key : String} :
    '/' ∉ (sanitizeFilename table key).toList := by
  have replaced : table.keeps '/' = false := by
    rw [AlphanumericTable.keeps, table.ascii '/' (by decide)]
    decide
  intro member
  rw [sanitizeFilename, String.toList_append] at member
  rcases List.mem_append.mp member with letter | suffix
  · rw [AlphanumericTable.replaceSpecial, String.toList_ofList] at letter
    obtain ⟨original, _, kept⟩ := List.mem_map.mp letter
    split at kept
    · next keeps =>
        rw [kept, replaced] at keeps
        cases keeps
    · cases kept
  · exact absurd suffix (by decide)

theorem pathOf_toList (table : AlphanumericTable) (basePath : Path) :
    ∃ directory : List Char, ∀ key cacheType,
      (pathOf table basePath key cacheType).toList =
        directory ++ (cacheType.asStr.toList ++
          '/' :: (sanitizeFilename table key).toList) := by
  obtain ⟨directory, joined⟩ := joinPath_eq_append basePath
  refine ⟨directory.toList, fun key cacheType => ?_⟩
  have nonempty : directory ++ cacheType.asStr ≠ "" := by
    intro empty
    have letters := congrArg String.toList empty
    rw [String.toList_append] at letters
    cases cacheType <;> simp [CacheType.asStr] at letters
  have noSlash : (directory ++ cacheType.asStr).toList.getLast? ≠ some '/' := by
    rw [String.toList_append]
    cases cacheType <;> simp [CacheType.asStr]
  rw [pathOf, joined, joinPath, if_neg (by simp only [nonempty, noSlash, or_self,
    not_false_eq_true])]
  simp [String.toList_append]

/-- Two keys have one file exactly when their types are the same and their names
are sanitized to the same text. -/
theorem pathOf_eq_iff {key other : String} {cacheType otherType : CacheType} :
    pathOf table basePath other otherType = pathOf table basePath key cacheType ↔
      otherType = cacheType ∧
        sanitizeFilename table other = sanitizeFilename table key := by
  obtain ⟨directory, letters⟩ := pathOf_toList table basePath
  constructor
  · intro same
    have sameLetters := congrArg String.toList same
    rw [letters, letters, List.append_cancel_left_eq] at sameLetters
    obtain ⟨sameType, _, sameName⟩ := (List.append_cons_inj_of_notMem
      otherType.slash_notMem_asStr slash_notMem_sanitizeFilename).mp sameLetters
    exact ⟨CacheType.asStr_injective (String.toList_injective sameType),
      String.toList_injective sameName⟩
  · rintro ⟨rfl, same⟩
    rw [pathOf, pathOf, same]

end Paths

section Reading

variable {table : AlphanumericTable} {cache : CacheManager} {disk : Disk}
variable {key : String} {cacheType : CacheType}

/-- The first entry of a key, whether or not its file is there. -/
def entryOf (cache : CacheManager) (key : String) (cacheType : CacheType) :
    Option CacheEntry :=
  cache.entries.find? fun entry => entry.key = key && entry.cacheType = cacheType

theorem entryOf_eq_none_iff : cache.entryOf key cacheType = none ↔
    ∀ entry ∈ cache.entries, (entry.key, entry.cacheType) ≠ (key, cacheType) := by
  simp [entryOf, List.find?_eq_none]

theorem get_fst (now : String) : (cache.get disk key cacheType now).1 =
    cache.entries.find? fun entry =>
      entry.key = key && entry.cacheType = cacheType && disk.exists? entry.path := by
  rw [List.find?_eq_bind_findIdx?_getElem?]
  unfold get position
  split
  · next index found => rw [found]; rfl
  · next missing => rw [missing]; rfl

end Reading

section Located

variable {table : AlphanumericTable} {cache : CacheManager} {disk : Disk}

/-- Every entry names the file of its key. -/
def Located (table : AlphanumericTable) (cache : CacheManager) : Prop :=
  ∀ line ∈ cache.lines,
    line.path = pathOf table cache.basePath line.key line.cacheType

theorem Located.path_eq (located : cache.Located table) {entry : CacheEntry}
    (member : entry ∈ cache.entries) :
    entry.path = pathOf table cache.basePath entry.key entry.cacheType :=
  located entry.line (List.mem_map_of_mem member)

theorem Located.sublist {other : CacheManager} (located : cache.Located table)
    (sublist : List.Sublist other.entries cache.entries)
    (sameBase : other.basePath = cache.basePath) : other.Located table := by
  intro line member
  rw [sameBase]
  exact located line ((sublist.map CacheEntry.line).subset member)

theorem Located.grown (located : cache.Located table) {entry : CacheEntry}
    (own : entry.path =
      pathOf table cache.basePath entry.key entry.cacheType) :
    (cache.grown entry).Located table := by
  intro line member
  obtain ⟨other, stored, rfl⟩ := List.mem_map.mp member
  rcases List.mem_append.mp stored with old | new
  · exact located.path_eq old
  · rw [List.mem_singleton.mp new]
    exact own

theorem Located.store (located : cache.Located table) {entry : CacheEntry}
    {removed : Path → Bool}
    (own : entry.path =
      pathOf table cache.basePath entry.key entry.cacheType) :
    (cache.store disk entry removed).cache.Located table := by
  obtain ⟨sublist, sameBase, _⟩ := @store_sublist cache disk removed entry
  exact (located.grown own).sublist sublist sameBase

theorem Located.path_of_entryOf (located : cache.Located table) {key : String}
    {cacheType : CacheType} {entry : CacheEntry}
    (found : cache.entryOf key cacheType = some entry) :
    entry.path = pathOf table cache.basePath key cacheType := by
  have own := List.find?_some found
  simp only [Bool.and_eq_true, decide_eq_true_eq] at own
  rw [located.path_eq (List.mem_of_find?_eq_some found), own.1, own.2]

/-- All entries of a key have the same file, so that `get` finds the first of them
or none. -/
theorem Located.get_fst (located : cache.Located table) (key : String)
    (cacheType : CacheType) (now : String) :
    (cache.get disk key cacheType now).1 =
      if disk.exists? (pathOf table cache.basePath key cacheType) then
        cache.entryOf key cacheType
      else none := by
  rw [CacheManager.get_fst, entryOf]
  have own : ∀ entry ∈ cache.entries,
      (entry.key = key && entry.cacheType = cacheType && disk.exists? entry.path) =
        (entry.key = key && entry.cacheType = cacheType &&
          disk.exists? (pathOf table cache.basePath key cacheType)) := by
    intro entry member
    by_cases owned : entry.key = key ∧ entry.cacheType = cacheType
    · rw [located.path_eq member, owned.1, owned.2]
    · simp only [← Bool.decide_and, owned, decide_false, Bool.false_and]
  rw [List.find?_congr own]
  cases disk.exists? (pathOf table cache.basePath key cacheType) with
  | false => simp
  | true => simp

end Located

end CacheManager

namespace CacheRun

variable {table : AlphanumericTable}

theorem located_step {run next : CacheRun} {operation : CacheOp}
    (located : run.cache.Located table)
    (taken : run.step table operation = some next) :
    next.cache.Located table := by
  cases operation with
  | get key cacheType now =>
      cases taken
      obtain ⟨sameLines, sameBase⟩ :=
        @get_lines run.cache run.disk key cacheType now
      intro line member
      change line ∈ (run.cache.get run.disk key cacheType now).2.lines at member
      rw [sameLines] at member
      exact (located line member).trans (by rw [← sameBase])
  | put key cacheType data metadata outcome statOk now removed =>
      cases taken
      exact CacheManager.put_keeps (CacheManager.Located table) located
        fun _ _ => located.store rfl
  | putPath key cacheType filePath metadata outcome readOk now removed =>
      cases taken
      exact CacheManager.putPath_keeps (CacheManager.Located table) located
        fun _ _ _ => located.store rfl
  | remove key cacheType removed =>
      cases taken
      exact located.sublist List.filter_sublist rfl
  | clear removed =>
      cases taken
      exact located.sublist (List.nil_sublist _) rfl
  | elsewhere path content =>
      simp only [step] at taken
      split at taken
      · cases taken
      · cases taken
        exact located

theorem located_of_run {basePath : Path} {maxSize : Nat} {disk : Disk}
    {operations : List CacheOp} {last : CacheRun}
    (run : LabelledRun.Run (step table) (initial basePath maxSize disk)
      operations last) :
    last.cache.Located table :=
  run.invariant (fun run => run.cache.Located table)
    (fun _ member => absurd member List.not_mem_nil)
    fun _ _ _ located _ taken => located_step located taken

/-- What a client sees of a key: the size and the metadata that `get` returns, if
it returns anything, and the bytes of the file. -/
def reading (run : CacheRun) (key : String) (cacheType : CacheType)
    (now : String) : Option (Nat × Metadata × Option (List UInt8)) :=
  (run.cache.get run.disk key cacheType now).1.map fun entry =>
    (entry.sizeBytes, entry.metadata, run.disk entry.path)

theorem reading_eq {run : CacheRun} (located : run.cache.Located table)
    (key : String) (cacheType : CacheType) (now : String) :
    run.reading key cacheType now =
      (run.cache.entryOf key cacheType).bind fun entry =>
        (run.disk (CacheManager.pathOf table run.cache.basePath key cacheType)).map
          fun bytes => (entry.sizeBytes, entry.metadata, some bytes) := by
  rw [reading, located.get_fst]
  cases content : run.disk
      (CacheManager.pathOf table run.cache.basePath key cacheType) with
  | none => simp [Disk.exists?, content]
  | some bytes =>
      cases found : run.cache.entryOf key cacheType with
      | none => simp
      | some entry =>
          have own := located.path_of_entryOf found
          simp [Disk.exists?, content, own]

theorem foldl_removeFile_of_mem {disk : Disk} {removed : Path → Bool}
    {file : Path} {entries : List CacheEntry}
    (owned : ∃ entry ∈ entries, entry.path = file) :
    entries.foldl (fun disk entry => disk.removeFile removed entry.path) disk file =
      if removed file then none else disk file := by
  induction entries generalizing disk with
  | nil =>
      obtain ⟨_, member, _⟩ := owned
      exact absurd member List.not_mem_nil
  | cons entry entries ih =>
      rw [List.foldl_cons]
      by_cases later : ∃ entry ∈ entries, entry.path = file
      · rw [ih later, Disk.removeFile]
        by_cases gone : removed file
        · rw [if_pos gone, if_pos gone]
        · rw [if_neg gone, if_neg gone, if_neg]
          simp only [Bool.and_eq_true, decide_eq_true_eq, not_and]
          rintro rfl
          exact gone
      · obtain ⟨owner, member, path⟩ := owned
        rcases List.mem_cons.mp member with rfl | rest
        · rw [foldl_removeFile_of_notMem fun other otherMember same =>
            later ⟨other, otherMember, same.symm⟩]
          subst path
          simp [Disk.removeFile]
        · exact absurd ⟨owner, rest, path⟩ later

end CacheRun

namespace CacheOp

/-- The key that a `put`, `put_path` or `remove` is about. -/
def changed : CacheOp → Option (String × CacheType)
  | .put key cacheType _ _ _ _ _ _ => some (key, cacheType)
  | .putPath key cacheType _ _ _ _ _ _ => some (key, cacheType)
  | .remove key cacheType _ => some (key, cacheType)
  | _ => none

end CacheOp

namespace CacheRun

/-- The operation succeeds and evicts nothing. -/
def Quiet (table : AlphanumericTable) (run : CacheRun) : CacheOp → Prop
  | .put key cacheType data metadata outcome statOk now removed =>
      let stored := run.cache.put table run.disk key cacheType data metadata outcome
        statOk now removed
      stored.entry ≠ none ∧ stored.evicted = []
  | .putPath key cacheType filePath metadata outcome readOk now removed =>
      let stored := run.cache.putPath table run.disk key cacheType filePath metadata
        outcome readOk now removed
      stored.entry ≠ none ∧ stored.evicted = []
  | .remove key cacheType removed =>
      (run.cache.remove run.disk key cacheType removed).2.2 = true
  | _ => True

/-- The file of the key holds before the operation what it holds after it:
the bytes that are written to it, or nothing that a removal could take away. -/
def LeavesFile (table : AlphanumericTable) (run : CacheRun) : CacheOp → Prop
  | .put key cacheType data _ _ _ _ _ =>
      run.disk (CacheManager.pathOf table run.cache.basePath key cacheType) =
        some data
  | .putPath key cacheType filePath _ _ _ _ _ =>
      let path := CacheManager.pathOf table run.cache.basePath key cacheType
      run.disk path = if filePath = path then some [] else run.disk filePath
  | .remove key cacheType removed =>
      let path := CacheManager.pathOf table run.cache.basePath key cacheType
      run.disk path = none ∨ removed path = false
  | _ => True

/-- All that a successful change under a key does to the other keys and to the
files; `same` says when even its own file stays. -/
structure ChangesOnly (table : AlphanumericTable) (before after : CacheRun)
    (key : String) (cacheType : CacheType) (same : Prop) : Prop where
  basePath : after.cache.basePath = before.cache.basePath
  entryOf : ∀ other otherType, (other, otherType) ≠ (key, cacheType) →
    after.cache.entryOf other otherType = before.cache.entryOf other otherType
  files : ∀ file,
    file ≠ CacheManager.pathOf table before.cache.basePath key cacheType →
      after.disk file = before.disk file
  own : after.disk (CacheManager.pathOf table before.cache.basePath key cacheType) =
      before.disk (CacheManager.pathOf table before.cache.basePath key cacheType) ↔
    same

theorem changesOnly_grown {before after : CacheRun} {key : String}
    {cacheType : CacheType} {entry : CacheEntry} {data : List UInt8}
    (owner : (entry.key, entry.cacheType) = (key, cacheType))
    (cache : after.cache = before.cache.grown entry)
    (disk : after.disk = before.disk.write
      (CacheManager.pathOf table before.cache.basePath key cacheType) data) :
    ChangesOnly table before after key cacheType
      (before.disk (CacheManager.pathOf table before.cache.basePath key cacheType) =
        some data) where
  basePath := by rw [cache]; rfl
  entryOf other otherType apart := by
    rw [cache, CacheManager.entryOf, CacheManager.grown, List.find?_append]
    have unowned : [entry].find? (fun entry =>
        entry.key = other && entry.cacheType = otherType) = none := by
      rw [List.find?_singleton, if_neg]
      intro own
      simp only [Bool.and_eq_true, decide_eq_true_eq] at own
      apply apart
      rw [← owner, own.1, own.2]
    rw [unowned, Option.or_none]
    rfl
  files file apart := by rw [disk, Disk.write, if_neg apart]
  own := by
    rw [disk, Disk.write_self]
    exact eq_comm

theorem changesOnly_remove {run : CacheRun} {key : String} {cacheType : CacheType}
    {removed : Path → Bool} {lastWrite : LastWrite}
    (located : run.cache.Located table)
    (success : (run.cache.remove run.disk key cacheType removed).2.2 = true) :
    ChangesOnly table run
      ⟨(run.cache.remove run.disk key cacheType removed).1,
        (run.cache.remove run.disk key cacheType removed).2.1, lastWrite⟩
      key cacheType
      (run.disk (CacheManager.pathOf table run.cache.basePath key cacheType) = none ∨
        removed (CacheManager.pathOf table run.cache.basePath key cacheType) =
          false) := by
  have owners : ∀ entry ∈ run.cache.entries.filter (fun entry =>
      entry.key = key && entry.cacheType = cacheType),
      entry.path = CacheManager.pathOf table run.cache.basePath key cacheType := by
    intro entry member
    obtain ⟨stored, own⟩ := List.mem_filter.mp member
    simp only [Bool.and_eq_true, decide_eq_true_eq] at own
    rw [located.path_eq stored, own.1, own.2]
  constructor
  · rfl
  · intro other otherType apart
    change (run.cache.entries.filter fun entry =>
      !(entry.key = key && entry.cacheType = cacheType)).find? _ = _
    rw [List.find?_filter, CacheManager.entryOf]
    apply List.find?_congr
    intro entry _
    rw [Bool.eq_iff_iff]
    simp only [decide_eq_true_eq, ← Bool.decide_and, Bool.not_eq_true',
      decide_eq_false_iff_not]
    constructor
    · exact And.right
    · rintro ⟨rfl, rfl⟩
      refine ⟨?_, rfl, rfl⟩
      rintro ⟨rfl, rfl⟩
      exact apart rfl
  · intro file apart
    apply foldl_removeFile_of_notMem
    intro entry member same
    exact apart (same.trans (owners entry member))
  · simp only [CacheManager.remove, decide_eq_true_eq] at success
    obtain ⟨entry, stored, matching⟩ :=
      List.length_filter_lt_length_iff_exists.mp success
    have member : entry ∈ run.cache.entries.filter (fun entry =>
        entry.key = key && entry.cacheType = cacheType) :=
      List.mem_filter.mpr ⟨stored, by simpa using matching⟩
    simp only [CacheManager.remove]
    rw [foldl_removeFile_of_mem ⟨entry, member, owners entry member⟩]
    cases removed (CacheManager.pathOf table run.cache.basePath key cacheType) with
    | false => simp
    | true => simp [eq_comm]

theorem changesOnly_step {before after : CacheRun} {operation : CacheOp}
    {key : String} {cacheType : CacheType} (located : before.cache.Located table)
    (changes : operation.changed = some (key, cacheType))
    (quiet : before.Quiet table operation)
    (taken : before.step table operation = some after) :
    ChangesOnly table before after key cacheType
      (before.LeavesFile table operation) := by
  cases operation with
  | get key cacheType now => cases changes
  | put key cacheType data metadata outcome statOk now removed =>
      cases changes
      cases taken
      have stored := CacheManager.put_of_stored quiet.1
      have evicted := quiet.2
      rw [stored] at evicted
      obtain ⟨sameCache, sameDisk⟩ := CacheManager.store_of_nothing_evicted evicted
      exact changesOnly_grown rfl ((congrArg CacheStored.cache stored).trans sameCache)
        ((congrArg CacheStored.disk stored).trans sameDisk)
  | putPath key cacheType filePath metadata outcome readOk now removed =>
      cases changes
      cases taken
      obtain ⟨data, source, stored⟩ := CacheManager.putPath_of_stored quiet.1
      have evicted := quiet.2
      rw [stored] at evicted
      obtain ⟨sameCache, sameDisk⟩ := CacheManager.store_of_nothing_evicted evicted
      rw [LeavesFile, source, ← apply_ite some]
      exact changesOnly_grown rfl ((congrArg CacheStored.cache stored).trans sameCache)
        ((congrArg CacheStored.disk stored).trans sameDisk)
  | remove key cacheType removed =>
      cases changes
      cases taken
      exact changesOnly_remove located quiet
  | clear removed => cases changes
  | elsewhere path content => cases changes

/-- A successful change under one key that evicts nothing leaves what a client
sees of another key alone exactly when the other key is not cached, or has
another file, or the file they share ends up as it was. -/
theorem undisturbed_iff (table : AlphanumericTable) (basePath : Path)
    (maxSize : Nat) (disk : Disk) {operations : List CacheOp}
    {before after : CacheRun} {operation : CacheOp}
    {key other : String} {cacheType otherType : CacheType} (now later : String)
    (run : LabelledRun.Run (step table) (initial basePath maxSize disk)
      operations before)
    (changes : operation.changed = some (key, cacheType))
    (quiet : before.Quiet table operation)
    (taken : before.step table operation = some after)
    (apart : (other, otherType) ≠ (key, cacheType)) :
    after.reading other otherType later = before.reading other otherType now ↔
      (∀ entry ∈ before.cache.entries,
          (entry.key, entry.cacheType) ≠ (other, otherType)) ∨
        ¬ (otherType = cacheType ∧
          CacheManager.sanitizeFilename table other =
            CacheManager.sanitizeFilename table key) ∨
        before.LeavesFile table operation := by
  have located := located_of_run run
  have changed := changesOnly_step located changes quiet taken
  rw [reading_eq (located_step located taken), reading_eq located, changed.basePath,
    changed.entryOf other otherType apart, ← CacheManager.entryOf_eq_none_iff]
  have content : after.disk (CacheManager.pathOf table before.cache.basePath other
        otherType) =
      before.disk (CacheManager.pathOf table before.cache.basePath other
        otherType) ↔
      ¬ (otherType = cacheType ∧
          CacheManager.sanitizeFilename table other =
            CacheManager.sanitizeFilename table key) ∨
        before.LeavesFile table operation := by
    rw [← @CacheManager.pathOf_eq_iff table before.cache.basePath]
    by_cases shared : CacheManager.pathOf table before.cache.basePath other otherType =
        CacheManager.pathOf table before.cache.basePath key cacheType
    · rw [shared, changed.own]
      simp
    · simp [shared, changed.files _ shared]
  cases cached : before.cache.entryOf other otherType with
  | none => simp
  | some entry =>
      have injective : Function.Injective fun bytes : List UInt8 =>
          (entry.sizeBytes, entry.metadata, some bytes) := by
        intro bytes same equal
        simpa using equal
      rw [Option.bind_some, Option.bind_some, (Option.map_injective injective).eq_iff,
        content]
      simp

/-- A `put` under the key "index" of another type. -/
def putObjects (data : List UInt8) : CacheOp :=
  .put "index" .gitObjects data ∅ .done true "" fun _ => true

/-- The same key under another type has a file of its own. -/
theorem undisturbed_iff_other_type :
    ∃ before after,
      LabelledRun.exec (step .asciiOnly) emptyCache [putIndex [1]] = some before ∧
      before.step .asciiOnly (putObjects [2]) = some after ∧
      after.reading "index" .generic "" = before.reading "index" .generic "" := by
  have run : LabelledRun.Run (step .asciiOnly) emptyCache [putIndex [1]] _ :=
    .extend .start trivial rfl
  have changes : (putObjects [2]).changed = some ("index", .gitObjects) := rfl
  refine ⟨_, _, run.exec_eq, rfl, ?_⟩
  refine (undisturbed_iff .asciiOnly "/cache" 1024 (fun _ => none) "" "" run changes
    ?_ rfl (by decide)).mpr (.inr (.inl ?_))
  · exact ⟨Option.some_ne_none _, rfl⟩
  · rintro ⟨⟨⟩, _⟩

/-- A `put` under another key of the generic type. -/
def putGeneric (key : String) (data : List UInt8) : CacheOp :=
  .put key .generic data ∅ .done true "" fun _ => true

/-- "a/b" and "a_b" share a file, so that a `put` under one is read under the
other. -/
theorem put_overwrites_other_key :
    ("a/b", CacheType.generic) ≠ ("a_b", CacheType.generic) ∧
      ∃ before after,
        LabelledRun.Run (step .asciiOnly) emptyCache [putGeneric "a/b" [1]] before ∧
        before.Quiet .asciiOnly (putGeneric "a_b" [2, 3]) ∧
        before.step .asciiOnly (putGeneric "a_b" [2, 3]) = some after ∧
        before.reading "a/b" .generic "" = some (1, ∅, some [1]) ∧
        after.reading "a/b" .generic "" = some (1, ∅, some [2, 3]) := by
  refine ⟨by decide, _, _, LabelledRun.run_of_exec_eq rfl, ⟨?_, ?_⟩, rfl, rfl, rfl⟩
  · exact Option.some_ne_none _
  · rfl

end CacheRun

end NetGuardian
