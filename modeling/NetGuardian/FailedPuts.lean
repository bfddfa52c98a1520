import NetGuardian.CacheReads
import NetGuardian.CacheWrites
import Mathlib.Data.List.Find

/-!
# What a failed write leaves behind

`put` and `put_path` write the file of their key in place, and touch the index
only if that succeeds.  A failure is harmless for a key that is not cached yet;
the file of a cached key has been overwritten.
-/

namespace NetGuardian

namespace CacheManager

/-- One `get` after the other, with the readings of the clock. -/
def answers (cache : CacheManager) (disk : Disk) :
    List (String × CacheType × String) → List (Option CacheEntry)
  | [] => []
  | (key, cacheType, now) :: calls =>
      let result := cache.get disk key cacheType now
      result.1 :: answers result.2 disk calls

/-- Every sequence of `get`s returns what it would have returned before, and the
files of all entries hold the same bytes. -/
def Intact (cache : CacheManager) (disk : Disk) (stored : CacheStored) : Prop :=
  (∀ calls, stored.cache.answers stored.disk calls = cache.answers disk calls) ∧
    ∀ entry ∈ cache.entries, stored.disk entry.path = disk entry.path

section Answers

variable {cache : CacheManager} {disk other : Disk}

/-- `get` looks for the files of the entries only. -/
theorem get_congr (same : ∀ entry ∈ cache.entries, other entry.path = disk entry.path)
    (key : String) (cacheType : CacheType) (now : String) :
    cache.get other key cacheType now = cache.get disk key cacheType now := by
  have position : cache.position other key cacheType =
      cache.position disk key cacheType := by
    rw [CacheManager.position, CacheManager.position,
      List.findIdx?_eq_fst_find?_zipIdx, List.findIdx?_eq_fst_find?_zipIdx]
    congr 1
    apply List.find?_congr
    rintro ⟨entry, index⟩ member
    have stored := List.mem_of_getElem? (List.mem_zipIdx_iff_getElem?.mp member)
    simp only [Disk.exists?, same entry stored]
  rw [get, get, position]

/-- `get` keeps the paths of the entries. -/
theorem path_mem_of_get {key : String} {cacheType : CacheType} {now : String}
    {entry : CacheEntry}
    (member : entry ∈ (cache.get disk key cacheType now).2.entries) :
    ∃ old ∈ cache.entries, old.path = entry.path := by
  have sameLines := (@CacheRun.get_lines cache disk key cacheType now).1
  have line : entry.line ∈ cache.lines := by
    rw [← sameLines]
    exact List.mem_map_of_mem member
  obtain ⟨old, stored, same⟩ := List.mem_map.mp line
  exact ⟨old, stored, congrArg CacheLine.path same⟩

theorem answers_congr
    (same : ∀ entry ∈ cache.entries, other entry.path = disk entry.path)
    (calls : List (String × CacheType × String)) :
    cache.answers other calls = cache.answers disk calls := by
  induction calls generalizing cache with
  | nil => rfl
  | cons call calls ih =>
      obtain ⟨key, cacheType, now⟩ := call
      rw [answers, answers, get_congr same key cacheType now, ih]
      intro entry member
      obtain ⟨old, stored, path⟩ := path_mem_of_get member
      rw [← path]
      exact same old stored

end Answers

/-- What a write of `data` that has not stored an entry has put into the file, if it
has opened the file. -/
def leftBehind (outcome : WriteOutcome) (data : List UInt8) :
    Option (List UInt8) :=
  match outcome with
  | .refused => none
  | .truncated bytes => some (data.take bytes)
  | .done => some data

/-- A failed write of `data` hurts no entry: no entry has the file, or the file holds
what the write leaves behind. -/
def Harmless (cache : CacheManager) (disk : Disk) (file : Path)
    (outcome : WriteOutcome) (data : List UInt8) : Prop :=
  ∀ bytes, leftBehind outcome data = some bytes →
    ∀ entry ∈ cache.entries, entry.path = file → disk file = some bytes

section Failed

variable {table : AlphanumericTable} {cache : CacheManager} {disk : Disk}
variable {stored : CacheStored} {file : Path} {data : List UInt8}
variable {outcome : WriteOutcome}

/-- The disk after a failed write. -/
def overwritten (disk : Disk) (file : Path) (outcome : WriteOutcome)
    (data : List UInt8) : Disk :=
  ((leftBehind outcome data).map (disk.write file)).getD disk

theorem intact_iff_harmless (sameCache : stored.cache = cache)
    (written : stored.disk = overwritten disk file outcome data) :
    Intact cache disk stored ↔ Harmless cache disk file outcome data := by
  unfold overwritten at written
  constructor
  · rintro ⟨_, files⟩ bytes left entry member own
    rw [left] at written
    have same := files entry member
    rw [written, own, Option.map_some, Option.getD_some, Disk.write_self] at same
    exact same.symm
  · intro harmless
    have files : ∀ entry ∈ cache.entries,
        stored.disk entry.path = disk entry.path := by
      intro entry member
      cases left : leftBehind outcome data with
      | none =>
          rw [left] at written
          rw [written, Option.map_none, Option.getD_none]
      | some bytes =>
          rw [left] at written
          rw [written, Option.map_some, Option.getD_some, Disk.write]
          split
          · next own => rw [own, harmless bytes left entry member own]
          · rfl
    refine ⟨fun calls => ?_, files⟩
    rw [sameCache]
    exact answers_congr files calls

/-- What every failing `put` does. -/
theorem put_failed_eq {key : String} {cacheType : CacheType} {metadata : Metadata}
    {statOk : Bool} {now : String} {removed : Path → Bool}
    (failed : (cache.put table disk key cacheType data metadata outcome statOk now
      removed).entry = none) :
    (cache.put table disk key cacheType data metadata outcome statOk now
      removed).disk =
        overwritten disk (pathOf table cache.basePath key cacheType) outcome data := by
  cases outcome with
  | refused => rfl
  | truncated bytes => rfl
  | done =>
      cases statOk with
      | false => rfl
      | true => cases failed

/-- What every failing `put_path` does. -/
theorem putPath_failed_eq {key : String} {cacheType : CacheType}
    {metadata : Metadata} {filePath : Path} {readOk : Bool} {now : String}
    {removed : Path → Bool}
    (failed : (cache.putPath table disk key cacheType filePath metadata outcome readOk
      now removed).entry = none) :
    (cache.putPath table disk key cacheType filePath metadata outcome readOk now
      removed).disk =
        match disk filePath with
        | none => disk
        | some data =>
            if readOk then
              overwritten disk (pathOf table cache.basePath key cacheType) outcome
                (if filePath = pathOf table cache.basePath key cacheType then []
                  else data)
            else disk := by
  unfold putPath at failed ⊢
  cases content : disk filePath with
  | none => rfl
  | some data =>
      rw [content] at failed
      cases readOk with
      | false => rfl
      | true =>
          cases outcome with
          | refused => rfl
          | truncated bytes => rfl
          | done => cases failed

theorem intact_of_untouched (sameCache : stored.cache = cache)
    (sameDisk : stored.disk = disk) : Intact cache disk stored := by
  rw [Intact, sameCache, sameDisk]
  exact ⟨fun _ => rfl, fun _ _ => rfl⟩

/-- A `put` or `put_path` that fails leaves the cache intact exactly if what it has
written is harmless. -/
theorem failed_intact_iff (table : AlphanumericTable) (cache : CacheManager)
    (disk : Disk) (key : String) (cacheType : CacheType) (metadata : Metadata)
    (outcome : WriteOutcome) (now : String) (removed : Path → Bool) :
    let file := pathOf table cache.basePath key cacheType
    (∀ data statOk,
      let stored := cache.put table disk key cacheType data metadata outcome statOk
        now removed
      stored.entry = none →
        (Intact cache disk stored ↔ Harmless cache disk file outcome data)) ∧
    ∀ filePath readOk,
      let stored := cache.putPath table disk key cacheType filePath metadata outcome
        readOk now removed
      stored.entry = none →
        (Intact cache disk stored ↔ ∀ data, disk filePath = some data →
          readOk = true → Harmless cache disk file outcome
            (if filePath = file then [] else data)) := by
  intro file
  constructor
  · intro data statOk stored failed
    exact intact_iff_harmless (put_of_failed failed) (put_failed_eq failed)
  · intro filePath readOk stored failed
    have sameCache : stored.cache = cache := putPath_of_failed failed
    have written : stored.disk = _ := putPath_failed_eq failed
    cases content : disk filePath with
    | none =>
        rw [content] at written
        refine iff_of_true (intact_of_untouched sameCache written) ?_
        rintro data ⟨⟩
    | some data =>
        rw [content] at written
        cases readOk with
        | false =>
            refine iff_of_true (intact_of_untouched sameCache written) ?_
            rintro _ _ ⟨⟩
        | true =>
            rw [intact_iff_harmless sameCache written]
            simp [file]

end Failed

end CacheManager

namespace CacheRun

open CacheManager

/-- The cache and the disk after one successful `put` of two bytes. -/
def onePut : CacheRun :=
  (LabelledRun.exec (step .asciiOnly) emptyCache [putIndex [1, 2]]).getD emptyCache

/-- The same bytes again, with a failing look at the size of the file. -/
theorem failed_intact_iff_onePut :
    Intact onePut.cache onePut.disk
        (onePut.cache.put .asciiOnly onePut.disk "index" .generic [1, 2] ∅ .done false
          "" fun _ => true) ↔
      Harmless onePut.cache onePut.disk
        (pathOf .asciiOnly onePut.cache.basePath "index" .generic) .done [1, 2] :=
  (failed_intact_iff .asciiOnly onePut.cache onePut.disk "index" .generic ∅ .done ""
    fun _ => true).1 [1, 2] false rfl

/-- A `put` that fails after it has opened the file leaves a cached key with an
empty file. -/
theorem failed_put_truncates :
    LabelledRun.Run (step .asciiOnly) emptyCache [putIndex [1, 2]] onePut ∧
      let stored := onePut.cache.put .asciiOnly onePut.disk "index" .generic [3] ∅
        (.truncated 0) true "" fun _ => true
      stored.entry = none ∧
        (onePut.cache.entries.map fun entry => onePut.disk entry.path) =
          [some [1, 2]] ∧
        (onePut.cache.entries.map fun entry => stored.disk entry.path) =
          [some []] ∧
        ¬ Intact onePut.cache onePut.disk stored := by
  refine ⟨LabelledRun.run_of_exec_eq rfl, rfl, rfl, rfl, ?_⟩
  rintro ⟨_, files⟩
  have same := files (newEntry .asciiOnly onePut.cache "index" .generic 2 ∅ "")
    List.mem_cons_self
  cases same

end CacheRun

end NetGuardian
