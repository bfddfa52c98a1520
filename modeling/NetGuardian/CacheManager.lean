import NetGuardian.Files
import NetGuardian.Primitives
import Mathlib.Algebra.GroupWithZero.Nat
import Mathlib.Data.List.AList
import Mathlib.Data.List.MinMax
import Mathlib.Data.Prod.Lex

/-!
# The file cache

The cache is an index of entries behind a mutex and a directory of files.  The
outcomes of file operations are arguments: a write may be refused, or it may
fail after having replaced the file by the beginning of the data.
-/

namespace NetGuardian

inductive CacheType where
  | gitObjects
  | ociLayers
  | pipWheels
  | aptPackages
  | npmPackages
  | generic
deriving DecidableEq

def CacheType.asStr : CacheType → String
  | gitObjects => "git"
  | ociLayers => "oci"
  | pipWheels => "pip"
  | aptPackages => "apt"
  | npmPackages => "npm"
  | generic => "generic"

abbrev Metadata := AList fun _ : String => String

/-- The RFC 3339 texts are kept as texts, since eviction compares them. -/
structure CacheEntry where
  key : String
  path : Path
  sizeBytes : Nat
  cacheType : CacheType
  createdAt : String
  lastAccess : String
  accessCount : Nat
  metadata : Metadata

structure CacheManager where
  entries : List CacheEntry
  basePath : Path
  maxSize : Nat
  hits : Nat
  misses : Nat

/-- What `put` and `put_path` leave behind. -/
structure CacheStored where
  cache : CacheManager
  disk : Disk
  entry : Option CacheEntry
  evicted : List CacheEntry

namespace CacheManager

/-- `sanitize_filename` of the cache. -/
def sanitizeFilename (table : AlphanumericTable) (key : String) : String :=
  table.replaceSpecial key ++ ".cache"

/-- The file that belongs to a key. -/
def pathOf (table : AlphanumericTable) (basePath : Path) (key : String)
    (cacheType : CacheType) : Path :=
  joinPath (joinPath basePath cacheType.asStr) (sanitizeFilename table key)

def new (basePath : Path) (maxSizeBytes : Nat) : CacheManager where
  entries := []
  basePath := basePath
  maxSize := maxSizeBytes
  hits := 0
  misses := 0

/-- A `u64` sum. -/
def totalSize (cache : CacheManager) : Nat :=
  (cache.entries.map CacheEntry.sizeBytes).sum % 2 ^ 64

def position (cache : CacheManager) (disk : Disk) (key : String)
    (cacheType : CacheType) : Option Nat :=
  cache.entries.findIdx? fun entry =>
    entry.key = key && entry.cacheType = cacheType && disk.exists? entry.path

def get (cache : CacheManager) (disk : Disk) (key : String)
    (cacheType : CacheType) (now : String) :
    Option CacheEntry × CacheManager :=
  match cache.position disk key cacheType with
  | some index =>
      (cache.entries[index]?,
        { cache with
          entries := cache.entries.modify index fun entry =>
            { entry with
              accessCount := addU64 entry.accessCount 1
              lastAccess := now }
          hits := addU64 cache.hits 1 })
  | none => (none, { cache with misses := addU64 cache.misses 1 })

/-- The order in which `min_by_key` compares entries. -/
def evictionKey (entry : CacheEntry) : Nat ×ₗ String :=
  toLex (entry.accessCount, entry.lastAccess)

/-- Position of the first entry with the least key. -/
def evictionIndex (cache : CacheManager) : Option Nat :=
  (cache.entries.zipIdx.argmin fun entry => evictionKey entry.1).map Prod.snd

def evictOne (cache : CacheManager) (disk : Disk) (removed : Path → Bool) :
    Option (CacheManager × Disk × CacheEntry) :=
  match cache.evictionIndex with
  | none => none
  | some index =>
      cache.entries[index]?.map fun entry =>
        ({ cache with entries := cache.entries.eraseIdx index },
          disk.removeFile removed entry.path, entry)

/-- The loop that follows a successful write.  Every round but the last removes
an entry, so that the number of entries bounds the number of rounds. -/
def evictLoop (removed : Path → Bool) :
    Nat → CacheManager → Disk → CacheManager × Disk × List CacheEntry
  | 0, cache, disk => (cache, disk, [])
  | rounds + 1, cache, disk =>
      if cache.maxSize < cache.totalSize then
        match cache.evictOne disk removed with
        | none => (cache, disk, [])
        | some (smaller, emptier, entry) =>
            let rest := evictLoop removed rounds smaller emptier
            (rest.1, rest.2.1, entry :: rest.2.2)
      else (cache, disk, [])

/-- The end of `put` and `put_path`: the entry is appended and the cache is
brought below its limit. -/
def store (cache : CacheManager) (disk : Disk) (entry : CacheEntry)
    (removed : Path → Bool) : CacheStored :=
  let grown := { cache with entries := cache.entries ++ [entry] }
  let evicted := evictLoop removed grown.entries.length grown disk
  ⟨evicted.1, evicted.2.1, some entry, evicted.2.2⟩

def put (table : AlphanumericTable) (cache : CacheManager) (disk : Disk)
    (key : String) (cacheType : CacheType) (data : List UInt8)
    (metadata : Metadata) (outcome : WriteOutcome) (statOk : Bool)
    (now : String) (removed : Path → Bool) : CacheStored :=
  let path := pathOf table cache.basePath key cacheType
  match outcome with
  | .refused => ⟨cache, disk, none, []⟩
  | .truncated bytes => ⟨cache, disk.write path (data.take bytes), none, []⟩
  | .done =>
      if statOk then
        cache.store (disk.write path data)
          { key := key
            path := path
            sizeBytes := data.length
            cacheType := cacheType
            createdAt := now
            lastAccess := now
            accessCount := 0
            metadata := metadata }
          removed
      else ⟨cache, disk.write path data, none, []⟩

/-- Copying a file onto itself empties it, because the target is truncated
before the source is read. -/
def putPath (table : AlphanumericTable) (cache : CacheManager) (disk : Disk)
    (key : String) (cacheType : CacheType) (filePath : Path)
    (metadata : Metadata) (outcome : WriteOutcome) (readOk : Bool)
    (now : String) (removed : Path → Bool) : CacheStored :=
  let path := pathOf table cache.basePath key cacheType
  match disk filePath with
  | none => ⟨cache, disk, none, []⟩
  | some data =>
      if readOk then
        let copied := if filePath = path then [] else data
        match outcome with
        | .refused => ⟨cache, disk, none, []⟩
        | .truncated bytes =>
            ⟨cache, disk.write path (copied.take bytes), none, []⟩
        | .done =>
            cache.store (disk.write path copied)
              { key := key
                path := path
                sizeBytes := data.length
                cacheType := cacheType
                createdAt := now
                lastAccess := now
                accessCount := 0
                metadata := metadata }
              removed
      else ⟨cache, disk, none, []⟩

def remove (cache : CacheManager) (disk : Disk) (key : String)
    (cacheType : CacheType) (removed : Path → Bool) :
    CacheManager × Disk × Bool :=
  let matching (entry : CacheEntry) : Bool :=
    entry.key = key && entry.cacheType = cacheType
  let kept := cache.entries.filter fun entry => !matching entry
  ({ cache with entries := kept },
    (cache.entries.filter matching).foldl
      (fun disk entry => disk.removeFile removed entry.path) disk,
    kept.length < cache.entries.length)

def clear (cache : CacheManager) (disk : Disk) (removed : Path → Bool) :
    CacheManager × Disk :=
  ({ cache with entries := [] },
    cache.entries.foldl
      (fun disk entry => disk.removeFile removed entry.path) disk)

section Evict

variable {cache : CacheManager} {disk : Disk} {removed : Path → Bool}

/-- The chosen entry is the first of the least ones. -/
theorem evictionIndex_eq_some {index : Nat}
    (chosen : cache.evictionIndex = some index) :
    ∃ entry, cache.entries[index]? = some entry ∧
      ∀ other rival, cache.entries[other]? = some rival →
        evictionKey entry ≤ evictionKey rival ∧
          (other < index → evictionKey entry < evictionKey rival) := by
  let _ : DecidableEq (CacheEntry × Nat) := Classical.decEq _
  obtain ⟨⟨entry, position⟩, best, rfl⟩ := Option.map_eq_some_iff.mp chosen
  have distinct : cache.entries.zipIdx.Nodup :=
    (List.nodup_zipIdx_map_snd cache.entries).of_map
  have place : ∀ other rival, cache.entries[other]? = some rival →
      (rival, other) ∈ cache.entries.zipIdx ∧
        cache.entries.zipIdx.idxOf (rival, other) = other := by
    intro other rival found
    have here : cache.entries.zipIdx[other]? = some (rival, other) := by
      simp [List.getElem?_zipIdx, found]
    obtain ⟨below, same⟩ := List.getElem?_eq_some_iff.mp here
    refine ⟨List.mem_of_getElem? here, ?_⟩
    rw [← same]
    exact distinct.idxOf_getElem other below
  have found := List.mem_zipIdx_iff_getElem?.mp (List.argmin_mem best)
  refine ⟨entry, found, fun other rival atOther => ?_⟩
  obtain ⟨member, index⟩ := place other rival atOther
  have least := List.le_of_mem_argmin member best
  refine ⟨least, fun before => lt_of_le_of_ne least fun same => ?_⟩
  have first := List.index_of_argmin best member same.ge
  rw [index, (place position entry found).2] at first
  omega

/-- Everything `evict_one` can do. -/
theorem evictOne_spec {next : CacheManager × Disk × CacheEntry}
    (evicted : cache.evictOne disk removed = some next) :
    ∃ index entry, cache.entries[index]? = some entry ∧
      next = ({ cache with entries := cache.entries.eraseIdx index },
        disk.removeFile removed entry.path, entry) ∧
      ∀ other rival, cache.entries[other]? = some rival →
        evictionKey entry ≤ evictionKey rival ∧
          (other < index → evictionKey entry < evictionKey rival) := by
  unfold evictOne at evicted
  cases chosen : cache.evictionIndex with
  | none => simp [chosen] at evicted
  | some index =>
      obtain ⟨entry, found, least⟩ := evictionIndex_eq_some chosen
      simp only [chosen, found, Option.map_some, Option.some.injEq] at evicted
      exact ⟨index, entry, found, evicted.symm, least⟩

theorem evictOne_eq_some {next : CacheManager × Disk × CacheEntry}
    (evicted : cache.evictOne disk removed = some next) :
    ∃ index entry, cache.entries[index]? = some entry ∧
      next = ({ cache with entries := cache.entries.eraseIdx index },
        disk.removeFile removed entry.path, entry) := by
  obtain ⟨index, entry, found, same, _⟩ := evictOne_spec evicted
  exact ⟨index, entry, found, same⟩

theorem evictOne_eq_none (stuck : cache.evictOne disk removed = none) :
    cache.entries = [] := by
  unfold evictOne at stuck
  cases chosen : cache.evictionIndex with
  | none =>
      rw [evictionIndex, Option.map_eq_none_iff, List.argmin_eq_none,
        List.zipIdx_eq_nil_iff] at chosen
      exact chosen
  | some index =>
      simp only [chosen, Option.map_eq_none_iff] at stuck
      obtain ⟨⟨entry, position⟩, best, rfl⟩ := Option.map_eq_some_iff.mp chosen
      have found := List.mem_zipIdx_iff_getElem?.mp (List.argmin_mem best)
      rw [stuck] at found
      cases found

/-- The loop always ends with the cache below its limit. -/
theorem evictLoop_totalSize_le (rounds : Nat) (enough : cache.entries.length ≤ rounds) :
    (evictLoop removed rounds cache disk).1.totalSize ≤
      (evictLoop removed rounds cache disk).1.maxSize := by
  induction rounds generalizing cache disk with
  | zero =>
      have noEntries : cache.entries = [] := List.length_eq_zero_iff.mp (by omega)
      simp [evictLoop, totalSize, noEntries]
  | succ rounds ih =>
      rw [evictLoop]
      split
      · cases evicted : cache.evictOne disk removed with
        | none =>
            have noEntries := evictOne_eq_none evicted
            simp [totalSize, noEntries]
        | some next =>
            obtain ⟨index, entry, found, rfl⟩ := evictOne_eq_some evicted
            apply ih
            have below := (List.getElem?_eq_some_iff.mp found).1
            change (cache.entries.eraseIdx index).length ≤ rounds
            rw [List.length_eraseIdx_of_lt below]
            omega
      · next within => exact Nat.le_of_not_lt within

end Evict

end CacheManager

end NetGuardian
