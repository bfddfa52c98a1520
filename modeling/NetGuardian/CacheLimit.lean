import NetGuardian.CacheReads
import NetGuardian.CacheWrites
import Mathlib.Algebra.Order.BigOperators.Group.List

/-!
# The cache stays within its limit

`put` and `put_path` first append an entry and then evict until the total size
is within the limit; every other operation can only make the total smaller.
The total is a `u64` sum, so that this needs the sizes to fit in a `u64`.
-/

namespace NetGuardian

namespace CacheManager

/-- The sum of the sizes before it is taken modulo `2 ^ 64`. -/
def sizes (cache : CacheManager) : Nat :=
  (cache.entries.map CacheEntry.sizeBytes).sum

theorem sizes_le_of_sublist {cache other : CacheManager}
    (sublist : List.Sublist other.entries cache.entries) :
    other.sizes ≤ cache.sizes :=
  (sublist.map CacheEntry.sizeBytes).sum_le_sum fun _ _ => Nat.zero_le _

theorem totalSize_of_fits {cache : CacheManager} (fits : cache.sizes < 2 ^ 64) :
    cache.totalSize = cache.sizes :=
  Nat.mod_eq_of_lt fits

/-- An entry that a write has appended fits in the `u64` sum. -/
def Fits (cache : CacheManager) (stored : CacheStored) : Prop :=
  ∀ entry, stored.entry = some entry → (cache.grown entry).sizes < 2 ^ 64

/-- If the write has appended an entry, then the eviction loop, started on the
files that were written, ends with at most as many removals as there are
entries. -/
def EvictionEnds (cache : CacheManager) (written : Disk) (removed : Path → Bool)
    (stored : CacheStored) : Prop :=
  ∀ entry, stored.entry = some entry →
    BreakLoop.Ends OverLimit (evictRound removed) (cache.grown entry, written)
        stored.evicted (stored.cache, stored.disk) ∧
      stored.evicted.length ≤ (cache.grown entry).entries.length

/-- The total is at most the limit, and it is the true sum of the sizes. -/
structure WithinLimit (cache : CacheManager) (maxSize : Nat) : Prop where
  limit : cache.maxSize = maxSize
  within : cache.sizes ≤ maxSize
  fits : cache.sizes < 2 ^ 64

section Limit

variable {cache other : CacheManager} {maxSize : Nat}

/-- Losing entries keeps the cache within its limit. -/
theorem WithinLimit.shrink (held : cache.WithinLimit maxSize)
    (sublist : List.Sublist other.entries cache.entries)
    (limit : other.maxSize = cache.maxSize) : other.WithinLimit maxSize where
  limit := limit.trans held.limit
  within := (sizes_le_of_sublist sublist).trans held.within
  fits := (sizes_le_of_sublist sublist).trans_lt held.fits

theorem withinLimit_get {disk : Disk} {key : String} {cacheType : CacheType}
    {now : String} (held : cache.WithinLimit maxSize) :
    (cache.get disk key cacheType now).2.WithinLimit maxSize := by
  have sameSizes : (cache.get disk key cacheType now).2.sizes = cache.sizes := by
    unfold get sizes
    split
    · exact congrArg List.sum
        (DistinctKeys.map_modify CacheEntry.sizeBytes _ _ fun _ => rfl)
    · rfl
  have sameLimit : (cache.get disk key cacheType now).2.maxSize =
      cache.maxSize := by
    unfold get
    split
    · rfl
    · rfl
  exact ⟨sameLimit.trans held.limit, sameSizes ▸ held.within,
    sameSizes ▸ held.fits⟩

/-- Whatever was appended, the eviction loop brings the cache back within its
limit. -/
theorem withinLimit_store {disk : Disk} {entry : CacheEntry}
    {removed : Path → Bool} (limit : cache.maxSize = maxSize)
    (fits : (cache.grown entry).sizes < 2 ^ 64) :
    (cache.store disk entry removed).cache.WithinLimit maxSize := by
  obtain ⟨sublist, _, sameLimit⟩ := @store_sublist cache disk removed entry
  have fitsAfter := (sizes_le_of_sublist sublist).trans_lt fits
  have within := @evictLoop_totalSize_le (cache.grown entry) disk removed _ le_rfl
  change (cache.store disk entry removed).cache.totalSize ≤
    (cache.store disk entry removed).cache.maxSize at within
  rw [totalSize_of_fits fitsAfter, sameLimit, limit] at within
  exact ⟨sameLimit.trans limit, within, fitsAfter⟩

theorem evictionEnds_store {disk : Disk} {entry : CacheEntry}
    {removed : Path → Bool} :
    cache.EvictionEnds disk removed (cache.store disk entry removed) := by
  intro appended same
  cases same
  have ends := @store_ends cache disk removed entry
  have bound := ends.length_add_le (fun state => state.1.entries.length)
    fun _ _ _ taken => evictRound_shrinks taken
  exact ⟨ends, (Nat.le_add_right _ _).trans bound⟩

end Limit

section Writes

variable {table : AlphanumericTable} {cache : CacheManager} {disk : Disk}
variable {key : String} {cacheType : CacheType} {metadata : Metadata}
variable {outcome : WriteOutcome} {now : String} {removed : Path → Bool}
variable {maxSize : Nat}

theorem withinLimit_put {data : List UInt8} {statOk : Bool}
    (held : cache.WithinLimit maxSize)
    (fits : cache.Fits (cache.put table disk key cacheType data metadata outcome
      statOk now removed)) :
    (cache.put table disk key cacheType data metadata outcome statOk now
      removed).cache.WithinLimit maxSize :=
  put_keeps (fun cache => cache.WithinLimit maxSize) held fun _ stored =>
    withinLimit_store held.limit (fits _ (by rw [stored]; rfl))

theorem withinLimit_putPath {filePath : Path} {readOk : Bool}
    (held : cache.WithinLimit maxSize)
    (fits : cache.Fits (cache.putPath table disk key cacheType filePath metadata
      outcome readOk now removed)) :
    (cache.putPath table disk key cacheType filePath metadata outcome readOk now
      removed).cache.WithinLimit maxSize :=
  putPath_keeps (fun cache => cache.WithinLimit maxSize) held fun _ _ stored =>
    withinLimit_store held.limit (fits _ (by rw [stored]; rfl))

theorem evictionEnds_put {data : List UInt8} {statOk : Bool} :
    cache.EvictionEnds
      (disk.write (pathOf table cache.basePath key cacheType) data) removed
      (cache.put table disk key cacheType data metadata outcome statOk now
        removed) := by
  intro appended entry
  have stored := @put_of_stored table cache disk key cacheType metadata outcome now
    removed data statOk (by simp [entry])
  rw [stored] at entry ⊢
  exact evictionEnds_store appended entry

theorem evictionEnds_putPath {filePath : Path} {readOk : Bool}
    {data : List UInt8} (source : disk filePath = some data) :
    cache.EvictionEnds
      (disk.write (pathOf table cache.basePath key cacheType)
        (if filePath = pathOf table cache.basePath key cacheType then []
          else data)) removed
      (cache.putPath table disk key cacheType filePath metadata outcome readOk now
        removed) := by
  intro appended entry
  obtain ⟨content, found, stored⟩ := @putPath_of_stored table cache disk key
    cacheType metadata outcome now removed filePath readOk (by simp [entry])
  rw [source] at found
  cases found
  rw [stored] at entry ⊢
  exact evictionEnds_store appended entry

end Writes

end CacheManager

namespace CacheRun

/-- The sum of the sizes fits in a `u64` when an entry has been appended. -/
def SizesFit (table : AlphanumericTable) (run : CacheRun) : CacheOp → Prop
  | .put key cacheType data metadata outcome statOk now removed =>
      run.cache.Fits (run.cache.put table run.disk key cacheType data metadata
        outcome statOk now removed)
  | .putPath key cacheType filePath metadata outcome readOk now removed =>
      run.cache.Fits (run.cache.putPath table run.disk key cacheType filePath
        metadata outcome readOk now removed)
  | _ => True

theorem withinLimit_step {table : AlphanumericTable} {run next : CacheRun}
    {operation : CacheOp} {maxSize : Nat}
    (held : run.cache.WithinLimit maxSize) (fits : run.SizesFit table operation)
    (taken : run.step table operation = some next) :
    next.cache.WithinLimit maxSize := by
  cases operation with
  | get key cacheType now =>
      cases taken
      exact CacheManager.withinLimit_get held
  | put key cacheType data metadata outcome statOk now removed =>
      cases taken
      exact CacheManager.withinLimit_put held fits
  | putPath key cacheType filePath metadata outcome readOk now removed =>
      cases taken
      exact CacheManager.withinLimit_putPath held fits
  | remove key cacheType removed =>
      cases taken
      exact held.shrink List.filter_sublist rfl
  | clear removed =>
      cases taken
      exact held.shrink (List.nil_sublist _) rfl
  | elsewhere path content =>
      simp only [step] at taken
      split at taken
      · cases taken
      · cases taken
        exact held

/-- After every run the cache is within its limit, and the eviction loop of
every further `put` and `put_path` ends. -/
theorem limit_kept (table : AlphanumericTable) (basePath : Path) (maxSize : Nat)
    (disk : Disk) {operations : List CacheOp} {last : CacheRun}
    (run : LabelledRun.Guarded (step table) (SizesFit table)
      (initial basePath maxSize disk) operations last) :
    (last.cache.maxSize = maxSize ∧ last.cache.totalSize ≤ last.cache.maxSize) ∧
      (∀ key cacheType data metadata outcome statOk now removed,
        last.cache.EvictionEnds
          (last.disk.write
            (CacheManager.pathOf table last.cache.basePath key cacheType) data)
          removed
          (last.cache.put table last.disk key cacheType data metadata outcome
            statOk now removed)) ∧
      ∀ key cacheType filePath data metadata outcome readOk now removed,
        last.disk filePath = some data →
          last.cache.EvictionEnds
            (last.disk.write
              (CacheManager.pathOf table last.cache.basePath key cacheType)
              (if filePath =
                  CacheManager.pathOf table last.cache.basePath key cacheType
                then [] else data))
            removed
            (last.cache.putPath table last.disk key cacheType filePath metadata
              outcome readOk now removed) := by
  have initially : (initial basePath maxSize disk).cache.WithinLimit maxSize :=
    ⟨rfl, Nat.zero_le _, Nat.two_pow_pos 64⟩
  have held := run.invariant (fun run => run.cache.WithinLimit maxSize)
    initially fun _ _ _ held fits taken => withinLimit_step held fits taken
  refine ⟨⟨held.limit, ?_⟩, ?_, ?_⟩
  · rw [CacheManager.totalSize_of_fits held.fits, held.limit]
    exact held.within
  · intro key cacheType data metadata outcome statOk now removed
    exact CacheManager.evictionEnds_put
  · intro key cacheType filePath data metadata outcome readOk now removed source
    exact CacheManager.evictionEnds_putPath source

/-- Two files in a cache that holds only one of them. -/
theorem limit_kept_two_puts :
    ∃ last,
      LabelledRun.exec (step .asciiOnly) (initial "/cache" 2 fun _ => none)
        [putIndex [1, 2], putIndex [3]] = some last ∧
      last.cache.totalSize ≤ last.cache.maxSize := by
  have run : LabelledRun.Guarded (step .asciiOnly) (SizesFit .asciiOnly)
      (initial "/cache" 2 fun _ => none) [putIndex [1, 2], putIndex [3]] _ :=
    .extend
      (.extend .start (by rintro entry ⟨⟩; decide) rfl)
      (by rintro entry ⟨⟩; decide) rfl
  exact ⟨_, run.exec_eq, (limit_kept _ _ _ _ run).1.2⟩

end CacheRun

end NetGuardian
