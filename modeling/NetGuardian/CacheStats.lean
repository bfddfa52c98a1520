import NetGuardian.CacheFrame
import NetGuardian.Foundation.KeyedSums
import NetGuardian.Foundation.LabelledRun

/-!
# The statistics of the cache

The counters of hits and misses are never reset.  Over every run they count the calls
of `get`, each as what it has returned.  The tables by type split the entries and
their sizes, and `contains` foresees what a `get` would return.
-/

namespace NetGuardian

structure CacheStats where
  totalEntries : Nat
  totalSizeBytes : Nat
  maxSizeBytes : Nat
  entriesByType : AList fun _ : String => Nat
  sizeByType : AList fun _ : String => Nat
  hitCount : Nat
  missCount : Nat

namespace CacheManager

def contains (cache : CacheManager) (disk : Disk) (key : String)
    (cacheType : CacheType) : Bool :=
  cache.entries.any fun entry =>
    entry.key = key && entry.cacheType = cacheType && disk.exists? entry.path

def listByType (cache : CacheManager) (cacheType : CacheType) : List CacheEntry :=
  cache.entries.filter fun entry => entry.cacheType = cacheType

def stats (cache : CacheManager) : CacheStats where
  totalEntries := cache.entries.length
  totalSizeBytes := cache.totalSize
  maxSizeBytes := cache.maxSize
  entriesByType := KeyedSums.collect (2 ^ 64)
    (fun entry : CacheEntry => entry.cacheType.asStr) (fun _ => 1) cache.entries
  sizeByType := KeyedSums.collect (2 ^ 64)
    (fun entry : CacheEntry => entry.cacheType.asStr) CacheEntry.sizeBytes cache.entries
  hitCount := cache.hits
  missCount := cache.misses

end CacheManager

def CacheType.all : List CacheType :=
  [.gitObjects, .ociLayers, .pipWheels, .aptPackages, .npmPackages, .generic]

namespace CacheRun

/-- What a call of `get` returns, as a hit or a miss. -/
def answer (run : CacheRun) : CacheOp → List Bool
  | .get key cacheType now => [(run.cache.get run.disk key cacheType now).1.isSome]
  | _ => []

/-- A run with the answers that have been given. -/
structure Counted where
  run : CacheRun
  answered : List Bool

def Counted.step (table : AlphanumericTable) (counted : Counted) (operation : CacheOp) :
    Option Counted :=
  (counted.run.step table operation).map fun next =>
    ⟨next, counted.answered ++ counted.run.answer operation⟩

def Counted.initial (basePath : Path) (maxSize : Nat) (disk : Disk) : Counted :=
  ⟨.initial basePath maxSize disk, []⟩

/-- The statistics of a cache say what has happened to it. -/
structure Reported (run : CacheRun) (answered : List Bool) : Prop where
  hits : run.cache.stats.hitCount = answered.count true % 2 ^ 64
  misses : run.cache.stats.missCount = answered.count false % 2 ^ 64
  byType : ∀ cacheType : CacheType,
    run.cache.stats.entriesByType.lookup cacheType.asStr =
        (if run.cache.listByType cacheType = [] then none
          else some ((run.cache.listByType cacheType).length % 2 ^ 64)) ∧
      run.cache.stats.sizeByType.lookup cacheType.asStr =
        (if run.cache.listByType cacheType = [] then none
          else some (((run.cache.listByType cacheType).map CacheEntry.sizeBytes).sum %
            2 ^ 64))
  entries : (CacheType.all.map fun cacheType =>
      (run.cache.listByType cacheType).length).sum = run.cache.stats.totalEntries
  sizes : (CacheType.all.map fun cacheType =>
      (run.cache.stats.sizeByType.lookup cacheType.asStr).getD 0).sum ≡
    run.cache.stats.totalSizeBytes [MOD 2 ^ 64]
  foreseen : ∀ key cacheType now,
    run.cache.contains run.disk key cacheType =
      (run.cache.get run.disk key cacheType now).1.isSome

end CacheRun

namespace CacheManager

section Counters

variable {cache : CacheManager} {disk : Disk} {removed : Path → Bool}

/-- The counters of hits and misses. -/
def counters (cache : CacheManager) : Nat × Nat :=
  (cache.hits, cache.misses)

/-- Eviction counts nothing. -/
theorem counters_evictLoop (rounds : Nat) :
    (evictLoop removed rounds cache disk).1.counters = cache.counters := by
  induction rounds generalizing cache disk with
  | zero => rfl
  | succ rounds ih =>
      rw [evictLoop]
      split
      · cases evicted : cache.evictOne disk removed with
        | none => rfl
        | some next =>
            obtain ⟨index, entry, found, rfl⟩ := evictOne_eq_some evicted
            exact ih
      · rfl

theorem counters_store (entry : CacheEntry) :
    (cache.store disk entry removed).cache.counters = cache.counters :=
  counters_evictLoop _

theorem counters_put {table : AlphanumericTable} {key : String} {cacheType : CacheType}
    {data : List UInt8} {metadata : Metadata} {outcome : WriteOutcome} {statOk : Bool}
    {now : String} :
    (cache.put table disk key cacheType data metadata outcome statOk now
      removed).cache.counters = cache.counters := by
  cases outcome with
  | refused => rfl
  | truncated bytes => rfl
  | done =>
      rw [put]
      split
      · exact counters_store _
      · rfl

theorem counters_putPath {table : AlphanumericTable} {key : String}
    {cacheType : CacheType} {filePath : Path} {metadata : Metadata}
    {outcome : WriteOutcome} {readOk : Bool} {now : String} :
    (cache.putPath table disk key cacheType filePath metadata outcome readOk now
      removed).cache.counters = cache.counters := by
  unfold putPath
  dsimp only
  cases disk filePath with
  | none => rfl
  | some data =>
      cases readOk with
      | false => rfl
      | true =>
          cases outcome with
          | refused => rfl
          | truncated bytes => rfl
          | done => exact counters_store _

/-- A call of `get` counts as what it returns. -/
theorem counters_get (cache : CacheManager) (disk : Disk) (key : String)
    (cacheType : CacheType) (now : String) :
    (cache.get disk key cacheType now).2.counters =
      if (cache.get disk key cacheType now).1.isSome then
        (addU64 cache.hits 1, cache.misses)
      else (cache.hits, addU64 cache.misses 1) := by
  unfold get
  cases found : cache.position disk key cacheType with
  | none => rfl
  | some index =>
      have below : index < cache.entries.length := by
        rw [position, List.findIdx?_eq_some_iff_getElem] at found
        exact found.1
      simp only [List.getElem?_eq_getElem below]
      rfl

theorem contains_eq (key : String) (cacheType : CacheType) (now : String) :
    cache.contains disk key cacheType =
      (cache.get disk key cacheType now).1.isSome := by
  rw [get_fst, contains, Bool.eq_iff_iff, List.find?_isSome, List.any_eq_true]

end Counters

section Tables

variable {cache : CacheManager}

theorem sumAt_asStr (amount : CacheEntry → Nat) (cacheType : CacheType) :
    KeyedSums.sumAt (fun entry : CacheEntry => entry.cacheType.asStr) amount
        cache.entries cacheType.asStr =
      ((cache.listByType cacheType).map amount).sum := by
  rw [KeyedSums.sumAt, listByType]
  simp only [CacheType.asStr_injective.eq_iff]

theorem mem_asStr_iff (cacheType : CacheType) :
    cacheType.asStr ∈ cache.entries.map (fun entry => entry.cacheType.asStr) ↔
      ¬ cache.listByType cacheType = [] := by
  rw [listByType, List.filter_eq_nil_iff]
  simp [CacheType.asStr_injective.eq_iff]

end Tables

end CacheManager

namespace CacheRun

section Runs

variable {table : AlphanumericTable}

/-- The counters are the numbers of the answers. -/
def Counted.CountsAnswers (counted : Counted) : Prop :=
  counted.run.cache.counters =
    (counted.answered.count true % 2 ^ 64, counted.answered.count false % 2 ^ 64)

theorem Counted.CountsAnswers.step {counted next : Counted} {operation : CacheOp}
    (counts : counted.CountsAnswers) (taken : counted.step table operation = some next) :
    next.CountsAnswers := by
  obtain ⟨after, stepped, rfl⟩ := Option.map_eq_some_iff.mp taken
  have silent : counted.run.answer operation = [] →
      after.cache.counters = counted.run.cache.counters →
        Counted.CountsAnswers ⟨after, counted.answered ++ counted.run.answer operation⟩ := by
    intro nothing same
    rw [nothing, List.append_nil, CountsAnswers, same]
    exact counts
  cases operation with
  | get key cacheType now =>
      cases stepped
      have recorded := CacheManager.counters_get counted.run.cache counted.run.disk key
        cacheType now
      obtain ⟨hits, misses⟩ := Prod.mk.inj counts
      rw [CountsAnswers, answer]
      change (counted.run.cache.get _ _ _ _).2.counters = _
      rw [recorded, hits, misses]
      cases (counted.run.cache.get counted.run.disk key cacheType now).1.isSome <;>
        simp [addU64]
  | put key cacheType data metadata outcome statOk now removed =>
      cases stepped
      exact silent rfl CacheManager.counters_put
  | putPath key cacheType filePath metadata outcome readOk now removed =>
      cases stepped
      exact silent rfl CacheManager.counters_putPath
  | remove key cacheType removed =>
      cases stepped
      exact silent rfl rfl
  | clear removed =>
      cases stepped
      exact silent rfl rfl
  | elsewhere path content =>
      rw [CacheRun.step, Option.ite_none_left_eq_some] at stepped
      cases stepped.2
      exact silent rfl rfl

theorem names_nodup : (CacheType.all.map CacheType.asStr).Nodup := by
  decide +kernel

theorem names_cover (cache : CacheManager) : ∀ entry ∈ cache.entries,
    entry.cacheType.asStr ∈ CacheType.all.map CacheType.asStr := by
  intro entry _
  exact List.mem_map_of_mem (by cases entry.cacheType <;> decide)

theorem reported_of_countsAnswers {counted : Counted} (counts : counted.CountsAnswers) :
    counted.run.Reported counted.answered where
  hits := (Prod.mk.inj counts).1
  misses := (Prod.mk.inj counts).2
  byType cacheType := by
    rw [CacheManager.stats, KeyedSums.lookup_collect, KeyedSums.lookup_collect,
      CacheManager.sumAt_asStr, CacheManager.sumAt_asStr]
    simp only [CacheManager.mem_asStr_iff, ite_not]
    simp
  entries := by
    have split := KeyedSums.sum_sumAt (fun _ => 1) names_nodup
      counted.run.cache.entries (names_cover counted.run.cache)
    rw [List.map_map] at split
    change _ = counted.run.cache.entries.length
    simpa [Function.comp_def, CacheManager.sumAt_asStr] using split
  sizes := by
    have split := KeyedSums.sum_collect (2 ^ 64) CacheEntry.sizeBytes names_nodup
      counted.run.cache.entries (names_cover counted.run.cache)
    rw [List.map_map] at split
    exact split.trans (Nat.mod_modEq _ _).symm
  foreseen key cacheType now := CacheManager.contains_eq key cacheType now

end Runs

/-- In every run the statistics count the answers, and split the entries by type. -/
theorem stats_report_run (table : AlphanumericTable) (basePath : Path) (maxSize : Nat)
    (disk : Disk) {operations : List CacheOp} {last : Counted}
    (run : LabelledRun.Run (Counted.step table) (.initial basePath maxSize disk)
      operations last) :
    last.run.Reported last.answered := by
  have counts : last.CountsAnswers :=
    run.invariant Counted.CountsAnswers rfl
      fun _ _ _ counts _ taken => counts.step taken
  exact reported_of_countsAnswers counts

/-- One entry, which is found once, and another key, which is not. -/
def foundOnce : List CacheOp :=
  [putIndex [1, 2], .get "index" .generic "1", .get "other" .generic "2"]

theorem stats_report_run_foundOnce : ∃ last,
    LabelledRun.Run (Counted.step .asciiOnly) (.initial "/cache" 10 fun _ => none)
        foundOnce last ∧
      last.answered = [true, false] ∧ last.run.cache.stats.hitCount = 1 ∧
      last.run.cache.stats.missCount = 1 := by
  have run := @LabelledRun.run_of_exec_eq _ _ (Counted.step .asciiOnly)
    (.initial "/cache" 10 fun _ => none) _ foundOnce rfl
  have reported := stats_report_run _ _ _ _ run
  exact ⟨_, run, rfl, reported.hits, reported.misses⟩

end CacheRun

end NetGuardian
