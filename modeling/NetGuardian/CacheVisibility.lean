import NetGuardian.CacheFrame
import NetGuardian.Foundation.LeastFirst

/-!
# Whether a write can be read

A write appends its entry and then evicts the least used and least recent entries
until the rest fits.  The new entry has not been used, so that it is among the
first to go.  Whether it survives can be told from the cache with the entry
appended, before anything is evicted.
-/

namespace NetGuardian

namespace CacheManager

/-- The order in which the entries of an index leave it.  Of entries with one
key the first in the index goes first. -/
def evictionRank (placed : CacheEntry × Nat) : (Nat ×ₗ String) ×ₗ Nat :=
  toLex (evictionKey placed.1, placed.2)

/-- The entries are within a limit, as far as the `u64` sum can tell. -/
def FitsIn (maxSize : Nat) (placed : List (CacheEntry × Nat)) : Prop :=
  (placed.map fun entry => entry.1.sizeBytes).sum % 2 ^ 64 ≤ maxSize

/-- The eviction stops before it comes to the entry: some entry that goes no
later than it fits, with all that go later, into the cache. -/
def Outlasts (cache : CacheManager) (placed : CacheEntry × Nat) : Prop :=
  LeastFirst.Stays evictionRank (FitsIn cache.maxSize) cache.entries.zipIdx placed

section Eviction

variable {removed : Path → Bool} {placed : List (CacheEntry × Nat)}

theorem totalSize_of_placed {cache : CacheManager}
    (entries : cache.entries = placed.map Prod.fst) :
    cache.totalSize =
      (placed.map fun entry => entry.1.sizeBytes).sum % 2 ^ 64 := by
  rw [totalSize, entries, List.map_map]
  rfl

/-- The chosen entry goes before all others. -/
theorem evictionRank_lt_of_chosen {index : Nat} {entry : CacheEntry × Nat}
    (sorted : placed.Pairwise fun first second => first.2 < second.2)
    (found : placed[index]? = some entry)
    (least : ∀ other rival, (placed.map Prod.fst)[other]? = some rival →
      evictionKey entry.1 ≤ evictionKey rival ∧
        (other < index → evictionKey entry.1 < evictionKey rival))
    {other : CacheEntry × Nat} (left : other ∈ placed.eraseIdx index) :
    evictionRank entry < evictionRank other := by
  obtain ⟨position, apart, atPosition⟩ := List.mem_eraseIdx_iff_getElem?.mp left
  have rival : (placed.map Prod.fst)[position]? = some other.1 := by
    rw [List.getElem?_map, atPosition, Option.map_some]
  obtain ⟨notAbove, below⟩ := least position other.1 rival
  rw [evictionRank, evictionRank, Prod.Lex.toLex_lt_toLex]
  rcases Nat.lt_or_gt_of_ne apart with before | behind
  · exact .inl (below before)
  · rcases notAbove.lt_or_eq with smaller | same
    · exact .inl smaller
    · refine .inr ⟨same, ?_⟩
      obtain ⟨atIndex, isEntry⟩ := List.getElem?_eq_some_iff.mp found
      obtain ⟨within, isOther⟩ := List.getElem?_eq_some_iff.mp atPosition
      rw [← isEntry, ← isOther]
      exact List.pairwise_iff_getElem.mp sorted index position atIndex within behind

/-- The loop trims the index, and removes the files of what has left it. -/
theorem trims_of_ends {state final : CacheManager × Disk}
    {evicted : List CacheEntry}
    (ends : BreakLoop.Ends OverLimit (evictRound removed) state evicted final)
    (entries : state.1.entries = placed.map Prod.fst)
    (sorted : placed.Pairwise fun first second => first.2 < second.2) :
    ∃ kept, LeastFirst.Trims evictionRank (FitsIn state.1.maxSize) placed kept ∧
      final.1.entries = kept.map Prod.fst ∧
      (∀ entry, entry ∈ evicted ↔
        ∃ gone ∈ placed, gone ∉ kept ∧ gone.1 = entry) ∧
      final.2 = evicted.foldl
        (fun disk entry => disk.removeFile removed entry.path) state.2 := by
  induction ends generalizing placed with
  | @finished state within =>
      refine ⟨placed, .fitting ?_, entries, ?_, rfl⟩
      · rw [FitsIn, ← totalSize_of_placed entries]
        exact Nat.le_of_not_lt within
      · intro entry
        refine iff_of_false List.not_mem_nil ?_
        rintro ⟨gone, member, absent, _⟩
        exact absent member
  | @broken state exceeds stuck =>
      rw [evictRound_eq_none stuck] at entries
      obtain rfl : placed = [] := List.map_eq_nil_iff.mp entries.symm
      refine ⟨[], .exhausted, evictRound_eq_none stuck, ?_, rfl⟩
      intro entry
      refine iff_of_false List.not_mem_nil ?_
      rintro ⟨gone, member, _⟩
      exact absurd member List.not_mem_nil
  | @round state next final chosen others exceeds taken _ ih =>
      obtain ⟨index, found, rfl, least⟩ := evictRound_spec taken
      rw [entries, List.getElem?_map, Option.map_eq_some_iff] at found
      obtain ⟨entry, found, rfl⟩ := found
      rw [entries] at least
      have first : ∀ other ∈ placed.eraseIdx index,
          evictionRank entry < evictionRank other :=
        fun other left => evictionRank_lt_of_chosen sorted found least left
      obtain ⟨kept, trims, rest, gone, disk⟩ := ih
        (by rw [entries, List.eraseIdx_map])
        (sorted.sublist (List.eraseIdx_sublist _ _))
      have unfit : ¬ FitsIn state.1.maxSize placed := by
        rw [FitsIn, ← totalSize_of_placed entries]
        exact Nat.not_le_of_lt exceeds
      refine ⟨kept, .remove unfit found first trims, rest, ?_, disk⟩
      intro other
      rw [List.mem_cons, gone other]
      constructor
      · rintro (rfl | ⟨item, left, absent, rfl⟩)
        · refine ⟨entry, List.mem_of_getElem? found, fun stays => ?_, rfl⟩
          exact lt_irrefl _ (first entry (trims.sublist.subset stays))
        · exact ⟨item, (List.eraseIdx_sublist _ _).subset left, absent, rfl⟩
      · rintro ⟨item, member, absent, rfl⟩
        rcases DistinctKeys.eq_or_mem_eraseIdx found member with rfl | left
        · exact .inl rfl
        · exact .inr ⟨item, left, absent, rfl⟩

end Eviction

section Visible

variable {table : AlphanumericTable} {cache : CacheManager} {disk : Disk}
variable {removed : Path → Bool} {entry : CacheEntry}

/-- In the cache with the new entry, an entry of its key outlasts the eviction,
and no entry that does not takes the file away. -/
def StaysVisible (grown : CacheManager) (entry : CacheEntry)
    (removed : Path → Bool) : Prop :=
  (∃ placed ∈ grown.entries.zipIdx, placed.1.key = entry.key ∧
      placed.1.cacheType = entry.cacheType ∧ grown.Outlasts placed) ∧
    (removed entry.path = true → ∀ placed ∈ grown.entries.zipIdx,
      placed.1.path = entry.path → grown.Outlasts placed)

theorem placed_sorted (entries : List CacheEntry) :
    entries.zipIdx.Pairwise fun first second => first.2 < second.2 := by
  apply List.pairwise_map.mp
  rw [List.zipIdx_map_snd]
  exact List.pairwise_lt_range'

/-- What is in the index, and which files are gone, when an entry has been
stored. -/
theorem store_outlasts (entry : CacheEntry) :
    (∀ other, other ∈ (cache.store disk entry removed).cache.entries ↔
        ∃ placed ∈ (cache.grown entry).entries.zipIdx,
          (cache.grown entry).Outlasts placed ∧ placed.1 = other) ∧
      ∀ file, (cache.store disk entry removed).disk file = none ↔
        disk file = none ∨ removed file = true ∧
          ∃ placed ∈ (cache.grown entry).entries.zipIdx,
            ¬ (cache.grown entry).Outlasts placed ∧ placed.1.path = file := by
  obtain ⟨kept, trims, entries, gone, files⟩ :=
    @trims_of_ends removed (cache.grown entry).entries.zipIdx _ _ _
      (@store_ends cache disk removed entry)
      (List.zipIdx_map_fst 0 _).symm (placed_sorted _)
  have stays : ∀ placed ∈ (cache.grown entry).entries.zipIdx,
      (placed ∈ kept ↔ (cache.grown entry).Outlasts placed) :=
    fun placed member => trims.mem_iff member
  constructor
  · intro other
    dsimp only at entries
    rw [entries, List.mem_map]
    constructor
    · rintro ⟨placed, left, rfl⟩
      have member := trims.sublist.subset left
      exact ⟨placed, member, (stays placed member).mp left, rfl⟩
    · rintro ⟨placed, member, outlasts, rfl⟩
      exact ⟨placed, (stays placed member).mpr outlasts, rfl⟩
  · intro file
    have owned : (∃ other ∈ (cache.store disk entry removed).evicted,
        other.path = file) ↔
          ∃ placed ∈ (cache.grown entry).entries.zipIdx,
            ¬ (cache.grown entry).Outlasts placed ∧ placed.1.path = file := by
      constructor
      · rintro ⟨other, evicted, rfl⟩
        obtain ⟨placed, member, absent, rfl⟩ := (gone other).mp evicted
        exact ⟨placed, member, fun outlasts =>
          absent ((stays placed member).mpr outlasts), rfl⟩
      · rintro ⟨placed, member, fails, rfl⟩
        exact ⟨placed.1, (gone placed.1).mpr ⟨placed, member, fun left =>
          fails ((stays placed member).mp left), rfl⟩, rfl⟩
    dsimp only at files
    rw [files, ← owned]
    by_cases evicted : ∃ other ∈ (cache.store disk entry removed).evicted,
        other.path = file
    · rw [CacheRun.foldl_removeFile_of_mem evicted]
      cases removed file <;> simp [evicted]
    · rw [CacheRun.foldl_removeFile_of_notMem fun other member same =>
        evicted ⟨other, member, same.symm⟩]
      simp [evicted]

/-- A stored entry can be read exactly if it stays visible. -/
theorem get_store_iff (located : cache.Located table)
    (own : entry.path = pathOf table cache.basePath entry.key entry.cacheType)
    (written : disk entry.path ≠ none) (now : String) :
    ((cache.store disk entry removed).cache.get
        (cache.store disk entry removed).disk entry.key entry.cacheType now).1 ≠ none ↔
      StaysVisible (cache.grown entry) entry removed := by
  obtain ⟨entries, files⟩ := @store_outlasts cache disk removed entry
  have settings := (@store_sublist cache disk removed entry).2.1
  have after : (cache.store disk entry removed).cache.Located table :=
    located.store own
  have file : pathOf table (cache.store disk entry removed).cache.basePath entry.key
      entry.cacheType = entry.path := by
    rw [settings, own]
  have indexed : (cache.store disk entry removed).cache.entryOf entry.key
      entry.cacheType ≠ none ↔
        ∃ placed ∈ (cache.grown entry).entries.zipIdx, placed.1.key = entry.key ∧
          placed.1.cacheType = entry.cacheType ∧
            (cache.grown entry).Outlasts placed := by
    rw [ne_eq, entryOf_eq_none_iff]
    constructor
    · intro present
      by_contra absent
      refine present fun other member same => absent ?_
      obtain ⟨placed, stored, outlasts, rfl⟩ := (entries other).mp member
      obtain ⟨sameKey, sameType⟩ := Prod.mk.inj same
      exact ⟨placed, stored, sameKey, sameType, outlasts⟩
    · rintro ⟨placed, stored, sameKey, sameType, outlasts⟩ absent
      exact absent placed.1 ((entries placed.1).mpr ⟨placed, stored, outlasts, rfl⟩)
        (by rw [sameKey, sameType])
  have present : (cache.store disk entry removed).disk entry.path ≠ none ↔
      (removed entry.path = true → ∀ placed ∈ (cache.grown entry).entries.zipIdx,
        placed.1.path = entry.path → (cache.grown entry).Outlasts placed) := by
    rw [ne_eq, files, not_or, not_and]
    constructor
    · rintro ⟨_, keeps⟩ gone placed member path
      by_contra fails
      exact keeps gone ⟨placed, member, fails, path⟩
    · intro keeps
      refine ⟨written, fun gone => ?_⟩
      rintro ⟨placed, member, fails, path⟩
      exact fails (keeps gone placed member path)
  rw [after.get_fst, file, StaysVisible, ← indexed, ← present, Disk.exists?]
  cases (cache.store disk entry removed).disk entry.path with
  | none => simp
  | some bytes => simp

end Visible

end CacheManager

namespace CacheRun

open CacheManager

/-- In every reachable cache a `put` or `put_path` that succeeds can be read exactly
if its entry stays visible in the cache that holds it. -/
theorem stored_visible_iff (table : AlphanumericTable) (basePath : Path)
    (maxSize : Nat) (disk : Disk) {operations : List CacheOp} {last : CacheRun}
    (run : LabelledRun.Run (step table) (initial basePath maxSize disk) operations
      last) (key : String) (cacheType : CacheType) (metadata : Metadata)
    (outcome : WriteOutcome) (now later : String) (removed : Path → Bool) :
    (∀ data statOk,
      let stored := last.cache.put table last.disk key cacheType data metadata
        outcome statOk now removed
      let entry := newEntry table last.cache key cacheType data.length metadata now
      stored.entry ≠ none →
        ((stored.cache.get stored.disk key cacheType later).1 ≠ none ↔
          StaysVisible (last.cache.grown entry) entry removed)) ∧
    ∀ filePath readOk,
      let stored := last.cache.putPath table last.disk key cacheType filePath
        metadata outcome readOk now removed
      stored.entry ≠ none → ∃ data, last.disk filePath = some data ∧
        let entry := newEntry table last.cache key cacheType data.length metadata now
        ((stored.cache.get stored.disk key cacheType later).1 ≠ none ↔
          StaysVisible (last.cache.grown entry) entry removed) := by
  have located := located_of_run run
  have written : ∀ (disk : Disk) path data, disk.write path data path ≠ none := by
    intro disk path data
    rw [Disk.write_self]
    exact Option.some_ne_none data
  constructor
  · intro data statOk stored entry succeeded
    have whole : stored = _ := put_of_stored succeeded
    rw [whole]
    exact @get_store_iff table last.cache _ removed entry located rfl
      (written _ _ _) later
  · intro filePath readOk stored succeeded
    obtain ⟨data, found, whole⟩ := putPath_of_stored succeeded
    refine ⟨data, found, ?_⟩
    intro entry
    have same : stored = _ := whole
    rw [same]
    exact @get_store_iff table last.cache _ removed entry located rfl
      (written _ _ _) later

/-- A `put` of one byte into a cache with one entry. -/
theorem stored_visible_iff_one_put :
    ∃ last, LabelledRun.exec (step .asciiOnly) emptyCache [putIndex [1]] = some last ∧
      let stored := last.cache.put .asciiOnly last.disk "other" .generic [2] ∅ .done
        true "" fun _ => true
      let entry := newEntry .asciiOnly last.cache "other" .generic 1 ∅ ""
      ((stored.cache.get stored.disk "other" .generic "").1 ≠ none ↔
        StaysVisible (last.cache.grown entry) entry fun _ => true) := by
  have run : LabelledRun.Run (step .asciiOnly) emptyCache [putIndex [1]] _ :=
    .extend .start trivial rfl
  exact ⟨_, run.exec_eq, (stored_visible_iff .asciiOnly "/cache" 1024
    (fun _ => none) run "other" .generic ∅ .done "" "" fun _ => true).1 [2] true
      (Option.some_ne_none _)⟩

/-- A cache of three bytes with one entry of two bytes that has been read. -/
def oneRead : List CacheOp :=
  [.put "first" .generic [1, 2] ∅ .done true "" fun _ => true,
    .get "first" .generic ""]

/-- A second entry of two bytes evicts itself. -/
theorem put_not_visible :
    ∃ last, LabelledRun.Run (step .asciiOnly) (initial "/cache" 3 fun _ => none)
        oneRead last ∧
      let stored := last.cache.put .asciiOnly last.disk "second" .generic [3, 4] ∅
        .done true "" fun _ => true
      [3, 4].length ≤ last.cache.maxSize ∧ stored.entry ≠ none ∧
        (stored.cache.get stored.disk "second" .generic "").1 = none := by
  refine ⟨_, LabelledRun.run_of_exec_eq rfl, ?_, ?_, ?_⟩
  · exact Nat.le_succ 2
  · exact Option.some_ne_none _
  · rfl

end CacheRun

end NetGuardian
