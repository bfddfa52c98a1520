import NetGuardian.CacheManager
import NetGuardian.Foundation.BreakLoop

/-!
# What a write to the cache does

`put` and `put_path` end alike: a file has been written, an entry is appended,
and entries are evicted until the cache is within its limit.
-/

namespace NetGuardian

namespace CacheManager

/-- The entry that a write under a key appends. -/
def newEntry (table : AlphanumericTable) (cache : CacheManager) (key : String)
    (cacheType : CacheType) (sizeBytes : Nat) (metadata : Metadata)
    (now : String) : CacheEntry where
  key := key
  path := pathOf table cache.basePath key cacheType
  sizeBytes := sizeBytes
  cacheType := cacheType
  createdAt := now
  lastAccess := now
  accessCount := 0
  metadata := metadata

/-- The cache with an entry appended, before anything is evicted. -/
def grown (cache : CacheManager) (entry : CacheEntry) : CacheManager :=
  { cache with entries := cache.entries ++ [entry] }

section Writes

variable {table : AlphanumericTable} {cache : CacheManager} {disk : Disk}
variable {key : String} {cacheType : CacheType} {metadata : Metadata}
variable {outcome : WriteOutcome} {now : String} {removed : Path → Bool}

/-- A `put` that succeeds has written the data and appends its entry. -/
theorem put_of_stored {data : List UInt8} {statOk : Bool}
    (stored : (cache.put table disk key cacheType data metadata outcome statOk now
      removed).entry ≠ none) :
    cache.put table disk key cacheType data metadata outcome statOk now removed =
      cache.store
        (disk.write (pathOf table cache.basePath key cacheType) data)
        (newEntry table cache key cacheType data.length metadata now) removed := by
  cases outcome with
  | refused => exact absurd rfl stored
  | truncated bytes => exact absurd rfl stored
  | done =>
      cases statOk with
      | false => exact absurd rfl stored
      | true => rfl

/-- A `put` that fails leaves the index alone. -/
theorem put_of_failed {data : List UInt8} {statOk : Bool}
    (failed : (cache.put table disk key cacheType data metadata outcome statOk now
      removed).entry = none) :
    (cache.put table disk key cacheType data metadata outcome statOk now
      removed).cache = cache := by
  cases outcome with
  | refused => rfl
  | truncated bytes => rfl
  | done =>
      cases statOk with
      | false => rfl
      | true => cases failed

/-- A `put_path` that succeeds has copied the file and appends its entry. -/
theorem putPath_of_stored {filePath : Path} {readOk : Bool}
    (stored : (cache.putPath table disk key cacheType filePath metadata outcome
      readOk now removed).entry ≠ none) :
    ∃ data, disk filePath = some data ∧
      cache.putPath table disk key cacheType filePath metadata outcome readOk now
          removed =
        cache.store
          (disk.write (pathOf table cache.basePath key cacheType)
            (if filePath = pathOf table cache.basePath key cacheType then []
              else data))
          (newEntry table cache key cacheType data.length metadata now)
          removed := by
  unfold putPath at stored ⊢
  cases content : disk filePath with
  | none =>
      rw [content] at stored
      exact absurd rfl stored
  | some data =>
      rw [content] at stored
      cases readOk with
      | false => exact absurd rfl stored
      | true =>
          cases outcome with
          | refused => exact absurd rfl stored
          | truncated bytes => exact absurd rfl stored
          | done => exact ⟨data, rfl, rfl⟩

theorem putPath_of_failed {filePath : Path} {readOk : Bool}
    (failed : (cache.putPath table disk key cacheType filePath metadata outcome
      readOk now removed).entry = none) :
    (cache.putPath table disk key cacheType filePath metadata outcome readOk now
      removed).cache = cache := by
  unfold putPath at failed ⊢
  cases content : disk filePath with
  | none => rfl
  | some data =>
      rw [content] at failed
      cases readOk with
      | false => rfl
      | true =>
          cases outcome with
          | refused => rfl
          | truncated bytes => rfl
          | done => cases failed

/-- What holds of the index and is kept by appending the entry and evicting holds
after a `put`, whether it succeeds or not. -/
theorem put_keeps {data : List UInt8} {statOk : Bool} (Inv : CacheManager → Prop)
    (held : Inv cache)
    (stores : ∀ written,
      cache.put table disk key cacheType data metadata outcome statOk now removed =
          cache.store written
            (newEntry table cache key cacheType data.length metadata now) removed →
        Inv (cache.store written
          (newEntry table cache key cacheType data.length metadata now)
          removed).cache) :
    Inv (cache.put table disk key cacheType data metadata outcome statOk now
      removed).cache := by
  cases entry : (cache.put table disk key cacheType data metadata outcome statOk
      now removed).entry with
  | none =>
      rw [put_of_failed entry]
      exact held
  | some appended =>
      have stored := @put_of_stored table cache disk key cacheType metadata outcome
        now removed data statOk (by simp [entry])
      rw [stored]
      exact stores _ stored

theorem putPath_keeps {filePath : Path} {readOk : Bool} (Inv : CacheManager → Prop)
    (held : Inv cache)
    (stores : ∀ written sizeBytes,
      cache.putPath table disk key cacheType filePath metadata outcome readOk now
            removed =
          cache.store written
            (newEntry table cache key cacheType sizeBytes metadata now) removed →
        Inv (cache.store written
          (newEntry table cache key cacheType sizeBytes metadata now)
          removed).cache) :
    Inv (cache.putPath table disk key cacheType filePath metadata outcome readOk now
      removed).cache := by
  cases entry : (cache.putPath table disk key cacheType filePath metadata outcome
      readOk now removed).entry with
  | none =>
      rw [putPath_of_failed entry]
      exact held
  | some appended =>
      obtain ⟨data, _, stored⟩ := @putPath_of_stored table cache disk key cacheType
        metadata outcome now removed filePath readOk (by simp [entry])
      rw [stored]
      exact stores _ _ stored

end Writes

/-- The condition of the eviction loop. -/
def OverLimit (state : CacheManager × Disk) : Prop :=
  state.1.maxSize < state.1.totalSize

/-- The body of the eviction loop; `none` is the `break`. -/
def evictRound (removed : Path → Bool) (state : CacheManager × Disk) :
    Option ((CacheManager × Disk) × CacheEntry) :=
  (state.1.evictOne state.2 removed).map fun next =>
    ((next.1, next.2.1), next.2.2)

section Loop

variable {cache : CacheManager} {disk : Disk} {removed : Path → Bool}

theorem evictRound_spec {state next : CacheManager × Disk} {entry : CacheEntry}
    (taken : evictRound removed state = some (next, entry)) :
    ∃ index, state.1.entries[index]? = some entry ∧
      next = ({ state.1 with entries := state.1.entries.eraseIdx index },
        state.2.removeFile removed entry.path) ∧
      ∀ other rival, state.1.entries[other]? = some rival →
        evictionKey entry ≤ evictionKey rival ∧
          (other < index → evictionKey entry < evictionKey rival) := by
  obtain ⟨⟨smaller, emptier, evicted⟩, chosen, same⟩ :=
    Option.map_eq_some_iff.mp taken
  obtain ⟨index, stored, found, all, least⟩ := evictOne_spec chosen
  cases same
  cases all
  exact ⟨index, found, rfl, least⟩

theorem evictRound_eq_some {state next : CacheManager × Disk} {entry : CacheEntry}
    (taken : evictRound removed state = some (next, entry)) :
    ∃ index, state.1.entries[index]? = some entry ∧
      next = ({ state.1 with entries := state.1.entries.eraseIdx index },
        state.2.removeFile removed entry.path) := by
  obtain ⟨index, found, same, _⟩ := evictRound_spec taken
  exact ⟨index, found, same⟩

theorem evictRound_eq_none {state : CacheManager × Disk}
    (stuck : evictRound removed state = none) : state.1.entries = [] :=
  evictOne_eq_none (Option.map_eq_none_iff.mp stuck)

theorem evictRound_shrinks {state next : CacheManager × Disk} {entry : CacheEntry}
    (taken : evictRound removed state = some (next, entry)) :
    next.1.entries.length < state.1.entries.length := by
  obtain ⟨index, found, rfl⟩ := evictRound_eq_some taken
  have below := (List.getElem?_eq_some_iff.mp found).1
  have erased := List.length_eraseIdx_add_one below
  dsimp only
  omega

/-- As many rounds as there are entries are enough: the bounded loop is the
`while` loop of the source. -/
theorem evictLoop_ends (rounds : Nat) (enough : cache.entries.length ≤ rounds) :
    BreakLoop.Ends OverLimit (evictRound removed) (cache, disk)
      (evictLoop removed rounds cache disk).2.2
      ((evictLoop removed rounds cache disk).1,
        (evictLoop removed rounds cache disk).2.1) := by
  induction rounds generalizing cache disk with
  | zero =>
      have noEntries : cache.entries = [] := List.length_eq_zero_iff.mp (by omega)
      apply BreakLoop.Ends.finished
      simp [OverLimit, totalSize, noEntries]
  | succ rounds ih =>
      rw [evictLoop]
      split
      · next exceeds =>
          cases evicted : cache.evictOne disk removed with
          | none => exact .broken exceeds (by simp [evictRound, evicted])
          | some next =>
              have taken : evictRound removed (cache, disk) =
                  some ((next.1, next.2.1), next.2.2) := by
                simp [evictRound, evicted]
              have shrinks := evictRound_shrinks taken
              exact .round exceeds taken (ih (by dsimp only at shrinks; omega))
      · next within => exact .finished within

/-- The eviction loop of a write, started on the cache with the new entry. -/
theorem store_ends {entry : CacheEntry} :
    BreakLoop.Ends OverLimit (evictRound removed) (cache.grown entry, disk)
      (cache.store disk entry removed).evicted
      ((cache.store disk entry removed).cache,
        (cache.store disk entry removed).disk) :=
  evictLoop_ends _ le_rfl

/-- Storing keeps the settings, and no entry comes from nowhere. -/
theorem store_sublist {entry : CacheEntry} :
    List.Sublist (cache.store disk entry removed).cache.entries
        (cache.grown entry).entries ∧
      (cache.store disk entry removed).cache.basePath = cache.basePath ∧
      (cache.store disk entry removed).cache.maxSize = cache.maxSize := by
  refine store_ends.invariant (fun state =>
    List.Sublist state.1.entries (cache.grown entry).entries ∧
      state.1.basePath = cache.basePath ∧ state.1.maxSize = cache.maxSize)
    ⟨.refl _, rfl, rfl⟩ ?_
  intro state next evicted held taken
  obtain ⟨index, _, rfl⟩ := evictRound_eq_some taken
  exact ⟨(List.eraseIdx_sublist _ _).trans held.1, held.2⟩

/-- Storing without an eviction appends the entry and does nothing else. -/
theorem store_of_nothing_evicted {entry : CacheEntry}
    (quiet : (cache.store disk entry removed).evicted = []) :
    (cache.store disk entry removed).cache = cache.grown entry ∧
      (cache.store disk entry removed).disk = disk := by
  have ends := @store_ends cache disk removed entry
  rw [quiet] at ends
  exact Prod.mk.inj ends.unchanged

end Loop

end CacheManager

end NetGuardian
