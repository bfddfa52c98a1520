import NetGuardian.CacheManager
import NetGuardian.Foundation.DistinctKeys
import NetGuardian.Foundation.LabelledRun

/-!
# Reading back what was cached

`put` appends an entry even when its key is already in the index, while `get`
returns the first entry of a key; and two keys whose file names agree share one
file.  A run below therefore reads its own writes as long as every write goes
to a file that no entry of the index owns.

The purpose of the cache is a partial map from keys to what was stored last.
`CacheRun.lastWrite` is that map; it is compared with the index and the files.
-/

namespace NetGuardian

/-- The part of an entry that does not change when the entry is read. -/
structure CacheLine where
  key : String
  cacheType : CacheType
  path : Path
  sizeBytes : Nat
  metadata : Metadata

namespace CacheEntry

def line (entry : CacheEntry) : CacheLine where
  key := entry.key
  cacheType := entry.cacheType
  path := entry.path
  sizeBytes := entry.sizeBytes
  metadata := entry.metadata

end CacheEntry

namespace CacheManager

/-- The index without its access statistics. -/
def lines (cache : CacheManager) : List CacheLine :=
  cache.entries.map CacheEntry.line

end CacheManager

/-- The last successful write of every key that is still cached. -/
abbrev LastWrite := String × CacheType → Option (List UInt8 × Metadata)

namespace LastWrite

def store (lastWrite : LastWrite) (key : String × CacheType)
    (data : List UInt8) (metadata : Metadata) : LastWrite :=
  fun other => if other = key then some (data, metadata) else lastWrite other

def forget (lastWrite : LastWrite) (key : String × CacheType) : LastWrite :=
  fun other => if other = key then none else lastWrite other

def forgetAll (lastWrite : LastWrite) (evicted : List CacheEntry) : LastWrite :=
  evicted.foldl (fun lastWrite entry =>
    lastWrite.forget (entry.key, entry.cacheType)) lastWrite

end LastWrite

/-- One operation with the outcomes of its file operations.  `elsewhere` is a
write of the program to a file outside the cache directory. -/
inductive CacheOp where
  | get (key : String) (cacheType : CacheType) (now : String)
  | put (key : String) (cacheType : CacheType) (data : List UInt8)
      (metadata : Metadata) (outcome : WriteOutcome) (statOk : Bool)
      (now : String) (removed : Path → Bool)
  | putPath (key : String) (cacheType : CacheType) (filePath : Path)
      (metadata : Metadata) (outcome : WriteOutcome) (readOk : Bool)
      (now : String) (removed : Path → Bool)
  | remove (key : String) (cacheType : CacheType) (removed : Path → Bool)
  | clear (removed : Path → Bool)
  | elsewhere (path : Path) (content : Option (List UInt8))

structure CacheRun where
  cache : CacheManager
  disk : Disk
  lastWrite : LastWrite

namespace CacheRun

def initial (basePath : Path) (maxSize : Nat) (disk : Disk) : CacheRun where
  cache := .new basePath maxSize
  disk := disk
  lastWrite := fun _ => none

/-- The state after `put` or `put_path` has returned. -/
def afterStore (run : CacheRun) (key : String × CacheType) (data : List UInt8)
    (metadata : Metadata) (stored : CacheStored) : CacheRun where
  cache := stored.cache
  disk := stored.disk
  lastWrite :=
    match stored.entry with
    | none => run.lastWrite
    | some _ => (run.lastWrite.store key data metadata).forgetAll stored.evicted

def step (table : AlphanumericTable) (run : CacheRun) : CacheOp → Option CacheRun
  | .get key cacheType now =>
      some { run with cache := (run.cache.get run.disk key cacheType now).2 }
  | .put key cacheType data metadata outcome statOk now removed =>
      some (run.afterStore (key, cacheType) data metadata
        (run.cache.put table run.disk key cacheType data metadata outcome
          statOk now removed))
  | .putPath key cacheType filePath metadata outcome readOk now removed =>
      some (run.afterStore (key, cacheType) ((run.disk filePath).getD []) metadata
        (run.cache.putPath table run.disk key cacheType filePath metadata
          outcome readOk now removed))
  | .remove key cacheType removed =>
      let result := run.cache.remove run.disk key cacheType removed
      some
        { cache := result.1
          disk := result.2.1
          lastWrite := run.lastWrite.forget (key, cacheType) }
  | .clear removed =>
      let result := run.cache.clear run.disk removed
      some ⟨result.1, result.2, fun _ => none⟩
  | .elsewhere path content =>
      if run.cache.basePath.toList <+: path.toList then none
      else some { run with
        disk := fun other => if other = path then content else run.disk other }

/-- No entry of the index owns the file. -/
def FreshPath (run : CacheRun) (path : Path) : Prop :=
  ∀ entry ∈ run.cache.entries, entry.path ≠ path

/-- A write that reaches its file reaches one that the index does not own, and
a file is not copied onto itself. -/
def WritesFresh (table : AlphanumericTable) (run : CacheRun) : CacheOp → Prop
  | .put key cacheType _ _ outcome _ _ _ =>
      outcome ≠ .refused →
        run.FreshPath (CacheManager.pathOf table run.cache.basePath key cacheType)
  | .putPath key cacheType filePath _ outcome _ _ _ =>
      outcome ≠ .refused →
        run.FreshPath
            (CacheManager.pathOf table run.cache.basePath key cacheType) ∧
          filePath ≠
            CacheManager.pathOf table run.cache.basePath key cacheType
  | _ => True

instance (run : CacheRun) (path : Path) : Decidable (run.FreshPath path) :=
  inferInstanceAs (Decidable (∀ entry ∈ run.cache.entries, entry.path ≠ path))

/-- `get` finds what was stored last under every key. -/
def ReadsLastWrite (run : CacheRun) : Prop :=
  ∀ key cacheType data metadata now,
    run.lastWrite (key, cacheType) = some (data, metadata) →
      ∃ entry, (run.cache.get run.disk key cacheType now).1 = some entry ∧
        entry.sizeBytes = data.length ∧ entry.metadata = metadata ∧
        run.disk entry.path = some data

/-- Index, files and the map of last writes agree: every line has its own file,
and every last write has a line and a file with its content. -/
structure Agrees (table : AlphanumericTable) (basePath : Path)
    (lines : List CacheLine) (disk : Disk) (lastWrite : LastWrite) : Prop where
  located : ∀ line ∈ lines,
    line.path = CacheManager.pathOf table basePath line.key line.cacheType
  distinct : (lines.map CacheLine.path).Nodup
  current : ∀ key cacheType data metadata,
    lastWrite (key, cacheType) = some (data, metadata) →
      ⟨key, cacheType, CacheManager.pathOf table basePath key cacheType,
          data.length, metadata⟩ ∈ lines ∧
        disk (CacheManager.pathOf table basePath key cacheType) = some data

section Agrees

variable {table : AlphanumericTable} {basePath : Path}
variable {lines : List CacheLine} {disk : Disk} {lastWrite : LastWrite}

/-- Writing to a file that no line owns changes nothing. -/
theorem Agrees.overwrite (agrees : Agrees table basePath lines disk lastWrite)
    {other : Disk} {path : Path}
    (elsewhere : ∀ line ∈ lines, line.path ≠ path)
    (same : ∀ file, file ≠ path → other file = disk file) :
    Agrees table basePath lines other lastWrite where
  located := agrees.located
  distinct := agrees.distinct
  current key cacheType data metadata written := by
    obtain ⟨member, content⟩ := agrees.current key cacheType data metadata written
    exact ⟨member, (same _ (elsewhere _ member)).trans content⟩

/-- Dropping lines, together with some of their files and all of their keys. -/
theorem Agrees.drop (agrees : Agrees table basePath lines disk lastWrite)
    {kept : List CacheLine} {emptier : Disk} {remembered : LastWrite}
    (sublist : List.Sublist kept lines)
    (files : ∀ line ∈ kept, emptier line.path = disk line.path)
    (keys : ∀ key value, remembered key = some value →
      lastWrite key = some value ∧
        ∀ line ∈ lines, (line.key, line.cacheType) = key → line ∈ kept) :
    Agrees table basePath kept emptier remembered where
  located line member := agrees.located line (sublist.subset member)
  distinct := agrees.distinct.sublist (sublist.map CacheLine.path)
  current key cacheType data metadata written := by
    obtain ⟨old, survives⟩ := keys _ _ written
    obtain ⟨member, content⟩ := agrees.current key cacheType data metadata old
    have stays := survives _ member rfl
    exact ⟨stays, (files _ stays).trans content⟩

/-- Storing under a file that no line owns. -/
theorem Agrees.append (agrees : Agrees table basePath lines disk lastWrite)
    (key : String) (cacheType : CacheType) (data : List UInt8)
    (metadata : Metadata)
    (fresh : ∀ line ∈ lines,
      line.path ≠ CacheManager.pathOf table basePath key cacheType) :
    Agrees table basePath
      (lines ++ [⟨key, cacheType,
        CacheManager.pathOf table basePath key cacheType, data.length, metadata⟩])
      (disk.write (CacheManager.pathOf table basePath key cacheType) data)
      (lastWrite.store (key, cacheType) data metadata) where
  located line member := by
    rcases List.mem_append.mp member with old | new
    · exact agrees.located line old
    · rw [List.mem_singleton.mp new]
  distinct := DistinctKeys.nodup_map_append_singleton CacheLine.path
    agrees.distinct fresh
  current otherKey otherType otherData otherMetadata written := by
    unfold LastWrite.store at written
    split at written
    · next same =>
        cases same
        cases written
        exact ⟨by simp, by simp [Disk.write]⟩
    · obtain ⟨member, content⟩ :=
        agrees.current otherKey otherType otherData otherMetadata written
      refine ⟨List.mem_append_left _ member, ?_⟩
      rw [Disk.write, if_neg (fresh _ member), content]

end Agrees

section Operations

variable {table : AlphanumericTable} {cache : CacheManager} {disk : Disk}
variable {lastWrite : LastWrite}

theorem get_lines (key : String) (cacheType : CacheType) (now : String) :
    (cache.get disk key cacheType now).2.lines = cache.lines ∧
      (cache.get disk key cacheType now).2.basePath = cache.basePath := by
  unfold CacheManager.get
  split
  · exact ⟨DistinctKeys.map_modify CacheEntry.line _ _ fun _ => rfl, rfl⟩
  · exact ⟨rfl, rfl⟩

theorem removeFile_of_ne {removed : Path → Bool} {path other : Path}
    (apart : other ≠ path) : disk.removeFile removed path other = disk other := by
  simp [Disk.removeFile, apart]

theorem foldl_removeFile_of_notMem {removed : Path → Bool} {path : Path}
    {entries : List CacheEntry} (absent : ∀ entry ∈ entries, path ≠ entry.path) :
    entries.foldl (fun disk entry => disk.removeFile removed entry.path) disk
        path = disk path := by
  induction entries generalizing disk with
  | nil => rfl
  | cons entry entries ih =>
      rw [List.foldl_cons, ih fun other member =>
        absent other (List.mem_cons_of_mem _ member)]
      exact removeFile_of_ne (absent entry List.mem_cons_self)

/-- An eviction takes one line, its file and its key. -/
theorem agrees_evictOne
    (agrees : Agrees table cache.basePath cache.lines disk lastWrite)
    {removed : Path → Bool} {smaller : CacheManager} {emptier : Disk}
    {entry : CacheEntry}
    (evicted : cache.evictOne disk removed = some (smaller, emptier, entry)) :
    smaller.basePath = cache.basePath ∧
      Agrees table cache.basePath smaller.lines emptier
        (lastWrite.forget (entry.key, entry.cacheType)) := by
  obtain ⟨index, stored, found, same⟩ := CacheManager.evictOne_eq_some evicted
  simp only [Prod.mk.injEq] at same
  obtain ⟨rfl, rfl, rfl⟩ := same
  have erased : CacheManager.lines
        { cache with entries := cache.entries.eraseIdx index } =
      cache.lines.eraseIdx index := (List.eraseIdx_map _ _ _).symm
  have foundLine : cache.lines[index]? = some entry.line := by
    simp [CacheManager.lines, found]
  refine ⟨rfl, ?_⟩
  rw [erased]
  apply agrees.drop (List.eraseIdx_sublist _ _)
  · intro line member
    exact removeFile_of_ne
      (DistinctKeys.key_ne_of_mem_eraseIdx CacheLine.path agrees.distinct
        foundLine member)
  · intro key value written
    unfold LastWrite.forget at written
    split at written
    · cases written
    · next apart =>
        refine ⟨written, fun line member owner => ?_⟩
        apply DistinctKeys.mem_eraseIdx_of_key_ne
          (fun line => (line.key, line.cacheType)) foundLine member
        intro same
        exact apart (owner.symm.trans same)

theorem agrees_evictLoop (removed : Path → Bool) (rounds : Nat)
    (agrees : Agrees table cache.basePath cache.lines disk lastWrite) :
    let result := CacheManager.evictLoop removed rounds cache disk
    result.1.basePath = cache.basePath ∧
      Agrees table cache.basePath result.1.lines result.2.1
        (lastWrite.forgetAll result.2.2) := by
  induction rounds generalizing cache disk lastWrite with
  | zero => exact ⟨rfl, agrees⟩
  | succ rounds ih =>
      rw [CacheManager.evictLoop]
      split
      · cases evicted : cache.evictOne disk removed with
        | none => exact ⟨rfl, agrees⟩
        | some next =>
            obtain ⟨smaller, emptier, entry⟩ := next
            obtain ⟨sameBase, after⟩ := agrees_evictOne agrees evicted
            rw [← sameBase] at after
            have rest := ih after
            rw [sameBase] at rest
            exact rest
      · exact ⟨rfl, agrees⟩

/-- Appending an entry whose file is new, and evicting as needed. -/
theorem agrees_store {entry : CacheEntry} {data : List UInt8}
    {removed : Path → Bool}
    (agrees : Agrees table cache.basePath cache.lines disk lastWrite)
    (located : entry.path =
      CacheManager.pathOf table cache.basePath entry.key entry.cacheType)
    (sized : entry.sizeBytes = data.length)
    (fresh : ∀ line ∈ cache.lines, line.path ≠ entry.path) :
    let stored := cache.store (disk.write entry.path data) entry removed
    stored.cache.basePath = cache.basePath ∧
      Agrees table cache.basePath stored.cache.lines stored.disk
        ((lastWrite.store (entry.key, entry.cacheType) data
          entry.metadata).forgetAll stored.evicted) := by
  let grown := { cache with entries := cache.entries ++ [entry] }
  have lines : grown.lines = cache.lines ++ [entry.line] := by
    simp [grown, CacheManager.lines]
  have line : entry.line = ⟨entry.key, entry.cacheType,
      CacheManager.pathOf table cache.basePath entry.key entry.cacheType,
      data.length, entry.metadata⟩ := by
    rw [← located, ← sized]
    rfl
  have appended := agrees.append entry.key entry.cacheType data entry.metadata
    (by rw [← located]; exact fresh)
  rw [← line, ← lines, ← located] at appended
  exact @agrees_evictLoop table grown _ _ removed grown.entries.length appended

theorem agrees_put {key : String} {cacheType : CacheType} {data : List UInt8}
    {metadata : Metadata} {outcome : WriteOutcome} {statOk : Bool} {now : String}
    {removed : Path → Bool} {run : CacheRun}
    (agrees : Agrees table run.cache.basePath run.cache.lines run.disk
      run.lastWrite)
    (fresh : outcome ≠ .refused → ∀ line ∈ run.cache.lines, line.path ≠
      CacheManager.pathOf table run.cache.basePath key cacheType) :
    let after := run.afterStore (key, cacheType) data metadata
      (run.cache.put table run.disk key cacheType data metadata outcome statOk
        now removed)
    after.cache.basePath = run.cache.basePath ∧
      Agrees table run.cache.basePath after.cache.lines after.disk
        after.lastWrite := by
  cases outcome with
  | refused => exact ⟨rfl, agrees⟩
  | truncated bytes =>
      refine ⟨rfl, agrees.overwrite (fresh (by simp)) ?_⟩
      intro file apart
      exact if_neg apart
  | done =>
      cases statOk with
      | false =>
          refine ⟨rfl, agrees.overwrite (fresh (by simp)) ?_⟩
          intro file apart
          exact if_neg apart
      | true =>
          let entry : CacheEntry :=
            { key := key
              path := CacheManager.pathOf table run.cache.basePath key cacheType
              sizeBytes := data.length
              cacheType := cacheType
              createdAt := now
              lastAccess := now
              accessCount := 0
              metadata := metadata }
          exact @agrees_store table run.cache run.disk run.lastWrite entry data
            removed agrees rfl rfl (fresh (by simp))

theorem agrees_putPath {key : String} {cacheType : CacheType} {filePath : Path}
    {metadata : Metadata} {outcome : WriteOutcome} {readOk : Bool} {now : String}
    {removed : Path → Bool} {run : CacheRun}
    (agrees : Agrees table run.cache.basePath run.cache.lines run.disk
      run.lastWrite)
    (fresh : outcome ≠ .refused →
      (∀ line ∈ run.cache.lines, line.path ≠
          CacheManager.pathOf table run.cache.basePath key cacheType) ∧
        filePath ≠
          CacheManager.pathOf table run.cache.basePath key cacheType) :
    let after := run.afterStore (key, cacheType) ((run.disk filePath).getD [])
      metadata
      (run.cache.putPath table run.disk key cacheType filePath metadata outcome
        readOk now removed)
    after.cache.basePath = run.cache.basePath ∧
      Agrees table run.cache.basePath after.cache.lines after.disk
        after.lastWrite := by
  unfold CacheManager.putPath
  cases content : run.disk filePath with
  | none => exact ⟨rfl, agrees⟩
  | some data =>
      cases readOk with
      | false => exact ⟨rfl, agrees⟩
      | true =>
          cases outcome with
          | refused => exact ⟨rfl, agrees⟩
          | truncated bytes =>
              refine ⟨rfl, agrees.overwrite (fresh (by simp)).1 ?_⟩
              intro file apart
              exact if_neg apart
          | done =>
              obtain ⟨unowned, apart⟩ := fresh (by simp)
              let entry : CacheEntry :=
                { key := key
                  path := CacheManager.pathOf table run.cache.basePath key
                    cacheType
                  sizeBytes := data.length
                  cacheType := cacheType
                  createdAt := now
                  lastAccess := now
                  accessCount := 0
                  metadata := metadata }
              simp only [if_true, if_neg apart]
              exact @agrees_store table run.cache run.disk run.lastWrite entry
                data removed agrees rfl rfl unowned

theorem agrees_remove {key : String} {cacheType : CacheType}
    {removed : Path → Bool}
    (agrees : Agrees table cache.basePath cache.lines disk lastWrite) :
    Agrees table cache.basePath (cache.remove disk key cacheType removed).1.lines
      (cache.remove disk key cacheType removed).2.1
      (lastWrite.forget (key, cacheType)) := by
  apply agrees.drop
  · exact List.filter_sublist.map CacheEntry.line
  · intro line member
    obtain ⟨entry, entryMember, rfl⟩ := List.mem_map.mp member
    obtain ⟨stored, different⟩ := List.mem_filter.mp entryMember
    apply foldl_removeFile_of_notMem
    intro other otherMember samePath
    obtain ⟨otherStored, matching⟩ := List.mem_filter.mp otherMember
    have same : entry.line = other.line :=
      List.inj_on_of_nodup_map agrees.distinct (List.mem_map_of_mem stored)
        (List.mem_map_of_mem otherStored) samePath
    have sameKey : entry.key = other.key := congrArg CacheLine.key same
    have sameType : entry.cacheType = other.cacheType :=
      congrArg CacheLine.cacheType same
    simp only [sameKey, sameType, matching] at different
    cases different
  · intro owner value written
    unfold LastWrite.forget at written
    split at written
    · cases written
    · next apart =>
        refine ⟨written, fun line member owned => ?_⟩
        obtain ⟨entry, stored, rfl⟩ := List.mem_map.mp member
        apply List.mem_map_of_mem
        refine List.mem_filter.mpr ⟨stored, ?_⟩
        by_contra matching
        apply apart
        rw [← owned]
        simpa [CacheEntry.line] using matching

/-- Every operation that respects `WritesFresh` keeps the agreement. -/
theorem agrees_step {run next : CacheRun} {operation : CacheOp}
    (agrees : Agrees table run.cache.basePath run.cache.lines run.disk
      run.lastWrite)
    (fresh : run.WritesFresh table operation)
    (taken : run.step table operation = some next) :
    next.cache.basePath = run.cache.basePath ∧
      Agrees table run.cache.basePath next.cache.lines next.disk
        next.lastWrite := by
  have unowned : ∀ path, run.FreshPath path →
      ∀ line ∈ run.cache.lines, line.path ≠ path := by
    intro path freshPath line member
    obtain ⟨entry, stored, rfl⟩ := List.mem_map.mp member
    exact freshPath entry stored
  cases operation with
  | get key cacheType now =>
      cases taken
      obtain ⟨sameLines, sameBase⟩ :=
        @get_lines run.cache run.disk key cacheType now
      exact ⟨sameBase, sameLines ▸ agrees⟩
  | put key cacheType data metadata outcome statOk now removed =>
      cases taken
      exact agrees_put agrees fun touched => unowned _ (fresh touched)
  | putPath key cacheType filePath metadata outcome readOk now removed =>
      cases taken
      exact agrees_putPath agrees fun touched =>
        ⟨unowned _ (fresh touched).1, (fresh touched).2⟩
  | remove key cacheType removed =>
      cases taken
      exact ⟨rfl, agrees_remove agrees⟩
  | clear removed =>
      cases taken
      exact ⟨rfl, ⟨nofun, List.nodup_nil, nofun⟩⟩
  | elsewhere path content =>
      simp only [step] at taken
      split at taken
      · cases taken
      · next outside =>
          cases taken
          refine ⟨rfl, agrees.overwrite ?_ fun file apart => if_neg apart⟩
          rintro line member rfl
          apply outside
          rw [agrees.located line member]
          exact (prefix_joinPath _ _).trans (prefix_joinPath _ _)

/-- Agreement is all that `get` needs. -/
theorem readsLastWrite_of_agrees {run : CacheRun}
    (agrees : Agrees table run.cache.basePath run.cache.lines run.disk
      run.lastWrite) : run.ReadsLastWrite := by
  intro key cacheType data metadata now written
  obtain ⟨member, content⟩ := agrees.current key cacheType data metadata written
  obtain ⟨entry, stored, line⟩ := List.mem_map.mp member
  have present : ∃ entry ∈ run.cache.entries,
      (entry.key = key && entry.cacheType = cacheType &&
        run.disk.exists? entry.path) = true := by
    refine ⟨entry, stored, ?_⟩
    have sameKey : entry.key = key := congrArg CacheLine.key line
    have sameType : entry.cacheType = cacheType :=
      congrArg CacheLine.cacheType line
    have samePath : entry.path = _ := congrArg CacheLine.path line
    simp [sameKey, sameType, samePath, Disk.exists?, content]
  cases position : run.cache.position run.disk key cacheType with
  | none =>
      rw [CacheManager.position, List.findIdx?_eq_none_iff] at position
      obtain ⟨other, otherStored, matching⟩ := present
      rw [position other otherStored] at matching
      cases matching
  | some index =>
      have chosen := position
      rw [CacheManager.position, List.findIdx?_eq_some_iff_getElem] at chosen
      obtain ⟨below, matching, _⟩ := chosen
      have found : run.cache.entries[index]? = some run.cache.entries[index] :=
        List.getElem?_eq_getElem below
      generalize run.cache.entries[index] = first at matching found
      simp only [Bool.and_eq_true, decide_eq_true_eq] at matching
      obtain ⟨⟨sameKey, sameType⟩, _⟩ := matching
      have firstMember : first.line ∈ run.cache.lines :=
        List.mem_map_of_mem (List.mem_of_getElem? found)
      have samePath := agrees.located _ firstMember
      change first.path = CacheManager.pathOf table run.cache.basePath first.key
        first.cacheType at samePath
      rw [sameKey, sameType] at samePath
      have same : first.line = _ :=
        List.inj_on_of_nodup_map agrees.distinct firstMember member samePath
      refine ⟨first, ?_, congrArg CacheLine.sizeBytes same,
        congrArg CacheLine.metadata same, ?_⟩
      · simp [CacheManager.get, position, found]
      · rw [samePath, content]

end Operations

/-- Read your writes: in a run whose writes all go to files of their own, every
key that is still cached is read back as it was last stored. -/
theorem readsLastWrite_of_writesFresh (table : AlphanumericTable)
    (basePath : Path) (maxSize : Nat) (disk : Disk)
    {operations : List CacheOp} {last : CacheRun}
    (run : LabelledRun.Guarded (step table) (WritesFresh table)
      (initial basePath maxSize disk) operations last) :
    last.ReadsLastWrite := by
  have agrees : last.cache.basePath = basePath ∧
      Agrees table basePath last.cache.lines last.disk last.lastWrite := by
    refine run.invariant
      (fun run => run.cache.basePath = basePath ∧
        Agrees table basePath run.cache.lines run.disk run.lastWrite)
      ⟨rfl, ⟨nofun, List.nodup_nil, nofun⟩⟩ ?_
    rintro before operation after ⟨sameBase, agrees⟩ fresh taken
    rw [← sameBase] at agrees ⊢
    exact agrees_step agrees fresh taken
  apply readsLastWrite_of_agrees
  rw [agrees.1]
  exact agrees.2

/-- A successful `put` under the key "index". -/
def putIndex (data : List UInt8) : CacheOp :=
  .put "index" .generic data ∅ .done true "" fun _ => true

/-- An empty cache of one kilobyte on an empty disk. -/
def emptyCache : CacheRun :=
  initial "/cache" 1024 fun _ => none

/-- Two keys; one of them is read, removed and stored again. -/
def storedAgain : List CacheOp :=
  [putIndex [1], .put "page" .generic [1, 2, 3] ∅ .done true "1" fun _ => true,
    .get "index" .generic "2", .remove "index" .generic fun _ => true,
    putIndex [4, 5]]

theorem readsLastWrite_stored_again :
    ∃ last, LabelledRun.exec (step .asciiOnly) emptyCache storedAgain = some last ∧
      last.lastWrite ("index", .generic) = some ([4, 5], ∅) ∧
      last.lastWrite ("page", .generic) = some ([1, 2, 3], ∅) ∧
      last.ReadsLastWrite := by
  have run : LabelledRun.Guarded (step .asciiOnly) (WritesFresh .asciiOnly)
      emptyCache storedAgain _ :=
    .extend (.extend (.extend (.extend (.extend .start
      (fun _ => by decide +kernel) rfl)
      (fun _ => by decide +kernel) rfl)
      trivial rfl)
      trivial rfl)
      (fun _ => by decide +kernel) rfl
  exact ⟨_, run.exec_eq, rfl, rfl, readsLastWrite_of_writesFresh _ _ _ _ run⟩

/-- After a second, longer `put` under the same key, `get` still describes the
first one. -/
theorem second_put_not_read :
    ∃ last, LabelledRun.Run (step .asciiOnly) emptyCache
        [putIndex [1], putIndex [1, 2]] last ∧
      last.lastWrite ("index", .generic) = some ([1, 2], ∅) ∧
      ((last.cache.get last.disk "index" .generic "").1.map
        CacheEntry.sizeBytes) = some 1 ∧
      ¬ last.ReadsLastWrite := by
  refine ⟨_, LabelledRun.run_of_exec_eq rfl, rfl, rfl, ?_⟩
  intro reads
  obtain ⟨entry, found, size, _⟩ :=
    reads "index" .generic [1, 2] ∅ "" rfl
  have first := (congrArg (Option.map CacheEntry.sizeBytes) found).symm
  rw [Option.map_some, size] at first
  cases first

end CacheRun

end NetGuardian
