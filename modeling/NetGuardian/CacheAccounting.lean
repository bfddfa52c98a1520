import NetGuardian.CacheFrame
import NetGuardian.CacheLimit

/-!
# The index and the cache directories

A write to a file that an entry already owns appends a second entry for it.  As
long as every write goes to a file of its own and no file operation fails, the
entries and the files in the cache directories correspond one to one, and the
total size is the number of bytes in these directories.
-/

namespace NetGuardian

/-- The file lies in one of the directories that the cache makes. -/
def InDirectories (basePath path : Path) : Prop :=
  ∃ cacheType : CacheType,
    (joinPath (joinPath basePath cacheType.asStr) "").toList <+: path.toList

/-- The number of bytes in the cache directories: `files` lists every file once. -/
def StoredBytes (basePath : Path) (disk : Disk) (total : Nat) : Prop :=
  ∃ files : List Path, files.Nodup ∧
    (∀ path, path ∈ files ↔ InDirectories basePath path ∧ disk path ≠ none) ∧
    (files.map fun path => ((disk path).getD []).length).sum = total

theorem inDirectories_pathOf (table : AlphanumericTable) (basePath : Path)
    (key : String) (cacheType : CacheType) :
    InDirectories basePath
      (CacheManager.pathOf table basePath key cacheType) := by
  obtain ⟨directory, joined⟩ :=
    joinPath_eq_append (joinPath basePath cacheType.asStr)
  refine ⟨cacheType, ?_⟩
  rw [CacheManager.pathOf, joined, joined, String.toList_append,
    String.toList_append]
  exact List.prefix_append_right_inj _ |>.mpr (List.nil_prefix)

theorem InDirectories.below {basePath path : Path}
    (inside : InDirectories basePath path) : basePath.toList <+: path.toList := by
  obtain ⟨cacheType, within⟩ := inside
  exact ((prefix_joinPath _ _).trans (prefix_joinPath _ _)).trans within

/-- Index and directories correspond: every line has a file of its own with as
many bytes as the line says, and every file has a line. -/
structure Tallies (table : AlphanumericTable) (basePath : Path)
    (lines : List CacheLine) (disk : Disk) : Prop where
  located : ∀ line ∈ lines,
    line.path = CacheManager.pathOf table basePath line.key line.cacheType
  distinct : (lines.map CacheLine.path).Nodup
  stored : ∀ line ∈ lines,
    ∃ data, disk line.path = some data ∧ data.length = line.sizeBytes
  owned : ∀ path, InDirectories basePath path → disk path ≠ none →
    ∃ line ∈ lines, line.path = path

section Tallies

variable {table : AlphanumericTable} {basePath : Path}
variable {lines : List CacheLine} {disk : Disk}

theorem Tallies.inside (tallies : Tallies table basePath lines disk)
    {line : CacheLine} (member : line ∈ lines) :
    InDirectories basePath line.path := by
  rw [tallies.located line member]
  exact inDirectories_pathOf table basePath line.key line.cacheType

/-- Files outside the directories do not matter. -/
theorem Tallies.outside (tallies : Tallies table basePath lines disk)
    {other : Disk}
    (same : ∀ path, InDirectories basePath path → other path = disk path) :
    Tallies table basePath lines other where
  located := tallies.located
  distinct := tallies.distinct
  stored line member := by
    rw [same _ (tallies.inside member)]
    exact tallies.stored line member
  owned path inside present := by
    rw [same path inside] at present
    exact tallies.owned path inside present

/-- A file that no line owns is not there. -/
theorem Tallies.absent (tallies : Tallies table basePath lines disk)
    {path : Path} (inside : InDirectories basePath path)
    (fresh : ∀ line ∈ lines, line.path ≠ path) : disk path = none := by
  by_contra present
  obtain ⟨line, member, owns⟩ := tallies.owned path inside present
  exact fresh line member owns

/-- Writing a new file and its line. -/
theorem Tallies.append (tallies : Tallies table basePath lines disk)
    {line : CacheLine} {data : List UInt8}
    (own : line.path =
      CacheManager.pathOf table basePath line.key line.cacheType)
    (size : line.sizeBytes = data.length)
    (fresh : ∀ other ∈ lines, other.path ≠ line.path) :
    Tallies table basePath (lines ++ [line]) (disk.write line.path data) where
  located other member := by
    rcases List.mem_append.mp member with old | new
    · exact tallies.located other old
    · rw [List.mem_singleton.mp new]
      exact own
  distinct := DistinctKeys.nodup_map_append_singleton CacheLine.path
    tallies.distinct fresh
  stored other member := by
    rcases List.mem_append.mp member with old | new
    · rw [Disk.write, if_neg (fresh other old)]
      exact tallies.stored other old
    · rw [List.mem_singleton.mp new]
      exact ⟨data, Disk.write_self data, size.symm⟩
  owned path inside present := by
    by_cases written : path = line.path
    · exact ⟨line, List.mem_append_right _ (List.mem_singleton_self line),
        written.symm⟩
    · rw [Disk.write, if_neg written] at present
      obtain ⟨owner, member, owns⟩ := tallies.owned path inside present
      exact ⟨owner, List.mem_append_left _ member, owns⟩

/-- Dropping lines together with their files. -/
theorem Tallies.drop (tallies : Tallies table basePath lines disk)
    {kept : List CacheLine} {emptier : Disk} (sublist : List.Sublist kept lines)
    (files : ∀ line ∈ kept, emptier line.path = disk line.path)
    (gone : ∀ line ∈ lines, line ∈ kept ∨ emptier line.path = none)
    (fewer : ∀ path, emptier path ≠ none → disk path ≠ none) :
    Tallies table basePath kept emptier where
  located line member := tallies.located line (sublist.subset member)
  distinct := tallies.distinct.sublist (sublist.map CacheLine.path)
  stored line member := by
    rw [files line member]
    exact tallies.stored line (sublist.subset member)
  owned path inside present := by
    obtain ⟨line, member, rfl⟩ := tallies.owned path inside (fewer path present)
    rcases gone line member with stays | lost
    · exact ⟨line, stays, rfl⟩
    · exact absurd lost present

end Tallies

namespace CacheRun

section Operations

variable {table : AlphanumericTable} {cache : CacheManager} {disk : Disk}
variable {basePath : Path}

theorem lines_map_path :
    cache.lines.map CacheLine.path = cache.entries.map CacheEntry.path := by
  rw [CacheManager.lines, List.map_map]
  rfl

/-- What is left of the files when the files of some entries have been removed. -/
theorem foldl_removeFile_present {entries : List CacheEntry} {path : Path}
    {removed : Path → Bool}
    (present : entries.foldl (fun disk entry =>
      disk.removeFile removed entry.path) disk path ≠ none) : disk path ≠ none := by
  by_cases owned : ∃ entry ∈ entries, entry.path = path
  · rw [foldl_removeFile_of_mem owned] at present
    split at present
    · exact absurd rfl present
    · exact present
  · rw [foldl_removeFile_of_notMem fun entry member same =>
      owned ⟨entry, member, same.symm⟩] at present
    exact present

/-- Removing some entries and their files, as `remove` and `clear` do. -/
theorem tallies_filter (matching : CacheEntry → Bool)
    (tallies : Tallies table basePath cache.lines disk) :
    Tallies table basePath
      ((cache.entries.filter fun entry => !matching entry).map CacheEntry.line)
      ((cache.entries.filter matching).foldl
        (fun disk entry => disk.removeFile (fun _ => true) entry.path) disk) := by
  apply tallies.drop
  · exact List.filter_sublist.map CacheEntry.line
  · intro line member
    obtain ⟨entry, kept, rfl⟩ := List.mem_map.mp member
    obtain ⟨stored, different⟩ := List.mem_filter.mp kept
    apply foldl_removeFile_of_notMem
    intro other lost samePath
    obtain ⟨otherStored, matched⟩ := List.mem_filter.mp lost
    have distinct := tallies.distinct
    rw [lines_map_path] at distinct
    have same : entry = other :=
      List.inj_on_of_nodup_map distinct stored otherStored samePath
    rw [same, matched] at different
    cases different
  · intro line member
    obtain ⟨entry, stored, rfl⟩ := List.mem_map.mp member
    by_cases matched : matching entry
    · right
      have lost : entry ∈ cache.entries.filter matching :=
        List.mem_filter.mpr ⟨stored, matched⟩
      exact (foldl_removeFile_of_mem ⟨entry, lost, rfl⟩).trans (if_pos rfl)
    · left
      apply List.mem_map_of_mem
      exact List.mem_filter.mpr ⟨stored, by simpa using matched⟩
  · intro path present
    exact foldl_removeFile_present present

theorem tallies_evictRound {state next : CacheManager × Disk} {entry : CacheEntry}
    (tallies : Tallies table basePath state.1.lines state.2)
    (taken : CacheManager.evictRound (fun _ => true) state = some (next, entry)) :
    Tallies table basePath next.1.lines next.2 := by
  obtain ⟨index, found, rfl⟩ := CacheManager.evictRound_eq_some taken
  have erased : CacheManager.lines
        { state.1 with entries := state.1.entries.eraseIdx index } =
      state.1.lines.eraseIdx index := (List.eraseIdx_map _ _ _).symm
  have foundLine : state.1.lines[index]? = some entry.line := by
    simp [CacheManager.lines, found]
  dsimp only
  rw [erased]
  apply tallies.drop (List.eraseIdx_sublist _ _)
  · intro line member
    exact removeFile_of_ne
      (DistinctKeys.key_ne_of_mem_eraseIdx CacheLine.path tallies.distinct
        foundLine member)
  · intro line member
    by_cases same : line.path = entry.path
    · right
      simp [Disk.removeFile, same]
    · left
      exact DistinctKeys.mem_eraseIdx_of_key_ne CacheLine.path foundLine member same
  · intro path present
    unfold Disk.removeFile at present
    split at present
    · exact absurd rfl present
    · exact present

/-- Storing under a file that no entry owns. -/
theorem tallies_store {entry : CacheEntry} {data : List UInt8}
    (tallies : Tallies table basePath cache.lines disk)
    (own : entry.path =
      CacheManager.pathOf table basePath entry.key entry.cacheType)
    (size : entry.sizeBytes = data.length)
    (fresh : ∀ line ∈ cache.lines, line.path ≠ entry.path) :
    Tallies table basePath
      (cache.store (disk.write entry.path data) entry fun _ => true).cache.lines
      (cache.store (disk.write entry.path data) entry fun _ => true).disk := by
  have grown : Tallies table basePath (cache.grown entry).lines
      (disk.write entry.path data) := by
    have appended := @Tallies.append table basePath cache.lines disk tallies
      entry.line data own size fresh
    rw [CacheManager.lines, CacheManager.grown, List.map_append]
    exact appended
  exact CacheManager.store_ends.invariant
    (fun state => Tallies table basePath state.1.lines state.2) grown
    fun _ _ _ held taken => tallies_evictRound held taken

/-- Two entries own a file, or the file is gone. -/
def SharedOrGone (path : Path) (state : CacheManager × Disk) : Prop :=
  2 ≤ (state.1.entries.map CacheEntry.path).count path ∨ state.2 path = none

theorem sharedOrGone_evictRound {path : Path} {state next : CacheManager × Disk}
    {entry : CacheEntry} (shared : SharedOrGone path state)
    (taken : CacheManager.evictRound (fun _ => true) state = some (next, entry)) :
    SharedOrGone path next := by
  obtain ⟨index, found, rfl⟩ := CacheManager.evictRound_eq_some taken
  obtain ⟨below, evicted⟩ := List.getElem?_eq_some_iff.mp found
  by_cases own : entry.path = path
  · right
    simp [Disk.removeFile, own]
  · rcases shared with twice | gone
    · left
      have split := ((List.getElem_cons_eraseIdx_perm below).map
        CacheEntry.path).count_eq path
      rw [evicted, List.map_cons, List.count_cons_of_ne own] at split
      exact twice.trans_eq split.symm
    · right
      dsimp only
      rw [removeFile_of_ne (Ne.symm own), gone]

/-- Storing under a file that an entry owns: when the loop has ended, either the
file has two entries, or it has been removed. -/
theorem sharedOrGone_store {entry : CacheEntry} {path : Path}
    (own : entry.path = path) (owned : ∃ other ∈ cache.entries, other.path = path) :
    SharedOrGone path
      ((cache.store disk entry fun _ => true).cache,
        (cache.store disk entry fun _ => true).disk) := by
  apply CacheManager.store_ends.invariant (SharedOrGone path)
  · left
    obtain ⟨other, member, same⟩ := owned
    have before : 0 < (cache.entries.map CacheEntry.path).count path :=
      List.count_pos_iff.mpr (same ▸ List.mem_map_of_mem member)
    rw [CacheManager.grown, List.map_append, List.count_append, List.map_singleton,
      own, List.count_singleton_self]
    omega
  · intro state next evicted shared taken
    exact sharedOrGone_evictRound shared taken

end Operations

/-- All file operations of the call succeed. -/
def AllSucceed (run : CacheRun) : CacheOp → Prop
  | .get _ _ _ => True
  | .put _ _ _ _ outcome statOk _ removed =>
      outcome = .done ∧ statOk = true ∧ removed = fun _ => true
  | .putPath _ _ filePath _ outcome readOk _ removed =>
      run.disk filePath ≠ none ∧ outcome = .done ∧ readOk = true ∧
        removed = fun _ => true
  | .remove _ _ removed => removed = fun _ => true
  | .clear removed => removed = fun _ => true
  | .elsewhere _ _ => True

/-- The file that a `put` or `put_path` writes. -/
def writtenPath (table : AlphanumericTable) (run : CacheRun) : CacheOp → Option Path
  | .put key cacheType _ _ _ _ _ _ =>
      some (CacheManager.pathOf table run.cache.basePath key cacheType)
  | .putPath key cacheType _ _ _ _ _ _ =>
      some (CacheManager.pathOf table run.cache.basePath key cacheType)
  | _ => none

/-- No entry owns the file that is written. -/
def FreshWrite (table : AlphanumericTable) (run : CacheRun) (operation : CacheOp) :
    Prop :=
  ∀ path, run.writtenPath table operation = some path → run.FreshPath path

theorem FreshPath.lines {run : CacheRun} {path : Path} (fresh : run.FreshPath path) :
    ∀ line ∈ run.cache.lines, line.path ≠ path := by
  intro line member
  obtain ⟨entry, stored, rfl⟩ := List.mem_map.mp member
  exact fresh entry stored

section Steps

variable {table : AlphanumericTable} {run next : CacheRun}

theorem tallies_put {key : String} {cacheType : CacheType} {data : List UInt8}
    {metadata : Metadata} {now : String}
    (tallies : Tallies table run.cache.basePath run.cache.lines run.disk)
    (fresh : run.FreshPath
      (CacheManager.pathOf table run.cache.basePath key cacheType)) :
    let stored := run.cache.put table run.disk key cacheType data metadata .done true
      now fun _ => true
    stored.cache.basePath = run.cache.basePath ∧
      Tallies table run.cache.basePath stored.cache.lines stored.disk :=
  ⟨CacheManager.store_sublist.2.1, tallies_store tallies rfl rfl fresh.lines⟩

/-- The source of a `put_path` is not the file that it writes: that file is not
there. -/
theorem tallies_putPath {key : String} {cacheType : CacheType} {filePath : Path}
    {metadata : Metadata} {now : String}
    (tallies : Tallies table run.cache.basePath run.cache.lines run.disk)
    (fresh : run.FreshPath
      (CacheManager.pathOf table run.cache.basePath key cacheType)) :
    let stored := run.cache.putPath table run.disk key cacheType filePath metadata
      .done true now fun _ => true
    stored.cache.basePath = run.cache.basePath ∧
      Tallies table run.cache.basePath stored.cache.lines stored.disk := by
  have absent := tallies.absent
    (inDirectories_pathOf table run.cache.basePath key cacheType) fresh.lines
  unfold CacheManager.putPath
  cases source : run.disk filePath with
  | none => exact ⟨rfl, tallies⟩
  | some data =>
      have apart : filePath ≠
          CacheManager.pathOf table run.cache.basePath key cacheType := by
        rintro rfl
        rw [absent] at source
        cases source
      simp only [if_true, if_neg apart]
      exact ⟨CacheManager.store_sublist.2.1,
        tallies_store tallies rfl rfl fresh.lines⟩

/-- Every operation whose file operations succeed and whose write is fresh keeps
the correspondence. -/
theorem tallies_step {operation : CacheOp}
    (tallies : Tallies table run.cache.basePath run.cache.lines run.disk)
    (succeeds : run.AllSucceed operation) (fresh : run.FreshWrite table operation)
    (taken : run.step table operation = some next) :
    next.cache.basePath = run.cache.basePath ∧
      Tallies table run.cache.basePath next.cache.lines next.disk := by
  cases operation with
  | get key cacheType now =>
      cases taken
      obtain ⟨sameLines, sameBase⟩ :=
        @get_lines run.cache run.disk key cacheType now
      exact ⟨sameBase, sameLines ▸ tallies⟩
  | put key cacheType data metadata outcome statOk now removed =>
      obtain ⟨rfl, rfl, rfl⟩ := succeeds
      cases taken
      exact tallies_put tallies (fresh _ rfl)
  | putPath key cacheType filePath metadata outcome readOk now removed =>
      obtain ⟨_, rfl, rfl, rfl⟩ := succeeds
      cases taken
      exact tallies_putPath tallies (fresh _ rfl)
  | remove key cacheType removed =>
      cases succeeds
      cases taken
      exact ⟨rfl, tallies_filter _ tallies⟩
  | clear removed =>
      cases succeeds
      cases taken
      have cleared := tallies_filter (fun _ => true) tallies
      simp only [Bool.not_true, List.filter_false, List.filter_true] at cleared
      exact ⟨rfl, cleared⟩
  | elsewhere path content =>
      simp only [step] at taken
      split at taken
      · cases taken
      · next outside =>
          cases taken
          refine ⟨rfl, tallies.outside fun file inside => if_neg ?_⟩
          rintro rfl
          exact outside inside.below

end Steps

/-- The accounting of the cache: every entry has a key and a file of its own, the
file is as long as the entry says, and the total is what the directories hold. -/
structure Accounted (run : CacheRun) : Prop where
  keys : (run.cache.entries.map fun entry => (entry.key, entry.cacheType)).Nodup
  paths : (run.cache.entries.map CacheEntry.path).Nodup
  files : ∀ entry ∈ run.cache.entries,
    ∃ data, run.disk entry.path = some data ∧ data.length = entry.sizeBytes
  total : StoredBytes run.cache.basePath run.disk run.cache.totalSize

theorem accounted_of_tallies {table : AlphanumericTable} {run : CacheRun}
    (tallies : Tallies table run.cache.basePath run.cache.lines run.disk)
    (fits : run.cache.sizes < 2 ^ 64) : run.Accounted where
  keys := by
    have distinct := tallies.distinct
    have owners : run.cache.lines.map CacheLine.path =
        (run.cache.entries.map fun entry => (entry.key, entry.cacheType)).map
          fun owner =>
            CacheManager.pathOf table run.cache.basePath owner.1 owner.2 := by
      rw [CacheManager.lines, List.map_map, List.map_map]
      apply List.map_congr_left
      intro entry member
      exact tallies.located _ (List.mem_map_of_mem member)
    rw [owners] at distinct
    exact distinct.of_map _
  paths := lines_map_path ▸ tallies.distinct
  files entry member := tallies.stored entry.line (List.mem_map_of_mem member)
  total := by
    refine ⟨run.cache.lines.map CacheLine.path, tallies.distinct, ?_, ?_⟩
    · intro path
      constructor
      · intro listed
        obtain ⟨line, member, rfl⟩ := List.mem_map.mp listed
        obtain ⟨data, content, _⟩ := tallies.stored line member
        exact ⟨tallies.inside member, by rw [content]; exact Option.some_ne_none _⟩
      · rintro ⟨inside, present⟩
        obtain ⟨line, member, rfl⟩ := tallies.owned path inside present
        exact List.mem_map_of_mem member
    · have sizes : run.cache.lines.map
            (fun line => ((run.disk line.path).getD []).length) =
          run.cache.entries.map CacheEntry.sizeBytes := by
        rw [CacheManager.lines, List.map_map]
        apply List.map_congr_left
        intro entry member
        obtain ⟨data, content, size⟩ :=
          tallies.stored entry.line (List.mem_map_of_mem member)
        simp only [Function.comp_apply, content, Option.getD_some]
        exact size
      rw [List.map_map, CacheManager.totalSize_of_fits fits]
      exact congrArg List.sum sizes

theorem not_accounted_of_sharedOrGone {run : CacheRun} {path : Path}
    (shared : SharedOrGone path (run.cache, run.disk))
    (left : ∃ entry ∈ run.cache.entries, entry.path = path) : ¬ run.Accounted := by
  intro accounted
  rcases shared with twice | gone
  · have once := List.nodup_iff_count_le_one.mp accounted.paths path
    dsimp only at twice
    omega
  · obtain ⟨entry, member, rfl⟩ := left
    obtain ⟨data, content, _⟩ := accounted.files entry member
    dsimp only at gone
    rw [gone] at content
    cases content

/-- A successful write to a file that an entry owns. -/
theorem sharedOrGone_step {table : AlphanumericTable} {run next : CacheRun}
    {operation : CacheOp} {path : Path} (succeeds : run.AllSucceed operation)
    (taken : run.step table operation = some next)
    (writes : run.writtenPath table operation = some path)
    (owned : ¬ run.FreshPath path) : SharedOrGone path (next.cache, next.disk) := by
  have owner : ∃ entry ∈ run.cache.entries, entry.path = path := by
    simpa [FreshPath] using owned
  cases operation with
  | get key cacheType now => cases writes
  | put key cacheType data metadata outcome statOk now removed =>
      obtain ⟨rfl, rfl, rfl⟩ := succeeds
      cases taken
      cases writes
      exact sharedOrGone_store rfl owner
  | putPath key cacheType filePath metadata outcome readOk now removed =>
      obtain ⟨present, rfl, rfl, rfl⟩ := succeeds
      cases taken
      cases writes
      obtain ⟨data, source⟩ := Option.ne_none_iff_exists'.mp present
      simp only [afterStore, CacheManager.putPath, source, if_true]
      exact sharedOrGone_store rfl owner
  | remove key cacheType removed => cases writes
  | clear removed => cases writes
  | elsewhere path content => cases writes

/-- All file operations succeed, every write goes to a file that no entry owns, and
the sizes fit in a `u64`. -/
def Careful (table : AlphanumericTable) (run : CacheRun) (operation : CacheOp) :
    Prop :=
  run.AllSucceed operation ∧ run.FreshWrite table operation ∧
    run.SizesFit table operation

/-- From empty directories, the accounting is right after every run whose writes
are fresh.  It is wrong after a write to a file that an entry owns, unless the
write has evicted all the entries of that file. -/
theorem accounted_of_careful (table : AlphanumericTable) (basePath : Path)
    (maxSize : Nat) (disk : Disk)
    (empty : ∀ path, InDirectories basePath path → disk path = none)
    {operations : List CacheOp} {last : CacheRun}
    (run : LabelledRun.Guarded (step table) (Careful table)
      (initial basePath maxSize disk) operations last) :
    last.Accounted ∧
      ∀ operation next path, last.AllSucceed operation →
        last.step table operation = some next →
          last.writtenPath table operation = some path → ¬ last.FreshPath path →
            (∃ entry ∈ next.cache.entries, entry.path = path) →
              ¬ next.Accounted := by
  have held : last.cache.basePath = basePath ∧ last.cache.WithinLimit maxSize ∧
      Tallies table basePath last.cache.lines last.disk := by
    refine run.invariant
      (fun run => run.cache.basePath = basePath ∧ run.cache.WithinLimit maxSize ∧
        Tallies table basePath run.cache.lines run.disk)
      ⟨rfl, ⟨rfl, Nat.zero_le _, Nat.two_pow_pos 64⟩, ?_⟩ ?_
    · exact
        { located := fun _ member => absurd member List.not_mem_nil
          distinct := List.nodup_nil
          stored := fun _ member => absurd member List.not_mem_nil
          owned := fun path inside present => absurd (empty path inside) present }
    · rintro before operation after ⟨sameBase, limited, tallies⟩
        ⟨succeeds, fresh, fits⟩ taken
      rw [← sameBase] at tallies ⊢
      obtain ⟨keptBase, kept⟩ := tallies_step tallies succeeds fresh taken
      exact ⟨keptBase, withinLimit_step limited fits taken, kept⟩
  obtain ⟨sameBase, limited, tallies⟩ := held
  rw [← sameBase] at tallies
  refine ⟨accounted_of_tallies tallies limited.fits, ?_⟩
  intro operation next path succeeds taken writes owned left
  exact not_accounted_of_sharedOrGone
    (sharedOrGone_step succeeds taken writes owned) left

theorem accounted_of_careful_stored_again :
    ∃ last, LabelledRun.exec (step .asciiOnly) emptyCache storedAgain = some last ∧
      last.cache.entries.length = 2 ∧ last.cache.totalSize = 5 ∧ last.Accounted := by
  have run : LabelledRun.Guarded (step .asciiOnly) (Careful .asciiOnly) emptyCache
      storedAgain _ :=
    .extend (.extend (.extend (.extend (.extend .start
      ⟨⟨rfl, rfl, rfl⟩, by rintro path ⟨⟩; decide +kernel,
        by rintro entry ⟨⟩; decide⟩ rfl)
      ⟨⟨rfl, rfl, rfl⟩, by rintro path ⟨⟩; decide +kernel,
        by rintro entry ⟨⟩; decide⟩ rfl)
      ⟨trivial, by rintro path ⟨⟩, trivial⟩ rfl)
      ⟨rfl, by rintro path ⟨⟩, trivial⟩ rfl)
      ⟨⟨rfl, rfl, rfl⟩, by rintro path ⟨⟩; decide +kernel,
        by rintro entry ⟨⟩; decide⟩ rfl
  exact ⟨_, run.exec_eq, rfl, rfl,
    (accounted_of_careful _ _ _ _ (fun _ _ => rfl) run).1⟩

/-- A second `put` under the same key appends a second entry for the same file. -/
theorem second_put_not_accounted :
    (∀ path, InDirectories "/cache" path → emptyCache.disk path = none) ∧
      ∃ middle last,
        LabelledRun.Run (step .asciiOnly) emptyCache [putIndex [1]] middle ∧
        LabelledRun.Run (step .asciiOnly) emptyCache
          [putIndex [1], putIndex [1, 2]] last ∧
        emptyCache.AllSucceed (putIndex [1]) ∧ middle.AllSucceed (putIndex [1, 2]) ∧
        ¬ last.Accounted := by
  refine ⟨fun _ _ => rfl, _, _, LabelledRun.run_of_exec_eq rfl,
    LabelledRun.run_of_exec_eq rfl, ⟨rfl, rfl, rfl⟩, ⟨rfl, rfl, rfl⟩, ?_⟩
  intro accounted
  have keys := accounted.keys
  exact absurd keys (by decide)

end CacheRun

end NetGuardian
