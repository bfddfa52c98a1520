import NetGuardian.CommunityCli
import NetGuardian.Foundation.KeyedMap

/-!
# The registry as a set that survives

What the registry is for: a set of names that plugins enter and leave, and that
is still there when the registry is opened again.  The registry keeps it as a
map from names to entries, and the file keeps it as a list of the entries, which
is filed anew under the names of their manifests.

The history of a run lists what has become of the set: the installations that
succeeded, and the removals.
-/

namespace NetGuardian

/-- `serde_json` gives a list of entries back. -/
def Serde.RoundTrips (serde : Serde (List InstalledPluginEntry))
    (entries : List InstalledPluginEntry) : Prop :=
  serde.fromStr (serde.toStringPretty entries) = some entries

namespace CommunityPluginRegistry

/-- A registry, the files, and what has been installed (`true`) and removed. -/
structure Session where
  registry : CommunityPluginRegistry
  disk : Disk
  history : List (String × Bool)

/-- The calls; the writes of the first two succeed.  `refresh_index` replaces
the index by what the server sends, unless it sends nothing. -/
inductive SessionCall where
  | install (name now : String) (order : IterationOrder InstalledPluginEntry)
  | remove (name now : String) (order : IterationOrder InstalledPluginEntry)
  | reopen
  | refreshIndex (fetched : List CommunityPluginManifest)

/-- An installation that fails leaves no trace in the history. -/
def Session.call (serde : Serde (List InstalledPluginEntry))
    (session : Session) : SessionCall → Session
  | .install name now order =>
      let result := session.registry.install serde session.disk
        ⟨now, order, .done⟩ name
      ⟨result.1, result.2.1,
        match result.2.2 with
        | .ok _ => session.history ++ [(name, true)]
        | .error _ => session.history⟩
  | .remove name now order =>
      let result := session.registry.remove serde session.disk
        ⟨now, order, .done⟩ name
      ⟨result.1, result.2.1, session.history ++ [(name, false)]⟩
  | .reopen =>
      { session with
        registry := withStoragePath serde session.disk true
          session.registry.storagePath }
  | .refreshIndex fetched =>
      { session with
        registry := { session.registry with
          index := if fetched ≠ [] then fetched else session.registry.index } }

/-- A registry on a path, after a sequence of calls. -/
def sessionAfter (serde : Serde (List InstalledPluginEntry)) (disk : Disk)
    (path : Path) (calls : List SessionCall) : Session :=
  calls.foldl (Session.call serde) ⟨withStoragePath serde disk true path, disk, []⟩

/-- The last successful installation of the name is not followed by a
removal. -/
def LastInstalled (history : List (String × Bool)) (name : String) : Prop :=
  (history.filter fun entry => entry.1 = name).getLast? = some (name, true)

theorem lastInstalled_append_other {history : List (String × Bool)}
    {entry : String × Bool} {name : String} (different : entry.1 ≠ name) :
    LastInstalled (history ++ [entry]) name ↔ LastInstalled history name := by
  simp [LastInstalled, List.filter_append, different]

theorem lastInstalled_append_self (history : List (String × Bool))
    (name : String) (installed : Bool) :
    LastInstalled (history ++ [(name, installed)]) name ↔ installed = true := by
  simp [LastInstalled, List.filter_append]

/-- The manifest that `install` finds is not accepted. -/
def Incompatible (registry : CommunityPluginRegistry) (name : String) : Prop :=
  ∃ manifest error, registry.info name = some manifest ∧
    manifest.isCompatible = .error error

/-- The registry is the set of its history: what is installed, under which
name, when an installation fails and what it then does, and the list. -/
structure RefinesSet (serde : Serde (List InstalledPluginEntry))
    (session : Session) : Prop where
  installed : ∀ name, session.registry.isInstalled name = true ↔
    LastInstalled session.history name
  keyed : ∀ key entry, session.registry.installed.lookup key = some entry →
    entry.manifest.name = key
  failures : ∀ name around,
    (∃ error, (session.registry.install serde session.disk around name).2.2 =
        .error error) ↔
      session.registry.isInstalled name = true ∨
        session.registry.info name = none ∨ session.registry.Incompatible name
  unchanged : ∀ name around error,
    (session.registry.install serde session.disk around name).2.2 =
        .error error →
      (session.registry.install serde session.disk around name).1 =
          session.registry ∧
        (session.registry.install serde session.disk around name).2.1 =
          session.disk
  listed : ∀ around, ((session.registry.listInstalled around).map
    (·.manifest.name)).Pairwise (· < ·)

section Installing

variable (serde : Serde (List InstalledPluginEntry))
variable (registry : CommunityPluginRegistry) (disk : Disk)
variable (around : Surroundings) (name : String)

/-- Everything an installation can do. -/
theorem install_spec :
    ((∃ error, (registry.install serde disk around name).2.2 = .error error) ∧
        (registry.install serde disk around name).1 = registry ∧
        (registry.install serde disk around name).2.1 = disk ∧
        (registry.isInstalled name = true ∨ registry.info name = none ∨
          registry.Incompatible name)) ∨
      ∃ manifest, registry.isInstalled name = false ∧
        registry.info name = some manifest ∧ manifest.isCompatible = .ok () ∧
        registry.install serde disk around name =
          ({ registry with
              installed := registry.installed.insert name ⟨manifest, around.now⟩ },
            ({ registry with
              installed := registry.installed.insert name
                ⟨manifest, around.now⟩ }).saveInstalled serde disk around,
            .ok manifest) := by
  unfold install
  by_cases already : registry.installed.lookup name ≠ none
  · left
    rw [if_pos already]
    refine ⟨⟨_, rfl⟩, rfl, rfl, .inl ?_⟩
    exact Option.isSome_iff_ne_none.mpr already
  · rw [if_neg already]
    rw [not_not] at already
    have new : registry.isInstalled name = false := by
      rw [isInstalled, already]
      rfl
    cases found : registry.info name with
    | none =>
        rw [info] at found
        rw [found]
        exact .inl ⟨⟨_, rfl⟩, rfl, rfl, .inr (.inl rfl)⟩
    | some manifest =>
        have known := found
        rw [info] at found
        rw [found]
        cases compatible : manifest.isCompatible with
        | error error =>
            simp only [compatible]
            exact .inl ⟨⟨_, rfl⟩, trivial, trivial,
              .inr (.inr ⟨manifest, error, known, compatible⟩)⟩
        | ok done =>
            simp only [compatible]
            exact .inr ⟨manifest, new, rfl, compatible, rfl⟩

variable {registry name}

/-- None of the reasons to refuse an installation applies to a new plugin of the
index that is compatible. -/
theorem no_refusal_of_compatible {manifest : CommunityPluginManifest}
    (new : registry.isInstalled name = false) (found : registry.info name = some manifest)
    (compatible : manifest.isCompatible = .ok ()) :
    ¬ (registry.isInstalled name = true ∨ registry.info name = none ∨
      registry.Incompatible name) := by
  rintro (already | absent | ⟨other, error, known, incompatible⟩)
  · rw [new] at already
    cases already
  · rw [found] at absent
    cases absent
  · rw [found] at known
    cases known
    rw [compatible] at incompatible
    cases incompatible

end Installing

/-- The map files every entry under its name, the file says the same as the map,
and both are the set of the history. -/
structure Mirrors (serde : Serde (List InstalledPluginEntry))
    (session : Session) : Prop where
  filed : KeyedMap.Filed (·.manifest.name) session.registry.installed
  stored : ∀ name, (loadInstalled serde session.disk true
      session.registry.storagePath).lookup name =
    session.registry.installed.lookup name
  installed : ∀ name, session.registry.isInstalled name = true ↔
    LastInstalled session.history name

section Sessions

variable {serde : Serde (List InstalledPluginEntry)} {session : Session}
variable {registry : CommunityPluginRegistry} {disk : Disk}

/-- What was saved can be loaded. -/
theorem loadInstalled_saved {now : String} {order : IterationOrder InstalledPluginEntry}
    (json : serde.RoundTrips (order.iterate registry.values)) :
    loadInstalled serde (registry.saveInstalled serde disk ⟨now, order, .done⟩) true
        registry.storagePath =
      KeyedMap.collect (·.manifest.name) (order.iterate registry.values) := by
  have loaded : serde.load (registry.saveInstalled serde disk ⟨now, order, .done⟩)
      true registry.storagePath = some (order.iterate registry.values) :=
    Serde.load_eq_some_iff.mpr ⟨_, Disk.readToString_write _, json⟩
  rw [loadInstalled, loaded]
  rfl

theorem lookup_loadInstalled_saved
    (filed : KeyedMap.Filed (·.manifest.name) registry.installed)
    {now : String} {order : IterationOrder InstalledPluginEntry}
    (json : serde.RoundTrips (order.iterate registry.values)) (name : String) :
    (loadInstalled serde (registry.saveInstalled serde disk ⟨now, order, .done⟩)
      true registry.storagePath).lookup name = registry.installed.lookup name := by
  rw [loadInstalled_saved json]
  exact KeyedMap.lookup_collect_values filed (order.perm registry.values) name

theorem filed_loadInstalled (disk : Disk) (path : Path) :
    KeyedMap.Filed (·.manifest.name) (loadInstalled serde disk true path) := by
  unfold loadInstalled
  cases serde.load disk true path with
  | none => exact .empty
  | some entries => exact KeyedMap.filed_collect entries

theorem info_name {name : String} {manifest : CommunityPluginManifest}
    (found : registry.info name = some manifest) : manifest.name = name := by
  simpa using List.find?_some found

/-- A successful installation. -/
theorem Mirrors.grown (mirrors : Mirrors serde session) {name now : String}
    {order : IterationOrder InstalledPluginEntry}
    {manifest : CommunityPluginManifest}
    (found : session.registry.info name = some manifest)
    {grown : CommunityPluginRegistry}
    (isGrown : grown = { session.registry with
      installed := session.registry.installed.insert name ⟨manifest, now⟩ })
    (json : serde.RoundTrips (order.iterate grown.values)) :
    Mirrors serde ⟨grown, grown.saveInstalled serde session.disk
      ⟨now, order, .done⟩, session.history ++ [(name, true)]⟩ := by
  have filed : KeyedMap.Filed (·.manifest.name) grown.installed := by
    have inserted := mirrors.filed.insert (⟨manifest, now⟩ : InstalledPluginEntry)
    rw [info_name found] at inserted
    rw [isGrown]
    exact inserted
  refine ⟨filed, lookup_loadInstalled_saved filed json, ?_⟩
  intro other
  by_cases same : name = other
  · subst same
    rw [lastInstalled_append_self, isGrown]
    simp [isInstalled]
  · rw [lastInstalled_append_other same, ← mirrors.installed other, isGrown]
    simp [isInstalled, AList.lookup_insert_ne (Ne.symm same)]

/-- A removal of something that is installed. -/
theorem Mirrors.shrunk (mirrors : Mirrors serde session) {name now : String}
    {order : IterationOrder InstalledPluginEntry}
    {shrunk : CommunityPluginRegistry}
    (isShrunk : shrunk = { session.registry with
      installed := session.registry.installed.erase name })
    (json : serde.RoundTrips (order.iterate shrunk.values)) :
    Mirrors serde ⟨shrunk, shrunk.saveInstalled serde session.disk
      ⟨now, order, .done⟩, session.history ++ [(name, false)]⟩ := by
  have filed : KeyedMap.Filed (·.manifest.name) shrunk.installed := by
    rw [isShrunk]
    exact mirrors.filed.erase name
  refine ⟨filed, lookup_loadInstalled_saved filed json, ?_⟩
  intro other
  by_cases same : name = other
  · subst same
    rw [lastInstalled_append_self, isShrunk]
    simp [isInstalled]
  · rw [lastInstalled_append_other same, ← mirrors.installed other, isShrunk]
    simp [isInstalled, AList.lookup_erase_ne (Ne.symm same)]

/-- A removal of something that is not. -/
theorem Mirrors.notRemoved (mirrors : Mirrors serde session) {name : String}
    (absent : session.registry.isInstalled name = false) :
    Mirrors serde
      { session with history := session.history ++ [(name, false)] } := by
  refine ⟨mirrors.filed, mirrors.stored, ?_⟩
  intro other
  by_cases same : name = other
  · subst same
    rw [lastInstalled_append_self]
    simp [absent]
  · rw [lastInstalled_append_other same]
    exact mirrors.installed other

/-- The map of the reopened registry is the one that was written. -/
theorem Mirrors.reopened (mirrors : Mirrors serde session) :
    Mirrors serde (session.call serde .reopen) := by
  refine ⟨filed_loadInstalled _ _, fun _ => rfl, ?_⟩
  intro name
  refine Iff.trans ?_ (mirrors.installed name)
  change ((loadInstalled serde session.disk true
    session.registry.storagePath).lookup name).isSome = true ↔ _
  rw [mirrors.stored, isInstalled]

theorem Mirrors.call (mirrors : Mirrors serde session) (call : SessionCall)
    (json : ∀ entries,
      entries.Perm (session.call serde call).registry.values →
        serde.RoundTrips entries) :
    Mirrors serde (session.call serde call) := by
  cases call with
  | install name now order =>
      rcases install_spec serde session.registry session.disk ⟨now, order, .done⟩
        name with ⟨⟨error, failed⟩, sameRegistry, sameDisk, _⟩ |
          ⟨manifest, _, found, _, result⟩
      · have unchanged : session.call serde (.install name now order) = session := by
          simp only [Session.call, failed, sameRegistry, sameDisk]
        rw [unchanged]
        exact mirrors
      · simp only [Session.call, result] at json ⊢
        exact mirrors.grown found rfl (json _ (order.perm _))
  | remove name now order =>
      by_cases present : session.registry.installed.lookup name ≠ none
      · simp only [Session.call, remove, if_pos present] at json ⊢
        exact mirrors.shrunk rfl (json _ (order.perm _))
      · simp only [Session.call, remove, if_neg present]
        rw [not_not] at present
        exact mirrors.notRemoved (by rw [isInstalled, present]; rfl)
  | reopen => exact mirrors.reopened
  | refreshIndex fetched =>
      exact ⟨mirrors.filed, mirrors.stored, mirrors.installed⟩

/-- Without a file the registry starts empty. -/
theorem mirrors_start {path : Path} (absent : disk path = none) :
    Mirrors serde ⟨withStoragePath serde disk true path, disk, []⟩ := by
  have unloaded : serde.load disk true path = none := by
    simp [Serde.load, Disk.exists?, absent]
  refine ⟨filed_loadInstalled _ _, fun _ => rfl, ?_⟩
  intro name
  change ((loadInstalled serde disk true path).lookup name).isSome = true ↔ _
  rw [loadInstalled, unloaded]
  simp [LastInstalled]

/-- No two entries have one name, so that the order of the list is strict. -/
theorem pairwise_listInstalled
    (filed : KeyedMap.Filed (·.manifest.name) registry.installed)
    (around : Surroundings) :
    ((registry.listInstalled around).map (·.manifest.name)).Pairwise
      (· < ·) := by
  let byName : InstalledPluginEntry → InstalledPluginEntry → Prop :=
    fun left right => left.manifest.name ≤ right.manifest.name
  have total : Std.Total byName := ⟨fun left right => le_total _ _⟩
  have transitive : IsTrans _ byName := ⟨fun _ _ _ => le_trans⟩
  have sorted : (registry.listInstalled around).Pairwise byName :=
    List.pairwise_insertionSort byName _
  have perm : (registry.listInstalled around).Perm registry.values :=
    (List.perm_insertionSort byName _).trans (around.order.perm _)
  have distinct : ((registry.listInstalled around).map
      (·.manifest.name)).Nodup :=
    (perm.map _).nodup_iff.mpr (KeyedMap.nodup_values filed)
  rw [List.pairwise_map]
  rw [List.Nodup, List.pairwise_map] at distinct
  exact (sorted.and distinct).imp fun both => lt_of_le_of_ne both.1 both.2

/-- The invariant says all that there is to know about the next call. -/
theorem Mirrors.refinesSet (mirrors : Mirrors serde session) :
    RefinesSet serde session where
  installed := mirrors.installed
  keyed := mirrors.filed
  failures name around := by
    rcases install_spec serde session.registry session.disk around name with
      ⟨failed, _, _, because⟩ | ⟨manifest, new, found, compatible, result⟩
    · exact iff_of_true failed because
    · refine iff_of_false ?_ ?_
      · rintro ⟨error, failed⟩
        rw [result] at failed
        cases failed
      · exact no_refusal_of_compatible new found compatible
  unchanged name around error failed := by
    rcases install_spec serde session.registry session.disk around name with
      ⟨_, sameRegistry, sameDisk, _⟩ | ⟨manifest, _, _, _, result⟩
    · exact ⟨sameRegistry, sameDisk⟩
    · rw [result] at failed
      cases failed
  listed := pairwise_listInstalled mirrors.filed

theorem sessionAfter_append (disk : Disk) (path : Path)
    (calls : List SessionCall) (call : SessionCall) :
    sessionAfter serde disk path (calls ++ [call]) =
      (sessionAfter serde disk path calls).call serde call := by
  simp [sessionAfter]

end Sessions

/-- In every run of installations, removals and reopenings that starts without a
file, the registry is the set of its history. -/
theorem registry_refines_set (serde : Serde (List InstalledPluginEntry))
    (disk : Disk) (path : Path) (calls : List SessionCall)
    (absent : disk path = none)
    (json : ∀ earlier later, calls = earlier ++ later → ∀ entries,
      entries.Perm (sessionAfter serde disk path earlier).registry.values →
        serde.RoundTrips entries) :
    RefinesSet serde (sessionAfter serde disk path calls) := by
  apply Mirrors.refinesSet
  induction calls using List.reverseRecOn with
  | nil => exact mirrors_start absent
  | append_singleton calls call ih =>
      have before := ih fun earlier later split =>
        json earlier (later ++ [call]) (by simp [split])
      have written := json (calls ++ [call]) [] (by simp)
      rw [sessionAfter_append] at written ⊢
      exact before.call call written

/-- The serializer on the empty list and on the list with `rsync` alone. -/
def registrySerde : Serde (List InstalledPluginEntry) where
  toStringPretty entries := if entries.isEmpty then "[]" else rsyncJson
  fromStr text :=
    if text = "[]" then some []
    else if text = rsyncJson then some [rsyncEntry] else none

def installRsync : SessionCall :=
  .install "rsync" "2026-01-01T00:00:00+00:00" .asStored

def removeRsync : SessionCall :=
  .remove "rsync" "2026-01-01T00:00:00+00:00" .asStored

/-- The plugin is installed, and after the registry has been opened again removed and
installed once more. -/
def installAgain : List SessionCall :=
  [installRsync, .reopen, removeRsync, installRsync]

/-- The registry with the one plugin, as it has been written. -/
def rsyncRegistry : CommunityPluginRegistry where
  index := builtinIndex
  installed := AList.singleton "rsync" rsyncEntry
  indexUrl := defaultIndexUrl
  storagePath := storageFile

/-- The session with the one plugin, on a disk with its file. -/
def rsyncSession (disk : Disk) (history : List (String × Bool)) : Session where
  registry := rsyncRegistry
  disk := rsyncRegistry.saveInstalled registrySerde disk
    ⟨"2026-01-01T00:00:00+00:00", .asStored, .done⟩
  history := history ++ [("rsync", true)]

section Rsync

variable (disk : Disk) (history : List (String × Bool))

theorem roundTrips_rsync : registrySerde.RoundTrips [rsyncEntry] := by
  have different : rsyncJson ≠ "[]" := by decide +kernel
  simp [Serde.RoundTrips, registrySerde, different]

theorem install_rsync :
    Session.call registrySerde ⟨{ rsyncRegistry with installed := ∅ }, disk, history⟩
      installRsync = rsyncSession disk history := by
  have found : ({ rsyncRegistry with installed := ∅ } : CommunityPluginRegistry).info
      "rsync" = some rsyncEntry.manifest := by decide +kernel
  have compatible : rsyncEntry.manifest.isCompatible = .ok () := by decide +kernel
  have empty : ({ rsyncRegistry with installed := ∅ } :
      CommunityPluginRegistry).isInstalled "rsync" = false := rfl
  obtain ⟨_, _, _, because⟩ | ⟨manifest, _, known, _, result⟩ :=
    install_spec registrySerde { rsyncRegistry with installed := ∅ } disk
      ⟨"2026-01-01T00:00:00+00:00", .asStored, .done⟩ "rsync"
  · exact absurd because (no_refusal_of_compatible empty found compatible)
  · rw [found, Option.some.injEq] at known
    subst known
    simp only [Session.call, installRsync, result]
    rfl

/-- Opened again, the registry has the plugin as before. -/
theorem reopen_rsync :
    (rsyncSession disk history).call registrySerde .reopen =
      rsyncSession disk history := by
  have loaded : loadInstalled registrySerde (rsyncRegistry.saveInstalled registrySerde
      disk ⟨"2026-01-01T00:00:00+00:00", .asStored, .done⟩) true
        rsyncRegistry.storagePath = rsyncRegistry.installed :=
    loadInstalled_saved roundTrips_rsync
  simp only [Session.call, withStoragePath, rsyncSession, loaded]
  rfl

theorem remove_rsync : ∃ after,
    (rsyncSession disk history).call registrySerde removeRsync =
      ⟨{ rsyncRegistry with installed := ∅ }, after,
        history ++ [("rsync", true), ("rsync", false)]⟩ := by
  have present : rsyncRegistry.installed.lookup "rsync" ≠ none := by decide +kernel
  have emptied : rsyncRegistry.installed.erase "rsync" = ∅ := AList.ext rfl
  simp only [Session.call, removeRsync, remove, rsyncSession, if_pos present, emptied,
    List.append_assoc, List.cons_append, List.nil_append]
  exact ⟨_, rfl⟩

end Rsync

/-- What the four calls lead to, one after the other. -/
theorem sessions_installAgain :
    let after := sessionAfter registrySerde (fun _ => none) storageFile
    (after []).registry.values = [] ∧
      (∃ disk, after [installRsync] = rsyncSession disk []) ∧
      (∃ disk, after [installRsync, .reopen] = rsyncSession disk []) ∧
      (after [installRsync, .reopen, removeRsync]).registry.values = [] ∧
      ∃ disk, after installAgain = rsyncSession disk [("rsync", true), ("rsync", false)] := by
  intro after
  have next (calls : List SessionCall) (call : SessionCall) :
      after (calls ++ [call]) = (after calls).call registrySerde call :=
    sessionAfter_append (fun _ => none) storageFile calls call
  have installed : after [installRsync] = rsyncSession (fun _ => none) [] :=
    install_rsync (fun _ => none) []
  have opened : after [installRsync, .reopen] = rsyncSession (fun _ => none) [] := by
    rw [← reopen_rsync, ← installed]
    exact next [installRsync] .reopen
  obtain ⟨disk, removed⟩ := remove_rsync (fun _ => none) []
  have gone : after [installRsync, .reopen, removeRsync] =
      ⟨{ rsyncRegistry with installed := ∅ }, disk,
        [("rsync", true), ("rsync", false)]⟩ := by
    have last := next [installRsync, .reopen] removeRsync
    rw [opened, removed] at last
    exact last
  refine ⟨rfl, ⟨_, installed⟩, ⟨_, opened⟩, ?_, disk, ?_⟩
  · rw [gone]
    rfl
  · have last := next [installRsync, .reopen, removeRsync] installRsync
    rw [gone, install_rsync] at last
    exact last

theorem roundTrips_installAgain {earlier later : List SessionCall}
    (split : installAgain = earlier ++ later) {entries : List InstalledPluginEntry}
    (perm : entries.Perm (sessionAfter registrySerde (fun _ => none) storageFile
      earlier).registry.values) : registrySerde.RoundTrips entries := by
  have few {values : List InstalledPluginEntry} (same : entries.Perm values)
      (none_or_one : values = [] ∨ values = [rsyncEntry]) :
      registrySerde.RoundTrips entries := by
    rcases none_or_one with rfl | rfl
    · rw [same.eq_nil]
      simp [Serde.RoundTrips, registrySerde]
    · rw [List.perm_singleton.mp same]
      exact roundTrips_rsync
  obtain ⟨started, ⟨_, installed⟩, ⟨_, opened⟩, removed, _, again⟩ :=
    sessions_installAgain
  have isPrefix : earlier ∈ installAgain.inits :=
    (List.mem_inits _ _).mpr ⟨later, split.symm⟩
  simp only [installAgain, List.inits, List.map_cons, List.map_nil, List.mem_cons,
    List.not_mem_nil, or_false] at isPrefix
  refine few perm ?_
  rcases isPrefix with rfl | rfl | rfl | rfl | rfl
  · exact .inl started
  · rw [installed]
    exact .inr rfl
  · rw [opened]
    exact .inr rfl
  · exact .inl removed
  · rw [installAgain] at again
    rw [again]
    exact .inr rfl

theorem registry_refines_set_install_again :
    RefinesSet registrySerde
        (sessionAfter registrySerde (fun _ => none) storageFile installAgain) ∧
      (sessionAfter registrySerde (fun _ => none) storageFile
        installAgain).registry.isInstalled "rsync" = true := by
  have refines : RefinesSet registrySerde
      (sessionAfter registrySerde (fun _ => none) storageFile installAgain) :=
    registry_refines_set registrySerde (fun _ => none) storageFile installAgain rfl
      fun _ _ split _ perm => roundTrips_installAgain split perm
  refine ⟨refines, (refines.installed "rsync").mpr ?_⟩
  obtain ⟨_, _, _, _, _, again⟩ := sessions_installAgain
  rw [again]
  simp [LastInstalled, rsyncSession]

end CommunityPluginRegistry

end NetGuardian
