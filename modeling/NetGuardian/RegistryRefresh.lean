import NetGuardian.PluginTable
import NetGuardian.RegistryRefinement

/-!
# Indexes that change

A refresh replaces the index by whatever the remote side offers, unless that is
nothing.  What is installed does not follow the index: every installed plugin is the
first one of its name in some index that was current, and was compatible.  Registered
with a plugin manager, the installed plugins replace those of the same names.
-/

namespace NetGuardian

namespace CommunityPluginRegistry

open PluginLifecycle

/-- `fetched` is what `fetch_remote_index` returns. -/
def refreshIndex (registry : CommunityPluginRegistry)
    (fetched : Except String (List CommunityPluginManifest)) :
    CommunityPluginRegistry × Except String Nat :=
  match fetched with
  | .ok plugins =>
      if plugins = [] then
        (registry, .error "remote index is empty, keeping builtin index")
      else ({ registry with index := plugins }, .ok plugins.length)
  | .error error => (registry, .error ("failed to fetch remote index: " ++ error))

/-- Sorted by name, plugins of one name in the order of the index. -/
def listAvailable (registry : CommunityPluginRegistry) : List CommunityPluginManifest :=
  (registry.index.filter fun manifest => registry.installed.lookup manifest.name = none)
    |>.insertionSort fun left right => left.name ≤ right.name

/-- The installed plugins are registered in the order in which the map happens to be
iterated. -/
def registerWith (registry : CommunityPluginRegistry)
    (order : IterationOrder InstalledPluginEntry) (manager : PluginManager) :
    PluginManager :=
  (order.iterate registry.values).foldl
    (fun manager entry => manager.registerNamed entry.manifest.name
      (.new (.community entry.manifest))) manager

/-- The calls that change a registry in memory. -/
inductive Change where
  | install (name : String) (around : Surroundings)
  | remove (name : String) (around : Surroundings)
  | refresh (fetched : Except String (List CommunityPluginManifest))

/-- A registry with its disk, and all indexes that it has had. -/
structure Catalogue where
  registry : CommunityPluginRegistry
  disk : Disk
  indexes : List (List CommunityPluginManifest)

namespace Catalogue

def start (disk : Disk) : Catalogue := ⟨.new, disk, [builtinIndex]⟩

def apply (serde : Serde (List InstalledPluginEntry)) (catalogue : Catalogue) :
    Change → Catalogue
  | .install name around =>
      let result := catalogue.registry.install serde catalogue.disk around name
      { catalogue with registry := result.1, disk := result.2.1 }
  | .remove name around =>
      let result := catalogue.registry.remove serde catalogue.disk around name
      { catalogue with registry := result.1, disk := result.2.1 }
  | .refresh fetched =>
      let refreshed := (catalogue.registry.refreshIndex fetched).1
      { catalogue with
        registry := refreshed
        indexes := catalogue.indexes ++ [refreshed.index] }

def after (serde : Serde (List InstalledPluginEntry)) (disk : Disk)
    (changes : List Change) : Catalogue :=
  changes.foldl (apply serde) (start disk)

/-- An entry that has been installed from an index. -/
def Offered (indexes : List (List CommunityPluginManifest)) (name : String)
    (entry : InstalledPluginEntry) : Prop :=
  entry.manifest.isCompatible = .ok () ∧ ∃ index ∈ indexes,
    (index.find? fun manifest => manifest.name = name) = some entry.manifest

/-- The invariant of the registry over all changes. -/
structure Sound (catalogue : Catalogue) : Prop where
  nonempty : catalogue.registry.index ≠ []
  current : catalogue.registry.index ∈ catalogue.indexes
  filed : KeyedMap.Filed (·.manifest.name) catalogue.registry.installed
  offered : ∀ name entry, catalogue.registry.installed.lookup name = some entry →
    Offered catalogue.indexes name entry

end Catalogue

/-- The table of a manager with which the registry has been registered. -/
def tableOver (registry : CommunityPluginRegistry) (table : PluginTable) : PluginTable :=
  fun name => ((registry.installed.lookup name).map fun entry =>
    Plugin.new (.community entry.manifest)).or (table name)

/-- What the lists and a registration say about a registry. -/
structure Presented (registry : CommunityPluginRegistry) : Prop where
  available : ∀ manifest, manifest ∈ registry.listAvailable ↔
    manifest ∈ registry.index ∧ registry.isInstalled manifest.name = false
  sorted : (registry.listAvailable.map (·.name)).Pairwise (· ≤ ·)
  installed : ∀ around, ((registry.listInstalled around).map
    (·.manifest.name)).Pairwise (· < ·)
  registered : ∀ order manager table, manager.Refines table →
    (registry.registerWith order manager).Refines (registry.tableOver table)

section Refreshing

variable (registry : CommunityPluginRegistry)

/-- All that a refresh can do. -/
theorem refreshIndex_spec (fetched : Except String (List CommunityPluginManifest)) :
    (registry.refreshIndex fetched).1 = registry ∨
      ∃ plugins, plugins ≠ [] ∧
        (registry.refreshIndex fetched).1 = { registry with index := plugins } := by
  cases fetched with
  | error error => exact .inl rfl
  | ok plugins =>
      by_cases nothing : plugins = []
      · exact .inl (by rw [refreshIndex, if_pos nothing])
      · exact .inr ⟨plugins, nothing, by rw [refreshIndex, if_neg nothing]⟩

/-- Nothing can enter by a removal. -/
theorem remove_spec (serde : Serde (List InstalledPluginEntry)) (disk : Disk)
    (around : Surroundings) (name : String) :
    (registry.remove serde disk around name).1 = registry ∨
      (registry.remove serde disk around name).1 =
        { registry with installed := registry.installed.erase name } := by
  by_cases present : registry.installed.lookup name ≠ none
  · exact .inr (by rw [remove, if_pos present])
  · exact .inl (by rw [remove, if_neg present])

end Refreshing

namespace Catalogue

section Soundness

variable {catalogue : Catalogue}

theorem Offered.mono {earlier later : List (List CommunityPluginManifest)}
    {name : String} {entry : InstalledPluginEntry} (offered : Offered earlier name entry)
    (grown : earlier ⊆ later) : Offered later name entry := by
  obtain ⟨compatible, index, member, first⟩ := offered
  exact ⟨compatible, index, grown member, first⟩

theorem Sound.install (sound : catalogue.Sound)
    (serde : Serde (List InstalledPluginEntry)) (name : String)
    (around : Surroundings) : (catalogue.apply serde (.install name around)).Sound := by
  rcases install_spec serde catalogue.registry catalogue.disk around name with
    ⟨_, sameRegistry, _, _⟩ | ⟨manifest, _, found, compatible, result⟩
  · constructor <;> simp only [apply, sameRegistry]
    exacts [sound.nonempty, sound.current, sound.filed, sound.offered]
  · constructor <;> simp only [apply, result]
    · exact sound.nonempty
    · exact sound.current
    · have inserted := sound.filed.insert
        (⟨manifest, around.now⟩ : InstalledPluginEntry)
      rw [info_name found] at inserted
      exact inserted
    · intro other entry installed
      by_cases same : other = name
      · subst same
        rw [AList.lookup_insert] at installed
        cases installed
        exact ⟨compatible, _, sound.current, found⟩
      · rw [AList.lookup_insert_ne same] at installed
        exact sound.offered other entry installed

theorem Sound.remove (sound : catalogue.Sound)
    (serde : Serde (List InstalledPluginEntry)) (name : String)
    (around : Surroundings) : (catalogue.apply serde (.remove name around)).Sound := by
  rcases remove_spec catalogue.registry serde catalogue.disk around name with
    same | erased
  · constructor <;> simp only [apply, same]
    exacts [sound.nonempty, sound.current, sound.filed, sound.offered]
  · constructor <;> simp only [apply, erased]
    · exact sound.nonempty
    · exact sound.current
    · exact sound.filed.erase name
    · intro other entry installed
      by_cases same : other = name
      · subst same
        rw [AList.lookup_erase] at installed
        cases installed
      · rw [AList.lookup_erase_ne same] at installed
        exact sound.offered other entry installed

/-- What was offered by an earlier index stays installed. -/
theorem Sound.refresh (sound : catalogue.Sound)
    (serde : Serde (List InstalledPluginEntry))
    (fetched : Except String (List CommunityPluginManifest)) :
    (catalogue.apply serde (.refresh fetched)).Sound := by
  have kept (index : List CommunityPluginManifest) :
      catalogue.indexes ⊆ catalogue.indexes ++ [index] :=
    List.subset_append_left _ _
  rcases refreshIndex_spec catalogue.registry fetched with
    same | ⟨plugins, something, replaced⟩
  · constructor <;> simp only [apply, same]
    · exact sound.nonempty
    · exact kept _ sound.current
    · exact sound.filed
    · exact fun name entry installed =>
        (sound.offered name entry installed).mono (kept _)
  · constructor <;> simp only [apply, replaced]
    · exact something
    · exact List.mem_append_right _ (List.mem_singleton_self _)
    · exact sound.filed
    · exact fun name entry installed =>
        (sound.offered name entry installed).mono (kept _)

theorem Sound.apply (sound : catalogue.Sound)
    (serde : Serde (List InstalledPluginEntry)) (change : Change) :
    (catalogue.apply serde change).Sound := by
  cases change with
  | install name around => exact sound.install serde name around
  | remove name around => exact sound.remove serde name around
  | refresh fetched => exact sound.refresh serde fetched

theorem sound_start (disk : Disk) : (start disk).Sound where
  nonempty := List.cons_ne_nil _ _
  current := List.mem_singleton_self _
  filed := .empty
  offered _ _ found := by cases found

theorem sound_after (serde : Serde (List InstalledPluginEntry)) (disk : Disk)
    (changes : List Change) : (after serde disk changes).Sound := by
  induction changes using List.reverseRecOn with
  | nil => exact sound_start disk
  | append_singleton changes change ih =>
      rw [after, List.foldl_append]
      exact ih.apply serde change

end Soundness

end Catalogue

section Presentation

variable {registry : CommunityPluginRegistry}

theorem mem_listAvailable (manifest : CommunityPluginManifest) :
    manifest ∈ registry.listAvailable ↔
      manifest ∈ registry.index ∧ registry.isInstalled manifest.name = false := by
  rw [listAvailable, List.mem_insertionSort, List.mem_filter, isInstalled]
  simp

theorem pairwise_listAvailable :
    (registry.listAvailable.map (·.name)).Pairwise (· ≤ ·) := by
  let byName : CommunityPluginManifest → CommunityPluginManifest → Prop :=
    fun left right => left.name ≤ right.name
  have total : Std.Total byName := ⟨fun left right => le_total _ _⟩
  have transitive : IsTrans _ byName := ⟨fun _ _ _ => le_trans⟩
  rw [List.pairwise_map]
  exact List.pairwise_insertionSort byName _

theorem refines_registerEach (entries : List InstalledPluginEntry)
    {manager : PluginManager} {table : PluginTable} (refines : manager.Refines table) :
    (entries.foldl (fun manager entry => manager.registerNamed entry.manifest.name
        (.new (.community entry.manifest))) manager).Refines
      (entries.foldl (fun table entry => Function.update table entry.manifest.name
        (some (.new (.community entry.manifest)))) table) := by
  induction entries generalizing manager table with
  | nil => exact refines
  | cons entry entries ih => exact ih (refines.registerNamed _ _)

/-- The order of the iteration does not matter, since no name comes twice. -/
theorem refines_registerWith
    (filed : KeyedMap.Filed (·.manifest.name) registry.installed)
    (order : IterationOrder InstalledPluginEntry) {manager : PluginManager}
    {table : PluginTable} (refines : manager.Refines table) :
    (registry.registerWith order manager).Refines (registry.tableOver table) := by
  have collected : (order.iterate registry.values).foldl
      (fun (table : PluginTable) entry => Function.update table entry.manifest.name
        (some (Plugin.new (.community entry.manifest)))) table =
        registry.tableOver table := by
    refine (KeyedMap.foldl_update_eq_collect
      (fun entry : InstalledPluginEntry => entry.manifest.name)
      (fun entry => Plugin.new (.community entry.manifest)) _ table).trans ?_
    funext name
    rw [KeyedMap.lookup_collect_values filed (order.perm registry.values)]
    rfl
  rw [← collected]
  exact refines_registerEach _ refines

theorem presented (filed : KeyedMap.Filed (·.manifest.name) registry.installed) :
    registry.Presented where
  available := mem_listAvailable
  sorted := pairwise_listAvailable
  installed := pairwise_listInstalled filed
  registered order _ _ refines := refines_registerWith filed order refines

end Presentation

/-- Over all installations, removals and refreshes of a registry, what is installed
has been offered by an index and was compatible, and the lists and the plugin manager
show exactly that. -/
theorem registry_sound_over_changes (serde : Serde (List InstalledPluginEntry))
    (disk : Disk) (changes : List Change) :
    (Catalogue.after serde disk changes).Sound ∧
      (Catalogue.after serde disk changes).registry.Presented :=
  have sound := Catalogue.sound_after serde disk changes
  ⟨sound, presented sound.filed⟩

end CommunityPluginRegistry

end NetGuardian
