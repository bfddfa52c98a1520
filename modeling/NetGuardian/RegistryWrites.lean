import NetGuardian.RegistryRefinement

/-!
# Failed writes of the registry

`install` and `remove` change the map in memory, and `save_installed` then
rewrites the file and drops the result of the write.  When the write fails, the
caller is told of a success, and memory and file say different things.  Both
calls are atomic exactly if they do not write at all or the write succeeds.
-/

namespace NetGuardian

namespace CommunityPluginRegistry

variable (serde : Serde (List InstalledPluginEntry))
variable (registry : CommunityPluginRegistry) (disk : Disk)
variable (around : Surroundings) (name : String)

/-- `install` returns a manifest only if the file then says that the plugin is
installed.  If the write fails, it returns an error and changes nothing in
memory. -/
def InstallAtomic : Prop :=
  let result := registry.install serde disk around name
  (∀ manifest, result.2.2 = .ok manifest →
    ((loadInstalled serde result.2.1 true registry.storagePath).lookup
      name).isSome = true) ∧
  (around.outcome ≠ .done →
    (∃ error, result.2.2 = .error error) ∧
      result.1.installed = registry.installed)

/-- If the write fails, `remove` returns false and changes nothing in memory. -/
def RemoveAtomic : Prop :=
  let result := registry.remove serde disk around name
  around.outcome ≠ .done →
    result.2.2 = false ∧ result.1.installed = registry.installed

/-- The plugin is new, in the index and compatible, so that `install` comes to
the write. -/
def Installable : Prop :=
  registry.isInstalled name = false ∧
    ∃ manifest, registry.info name = some manifest ∧ manifest.isCompatible = .ok ()

/-- The registry with one more plugin. -/
def withEntry (manifest : CommunityPluginManifest) : CommunityPluginRegistry :=
  { registry with
    installed := registry.installed.insert name ⟨manifest, around.now⟩ }

section Writes

variable {serde registry disk around name}

/-- Everything that an installation that comes to the write does. -/
theorem install_of_installable (installable : registry.Installable name) :
    ∃ manifest, registry.info name = some manifest ∧
      registry.install serde disk around name =
        (registry.withEntry around name manifest,
          (registry.withEntry around name manifest).saveInstalled serde disk around,
          .ok manifest) := by
  obtain ⟨new, manifest, found, compatible⟩ := installable
  rcases install_spec serde registry disk around name with
    ⟨_, _, _, refused⟩ | ⟨accepted, _, known, _, result⟩
  · exact absurd refused (no_refusal_of_compatible new found compatible)
  · exact ⟨accepted, known, result⟩

/-- An installation that does not come to the write returns an error and changes
nothing. -/
theorem install_of_not_installable (refused : ¬ registry.Installable name) :
    (∃ error, (registry.install serde disk around name).2.2 = .error error) ∧
      (registry.install serde disk around name).1 = registry := by
  rcases install_spec serde registry disk around name with
    ⟨failed, sameRegistry, _, _⟩ | ⟨manifest, new, found, compatible, _⟩
  · exact ⟨failed, sameRegistry⟩
  · exact absurd ⟨new, manifest, found, compatible⟩ refused

/-- A file that was written completely says that the plugin is installed. -/
theorem isSome_lookup_written {manifest : CommunityPluginManifest}
    (found : registry.info name = some manifest) (written : around.outcome = .done)
    (json : serde.RoundTrips
      (around.order.iterate (registry.withEntry around name manifest).values)) :
    ((loadInstalled serde
      ((registry.withEntry around name manifest).saveInstalled serde disk around)
      true registry.storagePath).lookup name).isSome = true := by
  let grown := registry.withEntry around name manifest
  have saved : grown.saveInstalled serde disk around =
      disk.write registry.storagePath
        (utf8 (serde.toStringPretty (around.order.iterate grown.values))) := by
    rw [saveInstalled, written]
    rfl
  have loaded : serde.load (grown.saveInstalled serde disk around) true
      registry.storagePath = some (around.order.iterate grown.values) := by
    rw [saved]
    exact Serde.load_eq_some_iff.mpr ⟨_, Disk.readToString_write _, json⟩
  have stored : (⟨manifest, around.now⟩ : InstalledPluginEntry) ∈
      around.order.iterate grown.values := by
    rw [(around.order.perm grown.values).mem_iff]
    exact List.mem_map.mpr ⟨⟨name, ⟨manifest, around.now⟩⟩, List.mem_cons_self, rfl⟩
  have collected := KeyedMap.isSome_lookup_collect
    (fun entry : InstalledPluginEntry => entry.manifest.name) stored
  have decoded : loadInstalled serde (grown.saveInstalled serde disk around) true
      registry.storagePath =
        KeyedMap.collect (·.manifest.name) (around.order.iterate grown.values) := by
    rw [loadInstalled, loaded]
    rfl
  have sameName : manifest.name = name := info_name found
  rw [← decoded, sameName] at collected
  exact collected

end Writes

/-- An installation is atomic exactly if it does not come to the write or the
write succeeds, and so is a removal. -/
theorem atomic_iff
    (json : ∀ manifest, registry.info name = some manifest →
      serde.RoundTrips
        (around.order.iterate (registry.withEntry around name manifest).values)) :
    (registry.InstallAtomic serde disk around name ↔
        around.outcome = .done ∨ ¬ registry.Installable name) ∧
      (registry.RemoveAtomic serde disk around name ↔
        around.outcome = .done ∨ registry.isInstalled name = false) := by
  constructor
  · by_cases installable : registry.Installable name
    · obtain ⟨manifest, found, result⟩ :=
        @install_of_installable serde registry disk around name installable
      constructor
      · rintro ⟨-, failing⟩
        refine .inl (by_contra fun failed => ?_)
        obtain ⟨⟨error, refused⟩, -⟩ := failing failed
        rw [result] at refused
        cases refused
      · rintro (written | refused)
        · rw [InstallAtomic, result]
          exact ⟨fun _ _ => isSome_lookup_written found written (json manifest found),
            fun failed => absurd written failed⟩
        · exact absurd installable refused
    · refine iff_of_true ?_ (.inr installable)
      obtain ⟨⟨error, failed⟩, same⟩ :=
        @install_of_not_installable serde registry disk around name installable
      rw [InstallAtomic]
      refine ⟨fun manifest succeeded => ?_, fun _ => ⟨⟨error, failed⟩, by rw [same]⟩⟩
      rw [failed] at succeeded
      cases succeeded
  · by_cases present : registry.installed.lookup name ≠ none
    · have installed : registry.isInstalled name = true :=
        Option.isSome_iff_ne_none.mpr present
      constructor
      · intro atomic
        refine .inl (by_contra fun failed => ?_)
        have refused := (atomic failed).1
        rw [remove, if_pos present] at refused
        cases refused
      · rintro (written | absent)
        · exact fun failed => absurd written failed
        · rw [installed] at absent
          cases absent
    · rw [not_not] at present
      have absent : registry.isInstalled name = false := by
        rw [isInstalled, present]
        rfl
      refine iff_of_true (fun _ => ?_) (.inr absent)
      rw [remove, if_neg (by simp [present])]
      exact ⟨rfl, rfl⟩

/-- A refused write while `rsync` is installed. -/
def refusedWrite : Surroundings where
  now := "2026-01-01T00:00:00+00:00"
  order := .asStored
  outcome := .refused

theorem atomic_iff_rsync :
    ¬ (new.InstallAtomic registrySerde (fun _ => none) refusedWrite "rsync") ∧
      new.RemoveAtomic registrySerde (fun _ => none) refusedWrite "rsync" := by
  have json : ∀ manifest, new.info "rsync" = some manifest →
      registrySerde.RoundTrips (refusedWrite.order.iterate
        (new.withEntry refusedWrite "rsync" manifest).values) := by
    intro manifest found
    have one : (new.withEntry refusedWrite "rsync" manifest).values =
        [⟨manifest, refusedWrite.now⟩] := rfl
    have isRsync : manifest = rsyncEntry.manifest := by
      have known : new.info "rsync" = some rsyncEntry.manifest := by decide
      exact Option.some.inj (found.symm.trans known)
    have different : rsyncJson ≠ "[]" := by decide +kernel
    rw [one, isRsync]
    change registrySerde.fromStr (registrySerde.toStringPretty [rsyncEntry]) =
      some [rsyncEntry]
    simp [registrySerde, different]
  have general := atomic_iff registrySerde new (fun _ => none) refusedWrite
    "rsync" json
  refine ⟨fun atomic => ?_, general.2.mpr (.inr (by decide))⟩
  rcases general.1.mp atomic with written | refused
  · cases written
  · exact refused ⟨by decide, rsyncEntry.manifest, by decide, by decide⟩

/-- The write of the file is refused; `install` returns the manifest, and there
is still no file. -/
theorem install_reports_lost_plugin :
    let result := new.install registrySerde (fun _ => none) refusedWrite "rsync"
    result.2.2 = .ok rsyncEntry.manifest ∧ result.2.1 storageFile = none ∧
      result.1.isInstalled "rsync" = true ∧
        ¬ new.InstallAtomic registrySerde (fun _ => none) refusedWrite "rsync" := by
  intro result
  have succeeded : result.2.2 = .ok rsyncEntry.manifest := by decide
  refine ⟨succeeded, by decide, by decide, fun atomic => ?_⟩
  obtain ⟨⟨error, failed⟩, -⟩ := atomic.2 (by decide)
  rw [succeeded] at failed
  cases failed

end CommunityPluginRegistry

end NetGuardian
