import Mathlib.Data.List.AList
import Mathlib.Data.List.Induction
import Mathlib.Logic.Function.Basic

/-!
# Maps that are stored as lists of values

A map whose values know their keys can be written as the list of its values and
rebuilt from it.  The map must file every value under its own key, and the list
must not repeat a key: of several values with one key only the last survives.
-/

namespace KeyedMap

variable {Key Value : Type*} [DecidableEq Key]

/-- The map of a list of values; a later value replaces an earlier one. -/
def collect (key : Value → Key) (values : List Value) :
    AList fun _ : Key => Value :=
  values.foldl (fun map value => map.insert (key value) value) ∅

/-- The values, in the order of the entries. -/
def values (map : AList fun _ : Key => Value) : List Value :=
  map.entries.map Sigma.snd

/-- Every value is filed under its own key. -/
def Filed (key : Value → Key) (map : AList fun _ : Key => Value) : Prop :=
  ∀ filedAt value, map.lookup filedAt = some value → key value = filedAt

section Filing

variable {key : Value → Key} {map : AList fun _ : Key => Value}

theorem Filed.empty : Filed key ∅ := by
  intro filedAt value found
  cases found

theorem Filed.insert (filed : Filed key map) (value : Value) :
    Filed key (map.insert (key value) value) := by
  intro filedAt other found
  by_cases same : filedAt = key value
  · subst same
    rw [AList.lookup_insert] at found
    cases found
    rfl
  · rw [AList.lookup_insert_ne same] at found
    exact filed _ _ found

theorem Filed.erase (filed : Filed key map) (erased : Key) :
    Filed key (map.erase erased) := by
  intro filedAt other found
  by_cases same : filedAt = erased
  · subst same
    rw [AList.lookup_erase] at found
    cases found
  · rw [AList.lookup_erase_ne same] at found
    exact filed _ _ found

theorem collect_append (earlier : List Value) (last : Value) :
    collect key (earlier ++ [last]) =
      (collect key earlier).insert (key last) last := by
  simp [collect, List.foldl_append]

theorem filed_collect (collected : List Value) :
    Filed key (collect key collected) := by
  induction collected using List.reverseRecOn with
  | nil => exact .empty
  | append_singleton earlier last ih =>
      rw [collect_append]
      exact ih.insert last

theorem mem_values_iff (filed : Filed key map) (value : Value) :
    value ∈ values map ↔ map.lookup (key value) = some value := by
  rw [← Option.mem_def, AList.mem_lookup_iff]
  constructor
  · intro member
    obtain ⟨entry, memberEntry, rfl⟩ := List.mem_map.mp member
    have found : map.lookup entry.1 = some entry.2 :=
      AList.mem_lookup_iff.mpr memberEntry
    rw [filed _ _ found]
    exact memberEntry
  · exact fun member => List.mem_map_of_mem member

theorem map_key_values (filed : Filed key map) :
    (values map).map key = map.keys := by
  rw [values, List.map_map, AList.keys, List.keys]
  refine List.map_congr_left fun entry member => ?_
  have found : map.lookup entry.1 = some entry.2 :=
    AList.mem_lookup_iff.mpr member
  exact filed _ _ found

theorem nodup_values (filed : Filed key map) :
    ((values map).map key).Nodup := by
  rw [map_key_values filed]
  exact map.keys_nodup

/-- Under the key of every collected value something is found. -/
theorem isSome_lookup_collect (key : Value → Key) {collected : List Value}
    {value : Value} (member : value ∈ collected) :
    ((collect key collected).lookup (key value)).isSome = true := by
  induction collected using List.reverseRecOn with
  | nil => exact absurd member List.not_mem_nil
  | append_singleton earlier last ih =>
      rw [collect_append]
      by_cases same : key value = key last
      · rw [same, AList.lookup_insert]
        rfl
      · rw [AList.lookup_insert_ne same]
        rcases List.mem_append.mp member with old | new
        · exact ih old
        · exact absurd (congrArg key (List.mem_singleton.mp new)) same

/-- Without repeated keys, the map holds exactly the values of the list. -/
theorem lookup_collect_iff {collected : List Value}
    (distinct : (collected.map key).Nodup) (filedAt : Key) (value : Value) :
    (collect key collected).lookup filedAt = some value ↔
      value ∈ collected ∧ key value = filedAt := by
  induction collected using List.reverseRecOn with
  | nil => simp [collect]
  | append_singleton earlier last ih =>
      rw [List.map_append, List.map_singleton,
        List.nodup_append] at distinct
      obtain ⟨earlierDistinct, _, apart⟩ := distinct
      rw [collect_append, List.mem_append, List.mem_singleton]
      by_cases same : filedAt = key last
      · subst same
        rw [AList.lookup_insert, Option.some.injEq]
        constructor
        · rintro rfl
          exact ⟨.inr rfl, rfl⟩
        · rintro ⟨member | rfl, sameKey⟩
          · exact absurd sameKey
              (apart _ (List.mem_map_of_mem member) _ (by simp))
          · rfl
      · rw [AList.lookup_insert_ne same, ih earlierDistinct]
        constructor
        · rintro ⟨member, rfl⟩
          exact ⟨.inl member, rfl⟩
        · rintro ⟨member | rfl, rfl⟩
          · exact ⟨member, rfl⟩
          · exact absurd rfl same

/-- A map can be rebuilt from its values, in whatever order they are listed. -/
theorem lookup_collect_values (filed : Filed key map) {listed : List Value}
    (perm : listed.Perm (values map)) (filedAt : Key) :
    (collect key listed).lookup filedAt = map.lookup filedAt := by
  have distinct : (listed.map key).Nodup :=
    (perm.map key).nodup_iff.mpr (nodup_values filed)
  apply Option.ext
  intro value
  rw [lookup_collect_iff distinct, perm.mem_iff, mem_values_iff filed]
  constructor
  · rintro ⟨found, rfl⟩
    exact found
  · intro found
    have same := filed _ _ found
    subst same
    exact ⟨found, rfl⟩

/-- Writing the values of a list into a table one after the other puts the collected
map in front of the table. -/
theorem foldl_update_eq_collect {Item : Type*} (key : Value → Key) (item : Value → Item)
    (listed : List Value) (table : Key → Option Item) :
    listed.foldl (fun table value =>
        Function.update table (key value) (some (item value))) table =
      fun filedAt => (((collect key listed).lookup filedAt).map item).or
        (table filedAt) := by
  induction listed using List.reverseRecOn with
  | nil => rfl
  | append_singleton earlier last ih =>
      rw [List.foldl_append, ih, collect_append]
      funext filedAt
      by_cases same : filedAt = key last
      · subst same
        simp
      · simp [Function.update_of_ne same, AList.lookup_insert_ne same]

/-- The collected map lists every value of the list exactly when no key is
repeated. -/
theorem values_collect_perm_iff (collected : List Value) :
    (values (collect key collected)).Perm collected ↔
      (collected.map key).Nodup := by
  have filed := @filed_collect _ _ _ key collected
  constructor
  · intro perm
    exact (perm.map key).nodup_iff.mp (nodup_values filed)
  · intro distinct
    refine (List.perm_ext_iff_of_nodup (nodup_values filed).of_map
      distinct.of_map).mpr fun value => ?_
    rw [mem_values_iff filed, lookup_collect_iff distinct]
    exact and_iff_left rfl

end Filing

section Rereading

/-! Values that are written one by one come back one by one, each as a value with the
same key or not at all. -/

variable {key : Value → Key} {reread : Value → Option Value}
variable {listed kept original : List Value}

omit [DecidableEq Key] in
theorem exists_of_mapM (read : listed.mapM reread = some kept) {value : Value}
    (member : value ∈ listed) : ∃ back ∈ kept, reread value = some back := by
  induction listed generalizing kept with
  | nil => cases member
  | cons first listed ih =>
      simp only [List.mapM_cons, bind, Option.bind_eq_some_iff, pure,
        Option.some.injEq] at read
      obtain ⟨back, readFirst, rest, readRest, rfl⟩ := read
      rcases List.mem_cons.mp member with rfl | later
      · exact ⟨back, List.mem_cons_self, readFirst⟩
      · obtain ⟨found, here, same⟩ := ih readRest later
        exact ⟨found, List.mem_cons_of_mem _ here, same⟩

omit [DecidableEq Key] in
theorem map_key_of_mapM
    (keeps : ∀ {value back}, reread value = some back → key back = key value)
    (read : listed.mapM reread = some kept) : kept.map key = listed.map key := by
  induction listed generalizing kept with
  | nil =>
      cases read
      rfl
  | cons first listed ih =>
      simp only [List.mapM_cons, bind, Option.bind_eq_some_iff, pure,
        Option.some.injEq] at read
      obtain ⟨back, readFirst, rest, readRest, rfl⟩ := read
      rw [List.map_cons, List.map_cons, keeps readFirst, ih readRest]

omit [DecidableEq Key] in
theorem mapM_of_fixed (fixed : ∀ value ∈ listed, reread value = some value) :
    listed.mapM reread = some listed := by
  induction listed with
  | nil => rfl
  | cons first listed ih =>
      have rest := ih fun value member => fixed value (List.mem_cons_of_mem _ member)
      simp [List.mapM_cons, fixed first List.mem_cons_self, rest]

omit [DecidableEq Key] in
/-- A list without a repeated key comes back, in some order, exactly when each of its
values does. -/
theorem mapM_perm_iff
    (keeps : ∀ {value back}, reread value = some back → key back = key value)
    (perm : listed.Perm original) (distinct : (original.map key).Nodup) :
    (∃ kept, listed.mapM reread = some kept ∧ kept.Perm original) ↔
      ∀ value ∈ original, reread value = some value := by
  constructor
  · rintro ⟨kept, read, same⟩ value member
    obtain ⟨back, here, readValue⟩ := exists_of_mapM read (perm.mem_iff.mpr member)
    have equal := List.inj_on_of_nodup_map distinct (same.mem_iff.mp here) member
      (keeps readValue)
    rw [readValue, equal]
  · intro fixed
    exact ⟨listed, mapM_of_fixed fun value member =>
      fixed value (perm.mem_iff.mp member), perm⟩

end Rereading

end KeyedMap
