import NetGuardian.JobStoreRoundTrip
import Mathlib.Data.List.Infix

/-!
# What the dirty flag says

`save_if_dirty` trusts the flag: a store that is not dirty is taken for saved.
Insertions, edits and removals set it, and only a complete write clears it.  A
write that fails leaves it alone, although the file has been destroyed: of a
store that was clean before, nothing remembers that the file is no longer the
store.
-/

namespace NetGuardian

/-- How a write ends: completely, or with an error and any content, or none, of
the file. -/
inductive WriteEnd where
  | done
  | failed (content : Option (List UInt8))

/-- The same as what `WriteOutcome` says of a particular write. -/
def WriteEnd.ofOutcome (disk : Disk) (path : Path) (text : String) :
    WriteOutcome → WriteEnd
  | .done => .done
  | .refused => .failed (disk path)
  | .truncated bytes => .failed (some ((utf8 text).take bytes))

/-- The file becomes what it becomes, the other files stay. -/
def Disk.set (disk : Disk) (path : Path) (content : Option (List UInt8)) : Disk :=
  fun other => if other = path then content else disk other

/-- The calls of a program that saves, with the outcomes of its writes. -/
inductive SavingCall where
  | insert (job : Job)
  | getMut (id : Nat) (edit : JobEdit)
  | remove (id : Nat)
  | save (order : IterationOrder Job) (ending : WriteEnd)
  | saveIfDirty (order : IterationOrder Job) (ending : WriteEnd)

namespace OpenStore

variable (serde : Serde (List Job))

/-- `save`, and whether it returns `Ok`. -/
def save (opened : OpenStore) (order : IterationOrder Job) :
    WriteEnd → OpenStore × Bool
  | .done =>
      let saved := opened.store.save serde opened.disk order .done
      (⟨saved.1, saved.2.disk⟩, saved.2.succeeded)
  | .failed content =>
      let saved := opened.store.save serde opened.disk order .refused
      (⟨saved.1, saved.2.disk.set opened.store.path content⟩, saved.2.succeeded)

def saveIfDirty (opened : OpenStore) (order : IterationOrder Job)
    (ending : WriteEnd) : OpenStore × Bool :=
  if opened.store.dirty then opened.save serde order ending else (opened, true)

def perform (opened : OpenStore) : SavingCall → OpenStore
  | .insert job => { opened with store := opened.store.insert job }
  | .getMut id edit => { opened with store := opened.store.getMut id edit }
  | .remove id => { opened with store := (opened.store.remove id).1 }
  | .save order ending => (opened.save serde order ending).1
  | .saveIfDirty order ending => (opened.saveIfDirty serde order ending).1

/-- A store opened on some path, after a sequence of calls. -/
def performed (disk : Disk) (path : Path) (calls : List SavingCall) : OpenStore :=
  calls.foldl (perform serde) ⟨.new serde disk true path, disk⟩

/-- The next process finds exactly the jobs in memory. -/
def Synced (opened : OpenStore) : Prop :=
  ∀ id, (JobStore.new serde opened.disk true opened.store.path).get id =
    opened.store.get id

/-- Whenever `save_if_dirty` returns `Ok`, the store is saved. -/
def SavedIfOk (opened : OpenStore) : Prop :=
  ∀ order ending, (opened.saveIfDirty serde order ending).2 = true →
    Synced serde (opened.saveIfDirty serde order ending).1

/-- JSON can express the jobs, and they come back. -/
structure Storable (opened : OpenStore) : Prop where
  json : ∀ order : IterationOrder Job,
    serde.FollowsJson (order.iterate opened.store.values)
  finite : ∀ id job, opened.store.get id = some job →
    job.progress.isFinite = true

/-- A failing `save` of a clean store leaves a file that still holds its jobs. -/
def SparesFile (opened : OpenStore) : SavingCall → Prop
  | .save _ (.failed content) => opened.store.dirty = false →
      Synced serde ⟨opened.store, opened.disk.set opened.store.path content⟩
  | _ => True

variable {serde} {opened : OpenStore}

/-- The failures of `WriteOutcome` are among the failures here. -/
theorem save_ofOutcome (order : IterationOrder Job) (outcome : WriteOutcome) :
    opened.save serde order (.ofOutcome opened.disk opened.store.path
        (serde.toStringPretty (order.iterate opened.store.values)) outcome) =
      let saved := opened.store.save serde opened.disk order outcome
      (⟨saved.1, saved.2.disk⟩, saved.2.succeeded) := by
  cases outcome with
  | done => rfl
  | refused =>
      have same : opened.disk.set opened.store.path
          (opened.disk opened.store.path) = opened.disk := by
        funext other
        rw [Disk.set]
        split
        · next own => rw [own]
        · rfl
      simp [WriteEnd.ofOutcome, save, JobStore.save, Disk.writeText, same]
  | truncated bytes =>
      have same : opened.disk.set opened.store.path
          (some ((utf8 (serde.toStringPretty
            (order.iterate opened.store.values))).take bytes)) =
          opened.disk.write opened.store.path
            ((utf8 (serde.toStringPretty
              (order.iterate opened.store.values))).take bytes) := rfl
      simp [WriteEnd.ofOutcome, save, JobStore.save, Disk.writeText, same]

theorem saveIfDirty_ofOutcome (order : IterationOrder Job)
    (outcome : WriteOutcome) :
    opened.saveIfDirty serde order (.ofOutcome opened.disk opened.store.path
        (serde.toStringPretty (order.iterate opened.store.values)) outcome) =
      let saved := opened.store.saveIfDirty serde opened.disk order outcome
      (⟨saved.1, saved.2.disk⟩, saved.2.succeeded) := by
  unfold saveIfDirty JobStore.saveIfDirty
  split
  · exact save_ofOutcome order outcome
  · rfl

section Save

variable {order : IterationOrder Job}

theorem synced_save_done (filed : KeyedMap.Filed Job.id opened.store.jobs)
    (storable : opened.Storable serde) :
    Synced serde (opened.save serde order .done).1 :=
  reopensSame_of_finite filed (storable.json order) storable.finite

end Save

/-- What holds between the calls: the jobs are under their own ids, and a clean
store is saved. -/
structure CleanIsSaved (serde : Serde (List Job)) (opened : OpenStore) :
    Prop where
  filed : KeyedMap.Filed Job.id opened.store.jobs
  synced : opened.store.dirty = false → Synced serde opened

theorem CleanIsSaved.of_dirty (filed : KeyedMap.Filed Job.id opened.store.jobs)
    (dirty : opened.store.dirty = true) : CleanIsSaved serde opened where
  filed := filed
  synced clean := by
    rw [dirty] at clean
    cases clean

theorem cleanIsSaved_new (disk : Disk) (path : Path) :
    CleanIsSaved serde ⟨.new serde disk true path, disk⟩ where
  filed := filed_new disk true path
  synced _ _ := rfl

theorem CleanIsSaved.save (held : CleanIsSaved serde opened)
    (storable : opened.Storable serde) {order : IterationOrder Job}
    {ending : WriteEnd}
    (spares : ∀ content, ending = .failed content → opened.store.dirty = false →
      Synced serde ⟨opened.store, opened.disk.set opened.store.path content⟩) :
    CleanIsSaved serde (opened.save serde order ending).1 := by
  cases ending with
  | done => exact ⟨held.filed, fun _ => synced_save_done held.filed storable⟩
  | failed content => exact ⟨held.filed, spares content rfl⟩

theorem CleanIsSaved.perform (held : CleanIsSaved serde opened)
    (storable : opened.Storable serde) {call : SavingCall}
    (spares : opened.SparesFile serde call) :
    CleanIsSaved serde (opened.perform serde call) := by
  cases call with
  | insert job =>
      exact .of_dirty (@filed_apply serde opened held.filed (.insert job)) rfl
  | remove id =>
      exact .of_dirty (@filed_apply serde opened held.filed (.remove id)) rfl
  | getMut id edit =>
      refine .of_dirty (@filed_apply serde opened held.filed (.getMut id edit)) ?_
      change (opened.store.getMut id edit).dirty = true
      unfold JobStore.getMut
      split <;> rfl
  | save order ending =>
      apply held.save storable
      rintro content rfl clean
      exact spares clean
  | saveIfDirty order ending =>
      change CleanIsSaved serde (opened.saveIfDirty serde order ending).1
      unfold saveIfDirty
      split
      · next dirty =>
          apply held.save storable
          intro _ _ clean
          rw [dirty] at clean
          cases clean
      · exact held

theorem CleanIsSaved.savedIfOk (held : CleanIsSaved serde opened)
    (storable : opened.Storable serde) : SavedIfOk serde opened := by
  intro order ending saved
  unfold saveIfDirty at saved ⊢
  split
  · next dirty =>
      rw [if_pos dirty] at saved
      cases ending with
      | done => exact synced_save_done held.filed storable
      | failed content => cases saved
  · next clean => exact held.synced (Bool.eq_false_iff.mpr clean)

/-- A failing `save` that does not spare the file goes unnoticed. -/
theorem not_savedIfOk_of_not_spares {call : SavingCall}
    (destroys : ¬ opened.SparesFile serde call) :
    ¬ SavedIfOk serde (opened.perform serde call) := by
  intro saved
  cases call with
  | save order ending =>
      cases ending with
      | done => exact destroys trivial
      | failed content =>
          apply destroys
          intro clean
          have trusted := saved .asStored .done
          change ((opened.perform serde (.save order (.failed content))).saveIfDirty
            serde .asStored .done).2 = true → _ at trusted
          have unsaved : (opened.perform serde
              (.save order (.failed content))).saveIfDirty serde .asStored .done =
              (opened.perform serde (.save order (.failed content)), true) := by
            change (if opened.store.dirty then _ else _) = _
            rw [clean]
            rfl
          rw [unsaved] at trusted
          exact trusted rfl
  | _ => exact destroys trivial

section Calls

variable {disk : Disk} {path : Path} {calls : List SavingCall}

theorem performed_append_singleton (earlier : List SavingCall)
    (call : SavingCall) :
    performed serde disk path (earlier ++ [call]) =
      (performed serde disk path earlier).perform serde call := by
  simp [performed, List.foldl_append]

/-- All states that a sequence of calls goes through can be stored. -/
def AlwaysStorable (serde : Serde (List Job)) (disk : Disk) (path : Path)
    (calls : List SavingCall) : Prop :=
  ∀ earlier, earlier <+: calls →
    (performed serde disk path earlier).Storable serde

theorem cleanIsSaved_performed
    (storable : AlwaysStorable serde disk path calls)
    (spares : ∀ earlier call, earlier ++ [call] <+: calls →
      (performed serde disk path earlier).SparesFile serde call)
    {earlier : List SavingCall} (start : earlier <+: calls) :
    CleanIsSaved serde (performed serde disk path earlier) := by
  induction earlier using List.reverseRecOn with
  | nil => exact cleanIsSaved_new disk path
  | append_singleton earlier call ih =>
      have before : earlier <+: calls := (List.prefix_append _ _).trans start
      rw [performed_append_singleton]
      exact (ih before).perform (storable earlier before)
        (spares earlier call start)

/-- `save_if_dirty` means saved, at every point of a sequence of calls, exactly if
no `save` that fails in it destroys the file of a clean store. -/
theorem savedIfOk_iff (disk : Disk) (path : Path) (calls : List SavingCall)
    (storable : AlwaysStorable serde disk path calls) :
    (∀ earlier, earlier <+: calls →
        SavedIfOk serde (performed serde disk path earlier)) ↔
      ∀ earlier call, earlier ++ [call] <+: calls →
        (performed serde disk path earlier).SparesFile serde call := by
  constructor
  · intro saved earlier call start
    by_contra destroys
    apply not_savedIfOk_of_not_spares destroys
    rw [← performed_append_singleton]
    exact saved _ start
  · intro spares earlier start
    exact (cleanIsSaved_performed storable spares start).savedIfOk
      (storable earlier start)

end Calls

/-- The serializer on the empty list and on the list of one job. -/
def smallSerde : Serde (List Job) where
  toStringPretty jobs :=
    if jobs.isEmpty then "[]" else progressSerde.toStringPretty jobs
  fromStr text := if text = "[]" then some [] else progressSerde.fromStr text

theorem storable_empty (empty : opened.store.jobs = ∅) :
    opened.Storable smallSerde where
  json order := by
    have noValues : order.iterate opened.store.values = [] := by
      have perm := order.perm opened.store.values
      rw [JobStore.values, empty] at perm
      rw [JobStore.values, empty]
      exact List.perm_nil.mp perm
    rw [noValues]
    exact ⟨fun _ => rfl, fun _ member => absurd member List.not_mem_nil⟩
  finite id job found := by
    rw [JobStore.get, empty] at found
    cases found

theorem storable_storedJob
    (single : opened.store.jobs = AList.insert 1 StoreProcess.storedJob ∅) :
    opened.Storable smallSerde where
  json order := by
    have oneValue : order.iterate opened.store.values =
        [StoreProcess.storedJob] := by
      have perm := order.perm opened.store.values
      rw [JobStore.values, single] at perm
      rw [JobStore.values, single]
      exact List.perm_singleton.mp perm
    rw [oneValue]
    have different : StoreProcess.storedJson ≠ "[]" := by decide +kernel
    refine ⟨fun _ => ?_, ?_⟩
    · have written : smallSerde.toStringPretty [StoreProcess.storedJob] =
          StoreProcess.storedJson := rfl
      rw [written, smallSerde]
      dsimp only
      rw [if_neg different, fromStr_storedJson]
    · intro job member nonFinite
      rw [List.mem_singleton.mp member] at nonFinite
      cases nonFinite
  finite id job found := by
    rw [JobStore.get, single] at found
    by_cases own : id = 1
    · subst own
      rw [AList.lookup_insert] at found
      cases found
      rfl
    · rw [AList.lookup_insert_ne own] at found
      cases found

/-- A store without a file. -/
def small (calls : List SavingCall) : OpenStore :=
  performed smallSerde (fun _ => none) StoreProcess.storedPath calls

/-- One job is inserted, and saved because the store is dirty. -/
def insertAndSave : List SavingCall :=
  [.insert StoreProcess.storedJob, .saveIfDirty .asStored .done]

theorem savedIfOk_iff_insertAndSave :
    (∀ earlier, earlier <+: insertAndSave → SavedIfOk smallSerde (small earlier)) ↔
      ∀ earlier call, earlier ++ [call] <+: insertAndSave →
        (small earlier).SparesFile smallSerde call := by
  apply savedIfOk_iff
  intro earlier start
  rw [← List.mem_inits] at start
  simp only [insertAndSave, List.inits, List.map_cons, List.map_nil, List.mem_cons,
    List.not_mem_nil, or_false] at start
  rcases start with rfl | rfl | rfl
  · exact storable_empty rfl
  · exact storable_storedJob rfl
  · exact storable_storedJob rfl

/-- One job is inserted and saved, and a second `save` fails after it has opened
the file. -/
def saveTwice : List SavingCall :=
  [.insert StoreProcess.storedJob, .save .asStored .done,
    .save .asStored (.failed (some []))]

/-- `save_if_dirty` returns `Ok` and the job is gone from the file. -/
theorem failed_save_unnoticed :
    AlwaysStorable smallSerde (fun _ => none) StoreProcess.storedPath saveTwice ∧
      ((small saveTwice).saveIfDirty smallSerde .asStored .done).2 = true ∧
      ((small saveTwice).saveIfDirty smallSerde .asStored .done).1.store.get 1 =
        some StoreProcess.storedJob ∧
      ¬ SavedIfOk smallSerde (small saveTwice) := by
  refine ⟨?_, rfl, rfl, ?_⟩
  · intro earlier start
    rw [← List.mem_inits] at start
    simp only [saveTwice, List.inits, List.map_cons, List.map_nil, List.mem_cons,
      List.not_mem_nil, or_false] at start
    rcases start with rfl | rfl | rfl | rfl
    · exact storable_empty rfl
    · exact storable_storedJob rfl
    · exact storable_storedJob rfl
    · exact storable_storedJob rfl
  · intro saved
    have same := saved .asStored .done rfl 1
    have file : (small saveTwice).disk StoreProcess.storedPath = some [] := by
      change Disk.set (small [.insert StoreProcess.storedJob,
        .save .asStored .done]).disk StoreProcess.storedPath (some [])
          StoreProcess.storedPath = _
      exact if_pos rfl
    have unloaded : smallSerde.load (small saveTwice).disk true
        StoreProcess.storedPath = none := by
      have empty : fromUtf8 [] = some "" := fromUtf8_utf8 ""
      have different : "" ≠ StoreProcess.storedJson := by decide +kernel
      simp [Serde.load, Disk.exists?, Disk.readToString, file, empty, smallSerde,
        progressSerde, StoreProcess.storedSerde, different]
    change (JobStore.new smallSerde (small saveTwice).disk true
      StoreProcess.storedPath).get 1 = some StoreProcess.storedJob at same
    rw [JobStore.new, unloaded] at same
    cases same

end OpenStore

end NetGuardian
