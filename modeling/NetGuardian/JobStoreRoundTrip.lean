import NetGuardian.JobStore
import NetGuardian.Foundation.KeyedMap

/-!
# Saving and reopening the job store

A store that was saved is opened again on the same path.  The file is one list,
so that a single value that JSON cannot express spoils all of it, and a file
that cannot be decoded opens as the empty store.  The one such value is a
progress that is not finite: `clamp` lets NaN through.
-/

namespace NetGuardian

def F64.isFinite : F64 → Bool
  | .finite _ => true
  | .infinity | .negInfinity | .nan => false

/-- Clamping to finite bounds removes the infinities only. -/
theorem F64.isFinite_clamp (low high : ℚ) (value : F64) :
    (value.clamp low high).isFinite = true ↔ value ≠ .nan := by
  cases value <;> simp [F64.clamp, F64.isFinite]

theorem Job.isFinite_setProgress (job : Job) (now : Nat) (pct : F64) :
    (job.setProgress now pct).progress.isFinite = true ↔ pct ≠ .nan :=
  F64.isFinite_clamp 0 100 pct

/-- What `serde_json` does with a list of jobs: numbers that are not finite are
written as `null`, which is no number, and everything else comes back. -/
structure Serde.FollowsJson (serde : Serde (List Job)) (jobs : List Job) :
    Prop where
  roundTrip : (∀ job ∈ jobs, job.progress.isFinite = true) →
    serde.fromStr (serde.toStringPretty jobs) = some jobs
  null : ∀ job ∈ jobs, job.progress.isFinite = false →
    serde.fromStr (serde.toStringPretty jobs) = none

/-- What a caller does with `&mut Job`: anything but a change of the id. -/
structure JobEdit where
  change : Job → Job
  keepsId : ∀ job, (change job).id = job.id

def JobEdit.setProgress (now : Nat) (pct : F64) : JobEdit where
  change job := job.setProgress now pct
  keepsId _ := rfl

namespace JobStore

/-- `get_mut`, and the edit of the job it returns. -/
def getMut (store : JobStore) (id : Nat) (edit : JobEdit) : JobStore :=
  match store.get id with
  | some job =>
      { store with jobs := store.jobs.insert id (edit.change job), dirty := true }
  | none => { store with dirty := true }

def remove (store : JobStore) (id : Nat) : JobStore × Bool :=
  ({ store with jobs := store.jobs.erase id, dirty := true },
    (store.get id).isSome)

def saveIfDirty (serde : Serde (List Job)) (store : JobStore) (disk : Disk)
    (order : IterationOrder Job) (outcome : WriteOutcome) :
    JobStore × TextWrite :=
  if store.dirty then store.save serde disk order outcome
  else (store, ⟨disk, false, true⟩)

theorem collect_eq (jobs : List Job) : collect jobs = KeyedMap.collect Job.id jobs :=
  rfl

theorem values_eq (store : JobStore) : store.values = KeyedMap.values store.jobs :=
  rfl

/-- The store opened after a complete write of a list of jobs. -/
theorem new_of_written {serde : Serde (List Job)} {disk : Disk} {path : Path}
    {written jobs : List Job}
    (decoded : serde.fromStr (serde.toStringPretty written) = some jobs) :
    (new serde (disk.write path (utf8 (serde.toStringPretty written))) true
      path).jobs = collect jobs := by
  have loaded : serde.load
      (disk.write path (utf8 (serde.toStringPretty written))) true path =
        some jobs :=
    Serde.load_eq_some_iff.mpr ⟨_, Disk.readToString_write _, decoded⟩
  simp [new, loaded]

theorem new_of_undecodable {serde : Serde (List Job)} {disk : Disk} {path : Path}
    {text : String} (undecodable : serde.fromStr text = none) :
    (new serde (disk.write path (utf8 text)) true path).jobs = ∅ := by
  have unloaded : serde.load (disk.write path (utf8 text)) true path = none := by
    rw [Option.eq_none_iff_forall_ne_some]
    intro jobs loaded
    obtain ⟨content, read, decoded⟩ := Serde.load_eq_some_iff.mp loaded
    rw [Disk.readToString_write, Option.some.injEq] at read
    rw [← read, undecodable] at decoded
    cases decoded
  simp [new, unloaded]

end JobStore

/-- The calls of a program that has opened the store. -/
inductive JobStoreCall where
  | insert (job : Job)
  | getMut (id : Nat) (edit : JobEdit)
  | remove (id : Nat)
  | save (order : IterationOrder Job)

/-- An open store with the files of the machine. -/
structure OpenStore where
  store : JobStore
  disk : Disk

namespace OpenStore

variable (serde : Serde (List Job))

/-- Writes succeed. -/
def apply (opened : OpenStore) : JobStoreCall → OpenStore
  | .insert job => { opened with store := opened.store.insert job }
  | .getMut id edit => { opened with store := opened.store.getMut id edit }
  | .remove id => { opened with store := (opened.store.remove id).1 }
  | .save order =>
      let saved := opened.store.save serde opened.disk order .done
      ⟨saved.1, saved.2.disk⟩

/-- A store opened on some path, after a sequence of calls. -/
def after (disk : Disk) (readable : Bool) (path : Path)
    (calls : List JobStoreCall) : OpenStore :=
  calls.foldl (apply serde) ⟨.new serde disk readable path, disk⟩

/-- The store that the next process opens after a save. -/
def reopened (opened : OpenStore) (order : IterationOrder Job) : JobStore :=
  .new serde (opened.apply serde (.save order)).disk true opened.store.path

/-- The same jobs under the same ids. -/
def ReopensSame (opened : OpenStore) (order : IterationOrder Job) : Prop :=
  ∀ id, (opened.reopened serde order).get id = opened.store.get id

section Calls

variable {serde} {opened : OpenStore}

theorem filed_new (disk : Disk) (readable : Bool) (path : Path) :
    KeyedMap.Filed Job.id (JobStore.new serde disk readable path).jobs := by
  cases loaded : serde.load disk readable path with
  | none =>
      simp only [JobStore.new, loaded]
      exact .empty
  | some jobs =>
      simp only [JobStore.new, loaded]
      exact KeyedMap.filed_collect jobs

/-- Every call keeps the jobs under their own ids. -/
theorem filed_apply (filed : KeyedMap.Filed Job.id opened.store.jobs)
    (call : JobStoreCall) :
    KeyedMap.Filed Job.id (opened.apply serde call).store.jobs := by
  cases call with
  | insert job => exact filed.insert job
  | remove id => exact filed.erase id
  | save order => exact filed
  | getMut id edit =>
      simp only [apply, JobStore.getMut]
      cases found : opened.store.get id with
      | none => exact filed
      | some job =>
          have sameId : (edit.change job).id = id := by
            rw [edit.keepsId, filed _ _ found]
          have inserted := filed.insert (edit.change job)
          rw [sameId] at inserted
          exact inserted

theorem filed_after (disk : Disk) (readable : Bool) (path : Path)
    (calls : List JobStoreCall) :
    KeyedMap.Filed Job.id (after serde disk readable path calls).store.jobs := by
  induction calls using List.reverseRecOn with
  | nil => exact filed_new disk readable path
  | append_singleton calls call ih =>
      rw [after, List.foldl_append]
      exact filed_apply ih call

/-- Decodable, the file brings every job back. -/
theorem reopensSame_of_finite {order : IterationOrder Job}
    (filed : KeyedMap.Filed Job.id opened.store.jobs)
    (json : serde.FollowsJson (order.iterate opened.store.values))
    (finite : ∀ id job, opened.store.get id = some job →
      job.progress.isFinite = true) : opened.ReopensSame serde order := by
  have perm := order.perm opened.store.values
  have representable : ∀ job ∈ order.iterate opened.store.values,
      job.progress.isFinite = true := by
    intro job member
    exact finite job.id job
      ((KeyedMap.mem_values_iff filed job).mp (perm.mem_iff.mp member))
  intro id
  have jobs : (opened.reopened serde order).jobs =
      JobStore.collect (order.iterate opened.store.values) :=
    JobStore.new_of_written (json.roundTrip representable)
  rw [JobStore.get, jobs]
  exact KeyedMap.lookup_collect_values filed perm id

/-- Otherwise the next process finds no job at all. -/
theorem reopened_empty {order : IterationOrder Job}
    (filed : KeyedMap.Filed Job.id opened.store.jobs)
    (json : serde.FollowsJson (order.iterate opened.store.values))
    {id : Nat} {job : Job} (found : opened.store.get id = some job)
    (nonFinite : job.progress.isFinite = false) :
    ∀ other, (opened.reopened serde order).get other = none := by
  have sameId := filed _ _ found
  have member : job ∈ order.iterate opened.store.values := by
    rw [(order.perm _).mem_iff, JobStore.values_eq,
      KeyedMap.mem_values_iff filed, sameId]
    exact found
  have jobs : (opened.reopened serde order).jobs = ∅ :=
    JobStore.new_of_undecodable (json.null job member nonFinite)
  intro other
  rw [JobStore.get, jobs, AList.lookup_empty]

end Calls

/-- A saved store opens with the same jobs exactly when the progress of every
job is a finite number. -/
theorem reopensSame_iff (disk : Disk) (readable : Bool) (path : Path)
    (calls : List JobStoreCall) (order : IterationOrder Job)
    (json : serde.FollowsJson
      (order.iterate (after serde disk readable path calls).store.values)) :
    (after serde disk readable path calls).ReopensSame serde order ↔
      ∀ id job, (after serde disk readable path calls).store.get id = some job →
        job.progress.isFinite = true := by
  have filed := @filed_after serde disk readable path calls
  constructor
  · intro same id job found
    by_contra notFinite
    have nonFinite := Bool.eq_false_iff.mpr notFinite
    have gone := reopened_empty filed json found nonFinite id
    rw [same id, found] at gone
    cases gone
  · exact reopensSame_of_finite filed json

/-- A list with the job for `curl` alone, its progress NaN. -/
def nullJson : String :=
  "[
  \x7b
    \"id\": 1,
    \"plugin\": \"curl\",
    \"description\": \"\",
    \"command\": \"curl\",
    \"args\": [],
    \"priority\": \"Normal\",
    \"status\": \"Pending\",
    \"created_at\": \"1970-01-01T00:00:00Z\",
    \"updated_at\": \"1970-01-01T00:00:00Z\",
    \"retry_count\": 0,
    \"max_retries\": 3,
    \"progress\": null,
    \"error\": null,
    \"owner\": null,
    \"metadata\": \x7b\x7d
  \x7d
]"

/-- The serializer on that job, with and without a progress. -/
def progressSerde : Serde (List Job) where
  toStringPretty jobs :=
    if jobs.all (·.progress.isFinite) then StoreProcess.storedJson else nullJson
  fromStr := StoreProcess.storedSerde.fromStr

theorem fromStr_nullJson : progressSerde.fromStr nullJson = none := by
  have different : nullJson ≠ StoreProcess.storedJson := by
    simp [nullJson, StoreProcess.storedJson]
  simp [progressSerde, StoreProcess.storedSerde, different]

theorem fromStr_storedJson : progressSerde.fromStr StoreProcess.storedJson =
    some [StoreProcess.storedJob] := by
  simp [progressSerde, StoreProcess.storedSerde]

/-- A store without a file, after some calls. -/
def fresh (calls : List JobStoreCall) : OpenStore :=
  after progressSerde (fun _ => none) true StoreProcess.storedPath calls

theorem reopensSame_iff_one_job :
    (fresh [.insert StoreProcess.storedJob]).ReopensSame progressSerde
        .asStored ↔
      ∀ id job, (fresh [.insert StoreProcess.storedJob]).store.get id = some job →
        job.progress.isFinite = true := by
  refine reopensSame_iff progressSerde (fun _ => none) true StoreProcess.storedPath
    [.insert StoreProcess.storedJob] .asStored ⟨fun _ => ?_, ?_⟩
  · exact fromStr_storedJson
  · intro job member nonFinite
    cases List.mem_singleton.mp member
    cases nonFinite

/-- The progress of a stored job is set to NaN. -/
def nanCalls : List JobStoreCall :=
  [.insert StoreProcess.storedJob, .getMut 1 (.setProgress 0 .nan)]

/-- The job is in the store, and the next process finds nothing. -/
theorem nan_empties_store :
    ((fresh nanCalls).store.get 1).isSome = true ∧
      ((fresh nanCalls).reopened progressSerde .asStored).get 1 = none ∧
      progressSerde.FollowsJson
        (IterationOrder.asStored.iterate (fresh nanCalls).store.values) ∧
      ¬ (fresh nanCalls).ReopensSame progressSerde .asStored := by
  have present : ((fresh nanCalls).store.get 1).isSome = true := by rfl
  have json : progressSerde.FollowsJson
      (IterationOrder.asStored.iterate (fresh nanCalls).store.values) := by
    refine ⟨fun finite => ?_, fun _ _ _ => fromStr_nullJson⟩
    have impossible := finite (StoreProcess.storedJob.setProgress 0 .nan)
      (List.mem_singleton.mpr rfl)
    cases impossible
  obtain ⟨job, found⟩ := Option.isSome_iff_exists.mp present
  have nonFinite : job.progress.isFinite = false := by
    cases found
    rfl
  have gone : ((fresh nanCalls).reopened progressSerde .asStored).get 1 = none :=
    reopened_empty (filed_after _ _ _ _) json found nonFinite 1
  refine ⟨present, gone, json, fun same => ?_⟩
  have kept := same 1
  rw [gone, found] at kept
  cases kept

end OpenStore

end NetGuardian
