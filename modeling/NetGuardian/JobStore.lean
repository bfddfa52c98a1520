import NetGuardian.Files
import NetGuardian.Job
import Mathlib.Data.List.Induction

/-!
# The job store

A map from ids to jobs that is saved to one file as a list and loaded from it
by the next process.  The ids come from a counter that every process starts
anew, so that nothing keeps a new job from taking the place of a loaded one.
-/

namespace NetGuardian

structure JobStore where
  path : Path
  jobs : AList fun _ : Nat => Job
  dirty : Bool

namespace JobStore

/-- The loaded list as a map; of several jobs with one id the last one stays. -/
def collect (jobs : List Job) : AList fun _ : Nat => Job :=
  jobs.foldl (fun map job => map.insert job.id job) ∅

def new (serde : Serde (List Job)) (disk : Disk) (readable : Bool)
    (path : Path) : JobStore where
  path := path
  jobs := ((serde.load disk readable path).map collect).getD ∅
  dirty := false

/-- The values of the map, in the order of the entries. -/
def values (store : JobStore) : List Job := store.jobs.entries.map Sigma.snd

def save (serde : Serde (List Job)) (store : JobStore) (disk : Disk)
    (order : IterationOrder Job) (outcome : WriteOutcome) :
    JobStore × TextWrite :=
  let written := disk.writeText store.path
    (serde.toStringPretty (order.iterate store.values)) outcome
  (if written.succeeded then { store with dirty := false } else store, written)

def insert (store : JobStore) (job : Job) : JobStore :=
  { store with jobs := store.jobs.insert job.id job, dirty := true }

def get (store : JobStore) (id : Nat) : Option Job := store.jobs.lookup id

theorem get_insert_of_ne {store : JobStore} {job : Job} {id : Nat}
    (different : id ≠ job.id) : (store.insert job).get id = store.get id :=
  AList.lookup_insert_ne different

end JobStore

/-- The arguments of `Job::new`, with the reading of the clock. -/
structure JobRequest where
  now : Nat
  plugin : String
  description : String
  command : String
  args : List String
  priority : JobPriority

def JobRequest.create (request : JobRequest) (counter : Nat) : Job :=
  .new counter request.now request.plugin request.description request.command
    request.args request.priority

/-- One process that has opened a job store, with `NEXT_JOB_ID` and the jobs it
has created, oldest first. -/
structure StoreProcess where
  store : JobStore
  counter : Nat
  created : List Job

inductive StoreCall where
  | create (request : JobRequest)
  | insert (index : Nat)

namespace StoreProcess

def start (store : JobStore) : StoreProcess where
  store := store
  counter := 1
  created := []

/-- Create a job, or insert one that was created before. -/
def apply (process : StoreProcess) : StoreCall → StoreProcess
  | .create request =>
      { process with
        counter := process.counter + 1
        created := process.created ++ [request.create process.counter] }
  | .insert index =>
      match process.created[index]? with
      | some job => { process with store := process.store.insert job }
      | none => process

def run (store : JobStore) (calls : List StoreCall) : StoreProcess :=
  calls.foldl apply (start store)

/-- How many jobs the calls create. -/
def creations (calls : List StoreCall) : Nat :=
  calls.countP fun call =>
    match call with
    | .create _ => true
    | .insert _ => false

/-- The id of the job that is created after `earlier` others. -/
def issuedId (earlier : Nat) : Nat := (earlier + 1) % 2 ^ 64

/-- Every loaded job is still filed as it was, and no id that was handed out is
the id of a loaded job. -/
structure KeepsLoaded (loaded : JobStore) (calls : List StoreCall) : Prop where
  kept : ∀ id job, loaded.get id = some job →
    (run loaded calls).store.get id = some job
  disjoint : ∀ job ∈ (run loaded calls).created, loaded.get job.id = none

/-- What one process has done to the store it opened. -/
structure Extends (loaded : JobStore) (process : StoreProcess) : Prop where
  counter_eq : process.counter = process.created.length + 1
  ids_eq : process.created.map Job.id =
    (List.range process.created.length).map issuedId
  untouched : ∀ id, id ∉ process.created.map Job.id →
    process.store.get id = loaded.get id

section Runs

variable {loaded : JobStore} {process : StoreProcess}
variable {calls : List StoreCall}

theorem Extends.start (loaded : JobStore) : Extends loaded (start loaded) where
  counter_eq := rfl
  ids_eq := rfl
  untouched _ _ := rfl

theorem Extends.create (before : Extends loaded process)
    (request : JobRequest) :
    Extends loaded (process.apply (.create request)) := by
  have id : (request.create process.counter).id =
      issuedId process.created.length := by
    rw [before.counter_eq]
    rfl
  constructor
  · simp [apply, before.counter_eq]
  · simp [apply, id, before.ids_eq, List.range_succ]
  · intro other absent
    apply before.untouched
    intro member
    apply absent
    simp only [apply, List.map_append]
    exact List.mem_append_left _ member

theorem Extends.insert (before : Extends loaded process) (index : Nat) :
    Extends loaded (process.apply (.insert index)) := by
  cases found : process.created[index]? with
  | none => simpa [apply, found] using before
  | some job =>
      have inserted : process.apply (.insert index) =
          { process with store := process.store.insert job } := by
        simp [apply, found]
      rw [inserted]
      refine ⟨before.counter_eq, before.ids_eq, ?_⟩
      intro id absent
      have different : id ≠ job.id := by
        rintro rfl
        exact absent (List.mem_map_of_mem (List.mem_of_getElem? found))
      exact (JobStore.get_insert_of_ne different).trans
        (before.untouched id absent)

theorem extends_run : Extends loaded (run loaded calls) := by
  induction calls using List.reverseRecOn with
  | nil => exact .start loaded
  | append_singleton calls call ih =>
      rw [run, List.foldl_append]
      cases call with
      | create request => exact ih.create request
      | insert index => exact ih.insert index

theorem length_created_run :
    (run loaded calls).created.length = creations calls := by
  induction calls using List.reverseRecOn with
  | nil => rfl
  | append_singleton calls call ih =>
      have lastStep : run loaded (calls ++ [call]) =
          (run loaded calls).apply call := by
        simp [run, List.foldl_append]
      rw [lastStep, creations, List.countP_append, ← creations, ← ih]
      cases call with
      | create request => simp [apply]
      | insert index =>
          cases found : (run loaded calls).created[index]? <;>
            simp [apply, found]

/-- The ids that a process hands out depend on nothing but their number. -/
theorem ids_run : (run loaded calls).created.map Job.id =
    (List.range (creations calls)).map issuedId := by
  rw [extends_run.ids_eq, length_created_run]

/-- Loaded jobs survive exactly when their ids are none of the first ids of a
new process. -/
theorem keepsLoaded_iff (loaded : JobStore) (calls : List StoreCall) :
    KeepsLoaded loaded calls ↔
      ∀ earlier < creations calls, loaded.get (issuedId earlier) = none := by
  constructor
  · intro keeps earlier issued
    have handedOut : issuedId earlier ∈
        (run loaded calls).created.map Job.id := by
      rw [ids_run]
      exact List.mem_map_of_mem (List.mem_range.mpr issued)
    obtain ⟨job, member, id⟩ := List.mem_map.mp handedOut
    rw [← id]
    exact keeps.disjoint job member
  · intro fresh
    have absent : ∀ id ∈ (run loaded calls).created.map Job.id,
        loaded.get id = none := by
      intro id member
      rw [ids_run] at member
      obtain ⟨earlier, issued, rfl⟩ := List.mem_map.mp member
      exact fresh earlier (List.mem_range.mp issued)
    constructor
    · intro id job found
      have notIssued : id ∉ (run loaded calls).created.map Job.id := by
        intro member
        have none := absent id member
        rw [found] at none
        cases none
      rw [extends_run.untouched id notIssued]
      exact found
    · intro job member
      exact absent job.id (List.mem_map_of_mem member)

end Runs

/-- A job for `curl`, as the first job of an earlier process. -/
def storedJob : Job := Job.new 1 0 "curl" "" "curl" [] .normal

/-- A list with that job alone, as `serde_json` prints it. -/
def storedJson : String :=
  "[
  \x7b
    \"id\": 1,
    \"plugin\": \"curl\",
    \"description\": \"\",
    \"command\": \"curl\",
    \"args\": [],
    \"priority\": \"Normal\",
    \"status\": \"Pending\",
    \"created_at\": \"1970-01-01T00:00:00Z\",
    \"updated_at\": \"1970-01-01T00:00:00Z\",
    \"retry_count\": 0,
    \"max_retries\": 3,
    \"progress\": 0.0,
    \"error\": null,
    \"owner\": null,
    \"metadata\": \x7b\x7d
  \x7d
]"

/-- The serializer on that list. -/
def storedSerde : Serde (List Job) where
  toStringPretty _ := storedJson
  fromStr text := if text = storedJson then some [storedJob] else none

def storedPath : Path := "/var/lib/netguardian/jobs.json"

/-- The earlier process: no file yet, one job for `curl` created and saved. -/
def earlierProcess : StoreProcess :=
  run (.new storedSerde (fun _ => none) true storedPath)
    [.create ⟨0, "curl", "", "curl", [], .normal⟩, .insert 0]

def savedDisk : Disk :=
  (earlierProcess.store.save storedSerde (fun _ => none) .asStored
    .done).2.disk

/-- The store as the next process opens it. -/
def reopened : JobStore := .new storedSerde savedDisk true storedPath

/-- The first job of the next process takes the place of the stored one. -/
theorem restart_overwrites_stored_job :
    reopened.get 1 = some storedJob ∧
      (run reopened [.create ⟨5, "wget", "", "wget", [], .high⟩,
        .insert 0]).store.get 1 =
          some (Job.new 1 5 "wget" "" "wget" [] .high) ∧
      ¬ KeepsLoaded reopened
        [.create ⟨5, "wget", "", "wget", [], .high⟩, .insert 0] := by
  have loaded : storedSerde.load savedDisk true storedPath =
      some [storedJob] := by
    have decoded : storedSerde.fromStr storedJson = some [storedJob] := by
      simp [storedSerde]
    apply Serde.load_eq_some_iff.mpr
    exact ⟨storedJson, Disk.readToString_write storedJson, decoded⟩
  have found : reopened.get 1 = some storedJob := by
    rw [reopened, JobStore.new, loaded]
    rfl
  refine ⟨found, rfl, ?_⟩
  rw [keepsLoaded_iff]
  intro fresh
  have absent := fresh 0 (by decide)
  change reopened.get 1 = none at absent
  rw [found] at absent
  cases absent

end StoreProcess

end NetGuardian
