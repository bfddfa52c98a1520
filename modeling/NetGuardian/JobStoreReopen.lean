import NetGuardian.JobStoreRoundTrip

/-!
# Opening and saving without a change

The daemon opens the job store when it starts and saves it when it stops; in
between it changes nothing.  A file that cannot be read or decoded counts as no
jobs, and the save replaces it.  A file that lists an id twice loses all jobs
with that id but one, and a number that is not read as it is printed changes.
-/

namespace NetGuardian

/-- `serde_json` decodes no proper prefix of a list that it has printed. -/
def Serde.RejectsPrefixes (serde : Serde (List Job)) (jobs : List Job) : Prop :=
  ∀ bytes < (utf8 (serde.toStringPretty jobs)).length,
    (fromUtf8 ((utf8 (serde.toStringPretty jobs)).take bytes)).bind
      serde.fromStr = none

/-- The job that is decoded where a job was printed, given what becomes of its one
number; a number that is not finite is printed as `null`. -/
def Job.reread (number : ℚ → Option ℚ) (job : Job) : Option Job :=
  match job.progress with
  | .finite value =>
      (number value).map fun back => { job with progress := .finite back }
  | .infinity | .negInfinity | .nan => none

/-- `serde_json` decodes what it has printed job by job; all that may change is a
number, which is not always read as it was printed, and some are too large to be
read. -/
def Serde.ReadsBack (serde : Serde (List Job)) (number : ℚ → Option ℚ)
    (jobs : List Job) : Prop :=
  serde.fromStr (serde.toStringPretty jobs) = jobs.mapM (Job.reread number)

theorem Job.id_reread {number : ℚ → Option ℚ} {job back : Job}
    (read : job.reread number = some back) : back.id = job.id := by
  unfold Job.reread at read
  split at read
  · obtain ⟨_, _, rfl⟩ := Option.map_eq_some_iff.mp read
    rfl
  · cases read
  · cases read
  · cases read

/-- A job comes back exactly if its progress is a number that does. -/
theorem Job.reread_eq_some_self {number : ℚ → Option ℚ} {job : Job} :
    job.reread number = some job ↔
      ∃ value, job.progress = .finite value ∧ number value = some value := by
  unfold Job.reread
  cases progress : job.progress with
  | finite value =>
      have same : ∀ back, { job with progress := F64.finite back } = job ↔
          back = value := by
        intro back
        constructor
        · intro equal
          have numbers := congrArg Job.progress equal
          rw [progress] at numbers
          exact F64.finite.inj numbers
        · rintro rfl
          rw [← progress]
      simp [Option.map_eq_some_iff, same]
  | infinity | negInfinity | nan => simp

/-- All of a text reaches the file. -/
def WriteOutcome.Complete (outcome : WriteOutcome) (text : String) : Prop :=
  outcome = .done ∨ ∃ bytes, outcome = .truncated bytes ∧
    (utf8 text).length ≤ bytes

theorem Serde.load_write (serde : Serde (List Job)) (disk : Disk)
    (path : Path) (data : List UInt8) :
    serde.load (disk.write path data) true path =
      (fromUtf8 data).bind serde.fromStr := by
  simp [Serde.load, Disk.exists?, Disk.readToString]

theorem Serde.readable_of_load {serde : Serde (List Job)} {disk : Disk}
    {readable : Bool} {path : Path} {jobs : List Job}
    (loaded : serde.load disk readable path = some jobs) : readable = true := by
  obtain ⟨text, read, _⟩ := Serde.load_eq_some_iff.mp loaded
  cases readable with
  | true => rfl
  | false => cases read

namespace JobStore

/-- From the start of the daemon to its end. -/
def openAndSave (serde : Serde (List Job)) (disk : Disk) (readable : Bool)
    (path : Path) (order : IterationOrder Job) (outcome : WriteOutcome) :
    TextWrite :=
  ((new serde disk readable path).save serde disk order outcome).2

/-- The jobs that the save writes. -/
def savedJobs (serde : Serde (List Job)) (disk : Disk) (readable : Bool)
    (path : Path) (order : IterationOrder Job) : List Job :=
  order.iterate (new serde disk readable path).values

/-- The file decodes to the same jobs as before; a file that cannot be read or
decoded is left alone. -/
def KeepsJobs (serde : Serde (List Job)) (disk : Disk) (readable : Bool)
    (path : Path) (order : IterationOrder Job) (outcome : WriteOutcome) : Prop :=
  match serde.load disk readable path with
  | some jobs =>
      ∃ kept, serde.load (openAndSave serde disk readable path order outcome).disk
        readable path = some kept ∧ kept.Perm jobs
  | none =>
      (openAndSave serde disk readable path order outcome).opened = false

section Reopening

variable {serde : Serde (List Job)} {disk : Disk} {readable : Bool} {path : Path}
variable {order : IterationOrder Job} {jobs : List Job}

theorem values_new (loaded : serde.load disk readable path = some jobs) :
    (new serde disk readable path).values =
      KeyedMap.values (KeyedMap.collect Job.id jobs) := by
  simp [new, loaded, values_eq, collect_eq]

/-- The loaded jobs are written back as they are, except for those with one
id. -/
theorem savedJobs_perm_iff (loaded : serde.load disk readable path = some jobs) :
    (savedJobs serde disk readable path order).Perm jobs ↔
      (jobs.map Job.id).Nodup := by
  have perm := order.perm (new serde disk readable path).values
  rw [← KeyedMap.values_collect_perm_iff, ← values_new loaded]
  exact ⟨perm.symm.trans, perm.trans⟩

/-- What the file says after a write that got all of its text out. -/
theorem load_openAndSave {number : ℚ → Option ℚ}
    (loaded : serde.load disk readable path = some jobs)
    (json : serde.ReadsBack number (savedJobs serde disk readable path order))
    {outcome : WriteOutcome}
    (complete : outcome.Complete
      (serde.toStringPretty (savedJobs serde disk readable path order))) :
    serde.load (openAndSave serde disk readable path order outcome).disk readable
      path = (savedJobs serde disk readable path order).mapM (Job.reread number) := by
  have canRead := Serde.readable_of_load loaded
  subst canRead
  have written : (openAndSave serde disk true path order outcome).disk =
      disk.write path (utf8 (serde.toStringPretty
        (savedJobs serde disk true path order))) := by
    rcases complete with rfl | ⟨bytes, rfl, whole⟩
    · rfl
    · change disk.write path (List.take bytes _) = _
      rw [← List.take_of_length_le whole]
      rfl
  rw [written, Serde.load_write, fromUtf8_utf8, Option.bind_some]
  exact json

/-- The file is read back as it was exactly if no id is listed twice and every
progress is a number that is read as it was printed. -/
theorem reread_savedJobs_iff {number : ℚ → Option ℚ}
    (loaded : serde.load disk readable path = some jobs) :
    (∃ kept, (savedJobs serde disk readable path order).mapM (Job.reread number) =
        some kept ∧ kept.Perm jobs) ↔
      (jobs.map Job.id).Nodup ∧ ∀ job ∈ jobs,
        ∃ value, job.progress = .finite value ∧ number value = some value := by
  have back : (∀ job ∈ jobs, job.reread number = some job) ↔ ∀ job ∈ jobs,
      ∃ value, job.progress = .finite value ∧ number value = some value := by
    simp only [Job.reread_eq_some_self]
  rw [← back]
  have distinctSaved : ((savedJobs serde disk readable path order).map Job.id).Nodup := by
    have filed := @OpenStore.filed_new serde disk readable path
    have perm := (order.perm (new serde disk readable path).values).map Job.id
    exact perm.nodup_iff.mpr (KeyedMap.nodup_values filed)
  constructor
  · rintro ⟨kept, read, same⟩
    have ids := KeyedMap.map_key_of_mapM Job.id_reread read
    have distinct : (jobs.map Job.id).Nodup := by
      rw [← (same.map Job.id).nodup_iff, ids]
      exact distinctSaved
    have perm := (@savedJobs_perm_iff serde disk readable path order jobs loaded).mpr
      distinct
    exact ⟨distinct, (KeyedMap.mapM_perm_iff Job.id_reread perm distinct).mp
      ⟨kept, read, same⟩⟩
  · rintro ⟨distinct, fixed⟩
    have perm := (@savedJobs_perm_iff serde disk readable path order jobs loaded).mpr
      distinct
    exact (KeyedMap.mapM_perm_iff Job.id_reread perm distinct).mpr fixed

/-- A write that breaks off leaves a file that does not decode. -/
theorem load_openAndSave_truncated {bytes : Nat}
    (prefixes : serde.RejectsPrefixes (savedJobs serde disk true path order))
    (short : bytes < (utf8 (serde.toStringPretty
      (savedJobs serde disk true path order))).length) :
    serde.load (openAndSave serde disk true path order (.truncated bytes)).disk true
      path = none := by
  change serde.load (disk.write path (List.take bytes _)) true path = _
  rw [Serde.load_write]
  exact prefixes bytes short

/-- Opening and saving keeps the jobs exactly when the write does not begin, or the
file decodes to jobs with different ids whose numbers are read as they are printed,
and the write is complete. -/
theorem keepsJobs_iff (serde : Serde (List Job)) (number : ℚ → Option ℚ) (disk : Disk)
    (readable : Bool) (path : Path) (order : IterationOrder Job)
    (outcome : WriteOutcome)
    (json : serde.ReadsBack number (savedJobs serde disk readable path order))
    (prefixes : serde.RejectsPrefixes (savedJobs serde disk readable path order)) :
    KeepsJobs serde disk readable path order outcome ↔
      outcome = .refused ∨
        (∃ jobs, serde.load disk readable path = some jobs ∧
          (jobs.map Job.id).Nodup ∧ ∀ job ∈ jobs,
            ∃ value, job.progress = .finite value ∧ number value = some value) ∧
        outcome.Complete
          (serde.toStringPretty (savedJobs serde disk readable path order)) := by
  unfold KeepsJobs
  cases loaded : serde.load disk readable path with
  | none =>
      have opened := @Disk.writeText_opened disk path
        (serde.toStringPretty (savedJobs serde disk readable path order)) outcome
      change (openAndSave serde disk readable path order outcome).opened = true ↔ _
        at opened
      constructor
      · intro untouched
        left
        by_contra begun
        rw [opened.mpr begun] at untouched
        cases untouched
      · rintro (rfl | ⟨⟨jobs, found, _⟩, _⟩)
        · rfl
        · cases found
  | some jobs =>
      have canRead := Serde.readable_of_load loaded
      subst canRead
      by_cases complete : outcome.Complete
          (serde.toStringPretty (savedJobs serde disk true path order))
      · have after := load_openAndSave loaded json complete
        have begun : outcome ≠ .refused := by
          rcases complete with rfl | ⟨bytes, rfl, _⟩ <;> simp
        simp only [after, Option.some.injEq, exists_eq_left',
          reread_savedJobs_iff loaded, begun, complete, false_or, and_true]
      · simp only [complete, and_false, or_false]
        cases outcome with
        | done => exact absurd (.inl rfl) complete
        | refused => exact iff_of_true ⟨jobs, loaded, .refl jobs⟩ rfl
        | truncated bytes =>
            have short : bytes < (utf8 (serde.toStringPretty
                (savedJobs serde disk true path order))).length := by
              by_contra whole
              exact complete (.inr ⟨bytes, rfl, not_lt.mp whole⟩)
            refine iff_of_false ?_ (by simp)
            rintro ⟨kept, after, _⟩
            rw [load_openAndSave_truncated prefixes short] at after
            cases after

end Reopening

section Inputs

open StoreProcess

theorem utf8_of_fromUtf8 {bytes : List UInt8} {text : String}
    (decoded : fromUtf8 bytes = some text) : utf8 text = bytes := by
  unfold fromUtf8 String.fromUTF8? at decoded
  split at decoded
  · cases decoded
    rfl
  · cases decoded

/-- A serializer that decodes one text only decodes no prefix of it. -/
theorem rejectsPrefixes_storedSerde (jobs : List Job) :
    storedSerde.RejectsPrefixes jobs := by
  intro bytes short
  cases decoded : fromUtf8 ((utf8 (storedSerde.toStringPretty jobs)).take bytes) with
  | none => rfl
  | some text =>
      have different : text ≠ storedJson := by
        rintro rfl
        have same := congrArg List.length (utf8_of_fromUtf8 decoded)
        rw [List.length_take] at same
        change (utf8 storedJson).length = min bytes (utf8 storedJson).length at same
        change bytes < (utf8 storedJson).length at short
        omega
      simp [storedSerde, different]

/-- Whole numbers are read as they are printed. -/
def wholeNumber (value : ℚ) : Option ℚ :=
  if value.den = 1 then some value else none

theorem keepsJobs_iff_saved :
    KeepsJobs storedSerde savedDisk true storedPath .asStored .done ↔
      (.done : WriteOutcome) = .refused ∨
        (∃ jobs, storedSerde.load savedDisk true storedPath = some jobs ∧
          (jobs.map Job.id).Nodup ∧ ∀ job ∈ jobs,
            ∃ value, job.progress = .finite value ∧
              wholeNumber value = some value) ∧
        WriteOutcome.Complete .done (storedSerde.toStringPretty
          (savedJobs storedSerde savedDisk true storedPath .asStored)) := by
  have loaded : storedSerde.load savedDisk true storedPath = some [storedJob] := by
    apply Serde.load_eq_some_iff.mpr
    exact ⟨storedJson, Disk.readToString_write storedJson, by simp [storedSerde]⟩
  have saved : savedJobs storedSerde savedDisk true storedPath .asStored =
      [storedJob] := by
    rw [savedJobs, new, loaded]
    rfl
  refine keepsJobs_iff storedSerde wholeNumber savedDisk true storedPath .asStored .done
    ?_ (rejectsPrefixes_storedSerde _)
  rw [saved, Serde.ReadsBack]
  have back : storedJob.reread wholeNumber = some storedJob :=
    Job.reread_eq_some_self.mpr ⟨0, rfl, rfl⟩
  simp [storedSerde, back]

/-- The serializer on the empty list, and on no other text. -/
def emptySerde : Serde (List Job) where
  toStringPretty _ := "[]"
  fromStr text := if text = "[]" then some [] else none

/-- A jobs file whose last write was interrupted. -/
def interrupted : Disk := fun path =>
  if path = storedPath then some (utf8 "[\n  \x7b") else none

/-- Nobody has changed anything, and the file is overwritten. -/
theorem interrupted_file_overwritten :
    (openAndSave emptySerde interrupted true storedPath .asStored .done).disk
        storedPath = some (utf8 "[]") ∧
      ¬ KeepsJobs emptySerde interrupted true storedPath .asStored .done := by
  have present : interrupted storedPath = some (utf8 "[\n  \x7b") := if_pos rfl
  have undecoded : emptySerde.load interrupted true storedPath = none := by
    simp [Serde.load, Disk.exists?, Disk.readToString, present, fromUtf8_utf8,
      emptySerde]
  constructor
  · change interrupted.write storedPath (utf8 "[]") storedPath = some (utf8 "[]")
    exact Disk.write_self _
  · unfold KeepsJobs
    rw [undecoded]
    simp [openAndSave, save, Disk.writeText]

end Inputs

end JobStore

end NetGuardian
