import NetGuardian.DownloadOutcomes
import NetGuardian.Foundation.OwnedRecords
import NetGuardian.JobEvents
import NetGuardian.SpawnOrigins

/-!
# The list of downloads

The calls of the executor share one list of downloads.  Each changes only the entry of
its own job, so the list can be described entry by entry: what is there comes from a
job of the first queue, and what it says depends on how far the call of that job has
come.
-/

namespace NetGuardian

open CooperativeTasks LabelledRun TakingTurns

/-- The executor tracks a download for the job. -/
def Job.IsDownload (job : Job) : Prop :=
  job.command = "curl" ∨ job.command = "wget"

/-- The download is the one that the job asks for, and nothing has gone wrong. -/
structure DownloadProgress.TrackedFor (download : DownloadProgress)
    (manager : DownloadManager) (job : Job) : Prop where
  jobId : download.jobId = job.id
  url : download.url = job.args.headD ""
  plugin : download.plugin = job.plugin
  destination : download.destination = joinPath manager.baseDir
    (DownloadManager.sanitizeFilename manager.table (job.args.headD ""))
  speed : download.speedBytesPerSec = .finite 0
  error : download.error = none

/-- A download, and whether its completion is on the bus. -/
abbrev DownloadRecord := Option DownloadProgress × Bool

def System.downloadRecord (system : System) (id : Nat) : DownloadRecord :=
  (system.downloads.jobs.lookup id, decide (.redeems id ∈ system.reports))

/-- The job of a call that has not come to the list of downloads. -/
def ExecPoint.untracked? : ExecPoint → Option Job
  | lockPlugins job | register job _ | track job _ => some job
  | _ => none

namespace DownloadManager

variable {manager : DownloadManager} {jobId id : Nat}
variable {update : DownloadProgress → DownloadProgress}

theorem lookup_change : (manager.change jobId update).1.jobs.lookup id =
    if id = jobId then (manager.jobs.lookup id).map update
    else manager.jobs.lookup id := by
  unfold change
  split
  · next absent =>
      split
      · next same =>
          rw [same, absent]
          rfl
      · rfl
  · next download here =>
      split
      · next same =>
          rw [same, here]
          exact AList.lookup_insert _
      · next other => exact AList.lookup_insert_ne other

theorem place_change : (manager.change jobId update).1.baseDir = manager.baseDir ∧
    (manager.change jobId update).1.table = manager.table := by
  unfold change
  split <;> exact ⟨rfl, rfl⟩

end DownloadManager

section Segments

variable {answer : Answer} {system after : System} {point next : ExecPoint} {id : Nat}

/-- Only the segment that completes a download announces a completion. -/
theorem redeems_iff (free : ¬ SelfBlocked executor (.execute point))
    (segment : executeStep answer system point = some (after, next))
    (other : ∀ job, point = .completeDownload job → job.id ≠ id) :
    .redeems id ∈ after.reports ↔ .redeems id ∈ system.reports := by
  obtain ⟨events, grown, _, speech⟩ := executeStep_publishes free segment
  have reports : after.reports =
      system.reports ++ events.filterMap NetGuardianEvent.utterance := by
    rw [System.reports, grown, List.filterMap_append]
    rfl
  rw [reports, List.mem_append, or_iff_left]
  intro redeemed
  generalize said : events.filterMap NetGuardianEvent.utterance = words at speech redeemed
  generalize here : point.place = place at speech
  generalize there : next.place = following at speech
  cases speech with
  | redeems key =>
      cases List.mem_singleton.mp redeemed
      cases point with
      | completeDownload job =>
          cases here
          exact other job rfl rfl
      | completeQueue job =>
          cases segment
          cases there
      | returned job => cases job <;> cases here
      | _ => cases here
  | silence place => cases redeemed
  | enters key | quits key => cases redeemed
  | opens key | continues key | ends key | pledges key =>
      cases List.mem_singleton.mp redeemed

/-- What a segment does to the list of downloads. -/
theorem executeStep_downloads
    (segment : executeStep answer system point = some (after, next)) :
    after.downloads = system.downloads ∨
      (∃ job process, point = .track job process ∧
        after.downloads = system.downloads.track job (job.args.headD "")) ∨
      (∃ job process round elapsed, point = .updateDownload job process round elapsed ∧
        after.downloads = (system.downloads.updateProgress job.id
          (Duration.asSecs elapsed) 3600 (.finite 0)).1) ∨
      (∃ job, point = .completeDownload job ∧
        after.downloads = system.downloads.complete job.id 0) ∨
      ∃ job err, point = .failedDownload job err := by
  cases point with
  | dequeue =>
      rw [executeStep] at segment
      split at segment <;> cases segment <;> exact .inl rfl
  | lockPlugins job =>
      rw [executeStep] at segment
      split at segment
      · split at segment <;> cases segment <;> exact .inl rfl
      · cases segment
        exact .inl rfl
  | register job process =>
      rw [executeStep] at segment
      split at segment <;> cases segment <;> exact .inl rfl
  | poll job process round =>
      rw [executeStep, Option.some.injEq] at segment
      have same := pollStep_downloads answer system job process round
      rw [segment] at same
      exact .inl same
  | track job process =>
      cases segment
      exact .inr (.inl ⟨job, process, rfl, rfl⟩)
  | updateDownload job process round elapsed =>
      cases segment
      exact .inr (.inr (.inl ⟨job, process, round, elapsed, rfl, rfl⟩))
  | completeDownload job =>
      cases segment
      exact .inr (.inr (.inr (.inl ⟨job, rfl, rfl⟩)))
  | failedDownload job err => exact .inr (.inr (.inr (.inr ⟨job, err, rfl⟩)))
  | missing job | spawnFailed job err | timedOut job | succeeded job
  | completeQueue job | failed job err | failedPlugins job err | failedQueue job err
  | waitFailed job | cleanup job =>
      cases segment
      exact .inl rfl
  | returned job => cases segment

/-- Where a call comes from that is about to track a download, or to fail one. -/
theorem executeStep_leads (free : ¬ SelfBlocked executor (.execute point))
    (segment : executeStep answer system point = some (after, next)) :
    (∀ job, next.untracked? = some job → point.untracked? = some job ∨
        system.queue.dequeue = some (job, after.queue)) ∧
      (∀ job process, next = .track job process → job.IsDownload) ∧
      (∀ job err, next ≠ .failedQueue job err) ∧
      ∀ job err, next = .failedDownload job err →
        ∃ earlier, point = .failedQueue earlier err := by
  cases point with
  | dequeue =>
      rw [executeStep] at segment
      split at segment
      · cases segment
        simp [ExecPoint.untracked?]
      · next job rest taken =>
          cases segment
          simp [ExecPoint.untracked?, taken, System.publish]
  | lockPlugins job =>
      rw [executeStep] at segment
      split at segment
      · split at segment <;> cases segment <;> simp [ExecPoint.untracked?]
      · cases segment
        simp [ExecPoint.untracked?]
  | register job process =>
      rw [executeStep] at segment
      split at segment
      · next download =>
          cases segment
          refine ⟨fun _ same => .inl same, ?_, by simp, by simp⟩
          rintro _ _ ⟨⟩
          exact download
      · cases segment
        simp [ExecPoint.untracked?]
  | poll job process round =>
      rw [executeStep, Option.some.injEq] at segment
      have leads : next = (pollStep answer system job process round).2 := by rw [segment]
      rw [leads]
      unfold pollStep
      dsimp only
      split
      · simp [ExecPoint.untracked?]
      · split
        · split <;> simp [ExecPoint.untracked?]
        · split <;> simp [ExecPoint.untracked?]
        · simp [ExecPoint.untracked?]
  | failedPlugins job err =>
      exact absurd (selfBlocked_execute_iff.mpr ⟨job, err, rfl⟩) free
  | track job process | updateDownload job process round elapsed | completeDownload job
  | failedDownload job err | missing job | spawnFailed job err | timedOut job
  | succeeded job | completeQueue job | failed job err | failedQueue job err
  | waitFailed job | cleanup job =>
      cases segment
      simp [ExecPoint.untracked?]
  | returned job => cases segment

/-- A segment leaves the records of all other jobs alone. -/
theorem downloadRecord_of_other (free : ¬ SelfBlocked executor (.execute point))
    (segment : executeStep answer system point = some (after, next))
    (other : next.place.key? ≠ some id) :
    after.downloadRecord id = system.downloadRecord id := by
  have flag : .redeems id ∈ after.reports ↔ .redeems id ∈ system.reports := by
    refine redeems_iff free segment ?_
    rintro job rfl same
    cases segment
    exact other (congrArg some same)
  have lookup : after.downloads.jobs.lookup id = system.downloads.jobs.lookup id := by
    rcases executeStep_downloads segment with same | ⟨job, process, rfl, changed⟩ |
      ⟨job, process, round, elapsed, rfl, changed⟩ | ⟨job, rfl, changed⟩ |
      ⟨job, err, rfl⟩
    · rw [same]
    · cases segment
      exact AList.lookup_insert_ne fun same => other (congrArg some same.symm)
    · cases segment
      exact DownloadManager.lookup_change.trans
        (if_neg fun same => other (congrArg some same.symm))
    · cases segment
      exact DownloadManager.lookup_change.trans
        (if_neg fun same => other (congrArg some same.symm))
    · cases segment
      exact DownloadManager.lookup_change.trans
        (if_neg fun same => other (congrArg some same.symm))
  simp only [System.downloadRecord, lookup, flag]

/-- What a segment does to the record of its own job. -/
inductive RecordStep (manager : DownloadManager) (id : Nat) (record : DownloadRecord) :
    ExecPoint → DownloadRecord → Prop
  | keeps {point : ExecPoint} (other : ∀ job, point ≠ .completeDownload job) :
      RecordStep manager id record point record
  | tracks {job : Job} {process : ManagedProcess} {download : DownloadProgress}
      (tracked : download.TrackedFor manager job) (same : job.id = id)
      (none : download.totalBytes = 0 ∧ download.downloadedBytes = 0) :
      RecordStep manager id record (.track job process) (some download, record.2)
  | updates {job : Job} {process : ManagedProcess} {round : PollRound} (elapsed : Nat) :
      RecordStep manager id record (.updateDownload job process round elapsed)
        (record.1.map fun download =>
          { download with
            downloadedBytes := Duration.asSecs elapsed
            totalBytes := 3600
            speedBytesPerSec := .finite 0 }, record.2)
  | completes {job : Job} :
      RecordStep manager id record (.completeDownload job)
        (record.1.map fun download =>
          { download with downloadedBytes := 0, totalBytes := 0 }, true)

theorem executeStep_record (free : ¬ SelfBlocked executor (.execute point))
    (segment : executeStep answer system point = some (after, next))
    (unfailed : ∀ job err, point ≠ .failedDownload job err)
    (own : point.place.key? = some id) :
    RecordStep system.downloads id (system.downloadRecord id) point
      (after.downloadRecord id) := by
  by_cases completing : ∃ job, point = .completeDownload job
  · obtain ⟨job, rfl⟩ := completing
    cases own
    have announced : .redeems job.id ∈ after.reports := by
      cases segment
      simp [System.reports, System.publish, System.recordOperation, EventBus.publishAll,
        NetGuardianEvent.utterance]
    have record : after.downloadRecord job.id =
        ((system.downloads.complete job.id 0).jobs.lookup job.id, true) := by
      simp only [System.downloadRecord, announced, decide_true]
      cases segment
      rfl
    rw [record, DownloadManager.complete, DownloadManager.lookup_change, if_pos rfl]
    exact .completes
  · have other : ∀ job, point ≠ .completeDownload job := not_exists.mp completing
    have flag : .redeems id ∈ after.reports ↔ .redeems id ∈ system.reports :=
      redeems_iff free segment fun job here => absurd here (other job)
    rcases executeStep_downloads segment with same | ⟨job, process, rfl, changed⟩ |
      ⟨job, process, round, elapsed, rfl, changed⟩ | ⟨job, rfl, _⟩ | ⟨job, err, rfl⟩
    · have record : after.downloadRecord id = system.downloadRecord id := by
        simp only [System.downloadRecord, same, flag]
      rw [record]
      exact .keeps other
    · cases own
      have record : after.downloadRecord job.id =
          ((system.downloads.track job (job.args.headD "")).jobs.lookup job.id,
            (system.downloadRecord job.id).2) := by
        simp only [System.downloadRecord, changed, flag]
      rw [record, DownloadManager.track, AList.lookup_insert]
      exact .tracks ⟨rfl, rfl, rfl, rfl, rfl, rfl⟩ rfl ⟨rfl, rfl⟩
    · cases own
      have record : after.downloadRecord job.id =
          ((system.downloads.updateProgress job.id (Duration.asSecs elapsed) 3600
            (.finite 0)).1.jobs.lookup job.id, (system.downloadRecord job.id).2) := by
        simp only [System.downloadRecord, changed, flag]
      rw [record, DownloadManager.updateProgress, DownloadManager.lookup_change,
        if_pos rfl]
      exact .updates elapsed
    · exact absurd rfl (other job)
    · exact absurd rfl (unfailed job err)

end Segments

/-- The part of a system that only the first one decides. -/
structure System.Origin (first system : System) : Prop where
  waiting : ∀ work ∈ system.queue.jobs.map Job.work,
    work ∈ first.queue.jobs.map Job.work
  baseDir : system.downloads.baseDir = first.downloads.baseDir
  table : system.downloads.table = first.downloads.table

/-- What a call expects of the record of its job. -/
structure ExecPoint.Books (first : System) (point : ExecPoint) (id : Nat)
    (record : DownloadRecord) : Prop where
  tracked : ∀ download, record.1 = some download → ∃ job ∈ first.queue.jobs,
    job.id = id ∧ job.IsDownload ∧ download.TrackedFor first.downloads job
  unreported : (∀ key, point.place ≠ .settled key) → record.2 = false
  reported : record.2 = true → ∀ download, record.1 = some download →
    download.totalBytes = 0 ∧ download.downloadedBytes = 0
  untracked : ∀ job, point.untracked? = some job →
    job.work ∈ first.queue.jobs.map Job.work
  downloads : ∀ job process, point = .track job process → job.IsDownload
  unfailed : ∀ job err, point ≠ .failedQueue job err ∧ point ≠ .failedDownload job err

def Frame.Books (first : System) (frame : Frame) (id : Nat) (record : DownloadRecord) :
    Prop :=
  match frame with
  | .execute point => point.Books first id record
  | .control _ _ => True

section Books

variable {first system after : System} {answer : Answer} {point next : ExecPoint}
variable {id : Nat}

/-- What a job asks for is decided by its work. -/
theorem DownloadProgress.TrackedFor.of_work {download : DownloadProgress}
    {manager : DownloadManager} {job asked : Job}
    (tracked : download.TrackedFor manager job) (same : asked.work = job.work)
    (baseDir : manager.baseDir = first.downloads.baseDir)
    (table : manager.table = first.downloads.table) :
    download.TrackedFor first.downloads asked := by
  simp only [Job.work, Prod.mk.injEq] at same
  obtain ⟨sameId, samePlugin, _, sameArgs⟩ := same
  obtain ⟨jobId, url, plugin, destination, speed, error⟩ := tracked
  rw [baseDir, table] at destination
  exact ⟨by rw [jobId, sameId], by rw [url, sameArgs], by rw [plugin, samePlugin],
    by rw [destination, sameArgs], speed, error⟩

theorem executeStep_origin
    (segment : executeStep answer system point = some (after, next))
    (origin : System.Origin first system) : System.Origin first after := by
  have directory : after.downloads.baseDir = system.downloads.baseDir ∧
      after.downloads.table = system.downloads.table := by
    rcases executeStep_downloads segment with same | ⟨_, _, _, changed⟩ |
      ⟨_, _, _, _, _, changed⟩ | ⟨_, _, changed⟩ | ⟨job, err, rfl⟩
    · rw [same]
      exact ⟨rfl, rfl⟩
    · rw [changed]
      exact ⟨rfl, rfl⟩
    · rw [changed]
      exact DownloadManager.place_change
    · rw [changed]
      exact DownloadManager.place_change
    · cases segment
      exact DownloadManager.place_change
  refine ⟨?_, directory.1.trans origin.baseDir, directory.2.trans origin.table⟩
  rcases (executeStep_spawning segment).jobs with ⟨_, same⟩ | ⟨job, taken, _⟩
  · rw [same]
    exact origin.waiting
  · exact fun work member =>
      origin.waiting work ((QueueManager.dequeue_work taken).2 work member)

/-- A call that is through with its job stays so. -/
theorem settled_next (free : ¬ SelfBlocked executor (.execute point))
    (segment : executeStep answer system point = some (after, next)) {key : Nat}
    (settled : point.place = .settled key) : next.place = .settled key := by
  obtain ⟨events, _, _, speech⟩ := executeStep_publishes free segment
  rw [settled] at speech
  generalize events.filterMap NetGuardianEvent.utterance = said at speech
  generalize next.place = following at speech
  cases speech
  rfl

theorem executeStep_books (free : ¬ SelfBlocked executor (.execute point))
    (segment : executeStep answer system point = some (after, next))
    (own : point.place.key? = some id)
    (books : point.Books first id (system.downloadRecord id))
    (origin : System.Origin first system) :
    next.Books first id (after.downloadRecord id) := by
  obtain ⟨untracked, downloads, notFailed, failed⟩ := executeStep_leads free segment
  have settled := @settled_next _ _ _ _ _ free segment
  have record := executeStep_record free segment (fun job err => (books.unfailed job err).2)
    own
  obtain ⟨tracked, unreported, reported, pending, wanted, unfailed⟩ := books
  have laterPending : ∀ job, next.untracked? = some job →
      job.work ∈ first.queue.jobs.map Job.work := by
    intro job waits
    rcases untracked job waits with old | taken
    · exact pending job old
    · exact origin.waiting _ (QueueManager.dequeue_work taken).1
  have laterUnfailed : ∀ job err, next ≠ .failedQueue job err ∧
      next ≠ .failedDownload job err := by
    refine fun job err => ⟨notFailed job err, fun same => ?_⟩
    obtain ⟨earlier, before⟩ := failed job err same
    exact (unfailed earlier err).1 before
  generalize system.downloadRecord id = before at tracked unreported reported record
  generalize after.downloadRecord id = behind at record ⊢
  cases record with
  | keeps other =>
      refine ⟨tracked, fun busy => unreported fun key same => ?_, reported, laterPending,
        downloads, laterUnfailed⟩
      exact busy key (settled same)
  | @tracks job process download asks same none =>
      have silent : before.2 = false := unreported fun _ same => by cases same
      refine ⟨?_, fun _ => silent, fun told => ?_, laterPending, downloads, laterUnfailed⟩
      · rintro _ ⟨⟩
        obtain ⟨asked, member, work⟩ := List.mem_map.mp (pending job rfl)
        have sameWork := work
        simp only [Job.work, Prod.mk.injEq] at sameWork
        refine ⟨asked, member, sameWork.1.trans same, ?_,
          asks.of_work work origin.baseDir origin.table⟩
        rw [Job.IsDownload, sameWork.2.2.1]
        exact wanted job process rfl
      · rw [show before.2 = true from told] at silent
        cases silent
  | updates elapsed =>
      have silent : before.2 = false := unreported fun _ same => by cases same
      refine ⟨?_, fun _ => silent, fun told => ?_, laterPending, downloads, laterUnfailed⟩
      · intro download found
        obtain ⟨old, here, rfl⟩ := Option.map_eq_some_iff.mp found
        obtain ⟨job, member, same, isDownload, asks⟩ := tracked old here
        exact ⟨job, member, same, isDownload, asks.jobId, asks.url, asks.plugin,
          asks.destination, rfl, asks.error⟩
      · rw [show before.2 = true from told] at silent
        cases silent
  | completes =>
      refine ⟨?_, fun busy => ?_, fun _ => ?_, laterPending, downloads, laterUnfailed⟩
      · intro download found
        obtain ⟨old, here, rfl⟩ := Option.map_eq_some_iff.mp found
        obtain ⟨job, member, same, isDownload, asks⟩ := tracked old here
        exact ⟨job, member, same, isDownload, asks.jobId, asks.url, asks.plugin,
          asks.destination, asks.speed, asks.error⟩
      · cases segment
        exact absurd rfl (busy _)
      · intro download found
        obtain ⟨old, here, rfl⟩ := Option.map_eq_some_iff.mp found
        exact ⟨rfl, rfl⟩

/-- A call that takes a job finds nothing in the list for it. -/
theorem executeStep_opens (free : ¬ SelfBlocked executor (.execute point))
    (segment : executeStep answer system point = some (after, next))
    (idle : point.place.key? = none) (origin : System.Origin first system)
    (fresh : system.downloadRecord id = (none, false)) :
    next.Books first id (after.downloadRecord id) := by
  obtain ⟨untracked, downloads, notFailed, failed⟩ := executeStep_leads free segment
  have atStart : point = .dequeue := by
    cases point with
    | dequeue => rfl
    | returned job => cases segment
    | _ => cases idle
  have same : after.downloadRecord id = (none, false) := by
    have flag : .redeems id ∈ after.reports ↔ .redeems id ∈ system.reports :=
      redeems_iff free segment (by simp [atStart])
    have list : after.downloads = system.downloads := by
      rcases executeStep_downloads segment with same | ⟨_, _, there, _⟩ |
        ⟨_, _, _, _, there, _⟩ | ⟨_, there, _⟩ | ⟨_, _, there⟩
      · exact same
      all_goals cases atStart.symm.trans there
    rw [← fresh]
    simp only [System.downloadRecord, list, flag]
  rw [same]
  refine ⟨nofun, fun _ => rfl, nofun, fun job waits => ?_, downloads, fun job err =>
    ⟨notFailed job err, fun there => ?_⟩⟩
  · rcases untracked job waits with old | taken
    · rw [atStart] at old
      cases old
    · exact origin.waiting _ (QueueManager.dequeue_work taken).1
  · obtain ⟨_, here⟩ := failed job err there
    cases atStart.symm.trans here

/-- A call keeps its job. -/
theorem key_of_speech {place following : Place Nat} {said : List (Utterance Nat)}
    (speech : Speech place said following) {key : Nat} (own : place.key? = some key) :
    following.key? = some key := by
  cases speech with
  | opens other => cases own
  | _ => exact own

theorem executor_tendsRecords (first : System) :
    TendsRecords executor (fun frame => frame.place.key?) System.downloadRecord
      (fun record => record = (none, false)) (Frame.Books first) (System.Origin first) where
  good shared frame answer after next resumption origin := by
    cases frame with
    | execute point =>
        obtain ⟨_, rfl, segment⟩ := Frame.resume_execute resumption
        exact executeStep_origin segment origin
    | control call point =>
        obtain ⟨_, rfl, segment⟩ := Frame.resume_control resumption
        obtain ⟨_, _, downloads, _⟩ := controlStep_frame segment
        refine ⟨?_, by rw [downloads]; exact origin.baseDir,
          by rw [downloads]; exact origin.table⟩
        rw [(controlStep_spawning segment).2]
        exact origin.waiting
  steady shared frame answer after next key free resumption own := by
    obtain ⟨_, _, _, speech⟩ := resume_publishes free resumption
    exact key_of_speech speech own
  untouched shared frame answer after next free resumption key other := by
    cases frame with
    | execute point =>
        obtain ⟨_, rfl, segment⟩ := Frame.resume_execute resumption
        exact downloadRecord_of_other free segment other
    | control call point =>
        obtain ⟨_, rfl, segment⟩ := Frame.resume_control resumption
        have reports : after.reports = shared.reports := by
          rw [System.reports, (controlStep_segment segment).published]
          rfl
        rw [System.downloadRecord, (controlStep_frame segment).2.2.1, reports]
        rfl
  keeps shared frame answer after next key free resumption origin own books := by
    cases frame with
    | execute point =>
        obtain ⟨_, rfl, segment⟩ := Frame.resume_execute resumption
        exact executeStep_books free segment own books origin
    | control call point =>
        obtain ⟨_, rfl, _⟩ := Frame.resume_control resumption
        trivial
  takes shared frame answer after next key free resumption origin idle owns fresh := by
    cases frame with
    | execute point =>
        obtain ⟨_, rfl, segment⟩ := Frame.resume_execute resumption
        exact executeStep_opens free segment idle origin fresh
    | control call point =>
        obtain ⟨_, rfl, _⟩ := Frame.resume_control resumption
        trivial

/-- What the list of downloads says of a job, in every interleaving. -/
theorem books_run {guard : Pool System Frame → Label Frame Answer → Prop}
    {labels : List (Label Frame Answer)} {pool : Pool System Frame}
    (distinct : first.queue.ids.Nodup) (quiet : first.bus.published = [])
    (empty : first.downloads.jobs = ∅)
    (run : Guarded (step executor) guard ⟨first, []⟩ labels pool)
    {download : DownloadProgress}
    (listed : pool.shared.downloads.jobs.lookup id = some download) :
    id ∉ pool.shared.queue.ids ∧
      ∃ point, ExecPoint.Books first point id (pool.shared.downloadRecord id) := by
  have fresh : ∀ key, first.downloadRecord key = (none, false) := by
    intro key
    simp [System.downloadRecord, System.reports, quiet, empty]
  obtain ⟨_, custody, kept⟩ := kept_run executor_reports.hands
    (executor_tendsRecords first) ⟨fun _ here => here, rfl, rfl⟩ distinct fresh run
  rcases kept id with ⟨same, _⟩ | ⟨frame, member, owned, books⟩
  · have unlisted := congrArg Prod.fst same
    rw [show (pool.shared.downloadRecord id).1 = _ from listed] at unlisted
    cases unlisted
  · cases frame with
    | control call point => cases owned
    | execute point => exact ⟨waiting_not_owned custody member owned, point, books⟩

/-- In every interleaving of any number of calls that starts with an empty list: every
entry is the download of a job of the first queue that no longer waits, for the URL, the
plugin and the destination of that job and without an error; a download whose completion
is on the bus counts as active for ever; and no download counts as failed. -/
theorem downloads_come_from_jobs {guard : Pool System Frame → Label Frame Answer → Prop}
    {labels : List (Label Frame Answer)} {pool : Pool System Frame}
    (distinct : first.queue.ids.Nodup) (quiet : first.bus.published = [])
    (empty : first.downloads.jobs = ∅)
    (run : Guarded (step executor) guard ⟨first, []⟩ labels pool) :
    (∀ id download, pool.shared.downloads.jobs.lookup id = some download →
      id ∉ pool.shared.queue.ids ∧ ∃ job ∈ first.queue.jobs, job.id = id ∧
        job.IsDownload ∧ download.TrackedFor first.downloads job) ∧
      (∀ payload, .downloadCompleted payload ∈ pool.shared.bus.published →
        ∀ download, pool.shared.downloads.jobs.lookup payload.jobId = some download →
          download.outcome = .active) ∧
      ∀ addF64 order, (pool.shared.downloads.stats addF64 order).failed = 0 := by
  have listed : ∀ id download, pool.shared.downloads.jobs.lookup id = some download →
      id ∉ pool.shared.queue.ids ∧ ∃ job ∈ first.queue.jobs, job.id = id ∧
        job.IsDownload ∧ download.TrackedFor first.downloads job := by
    intro id download here
    obtain ⟨gone, point, books⟩ := books_run distinct quiet empty run here
    exact ⟨gone, books.tracked download here⟩
  refine ⟨listed, ?_, ?_⟩
  · intro payload announced download here
    obtain ⟨_, point, books⟩ := books_run distinct quiet empty run here
    have told : .redeems payload.jobId ∈ pool.shared.reports :=
      List.mem_filterMap.mpr ⟨_, announced, rfl⟩
    obtain ⟨total, _⟩ := books.reported (decide_eq_true told) download here
    obtain ⟨job, _, _, _, tracked⟩ := books.tracked download here
    simp [DownloadProgress.outcome, tracked.error, total]
  · intro addF64 order
    have counted := @DownloadManager.stats_counter pool.shared.downloads addF64 order .failed
    rw [DownloadStats.counter] at counted
    rw [counted, List.countP_eq_zero]
    intro download member
    obtain ⟨⟨id, _⟩, entry, rfl⟩ := List.mem_map.mp member
    obtain ⟨_, job, _, _, _, tracked⟩ := listed id _ (AList.mem_lookup_iff.mpr entry)
    simpa using DownloadProgress.outcome_of_error_none tracked.error

end Books

/-- One download that succeeds, from the announcement to the return of the call. -/
def downloadLabels : List (Label Frame Answer) :=
  .start .executeNext :: List.replicate 9 (.advance 0
    { plainAnswer with waited := fun _ => .ok (some 0) })

theorem downloads_come_from_jobs_success :
    ∃ pool download, Run (step executor) ⟨oneDownload, []⟩ downloadLabels pool ∧
      pool.shared.downloads.jobs.lookup 1 = some download ∧
      (∃ job ∈ oneDownload.queue.jobs, job.id = 1 ∧ job.IsDownload ∧
        download.TrackedFor oneDownload.downloads job) ∧
      pool.shared.reports = [.opens 1, .pledges 1, .redeems 1] ∧
      download.outcome = .active ∧
      ∀ addF64 order, (pool.shared.downloads.stats addF64 order).failed = 0 := by
  have run : Run (step executor) ⟨oneDownload, []⟩ downloadLabels _ :=
    run_of_exec_eq rfl
  obtain ⟨listed, completed, unfailed⟩ :=
    downloads_come_from_jobs (by decide) rfl rfl run
  exact ⟨_, _, run, rfl, (listed 1 _ rfl).2, rfl,
    completed _ (.tail _ (.tail _ (.head _))) _ rfl, unfailed⟩

end NetGuardian
