import NetGuardian.Accounting
import NetGuardian.Files

/-!
# How finished downloads are counted

`stats` infers from the byte counters and the error of a download whether it is
completed, failed or active.  `execute_next` completes a download with zero
bytes, and tells the download manager nothing of a timeout or of an error of
`try_wait`.  A call that returns has therefore not left its download as what it
was.
-/

namespace NetGuardian

open CooperativeTasks

inductive DownloadOutcome where
  | active
  | completed
  | failed
deriving DecidableEq

/-- The sum of the speeds is the one of the active downloads. -/
structure DownloadStats where
  total : Nat
  active : Nat
  completed : Nat
  failed : Nat
  totalBytesDownloaded : Nat
  activeSpeed : F64

namespace DownloadStats

def empty : DownloadStats where
  total := 0
  active := 0
  completed := 0
  failed := 0
  totalBytesDownloaded := 0
  activeSpeed := .finite 0

/-- One round of the loop of `stats`; `addF64` is the rounding addition. -/
def count (addF64 : F64 → F64 → F64) (stats : DownloadStats)
    (download : DownloadProgress) : DownloadStats :=
  let stats := { stats with
    total := stats.total + 1
    totalBytesDownloaded :=
      addU64 stats.totalBytesDownloaded download.downloadedBytes }
  if download.error.isSome then { stats with failed := stats.failed + 1 }
  else if 0 < download.totalBytes ∧
      download.totalBytes ≤ download.downloadedBytes then
    { stats with completed := stats.completed + 1 }
  else
    { stats with
      active := stats.active + 1
      activeSpeed := addF64 stats.activeSpeed download.speedBytesPerSec }

/-- The counter of an outcome. -/
def counter (stats : DownloadStats) : DownloadOutcome → Nat
  | .active => stats.active
  | .completed => stats.completed
  | .failed => stats.failed

end DownloadStats

/-- What `stats` takes a download for. -/
def DownloadProgress.outcome (download : DownloadProgress) : DownloadOutcome :=
  if download.error.isSome then .failed
  else if 0 < download.totalBytes ∧
      download.totalBytes ≤ download.downloadedBytes then .completed
  else .active

theorem DownloadProgress.outcome_of_error_none {download : DownloadProgress}
    (noError : download.error = none) : download.outcome ≠ .failed := by
  rw [outcome, noError, Option.isSome_none, if_neg Bool.false_ne_true]
  split <;> simp

namespace DownloadManager

/-- The downloads in the order of the iteration. -/
def list (manager : DownloadManager) (order : IterationOrder DownloadProgress) :
    List DownloadProgress :=
  order.iterate (manager.jobs.entries.map Sigma.snd)

def stats (manager : DownloadManager) (addF64 : F64 → F64 → F64)
    (order : IterationOrder DownloadProgress) : DownloadStats :=
  (manager.list order).foldl (DownloadStats.count addF64) .empty

variable {manager : DownloadManager} {id : Nat}

theorem counter_foldl {addF64 : F64 → F64 → F64} (outcome : DownloadOutcome)
    (downloads : List DownloadProgress) (stats : DownloadStats) :
    (downloads.foldl (DownloadStats.count addF64) stats).counter outcome =
      stats.counter outcome +
        downloads.countP fun download => download.outcome = outcome := by
  induction downloads generalizing stats with
  | nil => rfl
  | cons download downloads ih =>
      have one : (stats.count addF64 download).counter outcome =
          stats.counter outcome + if download.outcome = outcome then 1 else 0 := by
        unfold DownloadStats.count DownloadProgress.outcome
        dsimp only
        split
        · cases outcome <;> simp [DownloadStats.counter]
        · split
          · cases outcome <;> simp [DownloadStats.counter]
          · cases outcome <;> simp [DownloadStats.counter]
      rw [List.foldl_cons, ih, one, List.countP_cons]
      simp only [decide_eq_true_eq]
      omega

/-- The counters count the downloads by their outcomes. -/
theorem stats_counter (addF64 : F64 → F64 → F64)
    (order : IterationOrder DownloadProgress) (outcome : DownloadOutcome) :
    (manager.stats addF64 order).counter outcome =
      (manager.jobs.entries.map Sigma.snd).countP
        fun download => download.outcome = outcome := by
  rw [stats, counter_foldl, list, (order.perm _).countP_eq]
  cases outcome <;> simp [DownloadStats.counter, DownloadStats.empty]

/-- The download of the job is there, and `stats` counts it so. -/
def CountsAs (manager : DownloadManager) (id : Nat)
    (outcome : DownloadOutcome) : Prop :=
  ∃ download, manager.jobs.lookup id = some download ∧
    download.outcome = outcome

/-- The download of the job is there and has no error. -/
def Unfailed (manager : DownloadManager) (id : Nat) : Prop :=
  ∃ download, manager.jobs.lookup id = some download ∧ download.error = none

theorem CountsAs.unique {one other : DownloadOutcome}
    (first : manager.CountsAs id one) (second : manager.CountsAs id other) :
    one = other := by
  obtain ⟨download, found, rfl⟩ := first
  obtain ⟨same, again, rfl⟩ := second
  rw [found] at again
  cases again
  rfl

theorem Unfailed.not_countsAs_failed (unfailed : manager.Unfailed id) :
    ¬ manager.CountsAs id .failed := by
  rintro ⟨download, found, failed⟩
  obtain ⟨same, again, noError⟩ := unfailed
  rw [found] at again
  cases again
  exact download.outcome_of_error_none noError failed

theorem unfailed_track (job : Job) (url : String)
    (unfailed : manager.Unfailed id) : (manager.track job url).Unfailed id := by
  obtain ⟨download, found, noError⟩ := unfailed
  by_cases own : id = job.id
  · subst own
    exact ⟨_, AList.lookup_insert _, rfl⟩
  · exact ⟨download, (AList.lookup_insert_ne own).trans found, noError⟩

/-- A change that keeps the error of the download. -/
theorem unfailed_change {update : DownloadProgress → DownloadProgress}
    (keeps : ∀ download, (update download).error = download.error) (jobId : Nat)
    (unfailed : manager.Unfailed id) :
    (manager.change jobId update).1.Unfailed id := by
  obtain ⟨download, found, noError⟩ := unfailed
  unfold change
  split
  · exact ⟨download, found, noError⟩
  · next changed here =>
      by_cases own : id = jobId
      · subst own
        rw [found] at here
        cases here
        exact ⟨_, AList.lookup_insert _, (keeps download).trans noError⟩
      · exact ⟨download, (AList.lookup_insert_ne own).trans found, noError⟩

theorem unfailed_updateProgress (jobId downloaded total : Nat) (speed : F64)
    (unfailed : manager.Unfailed id) :
    (manager.updateProgress jobId downloaded total speed).1.Unfailed id := by
  apply unfailed_change _ jobId unfailed
  exact fun _ => rfl

theorem unfailed_complete (jobId totalBytes : Nat)
    (unfailed : manager.Unfailed id) :
    (manager.complete jobId totalBytes).Unfailed id := by
  apply unfailed_change _ jobId unfailed
  exact fun _ => rfl

/-- A download that is completed with zero bytes stays active. -/
theorem countsAs_complete_zero (unfailed : manager.Unfailed id) :
    (manager.complete id 0).CountsAs id .active := by
  obtain ⟨download, found, noError⟩ := unfailed
  refine ⟨{ download with downloadedBytes := 0, totalBytes := 0 }, ?_, ?_⟩
  · rw [complete, change, found]
    exact AList.lookup_insert _
  · simp [DownloadProgress.outcome, noError]

end DownloadManager

section Segment

variable {answer : Answer} {system after : System} {point next : ExecPoint}

/-- A round of the loop leaves the downloads to the segment behind it. -/
theorem pollStep_downloads (answer : Answer) (system : System) (job : Job)
    (process : ManagedProcess) (round : PollRound) :
    (pollStep answer system job process round).1.downloads = system.downloads := by
  unfold pollStep
  dsimp only
  split
  · rfl
  · split
    · split
      · rfl
      · rfl
    · split
      · rfl
      · rfl
    · rfl

/-- Only the segment behind the deadlock fails a download. -/
theorem executeStep_unfailed {id : Nat}
    (segment : executeStep answer system point = some (after, next))
    (free : ∀ job err, point ≠ .failedDownload job err)
    (unfailed : system.downloads.Unfailed id) : after.downloads.Unfailed id := by
  cases point with
  | dequeue =>
      rw [executeStep] at segment
      split at segment
      · cases segment
        exact unfailed
      · cases segment
        exact unfailed
  | lockPlugins job =>
      rw [executeStep] at segment
      split at segment
      · split at segment
        · cases segment
          exact unfailed
        · cases segment
          exact unfailed
      · cases segment
        exact unfailed
  | register job process =>
      rw [executeStep] at segment
      split at segment
      · cases segment
        exact unfailed
      · cases segment
        exact unfailed
  | poll job process round =>
      rw [executeStep, Option.some.injEq] at segment
      have same := pollStep_downloads answer system job process round
      rw [segment] at same
      dsimp only at same
      rw [same]
      exact unfailed
  | track job process =>
      cases segment
      exact DownloadManager.unfailed_track job _ unfailed
  | updateDownload job process round elapsed =>
      cases segment
      exact DownloadManager.unfailed_updateProgress job.id _ _ _ unfailed
  | completeDownload job =>
      cases segment
      exact DownloadManager.unfailed_complete job.id 0 unfailed
  | failedDownload job err => exact absurd rfl (free job err)
  | returned job => cases segment
  | missing job | spawnFailed job err | timedOut job | succeeded job
  | completeQueue job | failed job err | failedPlugins job err
  | failedQueue job err | waitFailed job | cleanup job =>
      cases segment
      exact unfailed

end Segment

/-- The call gets to a state, works on the job with an id, and the download of
that job has no error. -/
structure Downloads (work : Work) (system : System) (id : Nat) (after : System)
    (point : ExecPoint) : Prop where
  reached : Reaches work system after point
  working : ∃ job, point.job? = some job ∧ job.id = id
  unfailed : after.downloads.Unfailed id

section Downloads

variable {work : Work} {system current after : System}
variable {point next : ExecPoint} {id : Nat}

/-- One more segment. -/
theorem Downloads.step (here : Downloads work system id current point)
    (free : ∀ job err, point ≠ .failedPlugins job err)
    (noFailure : ∀ job err, point ≠ .failedDownload job err)
    (segment : executeStep (work.answers (.execute point)) current point =
      some (after, next)) : Downloads work system id after next where
  reached := here.reached.step free segment
  working := executeStep_working segment here.working
  unfailed := executeStep_unfailed segment noFailure here.unfailed

/-- The rounds of the loop leave the download without an error. -/
theorem Downloads.loop {job : Job} {process : ManagedProcess} {ending : Ending}
    (here : Downloads work system id current
      (.poll job process (.begin work.startAt)))
    (ends : work.Ends ending) :
    ∃ after polled, Downloads work system id after (ending.exit polled) := by
  have kept : ∀ {answer before point after next},
      executeStep answer before point = some (after, next) →
        point.InLoop → next.InLoop →
          ((∃ job, point.job? = some job ∧ job.id = id) ∧
            before.downloads.Unfailed id) →
          (∃ job, next.job? = some job ∧ job.id = id) ∧
            after.downloads.Unfailed id := by
    rintro answer before point after next segment inLoop - ⟨working, unfailed⟩
    refine ⟨executeStep_working segment working,
      executeStep_unfailed segment ?_ unfailed⟩
    rintro job err rfl
    exact inLoop
  obtain ⟨before, polled, round, reached, ⟨working, unfailed⟩, leads⟩ :=
    reaches_last_round kept here.reached ⟨here.working, here.unfailed⟩ ends
  have atRound : Downloads work system id before (.poll polled process round) :=
    ⟨reached, working, unfailed⟩
  exact ⟨_, polled, leads ▸ atRound.step (by simp) (by simp) rfl⟩

/-- A job that is tracked as a download gets to the loop. -/
theorem downloads_tracked {job : Job} {rest : QueueManager} {pid : Nat}
    (taken : system.queue.dequeue = some (job, rest))
    (known : system.plugins.has job.plugin = true)
    (started : work.spawned = .ok pid)
    (download : job.command = "curl" ∨ job.command = "wget") :
    ∃ after process, Downloads work system job.id after
      (.poll job process (.begin work.startAt)) := by
  have dequeued : Reaches work system _ (.lockPlugins job) :=
    reaches_start.step (by simp) (by rw [executeStep, taken])
  have spawned := dequeued.step (by simp) (lockPlugins_of_spawned known started)
  have registered := spawned.step (by simp)
    (by rw [executeStep, if_pos download])
  exact ⟨_, _, registered.step (by simp) rfl, ⟨job, rfl, rfl⟩, _,
    AList.lookup_insert _, rfl⟩

end Downloads

/-- What `stats` should count a download as, from the end of its process. -/
def Ending.outcome : Ending → DownloadOutcome
  | .exited 0 => .completed
  | .exited _ | .timedOut | .waitFailed _ => .failed

/-- A call that returns leaves the download of the job counted as what it
was. -/
def CountsAtReturn (work : Work) (system : System) (job : Job)
    (ending : Ending) : Prop :=
  ∀ after left, Reaches work system after (.returned (some left)) →
    after.downloads.CountsAs job.id ending.outcome

section Outcome

variable {work : Work} {system : System} {job : Job} {ending : Ending}

/-- From the loop on, a call that returns leaves the wrong outcome behind. -/
theorem Downloads.miscounted {current : System} {polled : Job}
    {process : ManagedProcess}
    (here : Downloads work system job.id current
      (.poll polled process (.begin work.startAt)))
    (ends : work.Ends ending) (success : ¬ ending.IsFailure) :
    ∃ after left, Reaches work system after (.returned (some left)) ∧
      ¬ after.downloads.CountsAs job.id ending.outcome := by
  obtain ⟨after, polled, leaving⟩ := here.loop ends
  cases ending with
  | timedOut =>
      have cleanup := leaving.step (by simp [Ending.exit]) (by simp [Ending.exit])
        rfl
      have returned := cleanup.step (by simp) (by simp) rfl
      exact ⟨_, _, returned.reached, returned.unfailed.not_countsAs_failed⟩
  | waitFailed error =>
      have cleanup := leaving.step (by simp [Ending.exit]) (by simp [Ending.exit])
        rfl
      have returned := cleanup.step (by simp) (by simp) rfl
      exact ⟨_, _, returned.reached, returned.unfailed.not_countsAs_failed⟩
  | exited code =>
      obtain rfl : code = 0 := by
        by_contra failure
        exact success failure
      have queued := leaving.step (by simp [Ending.exit]) (by simp [Ending.exit])
        rfl
      have downloaded := queued.step (by simp) (by simp) rfl
      obtain ⟨completed, works, sameId⟩ := downloaded.working
      cases works
      have active := DownloadManager.countsAs_complete_zero downloaded.unfailed
      have cleanup := downloaded.reached.step (by simp) rfl
      refine ⟨_, _, cleanup.step (by simp) rfl, fun done => ?_⟩
      rw [← sameId] at active done
      cases done.unique active

/-- A tracked download is counted as what it was exactly if the call never
returns: if its process ends with a non-zero exit code. -/
theorem countsAtReturn_iff {rest : QueueManager} {pid : Nat}
    (taken : system.queue.dequeue = some (job, rest))
    (known : system.plugins.has job.plugin = true)
    (started : work.spawned = .ok pid)
    (download : job.command = "curl" ∨ job.command = "wget")
    (ends : work.Ends ending) :
    CountsAtReturn work system job ending ↔ ending.IsFailure := by
  obtain ⟨before, process, polling⟩ :=
    downloads_tracked taken known started download
  constructor
  · intro counts
    by_contra success
    obtain ⟨after, left, returned, miscounted⟩ :=
      polling.miscounted ends success
    exact miscounted (counts after left returned)
  · intro failure after left returned
    rcases reaches_end polling.reached ends with
      ⟨_, blocked, job, err, stuck⟩ | ⟨success, _⟩
    · have same := (returned.final_unique stuck trivial trivial).2
      cases same
    · exact absurd failure success

/-- A system in which one download with `curl` is waiting. -/
def oneDownload : System :=
  { oneJob ["curl"] with
    queue := QueueManager.new.enqueue (Job.new 1 0 "curl" "" "curl"
      ["https://example.com/file"] .normal) }

/-- The download, once it has been dequeued. -/
def runningDownload : Job :=
  { Job.new 1 0 "curl" "" "curl" ["https://example.com/file"] .normal with
    status := .running }

theorem exitsWith_ends (code : Int) : (exitsWith code).Ends (.exited code) :=
  ⟨0, fun earlier below => absurd below (Nat.not_lt_zero earlier), rfl⟩

theorem countsAtReturn_iff_oneDownload :
    CountsAtReturn (exitsWith 0) oneDownload runningDownload (.exited 0) ↔
      (Ending.exited 0).IsFailure :=
  @countsAtReturn_iff (exitsWith 0) oneDownload runningDownload (.exited 0) _ 100
    rfl rfl rfl (.inl rfl) (exitsWith_ends 0)

/-- The process exits with zero, the call returns, and the download is counted
as active. -/
theorem finished_download_active :
    (∃ after left, Reaches (exitsWith 0) oneDownload after (.returned (some left)) ∧
        after.downloads.CountsAs 1 .active) ∧
      ¬ CountsAtReturn (exitsWith 0) oneDownload runningDownload (.exited 0) := by
  have returned : Reaches (exitsWith 0) oneDownload
      (callState (exitsWith 0) oneDownload 9).1 (.returned (some _)) := ⟨9, rfl⟩
  have active : (callState (exitsWith 0) oneDownload 9).1.downloads.CountsAs 1
      .active := ⟨_, rfl, rfl⟩
  refine ⟨⟨_, _, returned, active⟩, fun counts => ?_⟩
  cases (counts _ _ returned).unique active

end Outcome

end NetGuardian
