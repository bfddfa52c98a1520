import NetGuardian.Filenames
import NetGuardian.Job

/-!
# The download manager

Downloads are tracked by job id, with a destination made from the URL.
-/

namespace NetGuardian

structure DownloadProgress where
  jobId : Nat
  url : String
  plugin : String
  destination : Path
  totalBytes : Nat
  downloadedBytes : Nat
  speedBytesPerSec : F64
  error : Option String
deriving DecidableEq

/-- The state behind the manager's mutex, with the Unicode table of the
process. -/
structure DownloadManager where
  jobs : AList fun _ : Nat => DownloadProgress
  activeLimit : Nat
  baseDir : Path
  table : AlphanumericTable

namespace DownloadManager

def new (table : AlphanumericTable) (downloadDir : Path) : DownloadManager where
  jobs := ∅
  activeLimit := 3
  baseDir := downloadDir
  table := table

/-- `sanitize_filename` of the download manager. -/
def sanitizeFilename (table : AlphanumericTable) (url : String) : String :=
  table.replaceSpecial url

def track (manager : DownloadManager) (job : Job) (url : String) :
    DownloadManager :=
  { manager with
    jobs := manager.jobs.insert job.id
      { jobId := job.id
        url := url
        plugin := job.plugin
        destination :=
          joinPath manager.baseDir (sanitizeFilename manager.table url)
        totalBytes := 0
        downloadedBytes := 0
        speedBytesPerSec := .finite 0
        error := none } }

/-- A change of the download of a job, if there is one. -/
def change (manager : DownloadManager) (jobId : Nat)
    (update : DownloadProgress → DownloadProgress) : DownloadManager × Bool :=
  match manager.jobs.lookup jobId with
  | none => (manager, false)
  | some download =>
      ({ manager with jobs := manager.jobs.insert jobId (update download) }, true)

def updateProgress (manager : DownloadManager) (jobId downloaded total : Nat)
    (speed : F64) : DownloadManager × Bool :=
  manager.change jobId fun download =>
    { download with
      downloadedBytes := downloaded
      totalBytes := total
      speedBytesPerSec := speed }

def complete (manager : DownloadManager) (jobId totalBytes : Nat) :
    DownloadManager :=
  (manager.change jobId fun download =>
    { download with
      downloadedBytes := totalBytes
      totalBytes := totalBytes }).1

def fail (manager : DownloadManager) (jobId : Nat) (error : String) :
    DownloadManager :=
  (manager.change jobId fun download => { download with error := some error }).1

end DownloadManager

end NetGuardian
