import NetGuardian.DownloadManager
import NetGuardian.Foundation.CooperativeTasks
import NetGuardian.Metrics
import NetGuardian.Orchestrator
import NetGuardian.ProcessSupervisor
import NetGuardian.QueueManager

/-!
# The job executor

`execute_next` and the three control calls as programs of await points.  A
segment starts with the acquisition of the mutex that its await point names,
and ends at the next await point.  A method that locks, works and unlocks is one
segment; guards that the code keeps in a variable stay alive across await points
and are listed by `Frame.guards`.
-/

namespace NetGuardian

/-- The plugins by name; `execute_next` only asks whether a name is known. -/
structure PluginManager where
  names : List String
deriving DecidableEq

def PluginManager.has (manager : PluginManager) (name : String) : Bool :=
  decide (name ∈ manager.names)

/-- The asynchronous mutexes that the executor's methods lock. -/
inductive Mutex where
  | plugins
  | orchestrator
  | queue
  | downloads
  | processes
deriving DecidableEq

inductive ControlKind where
  | pause
  | resume
  | cancel
deriving DecidableEq

namespace ControlKind

def signal : ControlKind → Signal
  | pause => .stop
  | resume => .cont
  | cancel => .terminate (Duration.fromSecs 3)

def status : ControlKind → JobStatus
  | pause => .paused
  | resume => .running
  | cancel => .cancelled

end ControlKind

/-- One call of a control method; `ticket` tells equal calls apart. -/
structure ControlCall where
  kind : ControlKind
  jobId : Nat
  ticket : Nat
deriving DecidableEq

/-- A signal that was sent, and the control call that sent it; `none` stands
for `execute_next`. -/
structure SignalRecord where
  sender : Option ControlCall
  signal : Signal
  process : ManagedProcess
deriving DecidableEq

/-- Everything that the tasks of the executor share.  `signals` is a log of
what was sent to processes. -/
structure System where
  queue : QueueManager
  plugins : PluginManager
  downloads : DownloadManager
  supervisor : ProcessSupervisor
  orchestrator : RetryOrchestrator
  bus : EventBus
  metrics : MetricsEngine
  signals : List SignalRecord

/-- What the environment answers at a resumption: the two clocks, the result of
starting a process, of waiting for one and of signalling one, and the readings
of `handle_failure`. -/
structure Answer where
  now : Nat
  stamp : Nat
  spawned : Except String Nat
  waited : ManagedProcess → Except String (Option Int)
  killed : ManagedProcess → Bool
  readings : FailureReadings

namespace System

def publish (system : System) (events : List NetGuardianEvent) : System :=
  { system with bus := system.bus.publishAll events }

def updateStatus (system : System) (stamp id : Nat) (status : JobStatus) :
    System :=
  { system with queue := (system.queue.updateStatus stamp id status).1 }

def recordOperation (system : System) (now : Nat) (job : Job)
    (success : Bool) : System :=
  { system with
    metrics := system.metrics.recordOperation now job.plugin job.description
      success job.retryCount }

def record (system : System) (sender : Option ControlCall) (signal : Signal)
    (targets : List ManagedProcess) : System :=
  { system with
    signals := system.signals ++ targets.map fun process =>
      ⟨sender, signal, process⟩ }

/-- `terminate` on the handle that `execute_next` holds. -/
def terminate (system : System) (grace : Nat) (process : ManagedProcess)
    (killed : ManagedProcess → Bool) : System :=
  { system with
    supervisor :=
      system.supervisor.deliver (.terminate grace) killed process }.record none
    (.terminate grace) [process]

def signalAll (system : System) (sender : Option ControlCall)
    (signal : Signal) (plugin : String) (killed : ManagedProcess → Bool) :
    System × List Bool :=
  let result := system.supervisor.signalAll signal plugin killed
  ({ system with supervisor := result.1 }.record sender signal
    (system.supervisor.tracked plugin), result.2)

def cleanup (system : System) (sender : Option ControlCall) (plugin : String)
    (killed : ManagedProcess → Bool) : System :=
  { system with supervisor := system.supervisor.cleanup plugin killed }.record
    sender (.terminate (Duration.fromSecs 1)) (system.supervisor.tracked plugin)

end System

/-- The locals of the polling loop.  `index` counts the rounds. -/
structure PollRound where
  start : Nat
  lastProgress : ℚ
  index : Nat

namespace PollRound

def begin (start : Nat) : PollRound where
  start := start
  lastProgress := 0
  index := 0

def next (round : PollRound) : PollRound :=
  { round with index := round.index + 1 }

/-- The crude estimate of the progress after an elapsed time. -/
def progress (elapsed : Nat) : ℚ :=
  min (Duration.asSecsF64 elapsed / 60) 99

/-- The estimate has moved by more than five points. -/
def Moved (round : PollRound) (progress : ℚ) : Prop :=
  5 < progress - round.lastProgress ∨ 5 < round.lastProgress - progress

instance (round : PollRound) (progress : ℚ) :
    Decidable (round.Moved progress) :=
  inferInstanceAs (Decidable (_ ∨ _))

end PollRound

/-- The await points of `execute_next`, with the locals that are still used. -/
inductive ExecPoint where
  | dequeue
  | lockPlugins (job : Job)
  | missing (job : Job)
  | spawnFailed (job : Job) (err : String)
  | register (job : Job) (process : ManagedProcess)
  | track (job : Job) (process : ManagedProcess)
  | poll (job : Job) (process : ManagedProcess) (round : PollRound)
  | updateDownload (job : Job) (process : ManagedProcess) (round : PollRound)
      (elapsed : Nat)
  | timedOut (job : Job)
  | succeeded (job : Job)
  | completeQueue (job : Job)
  | completeDownload (job : Job)
  | failed (job : Job) (err : String)
  | failedPlugins (job : Job) (err : String)
  | failedQueue (job : Job) (err : String)
  | failedDownload (job : Job) (err : String)
  | waitFailed (job : Job)
  | cleanup (job : Job)
  | returned (job : Option Job)

namespace ExecPoint

/-- The mutex that the segment after an await point acquires.  `poll` awaits
the timer, if anything. -/
def awaits : ExecPoint → Option Mutex
  | dequeue | missing _ | spawnFailed _ _ | timedOut _ | completeQueue _
  | failedQueue _ _ | waitFailed _ => some .queue
  | lockPlugins _ | failedPlugins _ _ => some .plugins
  | register _ _ | cleanup _ => some .processes
  | track _ _ | updateDownload _ _ _ _ | completeDownload _
  | failedDownload _ _ => some .downloads
  | succeeded _ | failed _ _ => some .orchestrator
  | poll _ _ _ | returned _ => none

/-- The guards in scope: `pm` from its acquisition to the end of the function,
`orch` to the end of its block. -/
def guards : ExecPoint → List Mutex
  | dequeue | lockPlugins _ | returned _ => []
  | missing _ | spawnFailed _ _ | register _ _ | track _ _ | poll _ _ _
  | updateDownload _ _ _ _ | timedOut _ | succeeded _ | failed _ _
  | waitFailed _ | cleanup _ => [.plugins]
  | completeQueue _ | completeDownload _ | failedPlugins _ _
  | failedQueue _ _ | failedDownload _ _ => [.plugins, .orchestrator]

/-- The job that the call works on. -/
def job? : ExecPoint → Option Job
  | dequeue => none
  | lockPlugins job | missing job | spawnFailed job _ | register job _
  | track job _ | poll job _ _ | updateDownload job _ _ _ | timedOut job
  | succeeded job | completeQueue job | completeDownload job | failed job _
  | failedPlugins job _ | failedQueue job _ | failedDownload job _
  | waitFailed job | cleanup job => some job
  | returned job => job

end ExecPoint

/-- One round of the polling loop. -/
def pollStep (answer : Answer) (system : System) (job : Job)
    (process : ManagedProcess) (round : PollRound) : System × ExecPoint :=
  let elapsed := Instant.elapsed round.start answer.now
  if Duration.fromSecs 3600 < elapsed then
    (system.terminate (Duration.fromSecs 3) process answer.killed,
      .timedOut { job with status := .failed "timeout" })
  else
    match answer.waited process with
    | .ok (some exitCode) =>
        let reaped := { system with
          supervisor := system.supervisor.tryWait process (answer.waited process) }
        if exitCode = 0 then (reaped, .succeeded job)
        else (reaped, .failed job ("exit code " ++ toString exitCode))
    | .ok none =>
        let progress := PollRound.progress elapsed
        if round.Moved progress then
          (system.publish [.jobProgress job.id (.finite progress) job.plugin],
            .updateDownload (job.setProgress answer.stamp (.finite progress))
              process { round with lastProgress := progress } elapsed)
        else (system, .poll job process round.next)
    | .error e =>
        (system, .waitFailed
          { job with status := .failed ("process error: " ++ e) })

/-- One segment of `execute_next`. -/
def executeStep (answer : Answer) (system : System) :
    ExecPoint → Option (System × ExecPoint)
  | .dequeue =>
      match system.queue.dequeue with
      | none => some (system, .returned none)
      | some (job, rest) =>
          some ({ system with queue := rest }.publish
            [.jobStarted (job.eventPayload none (.finite 0) answer.stamp)],
            .lockPlugins job)
  | .lockPlugins job =>
      if system.plugins.has job.plugin then
        match answer.spawned with
        | .error e =>
            let err := "failed to spawn: " ++ e
            some (system, .spawnFailed { job with status := .failed err } err)
        | .ok pid =>
            let spawned := system.supervisor.spawnProcess pid job.plugin
              (job.command :: job.args) job.id
            some ({ system with supervisor := spawned.2 },
              .register job spawned.1)
      else
        some (system, .missing
          { job with status := .failed ("plugin '" ++ job.plugin ++ "' not found") })
  | .missing job =>
      some (system.updateStatus answer.stamp job.id job.status,
        .returned (some job))
  | .spawnFailed job err =>
      some (((system.updateStatus answer.stamp job.id job.status).publish
        [.jobFailed (job.eventPayload (some err) (.finite 0) answer.stamp)]
        ).recordOperation answer.now job false, .returned (some job))
  | .register job process =>
      let tracked := { system with
        supervisor := system.supervisor.register job.plugin process }
      if job.command = "curl" ∨ job.command = "wget" then
        some (tracked, .track job process)
      else some (tracked, .poll job process (.begin answer.now))
  | .track job process =>
      some ({ system with
        downloads := system.downloads.track job (job.args.headD "") },
        .poll job process (.begin answer.now))
  | .poll job process round => some (pollStep answer system job process round)
  | .updateDownload job process round elapsed =>
      some ({ system with
        downloads := (system.downloads.updateProgress job.id
          (Duration.asSecs elapsed) 3600 (.finite 0)).1 },
        .poll job process round.next)
  | .timedOut job =>
      some (((system.updateStatus answer.stamp job.id job.status).publish
        [.jobFailed (job.eventPayload (some "timeout") job.progress
          answer.stamp)]).recordOperation answer.now job false, .cleanup job)
  | .succeeded job =>
      let handled := system.orchestrator.handleSuccess job answer.stamp
      some ({ system with orchestrator := handled.orchestrator }.publish
        handled.published, .completeQueue handled.job)
  | .completeQueue job =>
      some (system.updateStatus answer.stamp job.id .completed,
        .completeDownload job)
  | .completeDownload job =>
      some (({ system with downloads := system.downloads.complete job.id 0 }.publish
        [.downloadCompleted
          { jobId := job.id
            url := job.args.headD ""
            plugin := job.plugin
            progress := .finite 100
            speedBytesPerSec := .finite 0
            error := none
            timestamp := answer.stamp }]).recordOperation answer.now job true,
        .cleanup job)
  | .failed job err => some (system, .failedPlugins job err)
  -- No call gets past the mutex here, so the panic of `runFailure` is left out.
  | .failedPlugins job err =>
      let handled := system.orchestrator.handleFailure answer.readings job err
      some ({ system with orchestrator := handled.orchestrator }.publish
        handled.published, .failedQueue handled.job err)
  | .failedQueue job err =>
      some (system.updateStatus answer.stamp job.id job.status,
        .failedDownload job err)
  | .failedDownload job err =>
      let counted := { system with
        downloads := system.downloads.fail job.id err }.recordOperation
          answer.now job false
      some ({ counted with metrics := counted.metrics.recordRetry answer.now },
        .cleanup job)
  | .waitFailed job =>
      some ((system.updateStatus answer.stamp job.id job.status).recordOperation
        answer.now job false, .cleanup job)
  | .cleanup job =>
      some (system.cleanup none job.plugin answer.killed, .returned (some job))
  | .returned _ => none

/-- The await points of a control call. -/
inductive ControlPoint where
  | list
  | signal (plugin : String)
  | update (plugin : String) (results : List Bool)
  | cleanup (plugin : String) (results : List Bool)
  | returned (answer : Bool)
deriving DecidableEq

namespace ControlPoint

def awaits : ControlPoint → Option Mutex
  | list | update _ _ => some .queue
  | signal _ | cleanup _ _ => some .processes
  | returned _ => none

end ControlPoint

/-- One segment of `pause_job`, `resume_job` or `cancel_job`; only the last of
them cleans up. -/
def controlStep (call : ControlCall) (answer : Answer) (system : System) :
    ControlPoint → Option (System × ControlPoint)
  | .list =>
      match system.queue.list.find? (·.id = call.jobId) with
      | none => some (system, .returned false)
      | some job => some (system, .signal job.plugin)
  | .signal plugin =>
      let result := system.signalAll (some call) call.kind.signal plugin
        answer.killed
      some (result.1, .update plugin result.2)
  | .update plugin results =>
      let updated := system.updateStatus answer.stamp call.jobId call.kind.status
      if call.kind = .cancel then some (updated, .cleanup plugin results)
      else some (updated, .returned (results.any id))
  | .cleanup plugin results =>
      some (system.cleanup (some call) plugin answer.killed,
        .returned (results.any id))
  | .returned _ => none

/-- A task of the executor. -/
inductive Frame where
  | execute (point : ExecPoint)
  | control (call : ControlCall) (point : ControlPoint)

namespace Frame

def executeNext : Frame := .execute .dequeue

def pauseJob (jobId ticket : Nat) : Frame :=
  .control ⟨.pause, jobId, ticket⟩ .list

def resumeJob (jobId ticket : Nat) : Frame :=
  .control ⟨.resume, jobId, ticket⟩ .list

def cancelJob (jobId ticket : Nat) : Frame :=
  .control ⟨.cancel, jobId, ticket⟩ .list

/-- A call that has not started to run. -/
def isEntry : Frame → Bool
  | .execute .dequeue => true
  | .control _ .list => true
  | _ => false

def awaits : Frame → Option Mutex
  | .execute point => point.awaits
  | .control _ point => point.awaits

def guards : Frame → List Mutex
  | .execute point => point.guards
  | .control _ _ => []

def resume (system : System) (frame : Frame) (answer : Answer) :
    Option (System × Frame) :=
  match frame with
  | .execute point =>
      (executeStep answer system point).map fun next =>
        (next.1, .execute next.2)
  | .control call point =>
      (controlStep call answer system point).map fun next =>
        (next.1, .control call next.2)

end Frame

/-- The methods of `JobExecutor` as cooperative tasks. -/
def executor : CooperativeTasks.Program Mutex System Frame Answer where
  entry := Frame.isEntry
  awaits := Frame.awaits
  guards := Frame.guards
  resume := Frame.resume

/-- A job for a plugin, as a client creates it. -/
def clientJob (plugin : String) : Job :=
  Job.new 1 0 plugin "" "run" [] .normal

/-- A fresh system with one waiting job for the plugin `tool`. -/
def oneJob (plugins : List String) : System where
  queue := QueueManager.new.enqueue (clientJob "tool")
  plugins := ⟨plugins⟩
  downloads := .new .asciiOnly "/tmp/netguardian-downloads"
  supervisor := .new
  orchestrator := .new 5 .default
  bus := .new
  metrics := .new
  signals := []

/-- The queue of `oneJob` is what a client gets by enqueueing one job. -/
theorem oneJob_reachable (plugins : List String) :
    (oneJob plugins).queue.Reachable :=
  ⟨[(0, .enqueue "tool" "" "run" [] .normal)], rfl, by decide⟩

/-- The answers of a world that is used for nothing in particular. -/
def plainAnswer : Answer where
  now := 0
  stamp := 0
  spawned := .ok 100
  waited := fun _ => .ok none
  killed := fun _ => true
  readings := ⟨0, 0, 0, 0, 0⟩

end NetGuardian
