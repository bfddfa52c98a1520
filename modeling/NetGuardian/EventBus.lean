import NetGuardian.Job

/-!
# The event bus

All components share one broadcast channel.  Its content is described by the
list of all events that have ever been published; what a subscriber sees of that
list is the subject of `Foundation.Broadcast`.  The variants below are the ones
that the program publishes.
-/

namespace NetGuardian

structure NetworkMetrics where
  latencyMs : F64
  packetLossPct : F64
  dnsHealthy : Bool
  jitterMs : Option F64
  bandwidthKbps : Option F64
deriving DecidableEq

structure JobEventPayload where
  jobId : Nat
  plugin : String
  description : String
  priority : Nat
  retryCount : Nat
  owner : Option String
  error : Option String
  progress : F64
  timestamp : Nat
deriving DecidableEq

structure RetryEventPayload where
  jobId : Nat
  attempt : Nat
  delayMs : Nat
  failureClass : String
  error : String
  timestamp : Nat
deriving DecidableEq

structure DownloadEventPayload where
  jobId : Nat
  url : String
  plugin : String
  progress : F64
  speedBytesPerSec : F64
  error : Option String
  timestamp : Nat
deriving DecidableEq

inductive NetGuardianEvent where
  | internetLost
  | internetRecovered (metrics : NetworkMetrics)
  | packetLossHigh (packetLossPct latencyMs : F64) (interface : Option String)
  | latencyHigh (latencyMs packetLossPct : F64) (interface : Option String)
  | jobStarted (payload : JobEventPayload)
  | jobCompleted (payload : JobEventPayload)
  | jobFailed (payload : JobEventPayload)
  | jobProgress (jobId : Nat) (progress : F64) (plugin : String)
  | retryStarted (payload : RetryEventPayload)
  | retryExhausted (jobId attempts : Nat) (lastError : String)
  | downloadCompleted (payload : DownloadEventPayload)
  | jobControlPause (jobId : Nat)
  | jobControlResume (jobId : Nat)
  | jobControlCancel (jobId : Nat)
deriving DecidableEq

/-- The payload of every lifecycle event of a job. -/
def Job.eventPayload (job : Job) (error : Option String) (progress : F64)
    (timestamp : Nat) : JobEventPayload where
  jobId := job.id
  plugin := job.plugin
  description := job.description
  priority := job.priority.asU8
  retryCount := job.retryCount
  owner := job.owner
  error := error
  progress := progress
  timestamp := timestamp

/-- Everything published so far, oldest first. -/
structure EventBus where
  published : List NetGuardianEvent

namespace EventBus

/-- The argument of `broadcast::channel`. -/
def capacity : Nat := 256

def new : EventBus where
  published := []

def publish (bus : EventBus) (event : NetGuardianEvent) : EventBus where
  published := bus.published ++ [event]

def publishAll (bus : EventBus) (events : List NetGuardianEvent) : EventBus where
  published := bus.published ++ events

end EventBus

end NetGuardian
