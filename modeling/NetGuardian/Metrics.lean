import NetGuardian.Primitives
import NetGuardian.Foundation.BoundedLog

/-!
# The metrics engine

The part of the metrics that the executor writes: the counters of operations
and retries with their records.
-/

namespace NetGuardian

structure OperationRecord where
  plugin : String
  description : String
  success : Bool
  retries : Nat
  timestamp : Nat
deriving DecidableEq

structure MetricsEngine where
  retries : List Nat
  operations : List OperationRecord
  retryCount : Nat
  failedOps : Nat
  successOps : Nat
deriving DecidableEq

namespace MetricsEngine

def new : MetricsEngine where
  retries := []
  operations := []
  retryCount := 0
  failedOps := 0
  successOps := 0

def recordOperation (metrics : MetricsEngine) (now : Nat)
    (plugin description : String) (success : Bool) (retries : Nat) :
    MetricsEngine :=
  { metrics with
    successOps :=
      if success then addU64 metrics.successOps 1 else metrics.successOps
    failedOps :=
      if success then metrics.failedOps else addU64 metrics.failedOps 1
    operations := BoundedLog.push 10000 metrics.operations
      ⟨plugin, description, success, retries, now⟩ }

def recordRetry (metrics : MetricsEngine) (now : Nat) : MetricsEngine :=
  { metrics with
    retryCount := addU64 metrics.retryCount 1
    retries := metrics.retries ++ [now] }

end MetricsEngine

end NetGuardian
