import NetGuardian.Metrics

/-!
# The whole metrics engine

The connectivity part of the metrics beside the counters of operations, and the
snapshot that reads both.  Every method takes one reading of the clock.
-/

namespace NetGuardian

structure BandwidthSample where
  rx : Nat
  tx : Nat
  time : Nat
deriving DecidableEq

structure MetricsSnapshot where
  uptimeSecs : Nat
  downtimeSecs : Nat
  totalRetries : Nat
  reconnectCount : Nat
  failedOperations : Nat
  successfulOperations : Nat
  bandwidthRxBytes : Nat
  bandwidthTxBytes : Nat
  avgLatencyMs : ℚ
  maxLatencyMs : ℚ
  avgPacketLossPct : ℚ
  maxPacketLossPct : ℚ
  sessionCount : Nat
  totalOperations : Nat
deriving DecidableEq

structure MetricsStore extends MetricsEngine where
  lastOnline : Option Nat
  lastOffline : Option Nat
  totalUptime : Nat
  totalDowntime : Nat
  latencies : List ℚ
  packetLosses : List ℚ
  reconnects : List Nat
  bandwidthSamples : List BandwidthSample
  rxBytes : Nat
  txBytes : Nat
  reconnectCount : Nat
  isOnline : Bool
deriving DecidableEq

namespace MetricsStore

def new : MetricsStore where
  toMetricsEngine := .new
  lastOnline := none
  lastOffline := none
  totalUptime := 0
  totalDowntime := 0
  latencies := []
  packetLosses := []
  reconnects := []
  bandwidthSamples := []
  rxBytes := 0
  txBytes := 0
  reconnectCount := 0
  isOnline := false

def recordConnectivity (metrics : MetricsStore)
    (latencyMs packetLossPct : ℚ) : MetricsStore :=
  { metrics with
    latencies := BoundedLog.push 1000 metrics.latencies latencyMs
    packetLosses := BoundedLog.push 1000 metrics.packetLosses packetLossPct }

/-- A period offline ends only where one has begun. -/
def recordOnline (metrics : MetricsStore) (now : Nat) : MetricsStore :=
  if metrics.isOnline then metrics
  else
    { metrics with
      isOnline := true
      reconnectCount := addU64 metrics.reconnectCount 1
      lastOnline := some now
      totalDowntime :=
        match metrics.lastOffline with
        | some offlineAt => metrics.totalDowntime + (now - offlineAt)
        | none => metrics.totalDowntime
      reconnects := metrics.reconnects ++ [now] }

def recordOffline (metrics : MetricsStore) (now : Nat) : MetricsStore :=
  if metrics.isOnline then
    { metrics with
      isOnline := false
      lastOffline := some now
      totalUptime :=
        match metrics.lastOnline with
        | some onlineAt => metrics.totalUptime + (now - onlineAt)
        | none => metrics.totalUptime }
  else metrics

def recordBandwidth (metrics : MetricsStore) (now rx tx : Nat) :
    MetricsStore :=
  { metrics with
    rxBytes := rx
    txBytes := tx
    bandwidthSamples :=
      BoundedLog.push 3600 metrics.bandwidthSamples ⟨rx, tx, now⟩ }

/-- The mean of the samples, or zero. -/
def average (samples : List ℚ) : ℚ :=
  if samples ≠ [] then samples.sum / samples.length else 0

/-- The greatest sample, or zero where none is positive. -/
def maximum (samples : List ℚ) : ℚ := samples.foldl max 0

/-- The first step of `snapshot` replaces the total of the current kind of
period by the length of the current period. -/
def refreshTotals (metrics : MetricsStore) (now : Nat) : MetricsStore :=
  if metrics.isOnline then
    match metrics.lastOnline with
    | some onlineAt => { metrics with totalUptime := now - onlineAt }
    | none => metrics
  else
    match metrics.lastOffline with
    | some offlineAt => { metrics with totalDowntime := now - offlineAt }
    | none => metrics

/-- Nothing but the two totals changes. -/
theorem refreshTotals_eq (metrics : MetricsStore) (now : Nat) :
    ∃ uptime downtime, metrics.refreshTotals now =
      { metrics with totalUptime := uptime, totalDowntime := downtime } := by
  unfold refreshTotals
  split
  · split
    · exact ⟨_, metrics.totalDowntime, rfl⟩
    · exact ⟨metrics.totalUptime, metrics.totalDowntime, rfl⟩
  · split
    · exact ⟨metrics.totalUptime, _, rfl⟩
    · exact ⟨metrics.totalUptime, metrics.totalDowntime, rfl⟩

def snapshot (metrics : MetricsStore) (now : Nat) :
    MetricsStore × MetricsSnapshot :=
  let refreshed := metrics.refreshTotals now
  (refreshed,
    { uptimeSecs := Duration.asSecs refreshed.totalUptime
      downtimeSecs := Duration.asSecs refreshed.totalDowntime
      totalRetries := refreshed.retryCount
      reconnectCount := refreshed.reconnectCount
      failedOperations := refreshed.failedOps
      successfulOperations := refreshed.successOps
      bandwidthRxBytes := refreshed.rxBytes
      bandwidthTxBytes := refreshed.txBytes
      avgLatencyMs := average refreshed.latencies
      maxLatencyMs := maximum refreshed.latencies
      avgPacketLossPct := average refreshed.packetLosses
      maxPacketLossPct := maximum refreshed.packetLosses
      sessionCount := refreshed.reconnects.length
      totalOperations := refreshed.operations.length })

end MetricsStore

end NetGuardian
