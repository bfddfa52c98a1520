import NetGuardian.OperationTotals
import NetGuardian.Foundation.SampleStatistics

/-!
# Statistics over the last samples

The latencies and the packet losses are kept in two bounded logs of a thousand
samples each.  In every run a snapshot therefore shows the mean and the maximum of
the last thousand samples, or of all of them as long as there are fewer.
-/

namespace NetGuardian

/-- The latency and the packet loss that a call records. -/
def MetricsCall.sample : MetricsCall → Option (ℚ × ℚ)
  | .recordConnectivity latencyMs packetLossPct => some (latencyMs, packetLossPct)
  | _ => none

namespace MetricsStore

/-- The samples recorded in a run. -/
def samplesOf (calls : List (Nat × MetricsCall)) : List (ℚ × ℚ) :=
  calls.filterMap fun timed => timed.2.sample

/-- The last thousand samples, or all of them if there are fewer. -/
def lastSamples (samples : List ℚ) : List ℚ :=
  samples.drop (samples.length - min samples.length 1000)

/-- Mean and maximum of the last samples, or zero without a sample. -/
structure ExactStatistics (samples : List ℚ) (average maximum : ℚ) : Prop where
  mean : samples ≠ [] →
    average = (lastSamples samples).sum / (lastSamples samples).length
  greatest : samples ≠ [] →
    IsGreatest { sample | sample ∈ lastSamples samples } maximum
  none : samples = [] → average = 0 ∧ maximum = 0
  ordered : average ≤ maximum

/-- What the engine keeps of the recorded samples. -/
structure KeepsSamples (calls : List (Nat × MetricsCall))
    (metrics : MetricsStore) : Prop where
  latencies : metrics.latencies =
    BoundedLog.newest 1000 ((samplesOf calls).map Prod.fst)
  packetLosses : metrics.packetLosses =
    BoundedLog.newest 1000 ((samplesOf calls).map Prod.snd)

section Windows

variable {calls : List (Nat × MetricsCall)} {metrics : MetricsStore}
variable {now : Nat} {call : MetricsCall} {samples : List ℚ}

/-- A call that records no sample leaves both logs alone. -/
theorem call_samples_of_none (other : call.sample = none) :
    (metrics.call now call).latencies = metrics.latencies ∧
      (metrics.call now call).packetLosses = metrics.packetLosses := by
  cases call with
  | recordConnectivity => cases other
  | recordOperation | recordRetry | recordBandwidth => exact ⟨rfl, rfl⟩
  | recordOnline =>
      have same := metrics.sameRecords_recordOnline now
      exact ⟨same.latencies, same.packetLosses⟩
  | recordOffline =>
      have same := metrics.sameRecords_recordOffline now
      exact ⟨same.latencies, same.packetLosses⟩
  | snapshot =>
      have same := metrics.sameRecords_refreshTotals now
      exact ⟨same.latencies, same.packetLosses⟩

theorem KeepsSamples.called (keeps : KeepsSamples calls metrics) :
    KeepsSamples (calls ++ [(now, call)]) (metrics.call now call) := by
  cases recorded : call.sample with
  | none =>
      have same : samplesOf (calls ++ [(now, call)]) = samplesOf calls := by
        simp [samplesOf, recorded]
      obtain ⟨latencies, packetLosses⟩ :=
        @call_samples_of_none metrics now call recorded
      refine ⟨?_, ?_⟩
      · rw [latencies, same, keeps.latencies]
      · rw [packetLosses, same, keeps.packetLosses]
  | some sample =>
      have grown : samplesOf (calls ++ [(now, call)]) = samplesOf calls ++ [sample] := by
        simp [samplesOf, recorded]
      cases call with
      | recordConnectivity latencyMs packetLossPct =>
          cases recorded
          refine ⟨?_, ?_⟩
          · rw [grown, List.map_append, List.map_singleton,
              ← BoundedLog.push_newest, ← keeps.latencies]
            rfl
          · rw [grown, List.map_append, List.map_singleton,
              ← BoundedLog.push_newest, ← keeps.packetLosses]
            rfl
      | _ => cases recorded

/-- In every run the two logs are windows on the recorded samples. -/
theorem keepsSamples_afterCalls (calls : List (Nat × MetricsCall)) :
    KeepsSamples calls (afterCalls calls) := by
  induction calls using List.reverseRecOn with
  | nil => exact ⟨rfl, rfl⟩
  | append_singleton calls timed ih =>
      rw [afterCalls_append]
      exact ih.called

theorem newest_eq_lastSamples (samples : List ℚ) :
    BoundedLog.newest 1000 samples = lastSamples samples := by
  have dropped : samples.length - 1000 = samples.length - min samples.length 1000 := by
    omega
  rw [BoundedLog.newest, lastSamples, dropped]

theorem lastSamples_ne_nil (nonempty : samples ≠ []) : lastSamples samples ≠ [] := by
  have positive := List.length_pos_of_ne_nil nonempty
  apply List.ne_nil_of_length_pos
  rw [lastSamples, List.length_drop]
  omega

/-- The statistics of the window over non-negative samples. -/
theorem exactStatistics_newest (nonneg : ∀ sample ∈ samples, 0 ≤ sample) :
    ExactStatistics samples (average (BoundedLog.newest 1000 samples))
      (maximum (BoundedLog.newest 1000 samples)) := by
  rw [newest_eq_lastSamples]
  by_cases nonempty : samples = []
  · subst nonempty
    exact ⟨fun some => absurd rfl some, fun some => absurd rfl some,
      fun _ => ⟨rfl, rfl⟩, le_rfl⟩
  · have window := lastSamples_ne_nil nonempty
    have mean : average (lastSamples samples) =
        (lastSamples samples).sum / (lastSamples samples).length := by
      rw [average, if_pos window]
    have greatest : IsGreatest { sample | sample ∈ lastSamples samples }
        (maximum (lastSamples samples)) :=
      SampleStatistics.isGreatest_foldl_max window
        fun sample member => nonneg sample (List.mem_of_mem_drop member)
    refine ⟨fun _ => mean, fun _ => greatest, fun empty => absurd empty nonempty, ?_⟩
    rw [mean]
    exact SampleStatistics.mean_le window fun sample member => greatest.2 member

/-- The statistics of the window lie within bounds of the samples. -/
theorem ExactStatistics.bounded {low high average maximum : ℚ}
    (exact : ExactStatistics samples average maximum) (nonempty : samples ≠ [])
    (within : ∀ sample ∈ samples, low ≤ sample ∧ sample ≤ high) :
    low ≤ average ∧ average ≤ maximum ∧ maximum ≤ high := by
  have inWindow : ∀ sample ∈ lastSamples samples, low ≤ sample ∧ sample ≤ high :=
    fun sample member => within sample (List.mem_of_mem_drop member)
  refine ⟨?_, exact.ordered, (inWindow maximum (exact.greatest nonempty).1).2⟩
  rw [exact.mean nonempty]
  exact SampleStatistics.le_mean (lastSamples_ne_nil nonempty)
    fun sample member => (inWindow sample member).1

/-- Sliding windows: after any run of calls with non-negative samples, a snapshot
shows the mean and the maximum of the last thousand latencies and packet losses, and
losses up to 100% give figures within 0% and 100%. -/
theorem snapshot_statistics (calls : List (Nat × MetricsCall)) (now : Nat)
    (nonneg : ∀ sample ∈ samplesOf calls, 0 ≤ sample.1 ∧ 0 ≤ sample.2) :
    ExactStatistics ((samplesOf calls).map Prod.fst)
        ((afterCalls calls).snapshot now).2.avgLatencyMs
        ((afterCalls calls).snapshot now).2.maxLatencyMs ∧
      ExactStatistics ((samplesOf calls).map Prod.snd)
        ((afterCalls calls).snapshot now).2.avgPacketLossPct
        ((afterCalls calls).snapshot now).2.maxPacketLossPct ∧
      ((∀ sample ∈ samplesOf calls, sample.2 ≤ 100) →
        0 ≤ ((afterCalls calls).snapshot now).2.avgPacketLossPct ∧
          ((afterCalls calls).snapshot now).2.avgPacketLossPct ≤
            ((afterCalls calls).snapshot now).2.maxPacketLossPct ∧
          ((afterCalls calls).snapshot now).2.maxPacketLossPct ≤ 100) := by
  have keeps := keepsSamples_afterCalls calls
  have latencies := @exactStatistics_newest ((samplesOf calls).map Prod.fst)
    (List.forall_mem_map.mpr fun sample member => (nonneg sample member).1)
  have losses := @exactStatistics_newest ((samplesOf calls).map Prod.snd)
    (List.forall_mem_map.mpr fun sample member => (nonneg sample member).2)
  have same := (afterCalls calls).sameRecords_refreshTotals now
  rw [← keeps.latencies, ← same.latencies] at latencies
  rw [← keeps.packetLosses, ← same.packetLosses] at losses
  refine ⟨latencies, losses, fun atMost => ?_⟩
  by_cases nonempty : (samplesOf calls).map Prod.snd = []
  · obtain ⟨noAverage, noMaximum⟩ := losses.none nonempty
    have average : ((afterCalls calls).snapshot now).2.avgPacketLossPct = 0 := noAverage
    have maximum : ((afterCalls calls).snapshot now).2.maxPacketLossPct = 0 := noMaximum
    rw [average, maximum]
    decide
  · exact losses.bounded nonempty (List.forall_mem_map.mpr
      fun sample member => ⟨(nonneg sample member).2, atMost sample member⟩)

/-- Two samples. -/
theorem snapshot_statistics_two :
    ExactStatistics [10, 20]
      ((afterCalls [(0, .recordConnectivity 10 0),
        (0, .recordConnectivity 20 5)]).snapshot 0).2.avgLatencyMs
      ((afterCalls [(0, .recordConnectivity 10 0),
        (0, .recordConnectivity 20 5)]).snapshot 0).2.maxLatencyMs :=
  (snapshot_statistics [(0, .recordConnectivity 10 0), (0, .recordConnectivity 20 5)]
    0 (by decide)).1

end Windows

end MetricsStore

end NetGuardian
