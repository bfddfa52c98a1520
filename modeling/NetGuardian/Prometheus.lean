import NetGuardian.Foundation.ExpositionText
import NetGuardian.SnapshotEffects

/-!
# The exposition of the metrics

`format_prometheus` is written for a scraper, which reads the text line by line.  It
finds each of the twelve figures of the snapshot under its own name.
-/

namespace NetGuardian

open ExpositionText PlainText

namespace MetricsSnapshot

/-- The figures that are whole numbers, by their names in the text. -/
def counters (s : MetricsSnapshot) : List (String × Nat) :=
  [("netguardian_uptime_seconds", s.uptimeSecs),
    ("netguardian_downtime_seconds", s.downtimeSecs),
    ("netguardian_retries_total", s.totalRetries),
    ("netguardian_reconnects_total", s.reconnectCount),
    ("netguardian_operations_failed_total", s.failedOperations),
    ("netguardian_operations_success_total", s.successfulOperations),
    ("netguardian_bandwidth_rx_bytes", s.bandwidthRxBytes),
    ("netguardian_bandwidth_tx_bytes", s.bandwidthTxBytes),
    ("netguardian_session_count", s.sessionCount),
    ("netguardian_total_operations", s.totalOperations)]

def gauges (s : MetricsSnapshot) : List (String × ℚ) :=
  [("netguardian_latency_ms", s.avgLatencyMs),
    ("netguardian_packet_loss_pct", s.avgPacketLossPct)]

end MetricsSnapshot

/-- A comment that explains a name. -/
def helpLine (name help : String) : ExpositionText.Line :=
  .comment (" HELP " ++ name ++ " " ++ help).toList

def gaugeLine (name : String) : ExpositionText.Line :=
  .comment (" TYPE " ++ name ++ " gauge").toList

def counterLine (name : String) (value : Nat) : ExpositionText.Line :=
  .sample name.toList (Nat.toDigits 10 value)

section Exposition

variable (display : ℚ → String)

/-- The lines of the text. -/
def MetricsSnapshot.exposition (s : MetricsSnapshot) : List ExpositionText.Line :=
  [helpLine "netguardian_uptime_seconds" "Total uptime",
    gaugeLine "netguardian_uptime_seconds",
    counterLine "netguardian_uptime_seconds" s.uptimeSecs,
    helpLine "netguardian_downtime_seconds" "Total downtime",
    counterLine "netguardian_downtime_seconds" s.downtimeSecs,
    helpLine "netguardian_retries_total" "Total retries",
    counterLine "netguardian_retries_total" s.totalRetries,
    helpLine "netguardian_reconnects_total" "Total reconnects",
    counterLine "netguardian_reconnects_total" s.reconnectCount,
    helpLine "netguardian_operations_failed_total" "Failed operations",
    counterLine "netguardian_operations_failed_total" s.failedOperations,
    helpLine "netguardian_operations_success_total" "Successful operations",
    counterLine "netguardian_operations_success_total" s.successfulOperations,
    helpLine "netguardian_latency_ms" "Average latency",
    gaugeLine "netguardian_latency_ms",
    .sample "netguardian_latency_ms".toList (display s.avgLatencyMs).toList,
    helpLine "netguardian_packet_loss_pct" "Average packet loss",
    .sample "netguardian_packet_loss_pct".toList
      (display s.avgPacketLossPct).toList,
    helpLine "netguardian_bandwidth_rx_bytes" "RX bandwidth",
    counterLine "netguardian_bandwidth_rx_bytes" s.bandwidthRxBytes,
    helpLine "netguardian_bandwidth_tx_bytes" "TX bandwidth",
    counterLine "netguardian_bandwidth_tx_bytes" s.bandwidthTxBytes,
    helpLine "netguardian_session_count" "Session count",
    counterLine "netguardian_session_count" s.sessionCount,
    helpLine "netguardian_total_operations" "Total operations",
    counterLine "netguardian_total_operations" s.totalOperations]

theorem helpLine_render (name help : String) :
    (helpLine name help).render ++ ['\n'] =
      ("# HELP " ++ name ++ " " ++ help ++ "\n").toList := by
  simp only [helpLine, ExpositionText.Line.render, String.toList_append]
  rfl

theorem gaugeLine_render (name : String) :
    (gaugeLine name).render ++ ['\n'] = ("# TYPE " ++ name ++ " gauge\n").toList := by
  simp only [gaugeLine, ExpositionText.Line.render, String.toList_append]
  simp

theorem counterLine_render (name : String) (value : Nat) :
    (counterLine name value).render ++ ['\n'] =
      (MetricsStore.prometheusLine name (toString value)).toList := by
  simp only [counterLine, ExpositionText.Line.render, MetricsStore.prometheusLine,
    String.toList_append, Nat.toString_eq_repr, Nat.toList_repr]
  simp

theorem sample_render (name value : String) :
    (ExpositionText.Line.sample name.toList value.toList).render ++ ['\n'] =
      (MetricsStore.prometheusLine name value).toList := by
  simp only [ExpositionText.Line.render, MetricsStore.prometheusLine,
    String.toList_append]
  simp

/-- The text is made of its lines. -/
theorem formatPrometheus_toList (metrics : MetricsStore) (now : Nat) :
    (metrics.formatPrometheus display now).2.toList =
      ExpositionText.render ((metrics.snapshot now).2.exposition display) := by
  simp only [ExpositionText.render, MetricsSnapshot.exposition, List.flatMap_cons,
    List.flatMap_nil, helpLine_render, gaugeLine_render, counterLine_render,
    sample_render, String.reduceAppend]
  simp only [MetricsStore.formatPrometheus, String.toList_append, List.append_assoc,
    List.append_nil]

variable {display}

/-- A value that fits on one line behind its name. -/
def OneLine (value : List Char) : Prop :=
  '\n' ∉ value ∧ value.getLast? ≠ some '\r'

/-- A name of letters that a scraper takes for one. -/
def PlainName (name : String) : Prop :=
  ' ' ∉ name.toList ∧ name.toList.head? ≠ some '#' ∧ '\n' ∉ name.toList

theorem plain_sample {name : String} {value : List Char} (plain : PlainName name)
    (shown : OneLine value) :
    (ExpositionText.Line.sample name.toList value).Plain := by
  obtain ⟨blank, mark, feed⟩ := plain
  refine ⟨blank, mark, ?_, ?_⟩
  · rw [List.mem_append, not_or, List.mem_cons, not_or]
    exact ⟨feed, by decide, shown.1⟩
  · rw [List.getLast?_append, List.getLast?_cons]
    cases last : value.getLast? with
    | none => simp
    | some letter =>
        have differs := shown.2
        rw [last] at differs
        simpa using differs

theorem oneLine_toDigits (value : Nat) : OneLine (Nat.toDigits 10 value) := by
  have digits : ∀ letter ∈ Nat.toDigits 10 value, letter.isDigit = true :=
    fun _ member => Nat.isDigit_of_mem_toDigits (by decide) (by decide) member
  refine ⟨fun feed => ?_, fun carriage => ?_⟩
  · have digit := digits _ feed
    cases digit
  · have digit := digits _ (List.mem_of_getLast? carriage)
    cases digit

theorem plain_counter {name : String} (value : Nat) (plain : PlainName name) :
    (counterLine name value).Plain :=
  plain_sample plain (oneLine_toDigits value)

theorem plain_help {name help : String}
    (line : IsLine ('#' :: (" HELP " ++ name ++ " " ++ help).toList)) :
    (helpLine name help).Plain := line

theorem plain_gauge {name : String}
    (line : IsLine ('#' :: (" TYPE " ++ name ++ " gauge").toList)) :
    (gaugeLine name).Plain := line

instance (text : List Char) : Decidable (IsLine text) :=
  inferInstanceAs (Decidable (_ ∧ _))

instance (name : String) : Decidable (PlainName name) :=
  inferInstanceAs (Decidable (_ ∧ _))

theorem plain_exposition (shown : ∀ value, OneLine (display value).toList)
    (s : MetricsSnapshot) : ∀ line ∈ s.exposition display, line.Plain := by
  simp only [MetricsSnapshot.exposition, List.forall_mem_cons, List.not_mem_nil,
    false_implies, implies_true, and_true]
  refine ⟨plain_help ?_, plain_gauge ?_, plain_counter _ ?_, plain_help ?_,
    plain_counter _ ?_, plain_help ?_, plain_counter _ ?_, plain_help ?_,
    plain_counter _ ?_, plain_help ?_, plain_counter _ ?_, plain_help ?_,
    plain_counter _ ?_, plain_help ?_, plain_gauge ?_, plain_sample ?_ (shown _),
    plain_help ?_, plain_sample ?_ (shown _), plain_help ?_, plain_counter _ ?_,
    plain_help ?_, plain_counter _ ?_, plain_help ?_, plain_counter _ ?_,
    plain_help ?_, plain_counter _ ?_⟩
  all_goals decide +kernel

/-- What a scraper reads. -/
theorem read_formatPrometheus (shown : ∀ value, OneLine (display value).toList)
    (metrics : MetricsStore) (now : Nat) :
    read (metrics.formatPrometheus display now).2.toList =
      ((metrics.snapshot now).2.exposition display).filterMap
        ExpositionText.Line.sample? := by
  rw [formatPrometheus_toList,
    read_render (plain_exposition shown (metrics.snapshot now).2)]

/-- The names of the figures, in the order of the text. -/
def exposedNames : List String :=
  ["netguardian_uptime_seconds", "netguardian_downtime_seconds",
    "netguardian_retries_total", "netguardian_reconnects_total",
    "netguardian_operations_failed_total", "netguardian_operations_success_total",
    "netguardian_latency_ms", "netguardian_packet_loss_pct",
    "netguardian_bandwidth_rx_bytes", "netguardian_bandwidth_tx_bytes",
    "netguardian_session_count", "netguardian_total_operations"]

theorem exposedNames_nodup : exposedNames.Nodup := by
  simp [exposedNames]

theorem names_exposition (s : MetricsSnapshot) :
    ((s.exposition display).filterMap ExpositionText.Line.sample?).map Prod.fst =
      exposedNames.map String.toList := by
  simp only [MetricsSnapshot.exposition, counterLine, helpLine, gaugeLine,
    List.filterMap_cons, List.filterMap_nil, ExpositionText.Line.sample?,
    List.map_cons, List.map_nil, exposedNames]

theorem counters_exposed (s : MetricsSnapshot) : ∀ counter ∈ s.counters,
    (counter.1.toList, Nat.toDigits 10 counter.2) ∈
      (s.exposition display).filterMap ExpositionText.Line.sample? := by
  simp only [MetricsSnapshot.counters, List.forall_mem_cons, List.not_mem_nil,
    false_implies, implies_true, and_true]
  exact ⟨List.mem_of_getElem? (i := 0) rfl, List.mem_of_getElem? (i := 1) rfl,
    List.mem_of_getElem? (i := 2) rfl, List.mem_of_getElem? (i := 3) rfl,
    List.mem_of_getElem? (i := 4) rfl, List.mem_of_getElem? (i := 5) rfl,
    List.mem_of_getElem? (i := 8) rfl, List.mem_of_getElem? (i := 9) rfl,
    List.mem_of_getElem? (i := 10) rfl, List.mem_of_getElem? (i := 11) rfl⟩

theorem gauges_exposed (s : MetricsSnapshot) : ∀ gauge ∈ s.gauges,
    (gauge.1.toList, (display gauge.2).toList) ∈
      (s.exposition display).filterMap ExpositionText.Line.sample? := by
  simp only [MetricsSnapshot.gauges, List.forall_mem_cons, List.not_mem_nil,
    false_implies, implies_true, and_true]
  exact ⟨List.mem_of_getElem? (i := 6) rfl, List.mem_of_getElem? (i := 7) rfl⟩

/-- A scraper reads twelve names, each of them once, and under each of them the
figure of the snapshot that was taken for the text: the whole numbers as numerals,
the two averages as they are displayed. -/
theorem figures_read_back (shown : ∀ value, OneLine (display value).toList)
    (metrics : MetricsStore) (now : Nat) :
    let text := (metrics.formatPrometheus display now).2.toList
    let s := (metrics.snapshot now).2
    (read text).map Prod.fst = exposedNames.map String.toList ∧
      ((read text).map Prod.fst).Nodup ∧
      (∀ counter ∈ s.counters, ∃ value,
        valueOf counter.1.toList text = some value ∧ Numeral value counter.2) ∧
      ∀ gauge ∈ s.gauges,
        valueOf gauge.1.toList text = some (display gauge.2).toList := by
  intro text s
  have found : read text = (s.exposition display).filterMap _ :=
    read_formatPrometheus shown metrics now
  have names : (read text).map Prod.fst = exposedNames.map String.toList := by
    rw [found, names_exposition]
  have distinct : ((read text).map Prod.fst).Nodup := by
    rw [names]
    exact exposedNames_nodup.map fun _ _ same => String.toList_injective same
  refine ⟨names, distinct, ?_, ?_⟩
  · intro counter member
    refine ⟨Nat.toDigits 10 counter.2, valueOf_of_mem distinct ?_,
      numeral_toDigits counter.2⟩
    rw [found]
    exact counters_exposed s counter member
  · intro gauge member
    refine valueOf_of_mem distinct ?_
    rw [found]
    exact gauges_exposed s gauge member

/-- An engine with two samples, a failed operation, two retries and traffic. -/
def busyEngine : MetricsStore :=
  [MetricsCall.recordOnline, .recordConnectivity 30 5, .recordConnectivity 50 10,
    .recordOperation "curl" "download" false 1, .recordRetry, .recordRetry,
    .recordBandwidth 700 300].foldl (fun metrics call => metrics.call 0 call) .new

/-- Read back with a display that rounds to whole numbers. -/
theorem figures_read_back_busy :
    let text := (busyEngine.formatPrometheus (fun value => toString value.floor.toNat)
      (Duration.fromSecs 60)).2.toList
    ((read text).map Prod.fst).Nodup ∧
      (∃ value, valueOf "netguardian_retries_total".toList text = some value ∧
        Numeral value 2) ∧
      (∃ value, valueOf "netguardian_uptime_seconds".toList text = some value ∧
        Numeral value 60) ∧
      valueOf "netguardian_latency_ms".toList text = some "40".toList := by
  intro text
  have shown : ∀ value : ℚ, OneLine (toString value.floor.toNat).toList := by
    intro value
    rw [Nat.toString_eq_repr, Nat.toList_repr]
    exact oneLine_toDigits _
  obtain ⟨_, distinct, counters, gauges⟩ :=
    figures_read_back shown busyEngine (Duration.fromSecs 60)
  have retries : ("netguardian_retries_total", 2) ∈
      (busyEngine.snapshot (Duration.fromSecs 60)).2.counters := by
    decide +kernel
  have uptime : ("netguardian_uptime_seconds", 60) ∈
      (busyEngine.snapshot (Duration.fromSecs 60)).2.counters := by
    decide +kernel
  have latency : ("netguardian_latency_ms", 40) ∈
      (busyEngine.snapshot (Duration.fromSecs 60)).2.gauges := by
    decide +kernel
  have displayed : toString (40 : ℚ).floor.toNat = "40" := by decide +kernel
  have read := gauges ("netguardian_latency_ms", 40) latency
  rw [displayed] at read
  exact ⟨distinct, counters ("netguardian_retries_total", 2) retries,
    counters ("netguardian_uptime_seconds", 60) uptime, read⟩

end Exposition

end NetGuardian
