import NetGuardian.Files
import Mathlib.Data.Rat.Defs

/-!
# The configuration file

`AppConfig::load` reads the configuration and falls back to the default, which
it saves.  The fallback is meant for the first run, when there is no file; it is
also taken when there is one that cannot be read or does not deserialize.
-/

namespace NetGuardian

structure DaemonConfig where
  enabled : Bool
  pidFile : String
  socketPath : String
  monitorIntervalSecs : Nat
deriving DecidableEq

def DaemonConfig.default : DaemonConfig where
  enabled := true
  pidFile := "/var/run/netguardian.pid"
  socketPath := "/var/run/netguardian.sock"
  monitorIntervalSecs := 5

structure NetworkConfig where
  pingTargets : List String
  dnsServers : List String
  latencyThresholdMs : ℚ
  packetLossThresholdPct : ℚ
deriving DecidableEq

def NetworkConfig.default : NetworkConfig where
  pingTargets := ["1.1.1.1", "8.8.8.8"]
  dnsServers := ["1.1.1.1", "8.8.8.8"]
  latencyThresholdMs := 200
  packetLossThresholdPct := 10

structure RetryConfig where
  policy : String
  maxRetries : Nat
  baseDelaySecs : Nat
  multiplier : ℚ
  maxDelaySecs : Nat
  circuitBreakerThreshold : Nat
  circuitBreakerCooldownSecs : Nat
deriving DecidableEq

def RetryConfig.default : RetryConfig where
  policy := "exponential"
  maxRetries := 5
  baseDelaySecs := 1
  multiplier := 2
  maxDelaySecs := 60
  circuitBreakerThreshold := 5
  circuitBreakerCooldownSecs := 30

structure PluginConfig where
  name : String
  enabled : Bool
  args : List String
deriving DecidableEq

structure StorageConfig where
  jobsPath : String
  configPath : String
  cacheDir : String
  downloadDir : String
deriving DecidableEq

def StorageConfig.default : StorageConfig where
  jobsPath := "/var/lib/netguardian/jobs.json"
  configPath := "/etc/netguardian/config.json"
  cacheDir := "/var/cache/netguardian"
  downloadDir := "/tmp/netguardian-downloads"

structure AppConfig where
  daemon : DaemonConfig
  network : NetworkConfig
  retry : RetryConfig
  plugins : List PluginConfig
  storage : StorageConfig
  defaultMaxRetries : Nat
  activeDownloadLimit : Nat
  logLevel : String
deriving DecidableEq

/-- What the operating system decides during one `load`.  `createDirAll` is the
success of that call, or true where the path has no parent. -/
structure ConfigAccess where
  readable : Bool
  createDirAll : Bool
  outcome : WriteOutcome

/-- The configuration in use, the files afterwards, and whether the fallback
opened the file for writing. -/
structure ConfigLoad where
  config : AppConfig
  disk : Disk
  opened : Bool

namespace AppConfig

def default : AppConfig where
  daemon := .default
  network := .default
  retry := .default
  plugins := []
  storage := .default
  defaultMaxRetries := 3
  activeDownloadLimit := 3
  logLevel := "info"

def save (serde : Serde AppConfig) (config : AppConfig) (disk : Disk)
    (path : Path) (access : ConfigAccess) : TextWrite :=
  if access.createDirAll then
    disk.writeText path (serde.toStringPretty config) access.outcome
  else ⟨disk, false, false⟩

/-- The result of the fallback's `save` is dropped. -/
def load (serde : Serde AppConfig) (disk : Disk) (path : Path)
    (access : ConfigAccess) : ConfigLoad :=
  match serde.load disk access.readable path with
  | some config => ⟨config, disk, false⟩
  | none =>
      let saved := default.save serde disk path access
      ⟨default, saved.disk, saved.opened⟩

/-- An existing file keeps its bytes, and a file is written only where there
was none. -/
structure KeepsFile (serde : Serde AppConfig) (disk : Disk) (path : Path)
    (access : ConfigAccess) : Prop where
  unchanged : ∀ bytes, disk path = some bytes →
    (load serde disk path access).disk path = some bytes
  created : (load serde disk path access).opened = true → disk path = none

section Loading

variable {serde : Serde AppConfig} {disk : Disk} {path : Path}
variable {access : ConfigAccess} {config : AppConfig}

theorem save_opened : (config.save serde disk path access).opened = true ↔
    access.createDirAll = true ∧ access.outcome ≠ .refused := by
  unfold save
  split
  · next made => rw [Disk.writeText_opened, and_iff_right made]
  · next notMade => simp [notMade]

theorem save_of_not_opened
    (kept : (config.save serde disk path access).opened ≠ true) :
    (config.save serde disk path access).disk = disk := by
  rw [ne_eq, save_opened, not_and_or, not_not] at kept
  unfold save
  split
  · next made =>
      have refused := kept.resolve_left (not_not.mpr made)
      rw [refused]
      rfl
  · rfl

theorem load_of_stored
    (stored : serde.load disk access.readable path = some config) :
    load serde disk path access = ⟨config, disk, false⟩ := by
  rw [load, stored]

theorem load_of_none (fallback : serde.load disk access.readable path = none) :
    load serde disk path access =
      ⟨default, (default.save serde disk path access).disk,
        (default.save serde disk path access).opened⟩ := by
  rw [load, fallback]

/-- The fallback spares an existing file only where it cannot write. -/
theorem keepsFile_of_fallback {bytes : List UInt8}
    (present : disk path = some bytes)
    (fallback : serde.load disk access.readable path = none) :
    KeepsFile serde disk path access ↔
      ¬ (access.createDirAll = true ∧ access.outcome ≠ .refused) := by
  have loaded := load_of_none fallback
  constructor
  · intro keeps opens
    have opened : (load serde disk path access).opened = true := by
      rw [loaded]
      exact save_opened.mpr opens
    have absent := keeps.created opened
    rw [present] at absent
    cases absent
  · intro refuses
    rw [← @save_opened serde disk path access default] at refuses
    constructor
    · intro before found
      rw [loaded]
      exact (congrFun (save_of_not_opened refuses) path).trans found
    · intro opened
      rw [loaded] at opened
      exact absurd opened refuses

/-- Loading spares the file exactly when there is none, when it is read and
deserializes, or when the default cannot be written over it. -/
theorem keepsFile_iff (serde : Serde AppConfig) (disk : Disk) (path : Path)
    (access : ConfigAccess) :
    KeepsFile serde disk path access ↔
      disk path = none ∨
        (∃ text config, disk.readToString access.readable path = some text ∧
          serde.fromStr text = some config) ∨
        access.createDirAll = false ∨ access.outcome = .refused := by
  cases present : disk path with
  | none =>
      refine iff_of_true ⟨?_, fun _ => present⟩ (.inl rfl)
      intro bytes found
      rw [present] at found
      cases found
  | some bytes =>
      cases stored : serde.load disk access.readable path with
      | some config =>
          obtain ⟨text, read, decoded⟩ := Serde.load_eq_some_iff.mp stored
          refine iff_of_true ?_ (.inr (.inl ⟨text, config, read, decoded⟩))
          constructor
          · intro before found
            rw [load_of_stored stored]
            exact found
          · intro opened
            rw [load_of_stored stored] at opened
            cases opened
      | none =>
          have undecoded : ¬ ∃ text config,
              disk.readToString access.readable path = some text ∧
                serde.fromStr text = some config := by
            rintro ⟨text, config, read, decoded⟩
            have found := Serde.load_eq_some_iff.mpr ⟨text, read, decoded⟩
            rw [stored] at found
            cases found
          have refuses : ¬ (access.createDirAll = true ∧
              access.outcome ≠ .refused) ↔
                access.createDirAll = false ∨ access.outcome = .refused := by
            rw [not_and_or, not_not, Bool.not_eq_true]
          rw [keepsFile_of_fallback present stored, refuses]
          constructor
          · intro refused
            exact .inr (.inr refused)
          · rintro (absent | decoded | refused)
            · cases absent
            · exact absurd decoded undecoded
            · exact refused

end Loading

/-- The default configuration as `serde_json` prints it, after the opening
brace and the line break. -/
def defaultFields : String :=
  "  \"daemon\": \x7b
    \"enabled\": true,
    \"pid_file\": \"/var/run/netguardian.pid\",
    \"socket_path\": \"/var/run/netguardian.sock\",
    \"monitor_interval_secs\": 5
  \x7d,
  \"network\": \x7b
    \"ping_targets\": [
      \"1.1.1.1\",
      \"8.8.8.8\"
    ],
    \"dns_servers\": [
      \"1.1.1.1\",
      \"8.8.8.8\"
    ],
    \"latency_threshold_ms\": 200.0,
    \"packet_loss_threshold_pct\": 10.0
  \x7d,
  \"retry\": \x7b
    \"policy\": \"exponential\",
    \"max_retries\": 5,
    \"base_delay_secs\": 1,
    \"multiplier\": 2.0,
    \"max_delay_secs\": 60,
    \"circuit_breaker_threshold\": 5,
    \"circuit_breaker_cooldown_secs\": 30
  \x7d,
  \"plugins\": [],
  \"storage\": \x7b
    \"jobs_path\": \"/var/lib/netguardian/jobs.json\",
    \"config_path\": \"/etc/netguardian/config.json\",
    \"cache_dir\": \"/var/cache/netguardian\",
    \"download_dir\": \"/tmp/netguardian-downloads\"
  \x7d,
  \"default_max_retries\": 3,
  \"active_download_limit\": 3,
  \"log_level\": \"info\"
\x7d"

def defaultJson : String := "\x7b\n" ++ defaultFields

/-- The serializer on the default configuration, which is all that the first
load of an incomplete file needs. -/
def defaultSerde : Serde AppConfig where
  toStringPretty _ := defaultJson
  fromStr text := if text = defaultJson then some default else none

/-- The path that `main` loads. -/
def mainPath : Path := "/etc/netguardian/config.json"

/-- A configuration file that sets the log level and nothing else. -/
def partialJson : String := "\x7b\"log_level\": \"debug\"\x7d"

def partialDisk : Disk := fun path =>
  if path = mainPath then some (utf8 partialJson) else none

theorem partialJson_rejected : defaultSerde.fromStr partialJson = none := by
  have different : partialJson ≠ defaultJson := by
    intro same
    have second : partialJson.toList[1]? = defaultJson.toList[1]? := by
      rw [same]
    rw [defaultJson, String.toList_append] at second
    cases second
  change (if partialJson = defaultJson then some default else none) = none
  rw [if_neg different]

def writable : ConfigAccess where
  readable := true
  createDirAll := true
  outcome := .done

/-- The incomplete file is replaced by the defaults. -/
theorem partial_config_overwritten :
    (load defaultSerde partialDisk mainPath writable).disk mainPath =
        some (utf8 defaultJson) ∧
      ¬ KeepsFile defaultSerde partialDisk mainPath writable := by
  have present : partialDisk mainPath = some (utf8 partialJson) := if_pos rfl
  have fallback : defaultSerde.load partialDisk writable.readable mainPath =
      none := by
    simp [Serde.load, Disk.exists?, Disk.readToString, present,
      fromUtf8_utf8, partialJson_rejected]
  have saved : default.save defaultSerde partialDisk mainPath writable =
      ⟨partialDisk.write mainPath (utf8 defaultJson), true, true⟩ := rfl
  constructor
  · rw [load_of_none fallback, saved]
    simp
  · rw [keepsFile_of_fallback present fallback]
    simp [writable]

end AppConfig

end NetGuardian
