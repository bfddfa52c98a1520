import NetGuardian.Gateway
import NetGuardian.PingReplies
import NetGuardian.RuleEngine

/-!
# The network report

`collect_network_status` asks `ping`, the resolver, the routing table and the
files of the kernel, one after the other.  The first of them that cannot be asked
ends it.  The status itself depends on the connectivity check only: on the number
of lines that look like a reply, and on the time that the answers take.
-/

namespace NetGuardian

open PlainText Connectivity

/-! What the system answers is an argument of the functions below. -/

structure DnsStatus where
  healthy : Bool
  resolutionMs : ℚ
  nameservers : List String
deriving DecidableEq

namespace Dns

def testDomains : List String := ["google.com", "cloudflare.com"]

/-- The accumulators of `check_dns_health`. -/
structure Lookups where
  healthy : Bool
  totalTime : ℚ
  resolved : Nat

/-- `answered` is the time of a lookup in nanoseconds, if it has succeeded. -/
def Lookups.add (lookups : Lookups) (answered : Option Nat) : Lookups :=
  match answered with
  | some elapsed =>
      { lookups with
        totalTime := lookups.totalTime + Duration.asSecsF64 elapsed * 1000
        resolved := lookups.resolved + 1 }
  | none => { lookups with healthy := false }

def readNameservers (resolvConf : Option String) : List String :=
  match resolvConf with
  | none => ["N/A"]
  | some content =>
      (lines content.toList).filterMap fun line =>
        let line := trim isWhitespace line
        if "nameserver".toList <+: line then
          (splitBlanks isWhitespace line)[1]?.map String.ofList
        else none

def checkDnsHealth (resolver : Except String Unit) (lookup : String → Option Nat)
    (resolvConf : Option String) : Except String DnsStatus :=
  resolver.map fun _ =>
    let lookups := testDomains.foldl
      (fun (lookups : Lookups) domain => lookups.add (lookup domain)) ⟨true, 0, 0⟩
    { healthy := if lookups.resolved = 0 then false else lookups.healthy
      resolutionMs :=
        if 0 < lookups.resolved then lookups.totalTime / lookups.resolved else 0
      nameservers := readNameservers resolvConf }

end Dns

/-- All of an `InterfaceInfo`; conditions look at two fields of it. -/
structure InterfaceReport where
  name : String
  ip : Option String
  mac : Option String
  isUp : Bool
  isLoopback : Bool
  rxBytes : Nat
  txBytes : Nat
deriving DecidableEq

def InterfaceReport.toInterfaceInfo (report : InterfaceReport) : InterfaceInfo where
  name := report.name
  isUp := report.isUp

namespace Interface

/-- A file of the kernel about an interface. -/
def path (name file : String) : String :=
  "/sys/class/net/" ++ name ++ "/" ++ file

def isInterfaceUp (files : String → Option String) (name : String) : Bool :=
  ((files (path name "operstate")).map fun text =>
    decide (trim isWhitespace text.toList = "up".toList)).getD false

/-- `run` is whether `ip -4 -o addr show` has succeeded and what it has printed,
if it could be run at all. -/
def getInterfaceIp (run : Option (Bool × String)) : Option String :=
  match run with
  | some (true, stdout) =>
      ((splitBlanks isWhitespace stdout.toList).find? fun part => '/' ∈ part).map
        fun cidr => String.ofList (cidr.takeWhile (· ≠ '/'))
  | _ => none

def getInterfaceMac (files : String → Option String) (name : String) : Option String :=
  (files (path name "address")).map fun text =>
    String.ofList (trim isWhitespace text.toList)

/-- A counter of bytes. -/
def readCounter (files : String → Option String) (name file : String) : Nat :=
  ((files (path name file)).bind fun text =>
    parseUnsigned (2 ^ 64) (trim isWhitespace text.toList)).getD 0

def getInterfaceStats (files : String → Option String) (name : String) : Nat × Nat :=
  (readCounter files name "statistics/rx_bytes",
    readCounter files name "statistics/tx_bytes")

/-- What an iteration of the loop pushes. -/
def report (files : String → Option String)
    (showAddress : String → Option (Bool × String)) (name : String) :
    InterfaceReport where
  name := name
  ip := getInterfaceIp (showAddress name)
  mac := getInterfaceMac files name
  isUp := isInterfaceUp files name
  isLoopback := name = "lo"
  rxBytes := (getInterfaceStats files name).1
  txBytes := (getInterfaceStats files name).2

/-- `entries` are the names in `/sys/class/net`, each of which may fail to be
read, as may the directory. -/
def listInterfaces (entries : Except String (List (Except String String)))
    (files : String → Option String)
    (showAddress : String → Option (Bool × String)) :
    Except String (List InterfaceReport) :=
  entries.bind fun names =>
    names.mapM fun name => name.map (report files showAddress)

end Interface

structure NetworkReport where
  status : ConnectionStatus
  latencyMs : F64
  packetLossPct : F64
  dns : DnsStatus
  gateway : GatewayStatus
  interfaces : List InterfaceReport
  timestamp : String

/-- What conditions look at. -/
def NetworkReport.toNetworkStatus (report : NetworkReport) : NetworkStatus where
  status := report.status
  latencyMs := report.latencyMs
  packetLossPct := report.packetLossPct
  dnsHealthy := report.dns.healthy
  gatewayReachable := report.gateway.reachable
  interfaces := report.interfaces.map InterfaceReport.toInterfaceInfo

/-- The answers of the system to all probes. -/
structure NetworkProbes where
  ping : String → Except String PingOutput
  http : HttpProbe
  resolver : Except String Unit
  lookup : String → Option Nat
  resolvConf : Option String
  routes : Option String
  pingGateway : String → Except String Bool
  netEntries : Except String (List (Except String String))
  files : String → Option String
  showAddress : String → Option (Bool × String)
  now : String

namespace NetworkProbes

def classify (latencyMs packetLossPct : F64) : ConnectionStatus :=
  if (F64.finite 80).le packetLossPct then .offline
  else if (F64.finite 10).lt packetLossPct || (F64.finite 500).lt latencyMs then
    .degraded
  else .online

/-- `none` if the route parser panics. -/
def collectNetworkStatus (probes : NetworkProbes) :
    Option (Except String NetworkReport) :=
  match checkConnectivity probes.ping probes.http with
  | .error error => some (.error error)
  | .ok (latencyMs, packetLossPct) =>
      match Dns.checkDnsHealth probes.resolver probes.lookup probes.resolvConf with
      | .error error => some (.error error)
      | .ok dns =>
          (Gateway.checkGateway probes.routes probes.pingGateway).map fun checked =>
            checked.bind fun gateway =>
              (Interface.listInterfaces probes.netEntries probes.files
                probes.showAddress).map fun interfaces =>
                { status := classify latencyMs packetLossPct
                  latencyMs := latencyMs
                  packetLossPct := packetLossPct
                  dns := dns
                  gateway := gateway
                  interfaces := interfaces
                  timestamp := probes.now }

/-- The status by the number of replies: with none, what HTTP says; with one or two,
and with more than were asked for, offline; up to ten, degraded. -/
def verdict (replies : Nat) (reached : Bool) (latencyMs : F64) : ConnectionStatus :=
  if replies = 0 ∧ reached = false ∨ 0 < replies ∧ replies < 3 ∨ 12 < replies then
    .offline
  else if 0 < replies ∧ replies < 11 ∨ (F64.finite 500).lt latencyMs = true then
    .degraded
  else .online

def output : Except String PingOutput → PingOutput
  | .ok output => output
  | .error _ => ⟨false, "", ""⟩

/-- The outputs of the runs of `ping` that could be started. -/
def outputs (probes : NetworkProbes) (host : String) : PingOutput :=
  output (probes.ping host)

/-- All that has to be asked can be asked. -/
structure Answers (probes : NetworkProbes) : Prop where
  pings : ∀ host ∈ pingTargets, probes.ping host = .ok (probes.outputs host)
  client : totalReplyLines probes.outputs = 0 → probes.http.built = .ok ()
  resolver : probes.resolver = .ok ()
  gateway : ∃ found, Gateway.findDefaultGateway probes.routes = some found ∧
    ∀ ip, found.1 = some ip → ∃ reachable, probes.pingGateway ip = .ok reachable
  entries : ∃ names : List String, probes.netEntries = .ok (names.map .ok)

/-- What a report says about the answers to the probes. -/
structure Describes (probes : NetworkProbes) (report : NetworkReport) : Prop where
  status : report.status = verdict (totalReplyLines probes.outputs)
    (fallbackUrls.any probes.http.succeeds) report.latencyMs
  healthy : report.dns.healthy = true ↔
    ∀ domain ∈ Dns.testDomains, (probes.lookup domain).isSome
  reachable : report.gateway.reachable = true ↔
    ∃ ip, report.gateway.gatewayIp = some ip ∧ probes.pingGateway ip = .ok true
  interfaces : ∃ names : List String, probes.netEntries = .ok (names.map .ok) ∧
    report.interfaces = names.map (Interface.report probes.files probes.showAddress)

section Pinging

variable {ping : String → Except String PingOutput} {totals : PingTotals}

theorem ping_ok_of_foldlM {hosts : List String} {start : PingTotals}
    (answered : hosts.foldlM (fun (totals : PingTotals) target =>
      (ping target).map fun output => totals.add (pingHost output)) start = .ok totals) :
    ∀ host ∈ hosts, ping host = .ok (output (ping host)) := by
  induction hosts generalizing start with
  | nil => nofun
  | cons host hosts ih =>
      rw [List.foldlM_cons] at answered
      cases pinged : ping host with
      | error error =>
          rw [pinged] at answered
          cases answered
      | ok given =>
          rw [pinged] at answered
          refine List.forall_mem_cons.mpr ⟨?_, ih answered⟩
          rw [pinged]
          rfl

theorem foldlM_congr {other : String → Except String PingOutput} {hosts : List String}
    (same : ∀ host ∈ hosts, ping host = other host) (start : PingTotals) :
    hosts.foldlM (fun (totals : PingTotals) target =>
        (ping target).map fun output => totals.add (pingHost output)) start =
      hosts.foldlM (fun (totals : PingTotals) target =>
        (other target).map fun output => totals.add (pingHost output)) start := by
  induction hosts generalizing start with
  | nil => rfl
  | cons host hosts ih =>
      obtain ⟨first, others⟩ := List.forall_mem_cons.mp same
      rw [List.foldlM_cons, List.foldlM_cons, first]
      exact congrArg _ (funext fun totals => ih others totals)

theorem pingAll_outputs {probes : NetworkProbes}
    (pings : ∀ host ∈ pingTargets, probes.ping host = .ok (probes.outputs host)) :
    ∃ totals, pingAll probes.ping = .ok totals ∧ totals.totalProbes = 12 ∧
      totals.succeeded = totalReplyLines probes.outputs := by
  obtain ⟨totals, pinged, counts⟩ := @pingAll_ok probes.outputs
  exact ⟨totals, (foldlM_congr pings _).trans pinged, counts⟩

end Pinging

section Verdicts

variable {latencyMs : F64} {replies : Nat}

/-- From ten of twelve packets on, a loss is at least 80 percent; from two on, it
is more than 10 percent. -/
theorem loss_bounds (lost : Nat) :
    ((80 : ℚ) ≤ lost / 12 * 100 ↔ 10 ≤ lost) ∧ ((10 : ℚ) < lost / 12 * 100 ↔ 2 ≤ lost) := by
  constructor
  · constructor
    · intro high
      by_contra few
      have most : (lost : ℚ) ≤ 9 := by exact_mod_cast Nat.le_of_lt_succ (not_le.mp few)
      linarith
    · intro many
      have least : (10 : ℚ) ≤ lost := by exact_mod_cast many
      linarith
  · constructor
    · intro high
      by_contra few
      have most : (lost : ℚ) ≤ 1 := by exact_mod_cast Nat.le_of_lt_succ (not_le.mp few)
      linarith
    · intro several
      have least : (2 : ℚ) ≤ lost := by exact_mod_cast several
      linarith

theorem packetLoss_eq {totals : PingTotals} (probed : totals.totalProbes = 12) :
    totals.packetLoss = (subUsize 12 totals.succeeded : ℚ) / (12 : ℕ) * 100 := by
  rw [PingTotals.packetLoss, probed, if_pos (Nat.zero_lt_succ 11)]

/-- More lines than packets wrap around to a huge loss. -/
theorem lossy_of_replies {totals : PingTotals} (probed : totals.totalProbes = 12)
    (countable : totals.succeeded < 2 ^ 64) :
    (F64.finite 10).lt (.finite totals.packetLoss) = true ↔
      totals.succeeded < 11 ∨ 12 < totals.succeeded := by
  have several : 2 ≤ subUsize 12 totals.succeeded ↔
      totals.succeeded < 11 ∨ 12 < totals.succeeded := by
    unfold subUsize
    omega
  rw [packetLoss_eq probed, ← several, ← (loss_bounds _).2]
  exact decide_eq_true_iff

theorem down_of_replies {totals : PingTotals} (probed : totals.totalProbes = 12)
    (countable : totals.succeeded < 2 ^ 64) :
    (F64.finite 80).le (.finite totals.packetLoss) = true ↔
      totals.succeeded < 3 ∨ 12 < totals.succeeded := by
  have most : 10 ≤ subUsize 12 totals.succeeded ↔
      totals.succeeded < 3 ∨ 12 < totals.succeeded := by
    unfold subUsize
    omega
  rw [packetLoss_eq probed, ← most, ← (loss_bounds _).1]
  exact decide_eq_true_iff

theorem classify_of_replies {totals : PingTotals} (probed : totals.totalProbes = 12)
    (answered : totals.succeeded ≠ 0) (countable : totals.succeeded < 2 ^ 64)
    (reached : Bool) :
    classify latencyMs (.finite totals.packetLoss) =
      verdict totals.succeeded reached latencyMs := by
  have offline := down_of_replies probed countable
  have lossy := lossy_of_replies probed countable
  rw [classify, verdict]
  by_cases down : totals.succeeded < 3 ∨ 12 < totals.succeeded
  · rw [if_pos (offline.mpr down), if_pos (by omega)]
  · have some : ¬ (totals.succeeded = 0 ∧ reached = false ∨
        0 < totals.succeeded ∧ totals.succeeded < 3 ∨ 12 < totals.succeeded) := by
      omega
    have few : (totals.succeeded < 11 ∨ 12 < totals.succeeded) ↔
        0 < totals.succeeded ∧ totals.succeeded < 11 := by omega
    rw [if_neg fun high => down (offline.mp high), if_neg some]
    simp only [Bool.or_eq_true, lossy, few]

theorem classify_of_fallback (reached : Bool) :
    classify latencyMs (if reached then .finite 0 else .finite 100) =
      verdict 0 reached latencyMs := by
  have low : (F64.finite 80).le (.finite 0) = false ∧
      (F64.finite 10).lt (.finite 0) = false ∧
        (F64.finite 80).le (.finite 100) = true := by decide +kernel
  cases reached with
  | false => simp [classify, verdict, low]
  | true => simp [classify, verdict, low]

end Verdicts

section Parts

variable {probes : NetworkProbes}

theorem healthy_iff {resolver : Except String Unit} {lookup : String → Option Nat}
    {resolvConf : Option String} {status : DnsStatus}
    (checked : Dns.checkDnsHealth resolver lookup resolvConf = .ok status) :
    status.healthy = true ↔ ∀ domain ∈ Dns.testDomains, (lookup domain).isSome := by
  cases resolver with
  | error error => cases checked
  | ok built =>
      cases checked
      cases first : lookup "google.com" <;> cases second : lookup "cloudflare.com" <;>
        simp [Dns.testDomains, Dns.Lookups.add, first, second]

theorem nameservers_of_checked {resolver : Except String Unit}
    {lookup : String → Option Nat} {resolvConf : Option String} {status : DnsStatus}
    (checked : Dns.checkDnsHealth resolver lookup resolvConf = .ok status) :
    status.nameservers = Dns.readNameservers resolvConf := by
  cases resolver with
  | error error => cases checked
  | ok built =>
      cases checked
      rfl

theorem checkDnsHealth_ok_iff {resolver : Except String Unit}
    {lookup : String → Option Nat} {resolvConf : Option String} :
    (∃ status, Dns.checkDnsHealth resolver lookup resolvConf = .ok status) ↔
      resolver = .ok () := by
  cases resolver with
  | error error => simp [Dns.checkDnsHealth, Except.map]
  | ok built => simp [Dns.checkDnsHealth, Except.map]

theorem reachable_iff {routes : Option String} {ping : String → Except String Bool}
    {status : GatewayStatus}
    (checked : Gateway.checkGateway routes ping = some (.ok status)) :
    status.reachable = true ↔ ∃ ip, status.gatewayIp = some ip ∧ ping ip = .ok true := by
  obtain ⟨found, _, answered⟩ := Option.map_eq_some_iff.mp checked
  cases address : found.1 with
  | none =>
      rw [address] at answered
      cases answered
      simp
  | some ip =>
      cases pinged : ping ip with
      | error error =>
          simp only [address, pinged] at answered
          cases answered
      | ok reachable =>
          simp only [address, pinged] at answered
          cases answered
          simp [pinged]

theorem checkGateway_ok_iff {routes : Option String} {ping : String → Except String Bool} :
    (∃ status, Gateway.checkGateway routes ping = some (.ok status)) ↔
      ∃ found, Gateway.findDefaultGateway routes = some found ∧
        ∀ ip, found.1 = some ip → ∃ reachable, ping ip = .ok reachable := by
  simp only [Gateway.checkGateway, Option.map_eq_some_iff]
  constructor
  · rintro ⟨status, found, parsed, answered⟩
    refine ⟨found, parsed, fun ip address => ?_⟩
    cases pinged : ping ip with
    | error error =>
        simp only [address, pinged] at answered
        cases answered
    | ok reachable => exact ⟨reachable, rfl⟩
  · rintro ⟨found, parsed, reaches⟩
    cases address : found.1 with
    | none => exact ⟨_, found, parsed, by rw [address]⟩
    | some ip =>
        obtain ⟨reachable, pinged⟩ := reaches ip address
        exact ⟨_, found, parsed, by simp only [address, pinged]; rfl⟩

theorem mapM_ok {Item Info : Type} (info : Item → Info) (plain : List Item) :
    (plain.map .ok).mapM (fun name : Except String Item => name.map info) =
      .ok (plain.map info) := by
  induction plain with
  | nil => rfl
  | cons first plain ih =>
      rw [List.map_cons, List.mapM_cons, ih]
      rfl

theorem eq_map_ok_of_mapM {Item Info : Type} {info : Item → Info}
    {names : List (Except String Item)} {infos : List Info}
    (mapped : names.mapM (fun name => name.map info) = .ok infos) :
    ∃ plain : List Item, names = plain.map .ok := by
  induction names generalizing infos with
  | nil => exact ⟨[], rfl⟩
  | cons name names ih =>
      rw [List.mapM_cons] at mapped
      cases name with
      | error error => cases mapped
      | ok first =>
          cases rest : names.mapM fun name => name.map info with
          | error error =>
              rw [rest] at mapped
              cases mapped
          | ok others =>
              obtain ⟨plain, same⟩ := ih rest
              exact ⟨first :: plain, by rw [same]; rfl⟩

theorem listInterfaces_eq_ok_iff {entries : Except String (List (Except String String))}
    {files : String → Option String} {showAddress : String → Option (Bool × String)}
    {reports : List InterfaceReport} :
    Interface.listInterfaces entries files showAddress = .ok reports ↔
      ∃ names : List String, entries = .ok (names.map .ok) ∧
        reports = names.map (Interface.report files showAddress) := by
  cases entries with
  | error error =>
      constructor
      · intro listed
        cases listed
      · rintro ⟨names, same, _⟩
        cases same
  | ok names =>
      constructor
      · intro mapped
        obtain ⟨plain, rfl⟩ := eq_map_ok_of_mapM mapped
        have read := mapM_ok (Interface.report files showAddress) plain
        exact ⟨plain, rfl, Except.ok.inj (mapped.symm.trans read)⟩
      · rintro ⟨plain, same, rfl⟩
        cases same
        exact mapM_ok _ plain

end Parts

section Classification

variable {probes : NetworkProbes} {report : NetworkReport}

/-- What the connectivity check returns, with every run of `ping` started. -/
theorem loss_of_checked {latencyMs packetLossPct : F64}
    (pings : ∀ host ∈ pingTargets, probes.ping host = .ok (probes.outputs host))
    (connected : checkConnectivity probes.ping probes.http =
      .ok (latencyMs, packetLossPct)) :
    totalReplyLines probes.outputs = 0 ∧
        packetLossPct =
          (if fallbackUrls.any probes.http.succeeds then .finite 0 else .finite 100) ∨
      ∃ totals : PingTotals, totals.totalProbes = 12 ∧ totals.succeeded ≠ 0 ∧
        totals.succeeded = totalReplyLines probes.outputs ∧
        packetLossPct = .finite totals.packetLoss := by
  obtain ⟨totals, pinged, probed, counted⟩ := pingAll_outputs pings
  rw [checkConnectivity, pinged] at connected
  dsimp only at connected
  by_cases silent : totals.succeeded = 0
  · rw [if_pos silent] at connected
    refine .inl ⟨counted.symm.trans silent, ?_⟩
    cases built : probes.http.built with
    | error error =>
        simp only [httpFallbackCheck, built] at connected
        cases connected
    | ok client =>
        simp only [httpFallbackCheck, built, Except.map, Except.ok.injEq] at connected
        split at connected
        · next reached =>
            rw [if_pos reached]
            exact (congrArg Prod.snd connected).symm
        · next unreached =>
            rw [if_neg unreached]
            exact (congrArg Prod.snd connected).symm
  · rw [if_neg silent] at connected
    cases connected
    exact .inr ⟨totals, probed, silent, counted, rfl⟩

theorem checked_iff_client
    (pings : ∀ host ∈ pingTargets, probes.ping host = .ok (probes.outputs host)) :
    (∃ checked, checkConnectivity probes.ping probes.http = .ok checked) ↔
      (totalReplyLines probes.outputs = 0 → probes.http.built = .ok ()) := by
  obtain ⟨totals, pinged, _, counted⟩ := pingAll_outputs pings
  rw [checkConnectivity, pinged, ← counted]
  by_cases silent : totals.succeeded = 0
  · simp only [silent, if_true, forall_const]
    cases built : probes.http.built with
    | error error => simp [httpFallbackCheck, built, Except.map]
    | ok client => simp [httpFallbackCheck, built, Except.map]
  · simp only [silent, if_false, false_implies, iff_true]
    exact ⟨_, rfl⟩

theorem classify_of_checked {latencyMs packetLossPct : F64}
    (countable : totalReplyLines probes.outputs < 2 ^ 64)
    (pings : ∀ host ∈ pingTargets, probes.ping host = .ok (probes.outputs host))
    (connected : checkConnectivity probes.ping probes.http =
      .ok (latencyMs, packetLossPct)) :
    classify latencyMs packetLossPct = verdict (totalReplyLines probes.outputs)
      (fallbackUrls.any probes.http.succeeds) latencyMs := by
  rcases loss_of_checked pings connected with ⟨silent, rfl⟩ |
    ⟨totals, probed, answered, counted, rfl⟩
  · rw [silent]
    exact classify_of_fallback _
  · rw [← counted] at countable ⊢
    exact classify_of_replies probed answered countable _

/-- A report is made of what the four checks return. -/
theorem collect_eq_ok_iff :
    probes.collectNetworkStatus = some (.ok report) ↔
      ∃ latencyMs packetLossPct dns gateway interfaces,
        checkConnectivity probes.ping probes.http = .ok (latencyMs, packetLossPct) ∧
        Dns.checkDnsHealth probes.resolver probes.lookup probes.resolvConf = .ok dns ∧
        Gateway.checkGateway probes.routes probes.pingGateway = some (.ok gateway) ∧
        Interface.listInterfaces probes.netEntries probes.files probes.showAddress =
          .ok interfaces ∧
        report = ⟨classify latencyMs packetLossPct, latencyMs, packetLossPct, dns,
          gateway, interfaces, probes.now⟩ := by
  constructor
  · intro collected
    rw [collectNetworkStatus] at collected
    split at collected
    · cases collected
    · next latencyMs packetLossPct connected =>
        split at collected
        · cases collected
        · next dns resolved =>
            obtain ⟨checked, routed, made⟩ := Option.map_eq_some_iff.mp collected
            cases checked with
            | error error => cases made
            | ok gateway =>
                cases listed : Interface.listInterfaces probes.netEntries probes.files
                    probes.showAddress with
                | error error =>
                    rw [listed] at made
                    cases made
                | ok interfaces =>
                    rw [listed] at made
                    cases made
                    exact ⟨latencyMs, packetLossPct, dns, gateway, interfaces, connected,
                      resolved, routed, rfl, rfl⟩
  · rintro ⟨latencyMs, packetLossPct, dns, gateway, interfaces, connected, resolved,
      routed, listed, rfl⟩
    simp only [collectNetworkStatus, connected, resolved, routed, listed]
    rfl

theorem pings_of_checked {checked : F64 × F64}
    (connected : checkConnectivity probes.ping probes.http = .ok checked) :
    ∀ host ∈ pingTargets, probes.ping host = .ok (probes.outputs host) := by
  rw [checkConnectivity] at connected
  split at connected
  · cases connected
  · next totals pinged => exact ping_ok_of_foldlM pinged

theorem answers_of_collected (collected : probes.collectNetworkStatus = some (.ok report)) :
    probes.Answers := by
  obtain ⟨latencyMs, packetLossPct, dns, gateway, interfaces, connected, resolved,
    routed, listed, _⟩ := collect_eq_ok_iff.mp collected
  have pings := pings_of_checked connected
  obtain ⟨names, entries, _⟩ := listInterfaces_eq_ok_iff.mp listed
  exact
    { pings := pings
      client := (checked_iff_client pings).mp ⟨_, connected⟩
      resolver := checkDnsHealth_ok_iff.mp ⟨dns, resolved⟩
      gateway := checkGateway_ok_iff.mp ⟨gateway, routed⟩
      entries := ⟨names, entries⟩ }

theorem Answers.collected (answers : probes.Answers) :
    ∃ report, probes.collectNetworkStatus = some (.ok report) := by
  obtain ⟨pings, client, resolver, gateway, names, entries⟩ := answers
  obtain ⟨⟨latencyMs, packetLossPct⟩, connected⟩ := (checked_iff_client pings).mpr client
  obtain ⟨dns, resolved⟩ : ∃ dns, Dns.checkDnsHealth probes.resolver probes.lookup
      probes.resolvConf = .ok dns := checkDnsHealth_ok_iff.mpr resolver
  obtain ⟨checked, routed⟩ := checkGateway_ok_iff.mpr gateway
  have listed : Interface.listInterfaces probes.netEntries probes.files
      probes.showAddress = .ok _ :=
    listInterfaces_eq_ok_iff.mpr ⟨names, entries, rfl⟩
  exact ⟨_, collect_eq_ok_iff.mpr ⟨latencyMs, packetLossPct, dns, checked, _,
    connected, resolved, routed, listed, rfl⟩⟩

theorem describes_of_collected (countable : totalReplyLines probes.outputs < 2 ^ 64)
    (collected : probes.collectNetworkStatus = some (.ok report)) :
    probes.Describes report := by
  obtain ⟨latencyMs, packetLossPct, dns, gateway, interfaces, connected, resolved,
    routed, listed, rfl⟩ := collect_eq_ok_iff.mp collected
  exact
    { status := classify_of_checked countable (pings_of_checked connected) connected
      healthy := healthy_iff resolved
      reachable := reachable_iff routed
      interfaces := listInterfaces_eq_ok_iff.mp listed }

end Classification

/-- No packet is answered, and HTTP works. -/
def httpOnly : NetworkProbes where
  ping _ := .ok ⟨false, "", ""⟩
  http := ⟨.ok (), fun _ => true, 20000000⟩
  resolver := .ok ()
  lookup _ := some 1000000
  resolvConf := some "nameserver 10.0.0.1\n"
  routes := none
  pingGateway _ := .ok false
  netEntries := .ok [.ok "lo"]
  files _ := none
  showAddress _ := none
  now := "2024-01-01T00:00:00+00:00"

end NetworkProbes

end NetGuardian
