import NetGuardian.NetworkReport

/-!
# The files of the system

The nameservers are listed in `resolv.conf`, and the addresses, states and counters
of the interfaces are printed by the kernel and by `ip`.  A report reads from these
texts what was written into them, but of the addresses of an interface only the
first.
-/

namespace NetGuardian

open PlainText

/-- Blanks inside of a line. -/
def IsGap (text : List Char) : Prop :=
  ∀ letter ∈ text, isWhitespace letter ∧ letter ≠ '\n'

/-- A word of a line. -/
structure IsWord (text : List Char) : Prop where
  nonempty : text ≠ []
  solid : ∀ letter ∈ text, ¬ isWhitespace letter

instance (text : List Char) : Decidable (IsGap text) := List.decidableBAll _ text

instance (text : List Char) : Decidable (IsWord text) :=
  have : Decidable (∀ letter ∈ text, ¬ isWhitespace letter) :=
    List.decidableBAll _ text
  decidable_of_iff (text ≠ [] ∧ ∀ letter ∈ text, ¬ isWhitespace letter)
    ⟨fun both => ⟨both.1, both.2⟩, fun isWord => ⟨isWord.nonempty, isWord.solid⟩⟩

/-- What may come after a word: nothing, or a blank and the rest of the line. -/
def IsTail (text : List Char) : Prop :=
  (∀ letter, text.head? = some letter → isWhitespace letter) ∧ IsLine text

/-- A line of `resolv.conf` that names a server. -/
structure NameserverLine where
  indent : List Char
  gap : List Char
  address : List Char
  tail : List Char
  isIndent : IsGap indent
  isGap : IsGap gap
  nonempty : gap ≠ []
  isWord : IsWord address
  isTail : IsTail tail

def NameserverLine.text (line : NameserverLine) : List Char :=
  line.indent ++ ("nameserver".toList ++ (line.gap ++ (line.address ++ line.tail)))

/-- Any other line: a comment, an option, or nothing. -/
structure OtherLine where
  text : List Char
  isLine : IsLine text
  noServer : ¬ "nameserver".toList <+: trim isWhitespace text

inductive ResolvLine where
  | nameserver (line : NameserverLine)
  | other (line : OtherLine)

namespace ResolvLine

def text : ResolvLine → List Char
  | .nameserver line => line.text
  | .other line => line.text

def address : ResolvLine → Option String
  | .nameserver line => some (String.ofList line.address)
  | .other _ => none

def write (written : List ResolvLine) : String :=
  String.ofList (written.flatMap fun line => line.text ++ ['\n'])

end ResolvLine

/-- An IPv4 address of an interface, as `ip -o` prints it in a line, with its length
behind a slash.  The two addresses of a link between peers are printed otherwise. -/
structure AddressLine where
  index : List Char
  interface : List Char
  address : List Char
  length : List Char
  tail : List Char
  indexWord : IsWord index
  interfaceWord : IsWord interface
  addressWord : IsWord address
  lengthWord : IsWord length
  indexPlain : '/' ∉ index
  interfacePlain : '/' ∉ interface
  addressPlain : '/' ∉ address
  isTail : IsTail tail

def AddressLine.text (line : AddressLine) : List Char :=
  line.index ++ ' ' :: (line.interface ++ ("    ".toList ++ ("inet".toList ++
    ' ' :: ((line.address ++ '/' :: line.length) ++ line.tail))))

/-- What `ip` prints: every address in a line of its own. -/
def AddressLine.write (written : List AddressLine) : List Char :=
  written.flatMap fun line => line.text ++ ['\n']

/-- An interface as the kernel knows it, with all of its addresses.  A tunnel has an
empty hardware address. -/
structure InterfaceConfig where
  name : String
  addressLines : List AddressLine
  mac : List Char
  operstate : List Char
  rxBytes : Nat
  txBytes : Nat
  macSolid : ∀ letter ∈ mac, ¬ isWhitespace letter
  operstateWord : IsWord operstate
  rxFits : rxBytes < 2 ^ 64
  txFits : txBytes < 2 ^ 64

namespace InterfaceConfig

/-- What is reported of it: of its addresses the first. -/
def report (config : InterfaceConfig) : InterfaceReport where
  name := config.name
  ip := config.addressLines.head?.map fun line => String.ofList line.address
  mac := some (String.ofList config.mac)
  isUp := config.operstate = "up".toList
  isLoopback := config.name = "lo"
  rxBytes := config.rxBytes
  txBytes := config.txBytes

/-- A file of one line. -/
def lineFile (text : List Char) : Option String :=
  some (String.ofList (text ++ ['\n']))

/-- The system has written down the state of the interface. -/
structure Shown (config : InterfaceConfig) (files : String → Option String)
    (showAddress : String → Option (Bool × String)) : Prop where
  operstate : files (Interface.path config.name "operstate") = lineFile config.operstate
  mac : files (Interface.path config.name "address") = lineFile config.mac
  rxBytes : files (Interface.path config.name "statistics/rx_bytes") =
    lineFile (Nat.toDigits 10 config.rxBytes)
  txBytes : files (Interface.path config.name "statistics/tx_bytes") =
    lineFile (Nat.toDigits 10 config.txBytes)
  address : showAddress config.name =
    some (true, String.ofList (AddressLine.write config.addressLines))

end InterfaceConfig

/-- What the texts are written from. -/
structure SystemConfig where
  resolv : List ResolvLine
  interfaces : List InterfaceConfig

namespace SystemConfig

structure Written (config : SystemConfig) (probes : NetworkProbes) : Prop where
  resolvConf : probes.resolvConf = some (ResolvLine.write config.resolv)
  netEntries : probes.netEntries =
    .ok (config.interfaces.map fun interface => .ok interface.name)
  shown : ∀ interface ∈ config.interfaces,
    interface.Shown probes.files probes.showAddress

section Nameservers

theorem isBlank_of_isGap {text : List Char} (isGap : IsGap text) :
    ∀ letter ∈ text, isWhitespace letter :=
  fun letter member => (isGap letter member).1

/-- A word is followed by the end of the text or by a blank. -/
theorem splitBlanks_word {word tail : List Char} (isWord : IsWord word)
    (blank : ∀ letter, tail.head? = some letter → isWhitespace letter) :
    splitBlanks isWhitespace (word ++ tail) =
      word :: splitBlanks isWhitespace tail := by
  cases tail with
  | nil => rw [List.append_nil, splitBlanks_of_solid isWord.nonempty isWord.solid]; rfl
  | cons letter tail =>
      have isBlank := blank letter rfl
      rw [splitBlanks_cons isWord.nonempty isWord.solid isBlank,
        ← List.nil_append (letter :: tail), splitBlanks_append isBlank]
      rfl

variable (line : NameserverLine)

theorem nameserver_isWord : IsWord "nameserver".toList := by
  decide +kernel

theorem fields_nameserver :
    splitBlanks isWhitespace (trim isWhitespace line.text) =
      "nameserver".toList :: line.address :: splitBlanks isWhitespace line.tail := by
  have gapBlank : ∀ letter,
      (line.gap ++ (line.address ++ line.tail)).head? = some letter →
        isWhitespace letter := by
    intro letter first
    obtain ⟨head, others, starts⟩ := List.exists_cons_of_ne_nil line.nonempty
    rw [starts, List.cons_append, List.head?_cons, Option.some.injEq] at first
    rw [← first]
    exact isBlank_of_isGap line.isGap head (by rw [starts]; exact List.mem_cons_self)
  rw [splitBlanks_trim, NameserverLine.text,
    splitBlanks_blanks_append (isBlank_of_isGap line.isIndent),
    splitBlanks_word nameserver_isWord gapBlank,
    splitBlanks_blanks_append (isBlank_of_isGap line.isGap),
    splitBlanks_word line.isWord line.isTail.1]

theorem prefix_nameserver : "nameserver".toList <+: trim isWhitespace line.text :=
  prefix_trim (isBlank_of_isGap line.isIndent) nameserver_isWord.nonempty
    nameserver_isWord.solid

theorem noFeed_of_isWord {word : List Char} (isWord : IsWord word) : '\n' ∉ word :=
  fun member => isWord.solid _ member (by decide)

/-- A line may end with a word and a tail. -/
theorem isLine_word_tail {start word tail : List Char} (noFeed : '\n' ∉ start)
    (isWord : IsWord word) (isTail : IsTail tail) :
    IsLine (start ++ (word ++ tail)) := by
  refine ⟨List.not_mem_append noFeed
    (List.not_mem_append (noFeed_of_isWord isWord) isTail.2.1), ?_⟩
  rw [List.getLast?_append, List.getLast?_append]
  cases ends : tail.getLast? with
  | some letter =>
      intro same
      exact isTail.2.2 (ends.trans same)
  | none =>
      rw [List.getLast?_eq_some_getLast isWord.nonempty]
      intro same
      have last := isWord.solid _ (List.getLast_mem isWord.nonempty)
      rw [Option.some.inj same] at last
      exact last (by decide)

theorem isLine_nameserver : IsLine line.text := by
  have noFeed : '\n' ∉ line.indent ++ ("nameserver".toList ++ line.gap) := by
    refine List.not_mem_append (fun member => (line.isIndent _ member).2 rfl) ?_
    exact List.not_mem_append (noFeed_of_isWord nameserver_isWord)
      fun member => (line.isGap _ member).2 rfl
  have isLine := isLine_word_tail noFeed line.isWord line.isTail
  rwa [List.append_assoc, List.append_assoc] at isLine

theorem isLine_resolvLine (line : ResolvLine) : IsLine line.text := by
  cases line with
  | nameserver server => exact isLine_nameserver server
  | other line => exact line.isLine

/-- The servers are read in their order, and nothing else is. -/
theorem readNameservers_write (written : List ResolvLine) :
    Dns.readNameservers (some (ResolvLine.write written)) =
      written.filterMap ResolvLine.address := by
  have areLines : ∀ line ∈ written.map ResolvLine.text, IsLine line := by
    intro line member
    obtain ⟨source, _, rfl⟩ := List.mem_map.mp member
    exact isLine_resolvLine source
  have read := lines_flatMap areLines
  have text : (ResolvLine.write written).toList =
      (written.map ResolvLine.text).flatMap (· ++ ['\n']) := by
    rw [ResolvLine.write, String.toList_ofList, List.flatMap_map]
  rw [Dns.readNameservers, text, read, List.filterMap_map]
  refine List.filterMap_congr fun line _ => ?_
  cases line with
  | nameserver server =>
      refine (if_pos (prefix_nameserver server)).trans ?_
      change Option.map _ (splitBlanks isWhitespace (trim isWhitespace server.text))[1]? = _
      rw [fields_nameserver]
      rfl
  | other line => exact if_neg line.noServer

end Nameservers

section Interfaces

open Interface

variable {config : InterfaceConfig} {files : String → Option String}
variable {showAddress : String → Option (Bool × String)}

/-- A file of one word, or of an empty line, is read as that word. -/
theorem trim_lineFile {text : List Char} (solid : ∀ letter ∈ text, ¬ isWhitespace letter) :
    trim isWhitespace (String.ofList (text ++ ['\n'])).toList = text := by
  rw [String.toList_ofList]
  cases text with
  | nil => decide
  | cons letter letters =>
      exact trim_append_blanks (List.cons_ne_nil letter letters) solid
        (List.forall_mem_singleton.mpr (by decide))

/-- The words of a line, as far as the address, whatever follows the line. -/
theorem fields_addressLine (line : AddressLine) (others : List Char) :
    ∃ fields, splitBlanks isWhitespace (line.text ++ '\n' :: others) =
      line.index :: line.interface :: "inet".toList ::
        (line.address ++ '/' :: line.length) :: fields := by
  have blank : isWhitespace ' ' = true := by decide
  have inet : IsWord "inet".toList := by decide +kernel
  have cidr : IsWord (line.address ++ '/' :: line.length) := by
    refine ⟨List.append_ne_nil_of_left_ne_nil line.addressWord.nonempty _, ?_⟩
    intro letter member
    rcases List.mem_append.mp member with inAddress | inRest
    · exact line.addressWord.solid letter inAddress
    · rcases List.mem_cons.mp inRest with rfl | inLength
      · decide
      · exact line.lengthWord.solid letter inLength
  have behind : ∀ letter, (line.tail ++ '\n' :: others).head? = some letter →
      isWhitespace letter = true := by
    intro letter first
    cases isTail : line.tail with
    | nil =>
        rw [isTail] at first
        cases first
        decide
    | cons head tail =>
        rw [isTail] at first
        exact line.isTail.1 letter (by rw [isTail]; exact first)
  have spaces : ∀ letter, ("    ".toList ++ ("inet".toList ++ ' ' ::
      ((line.address ++ '/' :: line.length) ++
        (line.tail ++ '\n' :: others)))).head? = some letter →
        isWhitespace letter = true := by
    intro letter first
    cases first
    exact blank
  refine ⟨splitBlanks isWhitespace (line.tail ++ '\n' :: others), ?_⟩
  have text : line.text ++ '\n' :: others = line.index ++ ' ' :: (line.interface ++
      ("    ".toList ++ ("inet".toList ++ ' ' ::
        ((line.address ++ '/' :: line.length) ++ (line.tail ++ '\n' :: others))))) := by
    simp only [AddressLine.text, List.append_assoc, List.cons_append]
  rw [text, splitBlanks_cons line.indexWord.nonempty line.indexWord.solid blank,
    splitBlanks_word line.interfaceWord spaces,
    splitBlanks_blanks_append (isBlank_of_isGap (by decide)),
    splitBlanks_cons inet.nonempty inet.solid blank, splitBlanks_word cidr behind]

/-- The address is the first field with a slash, up to the slash; the lines behind
the first are not looked at. -/
theorem getInterfaceIp_write (written : List AddressLine) :
    getInterfaceIp (some (true, String.ofList (AddressLine.write written))) =
      written.head?.map fun line => String.ofList line.address := by
  cases written with
  | nil => rfl
  | cons line others =>
      obtain ⟨fields, split⟩ := fields_addressLine line (AddressLine.write others)
      have text : AddressLine.write (line :: others) =
          line.text ++ '\n' :: AddressLine.write others := by
        simp [AddressLine.write]
      have noSlash : ∀ letter ∈ line.address, decide (letter ≠ '/') = true := by
        intro letter member
        rw [decide_eq_true_iff]
        rintro rfl
        exact line.addressPlain member
      have beforeSlash : (line.address ++ '/' :: line.length).takeWhile (· ≠ '/') =
          line.address := by
        rw [List.takeWhile_append_of_pos noSlash, List.takeWhile_cons_of_neg (by decide),
          List.append_nil]
      rw [getInterfaceIp]
      simp only [String.toList_ofList]
      rw [text, split, List.find?_cons_of_neg (by simpa using line.indexPlain),
        List.find?_cons_of_neg (by simpa using line.interfacePlain),
        List.find?_cons_of_neg (by decide), List.find?_cons_of_pos (by simp),
        Option.map_some, beforeSlash]
      rfl

theorem isWord_toDigits (number : Nat) : IsWord (Nat.toDigits 10 number) :=
  ⟨Nat.toDigits_ne_nil, fun _ member => ControlCommand.isWhitespace_of_isDigit
    (Nat.isDigit_of_mem_toDigits (by decide) (by decide) member)⟩

theorem readCounter_of_file {name file : String} {number : Nat}
    (content : files (path name file) =
      InterfaceConfig.lineFile (Nat.toDigits 10 number)) (fits : number < 2 ^ 64) :
    readCounter files name file = number := by
  have read : parseUnsigned (2 ^ 64) (Nat.toDigits 10 number) = some number :=
    parseUnsigned_eq_some_iff.mpr ⟨ExpositionText.numeral_toDigits number, fits⟩
  rw [readCounter, content, InterfaceConfig.lineFile, Option.bind_some,
    trim_lineFile (isWord_toDigits number).solid, read, Option.getD_some]

theorem report_of_shown (shown : config.Shown files showAddress) :
    report files showAddress config.name = config.report := by
  have address : getInterfaceIp (showAddress config.name) = config.report.ip := by
    rw [shown.address]
    exact getInterfaceIp_write config.addressLines
  have mac : getInterfaceMac files config.name = config.report.mac := by
    rw [getInterfaceMac, shown.mac, InterfaceConfig.lineFile, Option.map_some,
      trim_lineFile config.macSolid]
    rfl
  have isUp : isInterfaceUp files config.name = config.report.isUp := by
    rw [isInterfaceUp, shown.operstate, InterfaceConfig.lineFile, Option.map_some,
      trim_lineFile config.operstateWord.solid]
    rfl
  have stats : getInterfaceStats files config.name = (config.rxBytes, config.txBytes) := by
    rw [getInterfaceStats, readCounter_of_file shown.rxBytes config.rxFits,
      readCounter_of_file shown.txBytes config.txFits]
  rw [report, address, mac, isUp, stats]
  rfl

end Interfaces

/-- A report names the servers and the interfaces that the system has written down,
and of each interface the first address. -/
theorem report_reads_files (config : SystemConfig) {probes : NetworkProbes}
    {report : NetworkReport} (written : config.Written probes)
    (collected : probes.collectNetworkStatus = some (.ok report)) :
    report.dns.nameservers = config.resolv.filterMap ResolvLine.address ∧
      report.interfaces = config.interfaces.map InterfaceConfig.report := by
  obtain ⟨_, _, dns, _, interfaces, _, resolved, _, listed, rfl⟩ :=
    NetworkProbes.collect_eq_ok_iff.mp collected
  constructor
  · rw [← readNameservers_write, ← written.resolvConf]
    exact NetworkProbes.nameservers_of_checked resolved
  · obtain ⟨names, entries, read⟩ := NetworkProbes.listInterfaces_eq_ok_iff.mp listed
    have same : names = config.interfaces.map InterfaceConfig.name := by
      rw [written.netEntries, Except.ok.injEq] at entries
      have ok : Function.Injective (Except.ok : String → Except String String) :=
        fun _ _ => Except.ok.inj
      refine (List.map_injective_iff.mpr ok) ?_
      rw [← entries, List.map_map]
      rfl
    change interfaces = _
    rw [read, same, List.map_map]
    exact List.map_congr_left fun interface member =>
      report_of_shown (written.shown interface member)

/-- The line of an address that `ip` prints for `eth0`. -/
def ethernetLine (address tail : List Char) (addressWord : IsWord address)
    (addressPlain : '/' ∉ address) (isTail : IsTail tail) : AddressLine where
  index := "2:".toList
  interface := "eth0".toList
  address := address
  length := "24".toList
  tail := tail
  indexWord := by decide +kernel
  interfaceWord := by decide +kernel
  addressWord := addressWord
  lengthWord := by decide +kernel
  indexPlain := by decide
  interfacePlain := by decide
  addressPlain := addressPlain
  isTail := isTail

/-- A comment, a server, and two interfaces, one of them with two addresses. -/
def twoAddresses : SystemConfig where
  resolv :=
    [.other ⟨"# local".toList, by unfold IsLine; decide +kernel, by decide +kernel⟩,
      .nameserver
        { indent := []
          gap := [' ']
          address := "10.0.0.1".toList
          tail := []
          isIndent := by decide
          isGap := by decide
          nonempty := by decide
          isWord := by decide +kernel
          isTail := ⟨by simp, by unfold IsLine; decide⟩ }]
  interfaces :=
    [{ name := "lo"
       addressLines := []
       mac := "00:00".toList
       operstate := "unknown".toList
       rxBytes := 7
       txBytes := 9
       macSolid := IsWord.solid (by decide +kernel)
       operstateWord := by decide +kernel
       rxFits := by decide
       txFits := by decide },
      { name := "eth0"
        addressLines :=
          [ethernetLine "10.0.0.5".toList " scope global eth0".toList
            (by decide +kernel) (by decide)
            ⟨by simp [isWhitespace], by unfold IsLine; decide +kernel⟩,
          ethernetLine "10.0.0.6".toList " scope global secondary eth0".toList
            (by decide +kernel) (by decide)
            ⟨by simp [isWhitespace], by unfold IsLine; decide +kernel⟩]
        mac := "02:42".toList
        operstate := "up".toList
        rxBytes := 500
        txBytes := 300
        macSolid := IsWord.solid (by decide +kernel)
        operstateWord := by decide +kernel
        rxFits := by decide
        txFits := by decide }]

def addressProbes : NetworkProbes where
  ping _ := .ok ⟨false, "", ""⟩
  http := ⟨.ok (), fun _ => false, 0⟩
  resolver := .ok ()
  lookup _ := none
  resolvConf := some (ResolvLine.write twoAddresses.resolv)
  routes := none
  pingGateway _ := .ok false
  netEntries := .ok [.ok "lo", .ok "eth0"]
  files path :=
    if path = "/sys/class/net/lo/operstate" then some "unknown\n"
    else if path = "/sys/class/net/lo/address" then some "00:00\n"
    else if path = "/sys/class/net/lo/statistics/rx_bytes" then some "7\n"
    else if path = "/sys/class/net/lo/statistics/tx_bytes" then some "9\n"
    else if path = "/sys/class/net/eth0/operstate" then some "up\n"
    else if path = "/sys/class/net/eth0/address" then some "02:42\n"
    else if path = "/sys/class/net/eth0/statistics/rx_bytes" then some "500\n"
    else some "300\n"
  showAddress name :=
    if name = "eth0" then
      some (true, "2: eth0    inet 10.0.0.5/24 scope global eth0\n" ++
        "2: eth0    inet 10.0.0.6/24 scope global secondary eth0\n")
    else some (true, "")
  now := "2024-01-01T00:00:00+00:00"

theorem report_reads_files_two_addresses :
    ∃ report, addressProbes.collectNetworkStatus = some (.ok report) ∧
      report.dns.nameservers = ["10.0.0.1"] ∧
      report.interfaces = [⟨"lo", none, some "00:00", false, true, 7, 9⟩,
        ⟨"eth0", some "10.0.0.5", some "02:42", true, false, 500, 300⟩] := by
  have written : twoAddresses.Written addressProbes := by
    refine ⟨rfl, rfl, ?_⟩
    intro interface member
    simp only [twoAddresses, List.mem_cons, List.not_mem_nil, or_false] at member
    rcases member with rfl | rfl
    · exact ⟨by decide +kernel, by decide +kernel, by decide +kernel, by decide +kernel,
        by decide +kernel⟩
    · exact ⟨by decide +kernel, by decide +kernel, by decide +kernel, by decide +kernel,
        by decide +kernel⟩
  obtain ⟨report, collected⟩ : ∃ report,
      addressProbes.collectNetworkStatus = some (.ok report) := ⟨_, rfl⟩
  obtain ⟨nameservers, interfaces⟩ := report_reads_files twoAddresses written collected
  exact ⟨report, collected, nameservers.trans (by decide +kernel),
    interfaces.trans (by decide +kernel)⟩

end SystemConfig

end NetGuardian
