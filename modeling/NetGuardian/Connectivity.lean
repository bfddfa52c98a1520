import NetGuardian.Ipc
import NetGuardian.Foundation.TextLines
import Mathlib.Algebra.Order.Field.Basic
import Mathlib.Algebra.Order.Field.Rat
import Mathlib.Tactic.Linarith

/-!
# The connectivity check

Three hosts are pinged with four packets each.  How many of the twelve came back
is not taken from the summary of `ping`: the lines that look like replies are
counted.  With duplicate replies there can be more of them than packets, and the
number of lost packets, an unsigned difference, then wraps around.
-/

namespace NetGuardian

open PlainText

namespace F64

def neg : F64 → F64
  | .finite value => .finite (-value)
  | .infinity => .negInfinity
  | .negInfinity => .infinity
  | .nan => .nan

/-- The exponent of a decimal numeral: nothing, or an `e` and an integer. -/
def parseExponent : List Char → Option Int
  | [] => some 0
  | 'e' :: '-' :: digits => (parseDigits digits).map fun value => -(value : Int)
  | 'e' :: '+' :: digits => (parseDigits digits).map Int.ofNat
  | 'e' :: digits => (parseDigits digits).map Int.ofNat
  | _ => none
where
  parseDigits (digits : List Char) : Option Nat :=
    if digits ≠ [] ∧ digits.all Char.isDigit then some (digitsValue digits)
    else none

/-- A decimal numeral in lower case: digits with an optional point among them,
and an optional exponent. -/
def parseDecimal (text : List Char) : Option F64 :=
  let whole := text.takeWhile Char.isDigit
  let (fraction, rest) :=
    match text.dropWhile Char.isDigit with
    | '.' :: after => (after.takeWhile Char.isDigit, after.dropWhile Char.isDigit)
    | after => ([], after)
  if whole = [] ∧ fraction = [] then none
  else
    (parseExponent rest).map fun exponent : Int =>
      .finite (digitsValue (whole ++ fraction) *
        (10 : ℚ) ^ (exponent - fraction.length))

/-- `str::parse::<f64>` without rounding. -/
def parse (text : List Char) : Option F64 :=
  let unsigned (text : List Char) : Option F64 :=
    let lower := text.map Char.toLower
    if lower = "inf".toList ∨ lower = "infinity".toList then some .infinity
    else if lower = "nan".toList then some .nan
    else parseDecimal lower
  match text with
  | '-' :: digits => (unsigned digits).map neg
  | '+' :: digits => unsigned digits
  | digits => unsigned digits

end F64

/-- What one run of `ping` leaves behind, its outputs as text. -/
structure PingOutput where
  success : Bool
  stdout : String
  stderr : String

/-- `usize` subtraction. -/
def subUsize (left right : Nat) : Nat := (left + 2 ^ 64 - right) % 2 ^ 64

namespace Connectivity

def pingTargets : List String := ["1.1.1.1", "8.8.8.8", "google.com"]

def pingCount : Nat := 4

def contains (text : List Char) (pattern : String) : Bool :=
  decide (pattern.toList <:+: text)

def parseTotalLatency (output : List Char) : F64 :=
  ((lines output).filterMap fun line =>
    if contains line "time=" then do
      let part ← secondPiece "time=".toList line
      let val ← (splitBlanks isWhitespace part).head?
      F64.parse (trimEndMatches "ms".toList val)
    else none).foldl F64.add (.finite 0)

def parseSuccessCount (output : List Char) : Nat :=
  ((lines output).filter fun line =>
    contains line "time=" || contains line "bytes from").length

def pingHost (output : PingOutput) : Nat × Nat × F64 :=
  let stdout := output.stdout.toList
  let totalLatency := parseTotalLatency stdout
  let successCount := parseSuccessCount stdout
  let noRoute :=
    contains output.stderr.toList "Network is unreachable" ||
      contains stdout "Network is unreachable" ||
      contains stdout "Destination Host Unreachable" ||
      contains stdout "100% packet loss"
  if output.success = false ∧ successCount = 0 ∧ noRoute = true then
    (pingCount, 0, .finite 0)
  else (pingCount, successCount, totalLatency)

/-- The three accumulators of `check_connectivity`. -/
structure PingTotals where
  totalLatency : F64
  succeeded : Nat
  totalProbes : Nat

def PingTotals.add (totals : PingTotals) (result : Nat × Nat × F64) :
    PingTotals where
  totalProbes := totals.totalProbes + result.1
  succeeded := totals.succeeded + result.2.1
  totalLatency := totals.totalLatency.add result.2.2

/-- The loop over the targets; a `ping` that cannot be run ends it. -/
def pingAll (ping : String → Except String PingOutput) :
    Except String PingTotals :=
  pingTargets.foldlM
    (fun totals target => (ping target).map fun output =>
      totals.add (pingHost output))
    ⟨.finite 0, 0, 0⟩

def PingTotals.packetLoss (totals : PingTotals) : ℚ :=
  if 0 < totals.totalProbes then
    subUsize totals.totalProbes totals.succeeded / totals.totalProbes * 100
  else 100

/-- What the HTTP requests of the fallback come to. -/
structure HttpProbe where
  built : Except String Unit
  succeeds : String → Bool
  elapsed : Nat

def fallbackUrls : List String :=
  ["https://1.1.1.1", "https://cloudflare.com", "https://google.com"]

def httpFallbackCheck (probe : HttpProbe) : Except String (F64 × F64) :=
  probe.built.map fun _ =>
    if fallbackUrls.any probe.succeeds then
      (.finite (Duration.asSecsF64 probe.elapsed * 1000), .finite 0)
    else (.finite 0, .finite 100)

/-- The average latency and the packet loss. -/
def checkConnectivity (ping : String → Except String PingOutput)
    (probe : HttpProbe) : Except String (F64 × F64) :=
  match pingAll ping with
  | .error error => .error error
  | .ok totals =>
      if totals.succeeded = 0 then httpFallbackCheck probe
      else
        .ok (totals.totalLatency.divCount totals.succeeded,
          .finite totals.packetLoss)

/-- The lines of an output that look like a reply to a packet. -/
def replyLines (output : String) : List (List Char) :=
  (lines output.toList).filter fun line =>
    contains line "time=" || contains line "bytes from"

/-- Unless the check falls back, it does not lose more packets than it has sent,
and returns a percentage. -/
def LossIsPercentage (outputs : String → PingOutput) : Prop :=
  ∀ totals probe, pingAll (fun host => .ok (outputs host)) = .ok totals →
    totals.succeeded ≠ 0 →
      totals.succeeded ≤ totals.totalProbes ∧
        ∃ latency loss, checkConnectivity (fun host => .ok (outputs host)) probe =
          .ok (latency, .finite loss) ∧ 0 ≤ loss ∧ loss ≤ 100

section Counting

variable {outputs : String → PingOutput} {output : PingOutput}
variable {totals : PingTotals}

/-- A host counts with all packets and with its reply lines, on either way. -/
theorem pingHost_counts :
    (pingHost output).1 = pingCount ∧
      (pingHost output).2.1 = (replyLines output.stdout).length := by
  unfold pingHost
  dsimp only
  split
  · next noRoute => exact ⟨rfl, noRoute.2.1.symm⟩
  · exact ⟨rfl, rfl⟩

/-- The reply lines of all hosts. -/
def totalReplyLines (outputs : String → PingOutput) : Nat :=
  (pingTargets.map fun host => (replyLines (outputs host).stdout).length).sum

theorem pingAll_ok :
    ∃ totals, pingAll (fun host => .ok (outputs host)) = .ok totals ∧
      totals.totalProbes = 12 ∧ totals.succeeded = totalReplyLines outputs := by
  refine ⟨_, rfl, ?_, ?_⟩
  · simp [PingTotals.add, pingHost_counts, pingCount]
  · simp [PingTotals.add, pingHost_counts, totalReplyLines, pingTargets,
      Nat.add_assoc]

theorem packetLoss_bounds (within : totals.succeeded ≤ totals.totalProbes)
    (probes : totals.totalProbes = 12) :
    0 ≤ totals.packetLoss ∧ totals.packetLoss ≤ 100 := by
  have difference : subUsize totals.totalProbes totals.succeeded =
      12 - totals.succeeded := by
    unfold subUsize
    omega
  have nonneg : (0 : ℚ) ≤ ((12 - totals.succeeded : Nat) : ℚ) := Nat.cast_nonneg _
  have atMost : ((12 - totals.succeeded : Nat) : ℚ) ≤ 12 := by
    exact_mod_cast Nat.sub_le _ _
  rw [PingTotals.packetLoss, if_pos (by omega), difference, probes]
  constructor
  · positivity
  · push_cast
    linarith

/-- The packet loss is a percentage exactly if the three outputs together have
at most as many reply lines as packets were sent. -/
theorem lossIsPercentage_iff (outputs : String → PingOutput) :
    LossIsPercentage outputs ↔ totalReplyLines outputs ≤ 12 := by
  obtain ⟨totals, pinged, probes, replies⟩ := @pingAll_ok outputs
  rw [← replies]
  constructor
  · intro percentage
    by_cases answered : totals.succeeded = 0
    · rw [answered]
      exact Nat.zero_le _
    · have within := (percentage totals ⟨.error "", fun _ => false, 0⟩ pinged answered).1
      rwa [probes] at within
  · intro within others probe pingedToo answered
    rw [pinged, Except.ok.injEq] at pingedToo
    subst pingedToo
    rw [← probes] at within
    refine ⟨within, totals.totalLatency.divCount totals.succeeded,
      totals.packetLoss, ?_, packetLoss_bounds within probes⟩
    rw [checkConnectivity, pinged]
    exact if_neg answered

end Counting

/-- Every host sends one packet back five times. -/
def duplicateReplies (host : String) : PingOutput where
  success := true
  stdout := String.ofList ((List.replicate 5
    ("64 bytes from " ++ host ++ ": icmp_seq=1 time=10.1 ms").toList).flatMap
      (· ++ ['\n']))
  stderr := ""

/-- Fifteen replies to twelve packets. -/
theorem more_replies_than_packets :
    totalReplyLines duplicateReplies = 15 ∧ ¬ LossIsPercentage duplicateReplies := by
  have five : ∀ host ∈ pingTargets,
      (replyLines (duplicateReplies host).stdout).length = 5 := by
    intro host target
    let reply := ("64 bytes from " ++ host ++ ": icmp_seq=1 time=10.1 ms").toList
    have wellFormed : IsLine reply ∧
        (contains reply "time=" || contains reply "bytes from") = true := by
      unfold IsLine
      simp only [pingTargets, List.mem_cons, List.not_mem_nil, or_false] at target
      rcases target with rfl | rfl | rfl
      · decide +kernel
      · decide +kernel
      · decide +kernel
    obtain ⟨isLine, answers⟩ := wellFormed
    have read : lines (duplicateReplies host).stdout.toList =
        List.replicate 5 reply := by
      rw [duplicateReplies, String.toList_ofList]
      exact lines_flatMap fun line member => (List.eq_of_mem_replicate member) ▸ isLine
    have allReplies : ∀ line ∈ List.replicate 5 reply,
        (contains line "time=" || contains line "bytes from") = true :=
      fun line member => (List.eq_of_mem_replicate member) ▸ answers
    rw [replyLines, read, List.filter_eq_self.mpr allReplies, List.length_replicate]
  have total : totalReplyLines duplicateReplies = 15 := by
    simp only [totalReplyLines, List.map_congr_left five]
    rfl
  refine ⟨total, fun percentage => ?_⟩
  obtain ⟨totals, pinged, probes, replies⟩ := @pingAll_ok duplicateReplies
  have within := (percentage totals ⟨.error "", fun _ => false, 0⟩ pinged
    (by rw [replies, total]; decide)).1
  rw [probes, replies, total] at within
  exact absurd within (by decide)

end Connectivity

end NetGuardian
