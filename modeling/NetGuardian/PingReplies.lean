import NetGuardian.Connectivity
import NetGuardian.Foundation.ExpositionText
import NetGuardian.Foundation.TextFields
import Mathlib.Algebra.BigOperators.Group.List.Basic

/-!
# The replies of ping

`ping` prints a line for every reply, among other lines.  What the connectivity
check reads from such an output is the number of the replies and the sum of their
times, as `ping` has printed them.
-/

namespace NetGuardian

open PlainText

/-- A decimal numeral without a sign and without an exponent. -/
structure DecimalNumeral where
  whole : List Char
  fraction : List Char
  nonempty : whole ≠ []
  wholeDigits : ∀ digit ∈ whole, digit.isDigit
  fractionDigits : ∀ digit ∈ fraction, digit.isDigit

namespace DecimalNumeral

def text (numeral : DecimalNumeral) : List Char :=
  numeral.whole ++
    if numeral.fraction = [] then [] else '.' :: numeral.fraction

def value (numeral : DecimalNumeral) : ℚ :=
  digitsValue (numeral.whole ++ numeral.fraction) / 10 ^ numeral.fraction.length

variable {numeral : DecimalNumeral} {letter : Char}

end DecimalNumeral

/-- A reply to a packet: where it comes from, and the time that it has taken. -/
structure PingReply where
  origin : List Char
  icmpSeq : Nat
  ttl : Nat
  time : DecimalNumeral
  oneLine : '\n' ∉ origin
  plain : ¬ "time=".toList <:+: origin

namespace PingReply

/-- The line up to the blank before the time. -/
def head (reply : PingReply) : List Char :=
  "64 bytes from".toList ++ ' ' :: ((reply.origin ++ ':' :: []) ++
    ' ' :: (("icmp_seq=".toList ++ Nat.toDigits 10 reply.icmpSeq) ++
      ' ' :: ("ttl=".toList ++ Nat.toDigits 10 reply.ttl)))

def text (reply : PingReply) : List Char :=
  reply.head ++ ' ' :: ("time=".toList ++ (reply.time.text ++ " ms".toList))

end PingReply

/-- Any other line. -/
structure PingNote where
  text : List Char
  isLine : IsLine text
  noTime : Connectivity.contains text "time=" = false
  noBytes : Connectivity.contains text "bytes from" = false

inductive PingLine where
  | reply (reply : PingReply)
  | note (note : PingNote)

namespace PingLine

def text : PingLine → List Char
  | .reply answer => answer.text
  | .note other => other.text

def replyTime : PingLine → Option ℚ
  | .reply answer => some answer.time.value
  | .note _ => none

/-- The lines as `ping` prints them. -/
def write (printed : List PingLine) : List Char :=
  printed.flatMap fun line => line.text ++ ['\n']

/-- The times of the replies. -/
def times (printed : List PingLine) : List ℚ :=
  printed.filterMap replyTime

end PingLine

namespace PingReply

open Connectivity

variable (reply : PingReply)

end PingReply

namespace PingLine

open Connectivity

end PingLine

namespace Connectivity

/-- Half a millisecond after a number of them. -/
def andHalf (whole : Nat) : DecimalNumeral where
  whole := Nat.toDigits 10 whole
  fraction := ['5']
  nonempty := Nat.toDigits_ne_nil
  wholeDigits _ := Nat.isDigit_of_mem_toDigits (by decide) (by decide)
  fractionDigits := List.forall_mem_singleton.mpr (by decide)

def reply (icmpSeq whole : Nat) : PingReply where
  origin := "1.1.1.1".toList
  icmpSeq := icmpSeq
  ttl := 57
  time := andHalf whole
  oneLine := by decide +kernel
  plain := by decide +kernel

end Connectivity

end NetGuardian
