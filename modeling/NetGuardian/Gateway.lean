import NetGuardian.Ipc
import NetGuardian.Foundation.HexText
import NetGuardian.Foundation.TextLines

/-!
# The default gateway

The kernel lists the routes as lines of fields, with addresses in hexadecimal.
On a little-endian machine the first byte of an address is the last one in that
text.  `hex_to_ip` takes the bytes in the order of the text, so that the address
comes out backwards: exactly the addresses that read the same in both
directions are decoded correctly.
-/

namespace NetGuardian

open PlainText

structure GatewayStatus where
  reachable : Bool
  gatewayIp : Option String
  interface : Option String
deriving DecidableEq

namespace Gateway

/-- The slices of two bytes, from the first one on; `none` where a slice begins
or ends inside of a character or beyond the end, which panics. -/
def byteSlices : List Char → Option (List (List Char))
  | [] => some []
  | [last] => if last.utf8Size = 2 then some [[last]] else none
  | first :: second :: rest =>
      if first.utf8Size = 2 then
        (byteSlices (second :: rest)).map fun slices => [first] :: slices
      else if first.utf8Size = 1 ∧ second.utf8Size = 1 then
        (byteSlices rest).map fun slices => [first, second] :: slices
      else none

def dottedQuad (first second third fourth : Nat) : String :=
  toString first ++ "." ++ toString second ++ "." ++ toString third ++ "." ++
    toString fourth

/-- `none` if the slicing panics. -/
def hexToIp (hex : List Char) : Option String :=
  (byteSlices hex).map fun slices =>
    match slices.filterMap (parseHex 256) with
    | [first, second, third, fourth] => dottedQuad first second third fourth
    | _ => ""

/-- The loop over the lines after the header. -/
def scanRoutes : List (List Char) → Option (Option String × Option String)
  | [] => some (none, none)
  | line :: others =>
      match splitBlanks isWhitespace line with
      | interface :: destination :: gatewayHex :: _ =>
          if destination = "00000000".toList ∧ gatewayHex ≠ "00000000".toList then
            (hexToIp gatewayHex).map fun ip =>
              (some ip, some (String.ofList interface))
          else scanRoutes others
      | _ => scanRoutes others

/-- `route` is the content of `/proc/net/route`, if it can be read; the result
is `none` if the function panics. -/
def findDefaultGateway (route : Option String) :
    Option (Option String × Option String) :=
  match route with
  | none => some (none, none)
  | some text => scanRoutes ((lines text.toList).drop 1)

/-- `ping` answers whether an address can be reached, or cannot be run. -/
def checkGateway (route : Option String) (ping : String → Except String Bool) :
    Option (Except String GatewayStatus) :=
  (findDefaultGateway route).map fun found =>
    match found.1 with
    | none => .ok ⟨false, found.1, found.2⟩
    | some ip => (ping ip).map fun reachable => ⟨reachable, found.1, found.2⟩

end Gateway

/-- An address `a.b.c.d`. -/
structure Ipv4Address where
  a : UInt8
  b : UInt8
  c : UInt8
  d : UInt8
deriving DecidableEq

namespace Ipv4Address

def dotted (address : Ipv4Address) : String :=
  Gateway.dottedQuad address.a.toNat address.b.toNat address.c.toNat
    address.d.toNat

/-- The bytes in network order as a native word of a little-endian machine. -/
def nativeWord (address : Ipv4Address) : Nat :=
  address.a.toNat + 256 * (address.b.toNat +
    256 * (address.c.toNat + 256 * address.d.toNat))

/-- The word as `%08X` prints it. -/
def kernelText (address : Ipv4Address) : List Char :=
  paddedHex 8 address.nativeWord

end Ipv4Address

namespace Gateway

/-- A line that makes the loop return: the default route, with a gateway. -/
def IsDefaultRoute (line : List Char) (interface gatewayHex : List Char) : Prop :=
  ∃ more, splitBlanks isWhitespace line =
      interface :: "00000000".toList :: gatewayHex :: more ∧
    gatewayHex ≠ "00000000".toList

/-- The first default route after the header goes through an interface to an
address. -/
def Routes (text : String) (interface : String) (address : Ipv4Address) : Prop :=
  ∃ header before line after,
    lines text.toList = header :: (before ++ line :: after) ∧
      (∀ earlier ∈ before, ∀ name hex, ¬ IsDefaultRoute earlier name hex) ∧
        IsDefaultRoute line interface.toList address.kernelText

section Decoding

variable {address : Ipv4Address} {line interface gatewayHex : List Char}
variable {before after : List (List Char)}

/-- The scan goes past every line that is not a default route. -/
theorem scanRoutes_skip (skipped : ∀ name hex, ¬ IsDefaultRoute line name hex) :
    scanRoutes (line :: after) = scanRoutes after := by
  rw [scanRoutes]
  split
  · next name destination hex more fields =>
      split
      · next isDefault =>
          refine absurd ⟨more, ?_, isDefault.2⟩ (skipped name hex)
          rw [fields, isDefault.1]
      · rfl
  · rfl

theorem scanRoutes_append
    (skipped : ∀ earlier ∈ before, ∀ name hex, ¬ IsDefaultRoute earlier name hex) :
    scanRoutes (before ++ after) = scanRoutes after := by
  induction before with
  | nil => rfl
  | cons first before ih =>
      obtain ⟨skipFirst, skipOthers⟩ := List.forall_mem_cons.mp skipped
      rw [List.cons_append, scanRoutes_skip skipFirst, ih skipOthers]

theorem scanRoutes_hit (isDefault : IsDefaultRoute line interface gatewayHex) :
    scanRoutes (line :: after) = (hexToIp gatewayHex).map fun ip =>
      (some ip, some (String.ofList interface)) := by
  obtain ⟨more, fields, nonzero⟩ := isDefault
  rw [scanRoutes, fields]
  exact if_pos ⟨rfl, nonzero⟩

/-- The bytes come out in the order of the text, the last one first. -/
theorem hexToIp_kernelText :
    hexToIp address.kernelText = some (dottedQuad address.d.toNat
      address.c.toNat address.b.toNat address.a.toNat) := by
  have aSmall := address.a.toNat_lt
  have bSmall := address.b.toNat_lt
  have cSmall := address.c.toNat_lt
  have dSmall := address.d.toNat_lt
  have size : ∀ value : Nat, (hexDigit (value % 16)).utf8Size = 1 := fun value =>
    utf8Size_hexDigit (Nat.mod_lt _ (by decide))
  have high : ∀ value : Nat, value < 256 → (hexDigit (value / 16)).utf8Size = 1 :=
    fun value small => utf8Size_hexDigit (by omega)
  rw [Ipv4Address.kernelText, Ipv4Address.nativeWord,
    paddedHex_word aSmall bSmall cSmall dSmall, hexToIp]
  simp [byteSlices, size, high _ aSmall, high _ bSmall, high _ cSmall,
    high _ dSmall, parseHex_byte aSmall, parseHex_byte bSmall, parseHex_byte cSmall,
    parseHex_byte dSmall]

/-- A decimal number contains no point. -/
theorem point_notMem_toString (number : Nat) :
    '.' ∉ (toString number).toList := by
  intro member
  change '.' ∈ (Nat.repr number).toList at member
  rw [Nat.toList_repr] at member
  have digit := Nat.isDigit_of_mem_toDigits (by decide) (by decide) member
  cases digit

theorem toString_toList_inj {first second : Nat}
    (same : (toString first).toList = (toString second).toList) : first = second := by
  change (Nat.repr first).toList = (Nat.repr second).toList at same
  rw [Nat.toList_repr, Nat.toList_repr] at same
  have read := congrArg (Nat.ofDigitChars 10 · 0) same
  simpa using read

/-- A dotted quad determines its numbers. -/
theorem dottedQuad_inj {a b c d w x y z : Nat}
    (same : dottedQuad a b c d = dottedQuad w x y z) :
    a = w ∧ b = x ∧ c = y ∧ d = z := by
  have letters : ∀ first second third fourth : Nat,
      (dottedQuad first second third fourth).toList =
        (toString first).toList ++ '.' :: ((toString second).toList ++
          '.' :: ((toString third).toList ++ '.' :: (toString fourth).toList)) := by
    intro first second third fourth
    simp [dottedQuad, String.toList_append]
  have sameLetters := congrArg String.toList same
  rw [letters, letters] at sameLetters
  obtain ⟨first, rest⟩ := append_mark_inj (point_notMem_toString a)
    (point_notMem_toString w) sameLetters
  obtain ⟨second, rest⟩ := append_mark_inj (point_notMem_toString b)
    (point_notMem_toString x) rest
  obtain ⟨third, fourth⟩ := append_mark_inj (point_notMem_toString c)
    (point_notMem_toString y) rest
  exact ⟨toString_toList_inj first, toString_toList_inj second,
    toString_toList_inj third, toString_toList_inj fourth⟩

variable {text name : String}

/-- What is returned is the interface and the address read backwards. -/
theorem findDefaultGateway_of_routes (routes : Routes text name address) :
    findDefaultGateway (some text) =
      some (some (dottedQuad address.d.toNat address.c.toNat address.b.toNat
        address.a.toNat), some name) := by
  obtain ⟨header, before, line, after, split, skipped, hit⟩ := routes
  rw [findDefaultGateway, split, List.drop_one, List.tail_cons,
    scanRoutes_append skipped, scanRoutes_hit hit, hexToIp_kernelText,
    Option.map_some, String.ofList_toList]

/-- The gateway is decoded correctly exactly if its address is the same read
backwards. -/
theorem findDefaultGateway_correct_iff (routes : Routes text name address) :
    findDefaultGateway (some text) = some (some address.dotted, some name) ↔
      address.a = address.d ∧ address.b = address.c := by
  rw [findDefaultGateway_of_routes routes]
  constructor
  · intro same
    have sameQuad := Option.some.inj (Prod.mk.inj (Option.some.inj same)).1
    obtain ⟨first, second, _, _⟩ := dottedQuad_inj sameQuad
    exact ⟨UInt8.toNat_inj.mp first.symm, UInt8.toNat_inj.mp second.symm⟩
  · rintro ⟨outer, inner⟩
    rw [Ipv4Address.dotted, outer, inner]

end Decoding

/-- The routes of a machine whose gateway is `192.168.1.1` on `eth0`. -/
def routeTable : String :=
  "Iface Destination Gateway\neth0 0001A8C0 00000000\neth0 00000000 0101A8C0\n"

theorem routes_routeTable : Routes routeTable "eth0" ⟨192, 168, 1, 1⟩ := by
  refine ⟨"Iface Destination Gateway".toList, ["eth0 0001A8C0 00000000".toList],
    "eth0 00000000 0101A8C0".toList, [], by decide +kernel, ?_, [], ?_, ?_⟩
  · intro earlier member name hex isDefault
    rw [List.mem_singleton.mp member] at isDefault
    obtain ⟨more, fields, nonzero⟩ := isDefault
    have known : splitBlanks isWhitespace "eth0 0001A8C0 00000000".toList =
        ["eth0".toList, "0001A8C0".toList, "00000000".toList] := by decide +kernel
    rw [known] at fields
    have destination := (List.cons.inj (List.cons.inj fields).2).1
    exact absurd destination (by decide)
  · decide +kernel
  · decide +kernel

theorem findDefaultGateway_routeTable :
    findDefaultGateway (some routeTable) ≠
      some (some (Ipv4Address.dotted ⟨192, 168, 1, 1⟩), some "eth0") := by
  rw [Ne, findDefaultGateway_correct_iff routes_routeTable]
  decide

/-- The gateway `192.168.1.1` comes out as `1.1.168.192`. -/
theorem gateway_read_backwards :
    Routes routeTable "eth0" ⟨192, 168, 1, 1⟩ ∧
      Ipv4Address.dotted ⟨192, 168, 1, 1⟩ = "192.168.1.1" ∧
        findDefaultGateway (some routeTable) = some (some "1.1.168.192", some "eth0") :=
  ⟨routes_routeTable, by decide +kernel,
    (findDefaultGateway_of_routes routes_routeTable).trans (by decide +kernel)⟩

end Gateway

end NetGuardian
