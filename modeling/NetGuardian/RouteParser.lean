import NetGuardian.Gateway

/-!
# The route parser on any text

The text of the routes may be anything.  Up to the first default route nothing
can go wrong; its gateway is then cut into slices of two bytes each, which panics
on an odd number of bytes and inside of a longer character, and an address is
made of the slices that are hexadecimal bytes if there are four of them, and the
empty text otherwise.
-/

namespace NetGuardian

open PlainText

namespace Gateway

/-- Four decimal numbers up to 255 with points between them. -/
def IsDottedQuad (ip : String) : Prop :=
  ∃ first second third fourth : Nat, first < 256 ∧ second < 256 ∧ third < 256 ∧
    fourth < 256 ∧ ip = dottedQuad first second third fourth

/-- The parser returns, and what it returns as an address is one. -/
def ParsesWell (text : String) : Prop :=
  ∃ found, findDefaultGateway (some text) = some found ∧
    ∀ ip, found.1 = some ip → IsDottedQuad ip

/-- The first default route behind the header has the gateway. -/
def FirstGateway (text : String) (gateway : List Char) : Prop :=
  ∃ before line after interface, (lines text.toList).drop 1 = before ++ line :: after ∧
    (∀ earlier ∈ before, ∀ name hex, ¬ IsDefaultRoute earlier name hex) ∧
      IsDefaultRoute line interface gateway

/-- The bytes of a slice. -/
def byteLength (slice : List Char) : Nat :=
  (slice.map Char.utf8Size).sum

/-- The text consists of slices of two bytes, four of which are hexadecimal
bytes. -/
def FourBytes (gateway : List Char) : Prop :=
  ∃ slices : List (List Char), slices.flatten = gateway ∧
    (∀ slice ∈ slices, byteLength slice = 2) ∧ slices.countP isHexByte = 4

section Slices

variable {gateway slice : List Char} {slices : List (List Char)}

/-- Two bytes are one letter of two bytes or two letters of one. -/
theorem byteLength_eq_two_iff :
    byteLength slice = 2 ↔
      (∃ wide, slice = [wide] ∧ wide.utf8Size = 2) ∨
        ∃ first second, slice = [first, second] ∧ first.utf8Size = 1 ∧
          second.utf8Size = 1 := by
  constructor
  · intro twoBytes
    match slice with
    | [] => cases twoBytes
    | [wide] =>
        refine .inl ⟨wide, rfl, ?_⟩
        simpa [byteLength] using twoBytes
    | [first, second] =>
        have firstSize := first.utf8Size_pos
        have secondSize := second.utf8Size_pos
        simp only [byteLength, List.map_cons, List.map_nil, List.sum_cons,
          List.sum_nil] at twoBytes
        exact .inr ⟨first, second, rfl, by omega, by omega⟩
    | first :: second :: third :: rest =>
        have firstSize := first.utf8Size_pos
        have secondSize := second.utf8Size_pos
        have thirdSize := third.utf8Size_pos
        simp only [byteLength, List.map_cons, List.sum_cons] at twoBytes
        omega
  · rintro (⟨wide, rfl, size⟩ | ⟨first, second, rfl, firstSize, secondSize⟩)
    · simp [byteLength, size]
    · simp [byteLength, firstSize, secondSize]

/-- The slicing succeeds exactly where the text is made of such slices. -/
theorem byteSlices_eq_some_iff :
    byteSlices gateway = some slices ↔
      slices.flatten = gateway ∧ ∀ slice ∈ slices, byteLength slice = 2 := by
  constructor
  · intro sliced
    induction gateway using byteSlices.induct generalizing slices with
    | case1 =>
        cases sliced
        exact ⟨rfl, nofun⟩
    | case2 last wide =>
        rw [byteSlices, if_pos wide] at sliced
        cases sliced
        simpa using byteLength_eq_two_iff.mpr (.inl ⟨last, rfl, wide⟩)
    | case3 last narrow =>
        rw [byteSlices, if_neg narrow] at sliced
        cases sliced
    | case4 first second rest wide ih =>
        rw [byteSlices, if_pos wide] at sliced
        obtain ⟨others, slicedRest, rfl⟩ := Option.map_eq_some_iff.mp sliced
        obtain ⟨joined, sizes⟩ := ih slicedRest
        refine ⟨by rw [List.flatten_cons, joined]; rfl, ?_⟩
        exact List.forall_mem_cons.mpr
          ⟨byteLength_eq_two_iff.mpr (.inl ⟨first, rfl, wide⟩), sizes⟩
    | case5 first second rest notWide narrow ih =>
        rw [byteSlices, if_neg notWide, if_pos narrow] at sliced
        obtain ⟨others, slicedRest, rfl⟩ := Option.map_eq_some_iff.mp sliced
        obtain ⟨joined, sizes⟩ := ih slicedRest
        refine ⟨by rw [List.flatten_cons, joined]; rfl, ?_⟩
        exact List.forall_mem_cons.mpr
          ⟨byteLength_eq_two_iff.mpr (.inr ⟨first, second, rfl, narrow⟩), sizes⟩
    | case6 first second rest notWide broken =>
        rw [byteSlices, if_neg notWide, if_neg broken] at sliced
        cases sliced
  · rintro ⟨rfl, sizes⟩
    induction slices with
    | nil => rfl
    | cons slice slices ih =>
        obtain ⟨size, others⟩ := List.forall_mem_cons.mp sizes
        have slicedRest := ih others
        rcases byteLength_eq_two_iff.mp size with
          ⟨wide, rfl, wideSize⟩ | ⟨first, second, rfl, firstSize, secondSize⟩
        · rw [List.flatten_cons, List.singleton_append]
          cases rest : slices.flatten with
          | nil =>
              rw [rest] at slicedRest
              cases slicedRest
              rw [byteSlices, if_pos wideSize]
          | cons next more =>
              rw [rest] at slicedRest
              rw [byteSlices, if_pos wideSize, slicedRest, Option.map_some]
        · have notWide : ¬ first.utf8Size = 2 := by omega
          rw [List.flatten_cons, List.cons_append, List.singleton_append, byteSlices,
            if_neg notWide, if_pos ⟨firstSize, secondSize⟩, slicedRest,
            Option.map_some]

/-- A slice is read exactly if it is a hexadecimal byte. -/
theorem isSome_parseHex_slice (size : byteLength slice = 2) :
    (parseHex 256 slice).isSome = isHexByte slice := by
  rcases byteLength_eq_two_iff.mp size with
    ⟨wide, rfl, wideSize⟩ | ⟨first, second, rfl, _⟩
  · rw [parseHex_wide wideSize]
    rfl
  · exact isSome_parseHex_pair

theorem length_parsed (sizes : ∀ slice ∈ slices, byteLength slice = 2) :
    (slices.filterMap (parseHex 256)).length = slices.countP isHexByte := by
  rw [List.length_filterMap_eq_countP]
  refine List.countP_congr fun slice member => ?_
  rw [isSome_parseHex_slice (sizes slice member)]

theorem not_isDottedQuad_empty : ¬ IsDottedQuad "" := by
  rintro ⟨first, second, third, fourth, _, _, _, _, same⟩
  have letters := congrArg String.toList same
  simp [dottedQuad] at letters

/-- Four bytes give a dotted quad, and everything else gives none. -/
theorem hexToIp_isDottedQuad_iff :
    (∃ ip, hexToIp gateway = some ip ∧ IsDottedQuad ip) ↔ FourBytes gateway := by
  constructor
  · rintro ⟨ip, decoded, quad⟩
    obtain ⟨slices, sliced, joined⟩ := Option.map_eq_some_iff.mp decoded
    obtain ⟨flattened, sizes⟩ := byteSlices_eq_some_iff.mp sliced
    refine ⟨slices, flattened, sizes, ?_⟩
    rw [← length_parsed sizes]
    split at joined
    · next first second third fourth parsed =>
        rw [parsed]
        rfl
    · rw [← joined] at quad
      exact absurd quad not_isDottedQuad_empty
  · rintro ⟨slices, flattened, sizes, four⟩
    have sliced := byteSlices_eq_some_iff.mpr ⟨flattened, sizes⟩
    rw [← length_parsed sizes] at four
    obtain ⟨first, second, third, fourth, parsed⟩ := List.length_eq_four.mp four
    have small : ∀ byte ∈ slices.filterMap (parseHex 256), byte < 256 := by
      intro byte member
      obtain ⟨slice, _, read⟩ := List.mem_filterMap.mp member
      exact parseHex_lt read
    rw [parsed] at small
    refine ⟨dottedQuad first second third fourth, ?_, first, second, third, fourth,
      small _ (by simp), small _ (by simp), small _ (by simp), small _ (by simp), rfl⟩
    rw [hexToIp, sliced, Option.map_some, parsed]

end Slices

section Texts

variable {text : String} {gateway : List Char} {routes : List (List Char)}

/-- There is a first default route, or none. -/
theorem exists_first_default (routes : List (List Char)) :
    (∀ line ∈ routes, ∀ name hex, ¬ IsDefaultRoute line name hex) ∨
      ∃ before line after interface gateway, routes = before ++ line :: after ∧
        (∀ earlier ∈ before, ∀ name hex, ¬ IsDefaultRoute earlier name hex) ∧
          IsDefaultRoute line interface gateway := by
  induction routes with
  | nil => exact .inl nofun
  | cons line routes ih =>
      by_cases isDefault : ∃ name hex, IsDefaultRoute line name hex
      · obtain ⟨name, hex, isDefault⟩ := isDefault
        exact .inr ⟨[], line, routes, name, hex, rfl, nofun, isDefault⟩
      · have skipped : ∀ name hex, ¬ IsDefaultRoute line name hex :=
          fun name hex hit => isDefault ⟨name, hex, hit⟩
        rcases ih with noDefault | ⟨before, hit, after, name, hex, rfl, skips, found⟩
        · exact .inl (List.forall_mem_cons.mpr ⟨skipped, noDefault⟩)
        · exact .inr ⟨line :: before, hit, after, name, hex, rfl,
            List.forall_mem_cons.mpr ⟨skipped, skips⟩, found⟩

/-- Without a default route nothing is found. -/
theorem scanRoutes_of_none
    (noDefault : ∀ line ∈ routes, ∀ name hex, ¬ IsDefaultRoute line name hex) :
    scanRoutes routes = some (none, none) := by
  have scanned : scanRoutes (routes ++ []) = scanRoutes [] :=
    scanRoutes_append noDefault
  rwa [List.append_nil] at scanned

/-- What is found is decoded from the gateway of the first default route. -/
theorem findDefaultGateway_of_first {before after : List (List Char)}
    {line interface : List Char}
    (split : (lines text.toList).drop 1 = before ++ line :: after)
    (skipped : ∀ earlier ∈ before, ∀ name hex, ¬ IsDefaultRoute earlier name hex)
    (hit : IsDefaultRoute line interface gateway) :
    findDefaultGateway (some text) = (hexToIp gateway).map fun ip =>
      (some ip, some (String.ofList interface)) := by
  rw [findDefaultGateway, split, scanRoutes_append skipped, scanRoutes_hit hit]

end Texts

/-- The parser returns, with an address if with anything, exactly if the gateway
of the first default route has four hexadecimal bytes. -/
theorem parsesWell_iff (text : String) :
    ParsesWell text ↔ ∀ gateway, FirstGateway text gateway → FourBytes gateway := by
  constructor
  · rintro ⟨found, returned, quads⟩ gateway
    rintro ⟨before, line, after, interface, split, skipped, hit⟩
    rw [findDefaultGateway_of_first split skipped hit] at returned
    obtain ⟨ip, decoded, rfl⟩ := Option.map_eq_some_iff.mp returned
    exact hexToIp_isDottedQuad_iff.mp ⟨ip, decoded, quads ip rfl⟩
  · intro fourBytes
    rcases exists_first_default ((lines text.toList).drop 1) with
      noDefault | ⟨before, line, after, interface, gateway, split, skipped, hit⟩
    · refine ⟨_, scanRoutes_of_none noDefault, ?_⟩
      rintro ip ⟨⟩
    · have first : FirstGateway text gateway :=
        ⟨before, line, after, interface, split, skipped, hit⟩
      obtain ⟨ip, decoded, quad⟩ := hexToIp_isDottedQuad_iff.mpr (fourBytes gateway first)
      refine ⟨(some ip, some (String.ofList interface)), ?_, ?_⟩
      · rw [findDefaultGateway_of_first split skipped hit, decoded, Option.map_some]
      · rintro _ ⟨rfl⟩
        exact quad

/-- A gateway of seven digits makes the slicing panic, and one of three bytes
gives an empty address. -/
theorem short_gateways :
    findDefaultGateway (some "Iface Destination Gateway\neth0 00000000 0101A8C\n") =
        none ∧
      ¬ ParsesWell "Iface Destination Gateway\neth0 00000000 0101A8C\n" ∧
      findDefaultGateway (some "Iface Destination Gateway\neth0 00000000 0101A8\n") =
        some (some "", some "eth0") ∧
      ¬ ParsesWell "Iface Destination Gateway\neth0 00000000 0101A8\n" := by
  have panics : findDefaultGateway
      (some "Iface Destination Gateway\neth0 00000000 0101A8C\n") = none := by
    decide +kernel
  have empty : findDefaultGateway
      (some "Iface Destination Gateway\neth0 00000000 0101A8\n") =
        some (some "", some "eth0") := by
    decide +kernel
  refine ⟨panics, ?_, empty, ?_⟩
  · rintro ⟨found, returned, _⟩
    rw [panics] at returned
    cases returned
  · rintro ⟨found, returned, quads⟩
    rw [empty] at returned
    cases returned
    exact not_isDottedQuad_empty (quads "" rfl)

end Gateway

end NetGuardian
