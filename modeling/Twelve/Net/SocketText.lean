import Twelve.Net.SocketAddr

/-! The text of a socket address. What is printed for an address is read back, but for
its flow information, and the address that any text is read as has none. The lemmas about
a reader have an arbitrary rest behind what it reads. -/

set_option autoImplicit false

namespace Twelve

open Numeral (Format isDigit)

section Octets

private theorem segmentOfOctets_halves (segment : UInt16) :
    segmentOfOctets (UInt8.ofNat (segment.toNat / 256)) (UInt8.ofNat (segment.toNat % 256)) =
      segment := by
  have bound : segment.toNat < 65536 := segment.toNat_lt
  have upper : segment.toNat / 256 % 256 = segment.toNat / 256 := Nat.mod_eq_of_lt (by omega)
  have lower : segment.toNat % 256 % 256 = segment.toNat % 256 := Nat.mod_mod _ _
  rw [segmentOfOctets, UInt8.toNat_ofNat', UInt8.toNat_ofNat', upper, lower,
    Nat.div_add_mod', UInt16.ofNat_toNat]

theorem Ipv4Addr.toSegments_ofSegments (upper lower : UInt16) :
    (Ipv4Addr.ofSegments upper lower).toSegments = [upper, lower] := by
  simp [ofSegments, toSegments, segmentOfOctets_halves]

theorem Ipv6Addr.segments_of_toIpv4Mapped {ip : Ipv6Addr} {ipv4 : Ipv4Addr}
    (mapped : ip.toIpv4Mapped = some ipv4) :
    ip.segments = [0, 0, 0, 0, 0, 0xFFFF] ++ ipv4.toSegments := by
  unfold toIpv4Mapped at mapped
  split at mapped
  · next front =>
      split at mapped
      · next upper lower back =>
          cases mapped
          rw [← List.take_append_drop 6 ip.segments, front, back, Ipv4Addr.toSegments_ofSegments]
      · cases mapped
  · cases mapped

end Octets

section Zeroes

/-- A run of zeroes at its place in a list, and one at the end of the list. -/
def ZeroesIn (segments : List UInt16) (run : Span) : Prop :=
  ∃ before after, segments = before ++ List.replicate run.len 0 ++ after ∧
    before.length = run.start

def ZeroesAtEnd (segments : List UInt16) (run : Span) : Prop :=
  ∃ before, segments = before ++ List.replicate run.len 0 ∧ before.length = run.start

private theorem ZeroesIn.append {segments : List UInt16} {run : Span}
    (found : ZeroesIn segments run) (segment : UInt16) :
    ZeroesIn (segments ++ [segment]) run := by
  obtain ⟨before, after, rfl, start⟩ := found
  exact ⟨before, after ++ [segment], by simp, start⟩

private theorem ZeroesAtEnd.append_zero {segments : List UInt16} {run : Span}
    (found : run.len = 0 ∨ ZeroesAtEnd segments run) :
    ZeroesAtEnd (segments ++ [0])
      ⟨if run.len = 0 then segments.length else run.start, run.len + 1⟩ := by
  by_cases none : run.len = 0
  · exact ⟨segments, by simp [none], by simp [none]⟩
  · obtain ⟨before, rfl, start⟩ := found.resolve_left none
    exact ⟨before, by simp [List.replicate_succ'], by simp [none, start]⟩

private theorem longestZeroes_zeroesIn {longest current : Span} {done rest : List UInt16}
    (longestRun : ZeroesIn done longest) (currentRun : current.len = 0 ∨ ZeroesAtEnd done current) :
    ZeroesIn (done ++ rest) (longestZeroes done.length longest current rest) := by
  induction rest generalizing longest current done with
  | nil =>
      rw [List.append_nil]
      exact longestRun
  | cons segment rest ih =>
      have counted : done.length + 1 = (done ++ [segment]).length := by simp
      rw [longestZeroes, counted, ← List.singleton_append, ← List.append_assoc]
      split
      · next zero =>
          subst zero
          have run := ZeroesAtEnd.append_zero currentRun
          refine ih ?_ (.inr run)
          by_cases larger : longest.len < current.len + 1
          · obtain ⟨before, same, start⟩ := run
            rw [if_pos larger]
            exact ⟨before, [], by rw [List.append_nil]; exact same, start⟩
          · rw [if_neg larger]
            exact longestRun.append 0
      · exact ih (longestRun.append segment) (.inl rfl)

/-- The run that is left out of a print consists of zeroes. -/
theorem segments_eq_zeroes (segments : List UInt16) :
    let zeroes := longestZeroes 0 ⟨0, 0⟩ ⟨0, 0⟩ segments
    zeroes.start + zeroes.len ≤ segments.length ∧
      segments = segments.take zeroes.start ++ List.replicate zeroes.len 0 ++
        segments.drop (zeroes.start + zeroes.len) := by
  intro zeroes
  have found : ZeroesIn segments zeroes :=
    @longestZeroes_zeroesIn ⟨0, 0⟩ ⟨0, 0⟩ [] segments ⟨[], [], rfl, rfl⟩ (.inl rfl)
  obtain ⟨before, after, split, start⟩ := found
  have length : (before ++ List.replicate zeroes.len 0).length = zeroes.start + zeroes.len := by
    rw [List.length_append, List.length_replicate, start]
  have front : segments.take zeroes.start = before := by
    rw [split, List.append_assoc, ← start, List.take_left]
  have back : segments.drop (zeroes.start + zeroes.len) = after := by
    rw [split, ← length, List.drop_left]
  refine ⟨?_, by rw [front, back, ← split]⟩
  rw [split, List.length_append, length]
  exact Nat.le_add_right _ _

end Zeroes

namespace Parser

variable {rest : Str}

/-! ## Numbers -/

section Numbers

theorem readOctet_decimal (value : UInt8) (stops : rest.head?.all (!isDigit 10 ·) = true) :
    readOctet (decimal value.toNat ++ rest) = some (value, rest) := by
  have bound : value.toNat < 256 := value.toNat_lt
  have short : (Nat.toDigits 10 value.toNat).length ≤ 3 :=
    (Nat.length_toDigits_le_iff (by decide) (by decide)).mpr (by omega)
  have read : octet.readNumber (decimal value.toNat ++ rest) = some (value.toNat, rest) :=
    Format.readNumber_toDigits (by decide) (by decide) bound (decide_eq_true short) stops
  simp [readOctet, read]

theorem readGroup_lowerHex (segment : UInt16) (stops : rest.head?.all (!isDigit 16 ·) = true) :
    readGroup (lowerHex segment ++ rest) = some (segment, rest) := by
  have bound : segment.toNat < 65536 := segment.toNat_lt
  have short : (Nat.toDigits 16 segment.toNat).length ≤ 4 :=
    (Nat.length_toDigits_le_iff (by decide) (by decide)).mpr bound
  have read : group.readNumber (lowerHex segment ++ rest) = some (segment.toNat, rest) :=
    Format.readNumber_toDigits (by decide) (by decide) bound (decide_eq_true short) stops
  simp [readGroup, read]

theorem readPort_decimal (value : UInt16) :
    readPort (':' :: decimal value.toNat) = some (value, []) := by
  have bound : value.toNat < 65536 := value.toNat_lt
  have read : port.readNumber (decimal value.toNat ++ []) = some (value.toNat, []) :=
    Format.readNumber_toDigits (by decide) (by decide) bound (decide_eq_true bound) rfl
  rw [List.append_nil] at read
  simp [readPort, readGivenChar, read]

theorem readScopeId_decimal (value : UInt32) (stops : rest.head?.all (!isDigit 10 ·) = true) :
    readScopeId ('%' :: (decimal value.toNat ++ rest)) = some (value, rest) := by
  have bound : value.toNat < 4294967296 := value.toNat_lt
  have read : scopeId.readNumber (decimal value.toNat ++ rest) = some (value.toNat, rest) :=
    Format.readNumber_toDigits (by decide) (by decide) bound (decide_eq_true bound) stops
  simp [readScopeId, readGivenChar, read]

end Numbers

/-! ## IPv4 addresses -/

section Ipv4

private theorem readGivenChar_eq_none {target : Char} {text : Str}
    (other : text.head? ≠ some target) : readGivenChar target text = none := by
  cases text with
  | nil => rfl
  | cons char text =>
      rw [readGivenChar, if_neg]
      simpa using other

theorem readIpv4Addr_display (ip : Ipv4Addr) (stops : rest.head?.all (!isDigit 10 ·) = true) :
    readIpv4Addr (ip.display ++ rest) = some (ip, rest) := by
  have next : ∀ text : Str, ('.' :: text).head?.all (!isDigit 10 ·) = true := fun _ => rfl
  simp [readIpv4Addr, readSeparator, readGivenChar, Ipv4Addr.display, readOctet_decimal _ (next _),
    readOctet_decimal _ stops]

/-- A number that no dot follows does not begin an address. -/
theorem readIpv4Addr_eq_none {text : Str}
    (noDot : (text.dropWhile (isDigit 10)).head? ≠ some '.') : readIpv4Addr text = none := by
  have first : readSeparator '.' 0 readOctet text = readOctet text := rfl
  unfold readIpv4Addr
  rw [first]
  cases read : readOctet text with
  | none => rfl
  | some found =>
      obtain ⟨one, rest⟩ := found
      obtain ⟨⟨value, following⟩, number, same⟩ := Option.map_eq_some_iff.mp read
      cases same
      have after : rest = text.dropWhile (isDigit 10) := Format.readNumber_rest number
      have missing : readGivenChar '.' rest = none := readGivenChar_eq_none (after ▸ noDot)
      simp [readSeparator, missing]

end Ipv4

/-! ## Groups -/

section Groups

/-- Neither another hexadecimal digit nor the dot of an IPv4 address comes next. -/
def Stops (text : Str) : Prop := text.head?.all (fun char => !isDigit 16 char && char != '.') = true

/-- No group can be read from here on. -/
def Ends (index : Nat) (text : Str) : Prop :=
  readSeparator ':' index readIpv4Addr text = none ∧ readSeparator ':' index readGroup text = none

private theorem stops_cons_iff {char : Char} {text : Str} :
    Stops (char :: text) ↔ isDigit 16 char = false ∧ char ≠ '.' := by
  simp [Stops]

theorem Stops.hex {text : Str} (stops : Stops text) :
    text.head?.all (!isDigit 16 ·) = true := by
  cases text with
  | nil => rfl
  | cons char text => simpa using (stops_cons_iff.mp stops).1

private theorem Stops.noDot {text : Str} (stops : Stops text) :
    (text.dropWhile (isDigit 10)).head? ≠ some '.' := by
  cases text with
  | nil => simp
  | cons char text =>
      obtain ⟨notHex, notDot⟩ := stops_cons_iff.mp stops
      have notDecimal : isDigit 10 char = false := Numeral.isDigit_mono (by decide) notHex
      rw [List.dropWhile_cons_of_neg (by simp [notDecimal])]
      simpa using notDot

private theorem decimal_of_hex {text : Str} (stops : text.head?.all (!isDigit 16 ·) = true) :
    text.head?.all (!isDigit 10 ·) = true := by
  cases text with
  | nil => rfl
  | cons char text =>
      simp only [List.head?_cons, Option.all_some, Bool.not_eq_true'] at stops ⊢
      exact Numeral.isDigit_mono (by decide) stops

private theorem readGroup_eq_none {text : Str} (stops : text.head?.all (!isDigit 16 ·) = true) :
    readGroup text = none := by
  rw [readGroup, Format.readNumber_eq_none stops, Option.map_none]

private theorem readIpv4Addr_of_stops {text : Str} (stops : Stops text) :
    readIpv4Addr text = none :=
  readIpv4Addr_eq_none stops.noDot

/-- A group is not the first number of an IPv4 address unless a dot follows it. -/
theorem readIpv4Addr_lowerHex (segment : UInt16) (stops : Stops rest) :
    readIpv4Addr (lowerHex segment ++ rest) = none := by
  apply readIpv4Addr_eq_none
  intro dot
  have digits : ∀ char ∈ lowerHex segment, isDigit 16 char = true := fun char member =>
    Numeral.isDigit_of_mem_toDigits (by decide) (by decide) member
  rw [List.dropWhile_append] at dot
  split at dot
  · exact stops.noDot dot
  · next more =>
      cases left : (lowerHex segment).dropWhile (isDigit 10) with
      | nil => simp [left] at more
      | cons char tail =>
          rw [left] at dot
          have member : char ∈ lowerHex segment :=
            (List.dropWhile_sublist _).subset (left ▸ List.mem_cons_self)
          have digit := digits char member
          rw [Option.some.inj dot] at digit
          exact absurd digit (by decide)

theorem Ends.zero {text : Str} (stops : Stops text) : Ends 0 text :=
  ⟨readIpv4Addr_of_stops stops, readGroup_eq_none stops.hex⟩

theorem Ends.succ {index : Nat} {text : Str} (positive : 0 < index)
    (ends : ∀ following, readGivenChar ':' text = some following → Stops following) :
    Ends index text := by
  rw [Ends, readSeparator, readSeparator, if_pos positive, if_pos positive]
  cases next : readGivenChar ':' text with
  | none => exact ⟨rfl, rfl⟩
  | some following =>
      have stops := ends following next
      exact ⟨readIpv4Addr_of_stops stops, readGroup_eq_none stops.hex⟩

theorem readGroups_of_ends {index : Nat} (remaining : Nat) (ends : Ends index rest) :
    readGroups index remaining rest = ([], false, rest) := by
  cases remaining with
  | zero => rfl
  | succ remaining => simp [readGroups, ends.1, ends.2]

/-- A group with the colon that separates it from the group before. -/
def groupText (index : Nat) (segment : UInt16) : Str :=
  if 0 < index then ':' :: lowerHex segment else lowerHex segment

def groupsText (index : Nat) : List UInt16 → Str
  | [] => []
  | segment :: segments => groupText index segment ++ groupsText (index + 1) segments

private theorem groupsText_of_pos {index : Nat} (positive : 0 < index) (segments : List UInt16) :
    groupsText index segments = segments.flatMap fun segment => ':' :: lowerHex segment := by
  induction segments generalizing index with
  | nil => rfl
  | cons segment segments ih =>
      rw [groupsText, groupText, if_pos positive, ih (Nat.succ_pos index), List.flatMap_cons]

private theorem fmtSubslice_eq (segments : List UInt16) :
    fmtSubslice segments = groupsText 0 segments := by
  cases segments with
  | nil => rfl
  | cons segment segments =>
      rw [fmtSubslice, groupsText, groupsText_of_pos Nat.one_pos]
      rfl

private theorem readSeparator_groupText {α : Type} (index : Nat) (segment : UInt16)
    (inner : Str → Option (α × Str)) :
    readSeparator ':' index inner (groupText index segment ++ rest) =
      inner (lowerHex segment ++ rest) := by
  by_cases positive : 0 < index
  · simp [readSeparator, groupText, positive, readGivenChar]
  · simp [readSeparator, groupText, positive]

private theorem readGroups_groupText (index remaining : Nat) (segment : UInt16)
    (stops : Stops rest) :
    readGroups index (remaining + 1) (groupText index segment ++ rest) =
      (segment :: (readGroups (index + 1) remaining rest).1,
        (readGroups (index + 1) remaining rest).2) := by
  rw [readGroups, readSeparator_groupText, readSeparator_groupText,
    readIpv4Addr_lowerHex segment stops, readGroup_lowerHex segment stops.hex]
  simp

private theorem stops_groupsText {index : Nat} (positive : 0 < index) (segments : List UInt16)
    (stops : Stops rest) : Stops (groupsText index segments ++ rest) := by
  cases segments with
  | nil => exact stops
  | cons segment segments =>
      rw [groupsText, groupText, if_pos positive]
      rfl

/-- Groups are read up to a place where no other group can be read. -/
theorem readGroups_groupsText {index remaining : Nat} {segments : List UInt16}
    (fits : segments.length ≤ remaining) (stops : Stops rest)
    (ends : segments.length < remaining → Ends (index + segments.length) rest) :
    readGroups index remaining (groupsText index segments ++ rest) = (segments, false, rest) := by
  induction segments generalizing index remaining with
  | nil =>
      cases remaining with
      | zero => rfl
      | succ remaining => exact readGroups_of_ends _ (ends (Nat.succ_pos remaining))
  | cons segment segments ih =>
      cases remaining with
      | zero => exact absurd fits (Nat.not_succ_le_zero _)
      | succ remaining =>
          have later : segments.length < remaining → Ends (index + 1 + segments.length) rest := by
            intro less
            rw [Nat.add_right_comm]
            exact ends (Nat.succ_lt_succ less)
          have others : readGroups (index + 1) remaining (groupsText (index + 1) segments ++ rest) =
              (segments, false, rest) := ih (Nat.le_of_succ_le_succ fits) later
          rw [groupsText, List.append_assoc, readGroups_groupText index remaining segment
            (stops_groupsText (Nat.succ_pos index) segments stops), others]

end Groups

/-! ## IPv6 addresses -/

section Ipv6

theorem readIpv6Addr_of_whole {text : Str} {ip : Ipv6Addr} {ended : Bool}
    (head : readGroups 0 8 text = (ip.segments, ended, rest)) :
    readIpv6Addr text = some (ip, rest) := by
  unfold readIpv6Addr
  simp only [head, dif_pos ip.length_eq]

/-- The groups between two parts are zero, and there is at least one of them. -/
theorem readIpv6Addr_of_parts {text more : Str} {ip : Ipv6Addr} {head tail : List UInt16}
    {count : Nat} {ended : Bool}
    (segments : ip.segments = head ++ List.replicate (count + 1) 0 ++ tail)
    (first : readGroups 0 8 text = (head, false, "::".toList ++ more))
    (second : readGroups 0 (8 - (head.length + 1)) more = (tail, ended, rest)) :
    readIpv6Addr text = some (ip, rest) := by
  have length : head.length + (count + 1) + tail.length = 8 := by
    rw [← ip.length_eq, segments, List.length_append, List.length_append, List.length_replicate]
  have notWhole : head.length ≠ 8 := by omega
  have zeroes : 8 - head.length - tail.length = count + 1 := by omega
  have colons : (readGivenChar ':' ("::".toList ++ more)).bind (readGivenChar ':') = some more :=
    rfl
  obtain ⟨ipSegments, ipLength⟩ := ip
  subst segments
  unfold readIpv6Addr
  simp only [first, dif_neg notWhole, Bool.false_eq_true, if_false, colons, second, zeroes]

/-- What stands behind an IPv6 address in brackets. -/
def Closes (text : Str) : Prop := text.head? = some '%' ∨ text.head? = some ']'

theorem Closes.stops (closes : Closes rest) : Stops rest := by
  rcases closes with scope | bracket
  · rw [Stops, scope]
    rfl
  · rw [Stops, bracket]
    rfl

theorem Closes.ends (closes : Closes rest) (index : Nat) : Ends index rest := by
  cases index with
  | zero => exact .zero closes.stops
  | succ index =>
      refine .succ (Nat.succ_pos index) ?_
      intro following colon
      rw [readGivenChar_eq_none] at colon
      · cases colon
      · rcases closes with scope | bracket
        · simp [scope]
        · simp [bracket]

private theorem colons_stops (more : Str) : Stops ("::".toList ++ more) := rfl

private theorem colons_ends (index : Nat) (more : Str) : Ends index ("::".toList ++ more) := by
  cases index with
  | zero => exact .zero (colons_stops more)
  | succ index =>
      refine .succ (Nat.succ_pos index) ?_
      intro following colon
      cases colon
      rfl

private theorem readIpv6Addr_mapped {ip : Ipv6Addr} {ipv4 : Ipv4Addr}
    (mapped : ip.toIpv4Mapped = some ipv4) (closes : Closes rest) :
    readIpv6Addr ("::ffff:".toList ++ ipv4.display ++ rest) = some (ip, rest) := by
  have split : "::ffff:".toList ++ ipv4.display ++ rest =
      "::".toList ++ (groupText 0 0xFFFF ++ ':' :: (ipv4.display ++ rest)) := by
    have digits : lowerHex 0xFFFF = "ffff".toList := by rfl
    simp [groupText, digits]
  have address : readGroups 1 6 (':' :: (ipv4.display ++ rest)) =
      (ipv4.toSegments, true, rest) := by
    have read := readIpv4Addr_display ipv4 (decimal_of_hex closes.stops.hex)
    simp [readGroups, readSeparator, readGivenChar, read]
  have tail : readGroups 0 7 (groupText 0 0xFFFF ++ ':' :: (ipv4.display ++ rest)) =
      (0xFFFF :: ipv4.toSegments, true, rest) := by
    have colon : Stops (':' :: (ipv4.display ++ rest)) := rfl
    rw [readGroups_groupText 0 6 0xFFFF colon, address]
  have segments := Ipv6Addr.segments_of_toIpv4Mapped mapped
  rw [split]
  exact @readIpv6Addr_of_parts _ _ _ _ [] _ 4 _ segments
    (readGroups_of_ends 8 (colons_ends 0 _)) tail

theorem readIpv6Addr_display (ip : Ipv6Addr) (closes : Closes rest) :
    readIpv6Addr (ip.display ++ rest) = some (ip, rest) := by
  unfold Ipv6Addr.display
  split
  · next ipv4 mapped => exact readIpv6Addr_mapped mapped closes
  · obtain ⟨bound, segments⟩ := segments_eq_zeroes ip.segments
    generalize longestZeroes 0 ⟨0, 0⟩ ⟨0, 0⟩ ip.segments = zeroes at bound segments
    rw [ip.length_eq] at bound
    dsimp only
    split
    · next long =>
        obtain ⟨count, run⟩ : ∃ count, zeroes.len = count + 1 := ⟨zeroes.len - 1, by omega⟩
        have before : (ip.segments.take zeroes.start).length = zeroes.start := by
          rw [List.length_take, ip.length_eq]
          omega
        have fits : (ip.segments.drop (zeroes.start + zeroes.len)).length ≤
            8 - ((ip.segments.take zeroes.start).length + 1) := by
          rw [before, List.length_drop, ip.length_eq]
          omega
        have parts : ip.segments = ip.segments.take zeroes.start ++
            List.replicate (count + 1) 0 ++ ip.segments.drop (zeroes.start + zeroes.len) := by
          rw [← run]
          exact segments
        rw [fmtSubslice_eq, fmtSubslice_eq, List.append_assoc, List.append_assoc]
        exact readIpv6Addr_of_parts parts
          (readGroups_groupsText (by omega) (colons_stops _) fun _ => colons_ends _ _)
          (readGroups_groupsText fits closes.stops fun _ => closes.ends _)
    · rw [fmtSubslice_eq]
      exact readIpv6Addr_of_whole (readGroups_groupsText (Nat.le_of_eq ip.length_eq) closes.stops
        fun _ => closes.ends _)

end Ipv6

/-! ## Socket addresses -/

section Sockets

theorem readSocketAddrV4_display (address : SocketAddrV4) :
    readSocketAddrV4 address.display = some (address, []) := by
  have stops : (':' :: decimal address.port.toNat).head?.all (!isDigit 10 ·) = true := rfl
  simp [readSocketAddrV4, SocketAddrV4.display, readIpv4Addr_display address.ip stops,
    readPort_decimal]

theorem readSocketAddrV4_of_stops {text : Str} (stops : Stops text) :
    readSocketAddrV4 text = none := by
  simp [readSocketAddrV4, readIpv4Addr_of_stops stops]

theorem readSocketAddrV6_display (address : SocketAddrV6) :
    readSocketAddrV6 address.display = some ({ address with flowinfo := 0 }, []) := by
  obtain ⟨ip, port, flowinfo, scopeId⟩ := address
  have bracket : readGivenChar ']' (']' :: ':' :: decimal port.toNat) =
      some (':' :: decimal port.toNat) := rfl
  by_cases none : scopeId = 0
  · have closes : Closes (']' :: ':' :: decimal port.toNat) := .inr rfl
    have unscoped : readScopeId (']' :: ':' :: decimal port.toNat) = Option.none := rfl
    simp [readSocketAddrV6, SocketAddrV6.display, readGivenChar, none, unscoped,
      readIpv6Addr_display ip closes, readPort_decimal]
  · have closes : Closes ('%' :: (decimal scopeId.toNat ++ ']' :: ':' :: decimal port.toNat)) :=
      .inl rfl
    have withScope := @readScopeId_decimal (']' :: ':' :: decimal port.toNat) scopeId rfl
    simp [readSocketAddrV6, SocketAddrV6.display, readGivenChar, none, withScope,
      readIpv6Addr_display ip closes, readPort_decimal]

theorem readSocketAddr_display (address : SocketAddr) :
    readSocketAddr address.display = some (address.withoutFlowinfo, []) := by
  cases address with
  | v4 address =>
      rw [SocketAddr.display, readSocketAddr, readSocketAddrV4_display]
      rfl
  | v6 address =>
      have stops : Stops address.display := rfl
      rw [SocketAddr.display, readSocketAddr, readSocketAddrV4_of_stops stops,
        readSocketAddrV6_display]
      rfl

theorem readSocketAddr_withoutFlowinfo {text : Str} {address : SocketAddr}
    (read : readSocketAddr text = some (address, rest)) : address.withoutFlowinfo = address := by
  unfold readSocketAddr at read
  split at read
  · cases read
    rfl
  · obtain ⟨⟨found, following⟩, parsed, same⟩ := Option.map_eq_some_iff.mp read
    cases same
    simp only [readSocketAddrV6, Option.bind_eq_bind, Option.bind_eq_some_iff, Option.pure_def,
      Option.some.injEq, Prod.mk.injEq] at parsed
    obtain ⟨_, _, _, _, _, _, _, _, built, _⟩ := parsed
    subst built
    rfl

end Sockets

end Parser

namespace SocketAddr

/-- An address is restored from its print, but for the flow information. -/
theorem fromStr_display (address : SocketAddr) :
    fromStr address.display = .ok address.withoutFlowinfo := by
  rw [fromStr, Parser.readSocketAddr_display]

example : (fromStr "[1:0::FFFF:0:0%07]:00080".toList).map display =
    .ok "[1::ffff:0:0%7]:80".toList := by rfl

theorem fromStr_eq_ok {text : Str} {address : SocketAddr} (parsed : fromStr text = .ok address) :
    Parser.readSocketAddr text = some (address, []) := by
  unfold fromStr at parsed
  split at parsed
  · next read =>
      cases parsed
      exact read
  · cases parsed

/-- The text of no address starts with a slash. -/
theorem fromStr_slash (text : Str) : fromStr ('/' :: text) = .error .socket := by
  have stops : Parser.Stops ('/' :: text) := rfl
  have none : Parser.readSocketAddrV6 ('/' :: text) = none := rfl
  rw [fromStr, Parser.readSocketAddr, Parser.readSocketAddrV4_of_stops stops, none]
  rfl

/-- The addresses that have a text are those without flow information. -/
theorem exists_fromStr_iff (address : SocketAddr) :
    (∃ text, fromStr text = .ok address) ↔ address.withoutFlowinfo = address := by
  constructor
  · intro configured
    obtain ⟨text, parsed⟩ := configured
    exact Parser.readSocketAddr_withoutFlowinfo (fromStr_eq_ok parsed)
  · intro same
    exact ⟨address.display, by rw [fromStr_display, same]⟩

end SocketAddr

end Twelve
