import Twelve.Library.Numerals
import Twelve.Text

/-! `std::net::SocketAddr` with its `Display` and `FromStr`. A reader of the parser takes
what it accepts from the front of a text and returns the rest, and where it fails the
text is left as it was. -/

set_option autoImplicit false

namespace Twelve

open Numeral (Format)

structure Ipv4Addr where
  one : UInt8
  two : UInt8
  three : UInt8
  four : UInt8
  deriving DecidableEq

structure Ipv6Addr where
  segments : List UInt16
  length_eq : segments.length = 8
  deriving DecidableEq

structure SocketAddrV4 where
  ip : Ipv4Addr
  port : UInt16
  deriving DecidableEq

structure SocketAddrV6 where
  ip : Ipv6Addr
  port : UInt16
  flowinfo : UInt32
  scopeId : UInt32
  deriving DecidableEq

inductive SocketAddr where
  | v4 (address : SocketAddrV4)
  | v6 (address : SocketAddrV6)
  deriving DecidableEq

def SocketAddr.port : SocketAddr → UInt16
  | .v4 address => address.port
  | .v6 address => address.port

/-- The flow information is the one part that the text of an address does not show. -/
def SocketAddr.withoutFlowinfo : SocketAddr → SocketAddr
  | .v4 address => .v4 address
  | .v6 address => .v6 { address with flowinfo := 0 }

/-- `u16::from_be_bytes`. -/
def segmentOfOctets (upper lower : UInt8) : UInt16 :=
  UInt16.ofNat (upper.toNat * 256 + lower.toNat)

def Ipv4Addr.ofSegments (upper lower : UInt16) : Ipv4Addr :=
  ⟨UInt8.ofNat (upper.toNat / 256), UInt8.ofNat (upper.toNat % 256),
    UInt8.ofNat (lower.toNat / 256), UInt8.ofNat (lower.toNat % 256)⟩

def Ipv4Addr.toSegments (ip : Ipv4Addr) : List UInt16 :=
  [segmentOfOctets ip.one ip.two, segmentOfOctets ip.three ip.four]

/-! ## Display -/

def decimal (number : Nat) : Str := Nat.toDigits 10 number

def lowerHex (segment : UInt16) : Str := Nat.toDigits 16 segment.toNat

def Ipv4Addr.display (ip : Ipv4Addr) : Str :=
  decimal ip.one.toNat ++ '.' :: (decimal ip.two.toNat ++ '.' ::
    (decimal ip.three.toNat ++ '.' :: decimal ip.four.toNat))

structure Span where
  start : Nat
  len : Nat

/-- The first of the longest runs of zeroes, with the run that ends at the index. -/
def longestZeroes (index : Nat) (longest current : Span) : List UInt16 → Span
  | [] => longest
  | segment :: rest =>
      if segment = 0 then
        let current : Span :=
          ⟨if current.len = 0 then index else current.start, current.len + 1⟩
        let longest := if longest.len < current.len then current else longest
        longestZeroes (index + 1) longest current rest
      else longestZeroes (index + 1) longest ⟨0, 0⟩ rest

def fmtSubslice : List UInt16 → Str
  | [] => []
  | first :: tail => lowerHex first ++ tail.flatMap fun segment => ':' :: lowerHex segment

namespace Ipv6Addr

def toIpv4Mapped (ip : Ipv6Addr) : Option Ipv4Addr :=
  if ip.segments.take 6 = [0, 0, 0, 0, 0, 0xFFFF] then
    match ip.segments.drop 6 with
    | [upper, lower] => some (.ofSegments upper lower)
    | _ => none
  else none

def display (ip : Ipv6Addr) : Str :=
  match ip.toIpv4Mapped with
  | some ipv4 => "::ffff:".toList ++ ipv4.display
  | none =>
      let zeroes := longestZeroes 0 ⟨0, 0⟩ ⟨0, 0⟩ ip.segments
      if 1 < zeroes.len then
        fmtSubslice (ip.segments.take zeroes.start) ++ "::".toList ++
          fmtSubslice (ip.segments.drop (zeroes.start + zeroes.len))
      else fmtSubslice ip.segments

end Ipv6Addr

def SocketAddrV4.display (address : SocketAddrV4) : Str :=
  address.ip.display ++ ':' :: decimal address.port.toNat

def SocketAddrV6.display (address : SocketAddrV6) : Str :=
  let scope := if address.scopeId = 0 then [] else '%' :: decimal address.scopeId.toNat
  '[' :: (address.ip.display ++ (scope ++ ']' :: ':' :: decimal address.port.toNat))

def SocketAddr.display : SocketAddr → Str
  | .v4 address => address.display
  | .v6 address => address.display

/-! ## FromStr -/

/-- `AddrParseError` of kind `Socket`. -/
inductive AddrParseError where
  | socket
  deriving DecidableEq

namespace Parser

def readGivenChar (target : Char) : Str → Option Str
  | [] => none
  | char :: rest => if char = target then some rest else none

def readSeparator {α : Type} (sep : Char) (index : Nat) (inner : Str → Option (α × Str))
    (text : Str) : Option (α × Str) :=
  if 0 < index then (readGivenChar sep text).bind inner else inner text

/-- An octet of several digits does not start with a zero. -/
def octet : Format := ⟨10, some 3, false, UInt8.size⟩

def group : Format := ⟨16, some 4, true, UInt16.size⟩

def port : Format := ⟨10, none, true, UInt16.size⟩

def scopeId : Format := ⟨10, none, true, UInt32.size⟩

def readOctet (text : Str) : Option (UInt8 × Str) :=
  (octet.readNumber text).map fun (value, rest) => (UInt8.ofNat value, rest)

def readGroup (text : Str) : Option (UInt16 × Str) :=
  (group.readNumber text).map fun (value, rest) => (UInt16.ofNat value, rest)

def readIpv4Addr (text : Str) : Option (Ipv4Addr × Str) := do
  let (one, text) ← readSeparator '.' 0 readOctet text
  let (two, text) ← readSeparator '.' 1 readOctet text
  let (three, text) ← readSeparator '.' 2 readOctet text
  let (four, text) ← readSeparator '.' 3 readOctet text
  return (⟨one, two, three, four⟩, text)

/-- The groups from an index on, of which some remain to the limit, and whether an IPv4
address ended them: one is tried where at least two groups are left. -/
def readGroups (index : Nat) : Nat → Str → List UInt16 × Bool × Str
  | 0, text => ([], false, text)
  | remaining + 1, text =>
      let ipv4 := if 0 < remaining then readSeparator ':' index readIpv4Addr text else none
      match ipv4 with
      | some (ipv4, rest) => (ipv4.toSegments, true, rest)
      | none =>
          match readSeparator ':' index readGroup text with
          | none => ([], false, text)
          | some (group, rest) =>
              let (groups, ipv4, rest) := readGroups (index + 1) remaining rest
              (group :: groups, ipv4, rest)

theorem readGroups_length_le (index remaining : Nat) (text : Str) :
    (readGroups index remaining text).1.length ≤ remaining := by
  induction remaining generalizing index text with
  | zero => simp [readGroups]
  | succ remaining ih =>
      rw [readGroups]
      split
      · next found =>
          split at found
          · next more => simpa [Ipv4Addr.toSegments] using Nat.succ_le_succ more
          · cases found
      · split
        · exact Nat.zero_le _
        · next rest _ => exact Nat.succ_le_succ (ih (index + 1) rest)

/-- The head is followed by `::` unless it is the whole address. -/
def readIpv6Addr (text : Str) : Option (Ipv6Addr × Str) :=
  let head := readGroups 0 8 text
  if whole : head.1.length = 8 then some (⟨head.1, whole⟩, head.2.2)
  else if head.2.1 then none
  else
    match (readGivenChar ':' head.2.2).bind (readGivenChar ':') with
    | none => none
    | some text =>
        let tail := readGroups 0 (8 - (head.1.length + 1)) text
        have fits : head.1.length + tail.1.length ≤ 8 := by
          have first : head.1.length ≤ 8 := readGroups_length_le 0 8 _
          have second : tail.1.length ≤ 8 - (head.1.length + 1) := readGroups_length_le 0 _ _
          omega
        let zeroes := List.replicate (8 - head.1.length - tail.1.length) 0
        some (⟨head.1 ++ zeroes ++ tail.1, by simp [zeroes]; omega⟩, tail.2.2)

def readPort (text : Str) : Option (UInt16 × Str) := do
  let text ← readGivenChar ':' text
  let (value, rest) ← port.readNumber text
  return (UInt16.ofNat value, rest)

def readScopeId (text : Str) : Option (UInt32 × Str) := do
  let text ← readGivenChar '%' text
  let (value, rest) ← scopeId.readNumber text
  return (UInt32.ofNat value, rest)

def readSocketAddrV4 (text : Str) : Option (SocketAddrV4 × Str) := do
  let (ip, text) ← readIpv4Addr text
  let (port, text) ← readPort text
  return (⟨ip, port⟩, text)

def readSocketAddrV6 (text : Str) : Option (SocketAddrV6 × Str) := do
  let text ← readGivenChar '[' text
  let (ip, text) ← readIpv6Addr text
  let (scopeId, text) := (readScopeId text).getD (0, text)
  let text ← readGivenChar ']' text
  let (port, text) ← readPort text
  return (⟨ip, port, 0, scopeId⟩, text)

def readSocketAddr (text : Str) : Option (SocketAddr × Str) :=
  match readSocketAddrV4 text with
  | some (address, rest) => some (.v4 address, rest)
  | none => (readSocketAddrV6 text).map fun (address, rest) => (.v6 address, rest)

end Parser

/-- `SocketAddr::from_str`, which fails where something follows the address. -/
def SocketAddr.fromStr (text : Str) : Except AddrParseError SocketAddr :=
  match Parser.readSocketAddr text with
  | some (address, []) => .ok address
  | _ => .error .socket

end Twelve
