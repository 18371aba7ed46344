import CompactHttp.Text.Number
import CompactHttp.Text.Quoted

/-! # Network addresses

Addresses of four octets or of eight groups of sixteen bits, alone and with a port. An
address is written in its shortest form: of the longest runs of two or more zero groups
the first gives way to a double colon.
-/

namespace CompactHttp

/-- An address of four octets. -/
structure Ipv4 where
  octets : Vector UInt8 4
deriving DecidableEq, Repr

/-- An address of eight groups of sixteen bits. -/
structure Ipv6 where
  groups : Vector UInt16 8
deriving DecidableEq, Repr

/-- An address of either kind. -/
inductive IpAddress where
  | v4 (address : Ipv4)
  | v6 (address : Ipv6)
deriving DecidableEq, Repr

/-- An address with a port. Addresses of eight groups may be bound to a scope; scope zero is
none. -/
structure SocketAddress where
  ip : IpAddress
  port : UInt16
  scope : UInt32
deriving DecidableEq, Repr

namespace Ipv4

/-- The address whose octets are the digits of a number in base 256. -/
def ofNat (value : Nat) : Ipv4 :=
  ⟨#v[UInt8.ofNat (value / Nat.pow 2 24), UInt8.ofNat (value / Nat.pow 2 16),
    UInt8.ofNat (value / Nat.pow 2 8), UInt8.ofNat value]⟩

/-- An octet in decimal digits, without leading zeros. -/
def octet? (chars : List Char) : Option UInt8 :=
  if 3 < chars.length ∨ (chars.head? = some '0' ∧ 1 < chars.length) then none
  else ((Number.decimal? chars).filter (· < 256)).map UInt8.ofNat

/-- The address written as four octets with dots between them. -/
def parse? (chars : List Char) : Option Ipv4 :=
  match splitAtChar '.' chars with
  | [a, b, c, d] => do return ⟨#v[← octet? a, ← octet? b, ← octet? c, ← octet? d]⟩
  | _ => none

/-- The written form of an address. -/
def text (address : Ipv4) : String :=
  ".".intercalate (address.octets.toList.map fun octet => toString octet.toNat)

end Ipv4

namespace Ipv6

/-- A group of at most four hexadecimal digits. -/
def group? (chars : List Char) : Option UInt16 :=
  if 4 < chars.length then none else (Number.hex? chars).map UInt16.ofNat

/-- Two octets as a group. -/
def pairGroup (high low : UInt8) : UInt16 := UInt16.ofNat (high.toNat * 256 + low.toNat)

/-- The two groups of an address of four octets. -/
def embedded (address : Ipv4) : List UInt16 :=
  [pairGroup address.octets[0] address.octets[1], pairGroup address.octets[2] address.octets[3]]

/-- The groups that parts stand for. Where `mixed` is set, the last part may be an address of
four octets, which makes two groups. -/
def groups? (mixed : Bool) : List (List Char) → Option (List UInt16)
  | [] => some []
  | [last] =>
    if mixed && last.contains '.' then (Ipv4.parse? last).map embedded
    else (group? last).map fun group => [group]
  | part :: parts => do return (← group? part) :: (← groups? mixed parts)

/-- The characters before and after the first double colon. -/
def splitAtGap : List Char → Option (List Char × List Char)
  | ':' :: ':' :: rest => some ([], rest)
  | char :: rest => (splitAtGap rest).map fun (before, after) => (char :: before, after)
  | [] => none

/-- The groups of a side of a double colon, which may be empty. -/
def side? (mixed : Bool) (chars : List Char) : Option (List UInt16) :=
  if chars.isEmpty then some [] else groups? mixed (splitAtChar ':' chars)

/-- The address with the given groups. -/
def ofGroups? (groups : List UInt16) : Option Ipv6 :=
  if size : groups.toArray.size = 8 then some ⟨⟨groups.toArray, size⟩⟩ else none

/-- The address written as groups with colons between them. A double colon stands for at
least one zero group, and the last two groups may be written as four octets. -/
def parse? (chars : List Char) : Option Ipv6 :=
  match splitAtGap chars with
  | none => do ofGroups? (← groups? true (splitAtChar ':' chars))
  | some (before, after) => do
    let front ← side? false before
    let back ← side? true after
    let given := front.length + back.length
    if 7 < given then none else ofGroups? (front ++ List.replicate (8 - given) 0 ++ back)

/-- The start and the length of the longest run of zeros, of several the first. Behind the
best run so far comes the run that ends at the present position. -/
def longestGap (best current : Nat × Nat) (position : Nat) : List UInt16 → Nat × Nat
  | [] => best
  | group :: rest =>
    if group = 0 then
      let current := if current.2 = 0 then (position, 1) else (current.1, current.2 + 1)
      longestGap (if best.2 < current.2 then current else best) current (position + 1) rest
    else longestGap best (0, 0) (position + 1) rest

/-- Groups in hexadecimal, with colons between them. -/
def groupsText (groups : List UInt16) : String :=
  ":".intercalate (groups.map fun group => hexNumber group.toNat)

/-- The written form of an address. -/
def text (address : Ipv6) : String :=
  let groups := address.groups.toList
  let (start, length) := longestGap (0, 0) (0, 0) 0 groups
  if 1 < length then
    groupsText (groups.take start) ++ "::" ++ groupsText (groups.drop (start + length))
  else groupsText groups

/-- The address of four octets that this one stands for, if it is marked as one. -/
def mapped? (address : Ipv6) : Option Ipv4 :=
  match address.groups.toList with
  | [0, 0, 0, 0, 0, 0xFFFF, high, low] => some (Ipv4.ofNat (high.toNat * 65536 + low.toNat))
  | _ => none

end Ipv6

namespace IpAddress

/-- The address that a text stands for. -/
def parse? (text : String) : Option IpAddress :=
  let chars := text.toList
  match Ipv4.parse? chars with
  | some address => some (.v4 address)
  | none => (Ipv6.parse? chars).map .v6

/-- The written form of an address. One that stands for four octets shows them. -/
def text : IpAddress → String
  | v4 address => address.text
  | v6 address =>
    match address.mapped? with
    | some inner => "::ffff:" ++ inner.text
    | none => address.text

end IpAddress

namespace SocketAddress

/-- An address with a port and no scope. -/
def new (ip : IpAddress) (port : UInt16) : SocketAddress := ⟨ip, port, 0⟩

/-- A port in decimal digits. -/
def port? (chars : List Char) : Option UInt16 :=
  ((Number.decimal? chars).filter (· < 65536)).map UInt16.ofNat

/-- An address of eight groups, with a scope behind a percent sign. -/
def scoped? (chars : List Char) : Option (Ipv6 × UInt32) :=
  match splitAtChar '%' chars with
  | [address] => (Ipv6.parse? address).map fun address => (address, 0)
  | [address, scope] => do
    let scope ← (Number.decimal? scope).filter (· < Nat.pow 2 32)
    return (← Ipv6.parse? address, UInt32.ofNat scope)
  | _ => none

/-- The address with a port that a text stands for. Groups are put in brackets. -/
def parse? (text : String) : Option SocketAddress :=
  match text.toList with
  | '[' :: rest =>
    match splitAtChar ']' rest with
    | [address, ':' :: port] => do
      let (address, scope) ← scoped? address
      return ⟨.v6 address, ← port? port, scope⟩
    | _ => none
  | chars =>
    match splitAtChar ':' chars with
    | [address, port] => do return ⟨.v4 (← Ipv4.parse? address), ← port? port, 0⟩
    | _ => none

/-- The written form of an address with a port. -/
def text (address : SocketAddress) : String :=
  let port := ":" ++ toString address.port.toNat
  match address.ip with
  | .v4 _ => address.ip.text ++ port
  | .v6 _ =>
    let scope := if address.scope = 0 then "" else "%" ++ toString address.scope.toNat
    "[" ++ address.ip.text ++ scope ++ "]" ++ port

end SocketAddress

end CompactHttp
