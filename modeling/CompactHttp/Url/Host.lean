import CompactHttp.Net.Address
import CompactHttp.Url.DomainName
import CompactHttp.Url.Percent

/-! # Hosts of URLs

The host of a URL is a domain name, an address, or, where the scheme is not one of the
well-known ones, any text. Domain names whose last label is a number are addresses of
four octets, written in up to four parts of which each may be decimal, octal or
hexadecimal and the last fills all octets that are left.
-/

namespace CompactHttp

/-- Why a text is no URL. -/
inductive UrlError where
  | emptyHost
  | invalidDomainName
  | invalidPort
  | invalidIpv4
  | invalidIpv6
  | invalidDomainCharacter
  | noScheme
deriving DecidableEq, Repr

/-- What an error says. -/
def UrlError.message : UrlError → String
  | emptyHost => "empty host"
  | invalidDomainName => "invalid international domain name"
  | invalidPort => "invalid port number"
  | invalidIpv4 => "invalid IPv4 address"
  | invalidIpv6 => "invalid IPv6 address"
  | invalidDomainCharacter => "invalid domain character"
  | noScheme => "relative URL without a base"

/-- The host of a URL. -/
inductive UrlHost where
  /-- A name, which may be empty. -/
  | name (text : String)
  | v4 (address : Ipv4)
  | v6 (address : Ipv6)
deriving DecidableEq, Repr

namespace UrlHost

/-- The host without brackets. -/
def text : UrlHost → String
  | name text => text
  | v4 address => address.text
  | v6 address => address.text

/-- A part of an address of four octets: nothing if it is no number, else the number. -/
def ipv4Number? (part : List Char) : Option Nat :=
  match part with
  | [] => none
  | ['0', 'x'] | ['0', 'X'] => some 0
  | '0' :: 'x' :: digits | '0' :: 'X' :: digits => Number.hex? digits
  | ['0'] => some 0
  | '0' :: digits =>
    if digits.all fun char => '0' ≤ char ∧ char ≤ '7' then
      Number.digitsFrom Number.decimalDigit? 8 0 digits
    else none
  | digits => Number.decimal? digits

/-- The parts of a domain name, without an empty one at the end. -/
def nameParts (name : List Char) : List (List Char) :=
  let parts := splitAtChar '.' name
  if parts.getLast? = some [] ∧ 1 < parts.length then parts.dropLast else parts

/-- Whether the last part of a domain name makes it an address of four octets. -/
def endsInNumber (name : List Char) : Bool :=
  match (nameParts name).getLast? with
  | some last => (!last.isEmpty && last.all Char.isDigit) || (ipv4Number? last).isSome
  | none => false

/-- The address of four octets that a domain name stands for. -/
def parseIpv4 (name : List Char) : Except UrlError Ipv4 :=
  let parts := nameParts name
  match parts.mapM ipv4Number? with
  | none => .error .invalidIpv4
  | some numbers =>
    let front := numbers.dropLast
    let last := numbers.getLast?.getD 0
    if 4 < parts.length ∨ front.any (255 < ·) ∨ Nat.pow 256 (4 - front.length) ≤ last then
      .error .invalidIpv4
    else
      let high := front.foldl (fun value number => value * 256 + number) 0
      .ok (Ipv4.ofNat (high * Nat.pow 256 (4 - front.length) + last))

/-- An address in brackets. -/
def parseBracketed (rest : List Char) : Except UrlError UrlHost :=
  if rest.getLast? = some ']' then
    match Ipv6.parse? rest.dropLast with
    | some address => .ok (.v6 address)
    | none => .error .invalidIpv6
  else .error .invalidIpv6

/-- The host of a URL with a well-known scheme. -/
def parseSpecial (chars : List Char) : Except UrlError UrlHost :=
  match chars with
  | '[' :: rest => parseBracketed rest
  | _ =>
    match DomainName.toAscii (Percent.decode chars) with
    | none => .error .invalidDomainName
    | some [] => .error .emptyHost
    | some domain =>
      if endsInNumber domain then (parseIpv4 domain).map .v4
      else .ok (.name (String.ofList domain))

/-- Characters that may not stand in the host of any URL. -/
def isForbidden (char : Char) : Bool :=
  "\x00\t\n\r #/:<>?@[\\]^|".toList.contains char

/-- The host of a URL with any other scheme. -/
def parseOpaque (chars : List Char) : Except UrlError UrlHost :=
  match chars with
  | '[' :: rest => parseBracketed rest
  | _ =>
    if chars.any isForbidden then .error .invalidDomainCharacter
    else .ok (.name (Percent.encode Percent.controls chars))

end UrlHost

end CompactHttp
