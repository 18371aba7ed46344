import CompactHttp.Base64
import CompactHttp.Text.Blank
import CompactHttp.Text.Number
import CompactHttp.Text.Quoted
import CompactHttp.Text.Utf8

/-! # Key records

A server may publish its public key in a text record of the domain name system, at a name
made from its host. The record is a list of parts with semicolons between them; the part
`v=` holds the version of the transport in decimal and `k=` the key in base64. White space
around parts and parts of other names are passed over, and of two parts of one name the
last one counts. A long record is not looked at.
-/

namespace CompactHttp

/-- A public key: thirty-two bytes. -/
structure PeerKey where
  bytes : Bytes
  size : bytes.length = 32
deriving DecidableEq

namespace PeerKey

/-- The key with the given bytes, if there are as many as a key has. -/
def ofBytes? (bytes : Bytes) : Option PeerKey :=
  if size : bytes.length = 32 then some ⟨bytes, size⟩ else none

/-- A short name for a key, which shows its first four bytes. -/
def label (key : PeerKey) : String :=
  "PeerKey(" ++ String.join ((key.bytes.take 4).map fun byte => hexPadded 2 byte.toNat) ++ "..)"

end PeerKey

/-- Why a record holds no key that can be used. -/
inductive KeyRecordError where
  | tooLong
  | missingVersion
  | versionMismatch (found expected : Nat)
  | missingKey
  | invalidBase64
  | wrongKeySize (size : Nat)
deriving DecidableEq, Repr

/-- What an error says. -/
def KeyRecordError.message : KeyRecordError → String
  | tooLong => "record exceeds 80 characters"
  | missingVersion => "record has no version"
  | versionMismatch found expected =>
    "record version " ++ toString found ++ " does not match expected " ++ toString expected
  | missingKey => "record has no key"
  | invalidBase64 => "key is not valid base64"
  | wrongKeySize size => "key is " ++ toString size ++ " bytes, expected 32"

namespace KeyRecord

/-- The version of the transport that a key has to be made for. -/
def transportVersion : Nat := 0

/-- The most bytes of a record that is looked at. -/
def maxSize : Nat := 80

/-- Versions are numbers of thirty-two bits. -/
def versionBound : Nat := Nat.pow 2 32

/-- The name at which the record of a host stands. -/
def nameOf (host : String) : String := "_qotp." ++ host

/-- The record that publishes a key. -/
def write (version : Nat) (key : PeerKey) : String :=
  "v=" ++ toString version ++ ";k=" ++
    String.ofList ((Base64.encode key.bytes).map fun byte => Char.ofNat byte.toNat)

/-- The name and the value of a part: what stands before and after its first equals sign. -/
def splitPart (part : List Char) : Option (List Char × List Char) :=
  let name := part.takeWhile (· ≠ '=')
  match part.drop name.length with
  | _ :: value => some (name, value)
  | [] => none

/-- The parts of a record with a name and a value. -/
def parts (record : String) : List (List Char × List Char) :=
  (splitAtChar ';' record.toList).filterMap fun part => splitPart (Blank.trimChars part)

/-- The value of the last part of a name. -/
def last? (name : Char) (parts : List (List Char × List Char)) : Option (List Char) :=
  (parts.reverse.lookup [name])

/-- The version that a record gives, if it is a number. -/
def version? (record : String) : Option Nat := do
  Number.unsignedBelow? versionBound (String.ofList (← last? 'v' (parts record)))

/-- The text of the key that a record gives, if it is not empty. -/
def keyText? (record : String) : Option (List Char) :=
  (last? 'k' (parts record)).filter (!·.isEmpty)

/-- The key that a record publishes for a version of the transport. -/
def parse (record : String) (expected : Nat) : Except KeyRecordError PeerKey := do
  if maxSize < record.utf8ByteSize then throw .tooLong
  let some found := version? record | throw .missingVersion
  if found ≠ expected then throw (.versionMismatch found expected)
  let some text := keyText? record | throw .missingKey
  match Base64.decode (Utf8.encode (String.ofList text)) with
  | .error _ => throw .invalidBase64
  | .ok bytes =>
    match PeerKey.ofBytes? bytes with
    | some key => return key
    | none => throw (.wrongKeySize bytes.length)

/-- The key that the first of some text records holds, if it can be used. -/
def key? (records : List String) : Option PeerKey := do
  let record ← records.head?
  (parse record transportVersion).toOption

end KeyRecord

end CompactHttp
