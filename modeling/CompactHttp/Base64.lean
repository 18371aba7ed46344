import CompactHttp.Bytes

/-! # Base64

Three bytes are written as four characters of six bits. The last group is filled up with
equals signs, as many as it takes, and the bits that belong to no byte are zero; any other
text is refused. Why it is refused is told by the first thing that is wrong.
-/

namespace CompactHttp

/-- Why a text is not base64. -/
inductive Base64Error where
  /-- A byte that is not in the alphabet. -/
  | invalidByte (position : Nat) (byte : UInt8)
  /-- One character is left after the whole groups. -/
  | invalidLength (length : Nat)
  /-- The last character has bits that belong to no byte. -/
  | invalidLastSymbol (position : Nat) (byte : UInt8)
  /-- The last group is not filled up as it should be. -/
  | invalidPadding
deriving DecidableEq, Repr

namespace Base64

/-- The characters by their value. -/
def alphabet : List UInt8 :=
  "ABCDEFGHIJKLMNOPQRSTUVWXYZabcdefghijklmnopqrstuvwxyz0123456789+/".toUTF8.data.toList

/-- The character of a value. -/
def symbol (value : Nat) : UInt8 := alphabet[value % 64]?.getD 0

/-- The value of a character. -/
def value? (byte : UInt8) : Option Nat := alphabet.idxOf? byte

/-- The character that fills up the last group. -/
def padding : UInt8 := Bytes.byte '='.toNat

/-- The written form of a byte string. -/
def encode : Bytes → Bytes
  | [] => []
  | [a] => [symbol (a.toNat / 4), symbol (a.toNat % 4 * 16), padding, padding]
  | [a, b] =>
    [symbol (a.toNat / 4), symbol (a.toNat % 4 * 16 + b.toNat / 16), symbol (b.toNat % 16 * 4),
      padding]
  | a :: b :: c :: rest =>
    symbol (a.toNat / 4) :: symbol (a.toNat % 4 * 16 + b.toNat / 16) ::
      symbol (b.toNat % 16 * 4 + c.toNat / 64) :: symbol c.toNat :: encode rest

/-- The values of characters from a position on, or the first that is not in the alphabet. -/
def values (position : Nat) : Bytes → Except Base64Error (List Nat)
  | [] => .ok []
  | byte :: rest =>
    match value? byte with
    | some value => (values (position + 1) rest).map (value :: ·)
    | none => .error (.invalidByte position byte)

/-- The bytes of whole groups of values. -/
def joinGroups : List Nat → Bytes
  | a :: b :: c :: d :: rest =>
    Bytes.byte (a * 4 + b / 16) :: Bytes.byte (b % 16 * 16 + c / 4) :: Bytes.byte (c % 4 * 64 + d) ::
      joinGroups rest
  | _ => []

/-- Reads the last group, which starts at position `start` of the text, from its place `place`
on. Of the group, `read` is what has been read in characters and values, and `filled` the
characters that fill it up. A filler may only come in third or fourth place, and only fillers
may follow it. -/
def lastGroup (start place : Nat) (read : List (UInt8 × Nat)) (filled : Nat) :
    Bytes → Except Base64Error (List (UInt8 × Nat) × Nat)
  | [] => .ok (read, filled)
  | byte :: rest =>
    if byte = padding then
      if place < 2 then .error (.invalidByte (start + place) byte)
      else lastGroup start (place + 1) read (filled + 1) rest
    else if 0 < filled then .error (.invalidByte (start + read.length) padding)
    else
      match value? byte with
      | some value => lastGroup start (place + 1) (read ++ [(byte, value)]) filled rest
      | none => .error (.invalidByte (start + place) byte)

/-- The bytes of the last group. -/
def decodeLast (start : Nat) (group : Bytes) : Except Base64Error Bytes := do
  let (read, filled) ← lastGroup start 0 [] 0 group
  if read.length < 2 then
    if start = 0 ∧ group.isEmpty then return []
    else throw (.invalidLength (start + read.length))
  if (read.length + filled) % 4 ≠ 0 then throw .invalidPadding
  match read with
  | [(_, a), (last, b)] =>
    if b % 16 ≠ 0 then throw (.invalidLastSymbol (start + 1) last)
    return [Bytes.byte (a * 4 + b / 16)]
  | [(_, a), (_, b), (last, c)] =>
    if c % 4 ≠ 0 then throw (.invalidLastSymbol (start + 2) last)
    return [Bytes.byte (a * 4 + b / 16), Bytes.byte (b % 16 * 16 + c / 4)]
  | _ => return joinGroups (read.map Prod.snd)

/-- The byte string that a text is the written form of. A character that stands alone after
the last whole group is looked at first. -/
def decode (text : Bytes) : Except Base64Error Bytes := do
  let alone := text.length % 4
  if alone = 1 then
    if let some last := text.getLast? then
      if last ≠ padding ∧ (value? last).isNone then
        throw (.invalidByte (text.length - 1) last)
  let start := text.length - (if alone = 0 then 4 else alone)
  let front ← values 0 (text.take start)
  let back ← decodeLast start (text.drop start)
  return joinGroups front ++ back

end Base64

end CompactHttp
