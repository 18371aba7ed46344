import CompactHttp.Bytes

/-! # Bits of a byte string

Packed formats take bits from a byte string, the lowest bit of each byte first. A number
of several bits has its lowest bit first. Reading stops for one of two reasons: the bytes
are used up, which more bytes could mend, or what they say makes no sense.
-/

namespace CompactHttp

/-- Why packed data cannot be read further. -/
inductive Halt where
  /-- The data end before they should. -/
  | truncated
  /-- The data break the rules of their format. -/
  | corrupt
deriving DecidableEq, Repr

/-- Bits still to be read: those left of a byte that has been begun, and whole bytes. -/
structure BitSource where
  pending : List Bool
  bytes : Bytes

namespace BitSource

/-- All bits of a byte string. -/
def ofBytes (bytes : Bytes) : BitSource := ⟨[], bytes⟩

/-- The number of bits still to be read. -/
def size (source : BitSource) : Nat := source.pending.length + 8 * source.bytes.length

/-- The bits of a byte, the lowest first. -/
def bitsOf (byte : UInt8) : List Bool :=
  (List.range 8).map fun position => byte.toNat.testBit position

/-- The next bit. -/
def bit (source : BitSource) : Except Halt (Bool × BitSource) :=
  match source.pending with
  | bit :: pending => .ok (bit, ⟨pending, source.bytes⟩)
  | [] =>
    match source.bytes with
    | [] => .error .truncated
    | byte :: bytes => .ok (byte.toNat.testBit 0, ⟨(bitsOf byte).tail, bytes⟩)

/-- The number made of the next `count` bits. -/
def number : (count : Nat) → BitSource → Except Halt (Nat × BitSource)
  | 0, source => .ok (0, source)
  | count + 1, source => do
    let (low, source) ← source.bit
    let (high, source) ← number count source
    return (low.toNat + 2 * high, source)

/-- Without the bits left of a byte that has been begun. -/
def aligned (source : BitSource) : BitSource := ⟨[], source.bytes⟩

/-- The next `count` bytes, of data that continue at a byte. -/
def take (count : Nat) (source : BitSource) : Except Halt (Bytes × BitSource) :=
  if source.bytes.length < count then .error .truncated
  else .ok (source.bytes.take count, ⟨[], source.bytes.drop count⟩)

end BitSource

/-- The lowest `count` bits of a number, the lowest first. -/
def numberBits (count value : Nat) : List Bool :=
  (List.range count).map value.testBit

/-- The lowest `count` bits of a number, the highest first. -/
def codewordBits (count value : Nat) : List Bool := (numberBits count value).reverse

/-- The number that bits make, the lowest first. -/
def numberOfBits (bits : List Bool) : Nat :=
  bits.foldr (fun bit value => bit.toNat + 2 * value) 0

/-- Bits put into bytes, behind those already `packed` (last first), the last byte filled up
with zeros. -/
def packBitsOnto (packed : Bytes) (bits : List Bool) : Bytes :=
  if bits.isEmpty then packed.reverse
  else packBitsOnto (Bytes.byte (numberOfBits (bits.take 8)) :: packed) (bits.drop 8)
termination_by bits.length
decreasing_by
  cases bits with
  | nil => simp_all
  | cons bit rest => simp only [List.length_drop, List.length_cons]; omega

/-- Bits put into bytes, the last byte filled up with zeros. -/
def packBits (bits : List Bool) : Bytes := packBitsOnto [] bits

/-- A number as `count` bytes, the lowest first. -/
def littleEndian : (count value : Nat) → Bytes
  | 0, _ => []
  | count + 1, value => Bytes.byte value :: littleEndian count (value / 256)

/-- The number that bytes make, the lowest first. -/
def ofLittleEndian : Bytes → Nat
  | [] => 0
  | byte :: rest => byte.toNat + 256 * ofLittleEndian rest

end CompactHttp
