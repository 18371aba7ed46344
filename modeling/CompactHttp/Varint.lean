import CompactHttp.Bytes

/-! # Length prefixes

Unsigned numbers below `2 ^ 64` are written in groups of seven bits, least
significant group first, with the high bit set on every byte but the last. At
most ten bytes are read. A number that breaks off may still be completed by
further bytes (`Fault.incomplete`); a number that needs more than sixty-four bits
never is (`Fault.overflow`).
-/

namespace CompactHttp

namespace Varint

/-- Why no number stands at the front of a byte string. -/
inductive Fault where
  /-- The bytes end before the number does. -/
  | incomplete
  /-- The number does not fit into sixty-four bits. -/
  | overflow
deriving DecidableEq, Repr

/-- The most bytes a number below `2 ^ 64` takes. -/
def maxSize : Nat := 10

/-- The written form of a number. -/
def encode (value : Nat) : Bytes :=
  if value < 0x80 then [Bytes.byte value]
  else Bytes.byte (value % 0x80 + 0x80) :: encode (value / 0x80)

/-- The number of binary digits of a number, none for zero. -/
def bitLength (value : Nat) : Nat := if value = 0 then 0 else value.log2 + 1

/-- The number of bytes in the written form: one for each group of seven bits, and
one for zero. -/
def size (value : Nat) : Nat := (max (bitLength value) 1 + 6) / 7

/-- Reads the groups of a number of which `position` groups have been read. The tenth
group holds the last bit of sixty-four, and nothing may follow it. -/
def decodeFrom (position : Nat) : Bytes → Except Fault (Nat × Bytes)
  | [] => .error (if position < maxSize then .incomplete else .overflow)
  | byte :: rest =>
    if maxSize ≤ position then .error .overflow
    else if byte < 0x80 then
      if position + 1 = maxSize ∧ 1 < byte then .error .overflow
      else .ok (byte.toNat, rest)
    else
      match decodeFrom (position + 1) rest with
      | .ok (higher, rest) => .ok (byte.toNat % 0x80 + 0x80 * higher, rest)
      | .error fault => .error fault

/-- The number at the front of a byte string, and the bytes after it. -/
def decode (data : Bytes) : Except Fault (Nat × Bytes) := decodeFrom 0 data

/-- The number at an offset of a buffer, and how many bytes it takes. There is
nothing past the end. -/
def decodeAt (buffer : Bytes) (offset : Nat) : Except Fault (Nat × Nat) :=
  let data := buffer.drop offset
  (decode data).map fun (value, rest) => (value, data.length - rest.length)

/-- A number takes at least one byte. -/
theorem decodeFrom_shortens {position : Nat} {data rest : Bytes} {value : Nat}
    (read : decodeFrom position data = .ok (value, rest)) : rest.length < data.length := by
  induction data generalizing position value rest with
  | nil => simp [decodeFrom] at read
  | cons byte tail ih =>
    simp only [decodeFrom] at read
    split at read
    · cases read
    · split at read
      · split at read
        · cases read
        · cases read
          simp
      · split at read
        · next higher left continued =>
          have shorter := ih continued
          cases read
          simp only [List.length_cons]
          omega
        · cases read

/-- What is left after a number is shorter than what was there. -/
theorem decode_shortens {data rest : Bytes} {value : Nat}
    (read : decode data = .ok (value, rest)) : rest.length < data.length :=
  decodeFrom_shortens read

end Varint

end CompactHttp
