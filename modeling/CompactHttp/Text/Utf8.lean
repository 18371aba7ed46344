import CompactHttp.Bytes

/-! # Text as bytes

Text travels as UTF-8. `Utf8.decode` accepts exactly the byte strings that
`Utf8.encode` produces; `Utf8.decodeLossy` accepts every byte string and stands
U+FFFD for each maximal piece that cannot be part of valid text.
-/

namespace CompactHttp

namespace Utf8

/-- The bytes of a text. -/
def encode (text : String) : Bytes := text.toUTF8.data.toList

/-- The text with the given bytes, if they are valid. -/
def decode (data : Bytes) : Option String := String.fromUTF8? ⟨data.toArray⟩

/-- Text survives being written and read. -/
@[simp] theorem decode_encode (text : String) : decode (encode text) = some text := by
  unfold decode encode String.fromUTF8?
  have same : (⟨text.toUTF8.data.toList.toArray⟩ : ByteArray) = text.toByteArray := rfl
  rw [same, dif_pos text.isValidUTF8]
  rfl

/-- Only a text's own bytes are read as that text. -/
theorem encode_of_decode {data : Bytes} {text : String} (read : decode data = some text) :
    encode text = data := by
  unfold decode String.fromUTF8? at read
  split at read
  · cases read
    rfl
  · cases read

/-- The length of a text in bytes is the length of its encoding. -/
theorem length_encode (text : String) : (encode text).length = text.utf8ByteSize := rfl

/-- How many continuation bytes a leading byte announces, and the range of the first of
them; nothing for a byte that starts no character. -/
def lead (byte : UInt8) : Option (Nat × UInt8 × UInt8) :=
  if byte < 0x80 then some (0, 0, 0)
  else if byte < 0xC2 then none
  else if byte < 0xE0 then some (1, 0x80, 0xBF)
  else if byte = 0xE0 then some (2, 0xA0, 0xBF)
  else if byte = 0xED then some (2, 0x80, 0x9F)
  else if byte < 0xF0 then some (2, 0x80, 0xBF)
  else if byte = 0xF0 then some (3, 0x90, 0xBF)
  else if byte < 0xF4 then some (3, 0x80, 0xBF)
  else if byte = 0xF4 then some (3, 0x80, 0x8F)
  else none

/-- How many of the next `wanted` bytes continue a character, when the first of them has
to lie between `low` and `high` and the others are any continuation byte. -/
def continuation : (wanted : Nat) → (low high : UInt8) → Bytes → Nat
  | wanted + 1, low, high, byte :: rest =>
    if low ≤ byte ∧ byte ≤ high then continuation wanted 0x80 0xBF rest + 1 else 0
  | _, _, _, _ => 0

/-- The character at the front of a byte string, if a whole one stands there, and how
many bytes it takes. A broken character takes all bytes that could have begun one, and
at least one. -/
def step (byte : UInt8) (rest : Bytes) : Option Char × Nat :=
  match lead byte with
  | none => (none, 1)
  | some (wanted, low, high) =>
    let found := continuation wanted low high rest
    if found = wanted then
      let first := if wanted = 0 then byte.toNat else byte.toNat % Nat.pow 2 (6 - wanted)
      let code := (rest.take wanted).foldl (fun code next => code * 64 + next.toNat % 64) first
      (some (Char.ofNat code), wanted + 1)
    else (none, found + 1)

/-- The characters of a byte string, with U+FFFD for what is broken, behind those already
`read` (last first). -/
def decodeLossyFrom (read : List Char) : (skip : Nat) → Bytes → List Char
  | _, [] => read
  | skip + 1, _ :: rest => decodeLossyFrom read skip rest
  | 0, byte :: rest =>
    let (found, size) := step byte rest
    decodeLossyFrom (found.getD '\uFFFD' :: read) (size - 1) rest

/-- Reads a byte string as text, whatever it holds. -/
def decodeLossy (data : Bytes) : String := String.ofList (decodeLossyFrom [] 0 data).reverse

end Utf8

end CompactHttp
