import CompactHttp.Compression.Checksum
import CompactHttp.Compression.Deflate

/-! # Gzip

A header of ten bytes, optional fields, deflated data, and a trailer with the checksum and
the size of what was packed. Bytes after the trailer are not looked at. The optional
fields are read over; a checksum of the header is verified.
-/

namespace CompactHttp

namespace Gzip

/-- Drops a text that ends in a zero byte, and the zero. -/
def skipText (data : Bytes) : Except Halt Bytes :=
  let text := data.takeWhile (· != 0)
  if 0xFFFF < text.length then .error .corrupt
  else
    match data.drop text.length with
    | [] => .error .truncated
    | _ :: rest => .ok rest

/-- Drops a field that starts with its size. -/
def skipSized (data : Bytes) : Except Halt Bytes :=
  let size := ofLittleEndian (data.take 2)
  if data.length < 2 + size then .error .truncated else .ok (data.drop (2 + size))

/-- Applies a step if a flag is set. -/
def whenSet (flags : UInt8) (position : Nat) (step : Bytes → Except Halt Bytes) (data : Bytes) :
    Except Halt Bytes :=
  if flags.toNat.testBit position then step data else .ok data

/-- Checks the header's own checksum, which stands after the `header`. -/
def checkHeader (header : Bytes) (data : Bytes) : Except Halt Bytes :=
  if data.length < 2 then .error .truncated
  else if ofLittleEndian (data.take 2) = (Checksum.crc32 header).toNat % 0x10000 then
    .ok (data.drop 2)
  else .error .corrupt

/-- The data after the header. -/
def skipHeader (data : Bytes) : Except Halt Bytes :=
  match data with
  | id1 :: id2 :: method :: flags :: _ :: _ :: _ :: _ :: _ :: _ :: rest => do
    if id1 ≠ 0x1F ∨ id2 ≠ 0x8B ∨ method ≠ 8 ∨ flags ≥ 0x20 then throw .corrupt
    let rest ← whenSet flags 2 skipSized rest
    let rest ← whenSet flags 3 skipText rest
    let rest ← whenSet flags 4 skipText rest
    whenSet flags 1 (checkHeader (data.take (data.length - rest.length))) rest
  | _ => .error .truncated

/-- Whether the trailer belongs to what was unpacked. -/
def checkTrailer (output trailer : Bytes) : Option Halt :=
  if trailer.length < 8 then some .truncated
  else if ofLittleEndian (trailer.take 4) = (Checksum.crc32 output).toNat ∧
      ofLittleEndian ((trailer.drop 4).take 4) = output.length % Nat.pow 2 32 then none
  else some .corrupt

/-- The size of the window through which data are unpacked. -/
def window : Nat := 32768

/-- What unpacking produces. -/
def decode (data : Bytes) : Production :=
  match skipHeader data with
  | .error halt => .failed halt
  | .ok rest =>
    let unpacked := Deflate.inflate rest
    let output := unpacked.output.toList
    match unpacked.result with
    | .error halt => Production.windowed window output (some halt)
    | .ok source =>
      .emit output fun _ =>
        match checkTrailer output source.bytes with
        | none => .finished
        | some halt => .failed halt

/-- Packs bytes. -/
def encode (data : Bytes) : Bytes :=
  [0x1F, 0x8B, 8, 0, 0, 0, 0, 0, 0, 0xFF] ++ Deflate.deflate data ++
    littleEndian 4 (Checksum.crc32 data).toNat ++ littleEndian 4 data.length

end Gzip

end CompactHttp
