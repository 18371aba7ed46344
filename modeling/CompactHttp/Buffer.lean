import CompactHttp.Checked
import CompactHttp.Framing

/-! # Reading a buffer by offsets

A message lies in a buffer and is read by an offset that moves forward through it. A length
that is declared in the message is compared with the bytes that remain before it is added to
the offset. All operations on offsets, lengths and pieces of the buffer are checked ones
(`Checked`), so that a reading which goes wrong crashes and does not go unseen.
-/

namespace CompactHttp

/-- Bytes at addresses of a machine. -/
structure Buffer (space : AddressSpace) where
  bytes : Bytes
  fits : bytes.length < space.size

namespace Buffer

variable {space : AddressSpace} (buffer : Buffer space)

def size : Nat := buffer.bytes.length

/-- The byte at an offset. -/
def byteAt (offset : Nat) : Checked UInt8 :=
  match buffer.bytes[offset]? with
  | some byte => pure byte
  | none => .crash .outOfRange

/-- The bytes from one offset up to another. -/
def slice (start stop : Nat) : Checked (Buffer space) :=
  if start ≤ stop ∧ stop ≤ buffer.size then
    pure ⟨(buffer.bytes.take stop).drop start, by
      have := buffer.fits
      rw [List.length_drop, List.length_take]
      omega⟩
  else .crash .outOfRange

/-- Goes through the groups of a number of which `position` groups, in `shift` bits, have been
put into `value`. There are `count` bytes in all. -/
def numberFrom (space : AddressSpace) (count position : Nat) (value : UInt64) (shift : Nat) :
    Bytes → Checked (UInt64 × Nat)
  | [] => throw (if Varint.maxSize ≤ count then .lengthOverflow else .incomplete)
  | byte :: rest => do
    if position = Varint.maxSize then throw .lengthOverflow
    if byte < 0x80 then
      if position = Varint.maxSize - 1 ∧ 1 < byte then throw .lengthOverflow
      let group ← Checked.shift byte.toUInt64 shift
      return (value ||| group, ← space.add position 1)
    let group ← Checked.shift (byte &&& 0x7F).toUInt64 shift
    numberFrom space count (position + 1) (value ||| group) (shift + 7) rest

/-- The number at an offset, and how many bytes it takes. There is nothing past the end. -/
def number (offset : Nat) : Checked (UInt64 × Nat) :=
  let data := buffer.bytes.drop offset
  numberFrom space data.length 0 0 0 data

/-- The piece of a declared length at an offset, and the offset behind it. -/
def piece (name : MessagePart) (start : Nat) (length : UInt64) : Checked (Buffer space × Nat) := do
  let remaining ← Checked.subtract buffer.size start
  if (← Checked.toWord remaining) < length then throw (.partTooLong name)
  let stop ← space.add start (← space.ofWord length)
  return (← buffer.slice start stop, stop)

/-- The part behind its length at an offset, and the offset behind it. -/
def part (name : MessagePart) (offset : Nat) : Checked (Buffer space × Nat) := do
  let (length, taken) ← buffer.number offset
  buffer.piece name (← space.add offset taken) length

/-- The text that a buffer holds. -/
def asText (name : MessagePart) : Checked String :=
  match Utf8.decode buffer.bytes with
  | some text => pure text
  | none => throw (.notText name)

/-- The text behind its length at an offset, and the offset behind it. -/
def text (name : MessagePart) (offset : Nat) : Checked (String × Nat) := do
  let (piece, next) ← buffer.part name offset
  return (← piece.asText name, next)

/-- The text behind its length at an offset of a header block, and the offset behind it. -/
def blockText (name : MessagePart) (offset : Nat) : Checked (String × Nat) := do
  let some (length, taken) ← (buffer.number offset).unlessIncomplete
    | throw (.partTooLong .headers)
  let (piece, next) ← buffer.piece name (← space.add offset taken) length
  return (← piece.asText name, next)

/-- The header at an offset of a header block, and the offset behind it. -/
def entry (table : HeaderTable) (offset : Nat) : Checked ((String × String) × Nat) := do
  let id ← buffer.byteAt offset
  let start ← space.add offset 1
  if id = HeaderTable.customId then
    let (name, behind) ← buffer.blockText .customHeaderName start
    let (value, next) ← buffer.blockText .customHeaderValue behind
    return ((lowercase name, value), next)
  match table.row? id with
  | none => throw (.unknownHeader id)
  | some row =>
    match row.value with
    | some value => return ((row.name, value), start)
    | none =>
      let (value, next) ← buffer.blockText .headerValue start
      return ((row.name, value), next)

section Progress

variable {buffer} {name : MessagePart} {start offset next : Nat}

/-- A byte that is read stands inside the buffer. -/
theorem lt_of_byteAt {byte : UInt8} (read : buffer.byteAt offset = .settled (.ok byte)) :
    offset < buffer.size := by
  unfold byteAt at read
  split at read
  · next there => exact (List.getElem?_eq_some_iff.mp there).1
  · cases read

/-- A piece that is cut out lies inside the buffer. -/
theorem le_of_slice {stop : Nat} {found : Buffer space}
    (read : buffer.slice start stop = .settled (.ok found)) :
    start ≤ stop ∧ stop ≤ buffer.size := by
  unfold slice at read
  split at read
  · next inside => exact inside
  · cases read

/-- A piece with its length in front ends inside the buffer, and not before it starts. -/
theorem le_of_piece {length : UInt64} {found : Buffer space}
    (read : buffer.piece name start length = .settled (.ok (found, next))) :
    start ≤ next ∧ next ≤ buffer.size := by
  unfold piece at read
  obtain ⟨remaining, -, read⟩ := Checked.bind_eq_settled_ok_iff.mp read
  obtain ⟨bound, -, read⟩ := Checked.bind_eq_settled_ok_iff.mp read
  split at read
  · cases read
  · obtain ⟨address, -, read⟩ := Checked.bind_eq_settled_ok_iff.mp read
    obtain ⟨stop, -, read⟩ := Checked.bind_eq_settled_ok_iff.mp read
    obtain ⟨cut, sliced, read⟩ := Checked.bind_eq_settled_ok_iff.mp read
    cases read
    exact le_of_slice sliced

theorem le_of_blockText {text : String}
    (read : buffer.blockText name offset = .settled (.ok (text, next))) :
    offset ≤ next ∧ next ≤ buffer.size := by
  unfold blockText at read
  obtain ⟨found, -, read⟩ := Checked.bind_eq_settled_ok_iff.mp read
  split at read
  · next length taken =>
    obtain ⟨start, advanced, read⟩ := Checked.bind_eq_settled_ok_iff.mp read
    obtain ⟨⟨cut, stop⟩, cutRead, read⟩ := Checked.bind_eq_settled_ok_iff.mp read
    obtain ⟨_, -, read⟩ := Checked.bind_eq_settled_ok_iff.mp read
    cases read
    have started := (AddressSpace.eq_add_of_add advanced).1
    have bounds := le_of_piece cutRead
    omega
  · cases read

/-- Every header takes at least one byte, and none goes past the end of the block. -/
theorem lt_of_entry {table : HeaderTable} {header : String × String}
    (read : buffer.entry table offset = .settled (.ok (header, next))) :
    offset < next ∧ next ≤ buffer.size := by
  unfold entry at read
  obtain ⟨id, there, read⟩ := Checked.bind_eq_settled_ok_iff.mp read
  obtain ⟨start, advanced, read⟩ := Checked.bind_eq_settled_ok_iff.mp read
  have started := (AddressSpace.eq_add_of_add advanced).1
  have inside := lt_of_byteAt there
  split at read
  · obtain ⟨⟨nameText, behind⟩, nameRead, read⟩ := Checked.bind_eq_settled_ok_iff.mp read
    obtain ⟨⟨value, stop⟩, valueRead, read⟩ := Checked.bind_eq_settled_ok_iff.mp read
    cases read
    have nameBounds := le_of_blockText nameRead
    have valueBounds := le_of_blockText valueRead
    omega
  · split at read
    · cases read
    · split at read
      · cases read
        omega
      · obtain ⟨⟨value, stop⟩, valueRead, read⟩ := Checked.bind_eq_settled_ok_iff.mp read
        cases read
        have valueBounds := le_of_blockText valueRead
        omega

end Progress

/-- The headers from an offset of a header block on, laid over others. -/
def headersFrom (table : HeaderTable) (offset : Nat) (headers : Headers) : Checked Headers :=
  if offset < buffer.size then
    match _read : (buffer.entry table offset).run with
    | .error cause => .crash cause
    | .ok (.error fault) => throw fault
    | .ok (.ok ((name, value), next)) => headersFrom table next (headers.insert name value)
  else pure headers
termination_by buffer.size - offset
decreasing_by
  have advanced : offset < next := (lt_of_entry _read).1
  omega

/-- The headers of a header block. -/
def headers (table : HeaderTable) : Checked Headers := buffer.headersFrom table 0 .empty

/-- The request at the front of a buffer. -/
def request : Checked Request := do
  let some first := buffer.bytes.head? | throw .emptyMessage
  let code := Request.methodBits first
  let some method := Method.ofCode? code | throw (.unknownMethod code)
  let (host, offset) ← buffer.text .host 1
  if host.isEmpty then throw .emptyHost
  if Request.maxHostSize < host.utf8ByteSize then
    throw (.hostTooLong host.utf8ByteSize Request.maxHostSize)
  let (path, offset) ← buffer.text .path offset
  let (block, offset) ← buffer.part .headers offset
  let headers ← block.headers .request
  let (body, _) ← buffer.part .body offset
  return ⟨method, host, if path.isEmpty then "/" else path, versionBits first, headers, body.bytes⟩

/-- The response at the front of a buffer. -/
def response : Checked Response := do
  let some first := buffer.bytes.head? | throw .emptyMessage
  let (block, offset) ← buffer.part .headers 1
  let headers ← block.headers .response
  let (body, _) ← buffer.part .body offset
  return ⟨versionBits first, Status.ofCompact (first &&& 0x3F), headers, body.bytes⟩

/-- The offset behind the part at an offset, if the part is all there. -/
def skipPart (offset : Nat) : Checked (Option Nat) := do
  let some (length, taken) ← (buffer.number offset).unlessIncomplete | return none
  let remaining ← Checked.subtract (← Checked.subtract buffer.size offset) taken
  if (← Checked.toWord remaining) < length then return none
  return some (← space.add offset (← space.add taken (← space.ofWord length)))

/-- The offset behind several parts, if they are all there. -/
def skipParts : (count : Nat) → (offset : Nat) → Checked (Option Nat)
  | 0, offset => return some offset
  | count + 1, offset => do
    let some next ← buffer.skipPart offset | return none
    skipParts count next

/-- Whether the length of the host, if it is there, is one a host can have. -/
def checkHost : Checked Unit := do
  let some (length, _) ← (buffer.number 1).unlessIncomplete | return
  if length = 0 then throw .emptyHost
  if Request.maxHostSize < length.toNat then
    throw (.hostTooLong (space.clamp length.toNat) Request.maxHostSize)

/-- How many bytes the message at the front of a buffer takes, once it is all there. -/
def length? : MessageKind → Checked (Option Nat)
  | .request => do
    let some first := buffer.bytes.head? | return none
    let code := Request.methodBits first
    if 6 < code then throw (.unknownMethod code)
    buffer.checkHost
    buffer.skipParts 4 1
  | .response => do
    if buffer.bytes.isEmpty then return none
    buffer.skipParts 2 1

end Buffer

end CompactHttp
