import CompactHttp.FormatError
import CompactHttp.Headers
import CompactHttp.Headers.Table
import CompactHttp.Text.Utf8

/-! # Header blocks

A header is written in the shortest of three forms that its table allows: the byte of
the header with its value, the byte of its name followed by the value, or a zero byte
followed by name and value. A block is a sequence of such entries with nothing between
them. Reading a block inserts its entries from left to right, so that of a repeated
name the last value stays.
-/

namespace CompactHttp

/-- Bytes behind their length. -/
def lengthPrefixed (data : Bytes) : Bytes := Varint.encode data.length ++ data

namespace HeaderBlock

/-- The entry of one header, whose name is brought to small letters. -/
def encodeEntry (table : HeaderTable) (name value : String) : Bytes :=
  let name := lowercase name
  match table.fullId? name value with
  | some id => [id]
  | none =>
    match table.namedId? name with
    | some id => id :: lengthPrefixed (Utf8.encode value)
    | none =>
      HeaderTable.customId ::
        (lengthPrefixed (Utf8.encode name) ++ lengthPrefixed (Utf8.encode value))

/-- The block of a header map. -/
def encode (table : HeaderTable) (headers : Headers) : Bytes :=
  headers.entries.flatMap fun entry => encodeEntry table entry.1 entry.2

/-- The text behind a length, which has to lie inside the block. -/
def decodeText (part : MessagePart) (block : Bytes) : Except FormatError (String × Bytes) :=
  match Varint.decode block with
  | .error .incomplete => .error (.partTooLong .headers)
  | .error .overflow => .error .lengthOverflow
  | .ok (length, rest) =>
    if rest.length < length then .error (.partTooLong part)
    else
      match Utf8.decode (rest.take length) with
      | some text => .ok (text, rest.drop length)
      | none => .error (.notText part)

/-- A text takes at least the byte of its length. -/
theorem decodeText_shortens {part : MessagePart} {block rest : Bytes} {text : String}
    (read : decodeText part block = .ok (text, rest)) : rest.length < block.length := by
  unfold decodeText at read
  split at read
  · cases read
  · cases read
  · next length after decoded =>
    have shorter := Varint.decode_shortens decoded
    split at read
    · cases read
    · split at read
      · cases read
        simp only [List.length_drop]
        omega
      · cases read

/-- The header at the front of a block that starts with the byte `id`. -/
def decodeEntry (table : HeaderTable) (id : UInt8) (rest : Bytes) :
    Except FormatError ((String × String) × Bytes) :=
  if id = HeaderTable.customId then do
    let (name, rest) ← decodeText .customHeaderName rest
    let (value, rest) ← decodeText .customHeaderValue rest
    return ((lowercase name, value), rest)
  else
    match table.row? id with
    | none => .error (.unknownHeader id)
    | some row =>
      match row.value with
      | some value => .ok ((row.name, value), rest)
      | none => do
        let (value, rest) ← decodeText .headerValue rest
        return ((row.name, value), rest)

/-- A header does not give bytes back. -/
theorem decodeEntry_shortens {table : HeaderTable} {id : UInt8} {block rest : Bytes}
    {entry : String × String} (read : decodeEntry table id block = .ok (entry, rest)) :
    rest.length ≤ block.length := by
  unfold decodeEntry at read
  split at read
  · cases named : decodeText .customHeaderName block with
    | error fault => simp [named, bind, Except.bind] at read
    | ok first =>
      cases valued : decodeText .customHeaderValue first.2 with
      | error fault => simp [named, valued, bind, Except.bind] at read
      | ok second =>
        have shorter := decodeText_shortens named
        have shortest := decodeText_shortens valued
        simp only [named, valued, bind, Except.bind, pure, Except.pure, Except.ok.injEq,
          Prod.mk.injEq] at read
        rw [← read.2]
        omega
  · split at read
    · cases read
    · next row found =>
      split at read
      · cases read
        exact Nat.le_refl _
      · cases valued : decodeText .headerValue block with
        | error fault => simp [valued, bind, Except.bind] at read
        | ok first =>
          have shorter := decodeText_shortens valued
          simp only [valued, bind, Except.bind, pure, Except.pure, Except.ok.injEq,
            Prod.mk.injEq] at read
          rw [← read.2]
          omega

/-- The entries of a block, in order. -/
def decodeEntries (table : HeaderTable) : Bytes → Except FormatError (List (String × String))
  | [] => .ok []
  | id :: block =>
    match _read : decodeEntry table id block with
    | .error fault => .error fault
    | .ok (entry, rest) => (decodeEntries table rest).map (entry :: ·)
termination_by block => block.length
decreasing_by
  have := decodeEntry_shortens _read
  simp only [List.length_cons]
  omega

/-- The header map of a block. -/
def decode (table : HeaderTable) (block : Bytes) : Except FormatError Headers :=
  (decodeEntries table block).map Headers.ofList

end HeaderBlock

end CompactHttp
