import CompactHttp.Buffer
import CompactHttp.Dump

/-! # Writing a dump by offsets

A dump is written onto a sheet line by line, while an offset moves forward through the buffer that
holds the message. A row takes the bytes that come next, as many as are left, and stands at the
offset where they begin; where the message ends is the offset behind the last row. All operations
on offsets, lengths and pieces of the buffer are checked ones (`Checked`).
-/

namespace CompactHttp

/-- What comes of a reading, even if it is a fault. -/
def Checked.outcome {α : Type} (reading : Checked α) : Checked (Except FormatError α) :=
  ExceptT.mk (reading.run.map .ok)

namespace Dump

/-- A line of a dump. -/
inductive Line where
  /-- Bytes with the offset where they begin, and what they mean. -/
  | row (offset : Nat) (bytes : Bytes) (meaning : String)
  /-- An empty line. -/
  | gap
deriving DecidableEq, Repr

/-- The bytes that a line shows. -/
def Line.bytes : Line → Bytes
  | row _ bytes _ => bytes
  | gap => []

def Line.text : Line → String
  | row offset bytes meaning => layoutRow offset bytes meaning
  | gap => "\n"

/-- The lines that have been written, and the offset of the bytes that come next. -/
structure Sheet where
  offset : Nat
  lines : List Line
deriving DecidableEq, Repr

namespace Sheet

def blank : Sheet := ⟨0, []⟩

/-- Leaves a line empty. -/
def gap (sheet : Sheet) : Sheet := { sheet with lines := sheet.lines ++ [.gap] }

/-- The dump of so many bytes. -/
def text (sheet : Sheet) (size : Nat) : String :=
  "OFFSET  " ++ padded columnWidth "BYTES" ++ "DESCRIPTION\n" ++
    String.join (sheet.lines.map Line.text) ++
    "\nSummary: parsed " ++ toString sheet.offset ++ " / " ++ toString size ++ " bytes\n"

end Sheet

end Dump

open Dump

namespace Buffer

variable {space : AddressSpace} (buffer : Buffer space)

/-- How many bytes are left from an offset on. There is nothing past the end. -/
def remaining (offset : Nat) : Nat := buffer.size - offset

/-- Writes a row of so many bytes, or of all that are left. -/
def writeRow (sheet : Sheet) (length : Nat) (meaning : String) : Checked Sheet := do
  let stop ← space.add sheet.offset (min length (buffer.remaining sheet.offset))
  let taken ← buffer.slice sheet.offset stop
  return ⟨stop, sheet.lines ++ [.row sheet.offset taken.bytes meaning]⟩

/-- Writes the length that comes next, and gives it if it can be read. -/
def writeLength (sheet : Sheet) (label : String) : Checked (Option UInt64 × Sheet) := do
  match ← (buffer.number sheet.offset).outcome with
  | .ok (length, taken) =>
    let meaning := label ++ " (varint: " ++ toString length.toNat ++ ")"
    return (some length, ← buffer.writeRow sheet taken meaning)
  | .error fault =>
    let meaning := label ++ ": " ++ fault.message
    return (none, ← buffer.writeRow sheet (buffer.remaining sheet.offset) meaning)

/-- Writes the text that comes next with its length, and tells whether it is whole. -/
def writeText (sheet : Sheet) (label : String) : Checked (Bool × Sheet) := do
  match ← buffer.writeLength sheet (label ++ " length") with
  | (none, sheet) => return (false, sheet)
  | (some length, sheet) =>
    let taken := min (space.clamp length.toNat) (buffer.remaining sheet.offset)
    let piece ← buffer.slice sheet.offset (← space.add sheet.offset taken)
    let meaning := label ++ ": " ++ preview piece.bytes
    if (← Checked.toWord taken) < length then
      let meaning := meaning ++ " [truncated, " ++ toString length.toNat ++ " declared]"
      return (false, ← buffer.writeRow sheet taken meaning)
    else return (true, ← buffer.writeRow sheet taken meaning)

/-- Writes the header that comes next in a block that goes up to an offset, and tells whether it
is whole. -/
def writeHeader (table : HeaderTable) (stop : Nat) (sheet : Sheet) : Checked (Bool × Sheet) := do
  let id ← buffer.byteAt sheet.offset
  if id = HeaderTable.customId then
    let sheet ← buffer.writeRow sheet 1 "Custom header"
    let (whole, sheet) ← buffer.writeText sheet "  Name"
    if whole then buffer.writeText sheet "  Value" else return (false, sheet)
  else
    let label := "Header " ++ byteName id ++ ": "
    match table.row? id with
    | some row =>
      match row.value with
      | some value => return (true, ← buffer.writeRow sheet 1 (label ++ row.name ++ ": " ++ value))
      | none =>
        let sheet ← buffer.writeRow sheet 1 (label ++ row.name ++ " (name only)")
        buffer.writeText sheet "  Value"
    | none =>
      let length ← Checked.subtract stop sheet.offset
      return (false, ← buffer.writeRow sheet length ("Unknown header ID " ++ byteName id))

section Progress

variable {buffer} {sheet next : Sheet} {length stop : Nat} {label meaning : String} {whole : Bool}

/-- A row moves the offset on by its bytes. -/
theorem offset_of_writeRow (written : buffer.writeRow sheet length meaning = .settled (.ok next)) :
    next.offset = sheet.offset + min length (buffer.remaining sheet.offset) := by
  unfold writeRow at written
  obtain ⟨stop, advanced, written⟩ := Checked.bind_eq_settled_ok_iff.mp written
  obtain ⟨taken, -, written⟩ := Checked.bind_eq_settled_ok_iff.mp written
  cases written
  exact (AddressSpace.eq_add_of_add advanced).1

/-- A length does not move the offset back. -/
theorem le_of_writeLength {found : Option UInt64}
    (written : buffer.writeLength sheet label = .settled (.ok (found, next))) :
    sheet.offset ≤ next.offset := by
  unfold writeLength at written
  obtain ⟨outcome, -, written⟩ := Checked.bind_eq_settled_ok_iff.mp written
  split at written
  all_goals
    obtain ⟨after, rowWritten, written⟩ := Checked.bind_eq_settled_ok_iff.mp written
    cases written
    rw [offset_of_writeRow rowWritten]
    exact Nat.le_add_right ..

theorem le_of_writeText
    (written : buffer.writeText sheet label = .settled (.ok (whole, next))) :
    sheet.offset ≤ next.offset := by
  unfold writeText at written
  obtain ⟨⟨found, behind⟩, lengthWritten, written⟩ := Checked.bind_eq_settled_ok_iff.mp written
  have forward := le_of_writeLength lengthWritten
  cases found with
  | none =>
    cases written
    exact forward
  | some length =>
    obtain ⟨_, -, written⟩ := Checked.bind_eq_settled_ok_iff.mp written
    obtain ⟨piece, -, written⟩ := Checked.bind_eq_settled_ok_iff.mp written
    obtain ⟨reached, -, written⟩ := Checked.bind_eq_settled_ok_iff.mp written
    split at written
    all_goals
      obtain ⟨after, rowWritten, written⟩ := Checked.bind_eq_settled_ok_iff.mp written
      cases written
      rw [offset_of_writeRow rowWritten]
      omega

/-- Every header takes at least one byte. -/
theorem lt_of_writeHeader {table : HeaderTable} (before : sheet.offset < stop)
    (written : buffer.writeHeader table stop sheet = .settled (.ok (whole, next))) :
    sheet.offset < next.offset := by
  unfold writeHeader at written
  obtain ⟨id, there, written⟩ := Checked.bind_eq_settled_ok_iff.mp written
  have inside := lt_of_byteAt there
  -- Whatever the header, it begins with a row, and there is a byte for that row.
  have started {after : Sheet} {length : Nat} {meaning : String} (some : 0 < length)
      (rowWritten : buffer.writeRow sheet length meaning = .settled (.ok after)) :
      sheet.offset < after.offset := by
    rw [offset_of_writeRow rowWritten, remaining]
    omega
  split at written
  · obtain ⟨after, rowWritten, written⟩ := Checked.bind_eq_settled_ok_iff.mp written
    obtain ⟨⟨nameWhole, behind⟩, nameWritten, written⟩ :=
      Checked.bind_eq_settled_ok_iff.mp written
    have first := started Nat.one_pos rowWritten
    have name := le_of_writeText nameWritten
    cases nameWhole with
    | true =>
      have value := le_of_writeText written
      omega
    | false =>
      cases written
      omega
  · split at written
    · split at written
      · obtain ⟨after, rowWritten, written⟩ := Checked.bind_eq_settled_ok_iff.mp written
        cases written
        exact started Nat.one_pos rowWritten
      · obtain ⟨after, rowWritten, written⟩ := Checked.bind_eq_settled_ok_iff.mp written
        exact Nat.lt_of_lt_of_le (started Nat.one_pos rowWritten) (le_of_writeText written)
    · obtain ⟨length, counted, written⟩ := Checked.bind_eq_settled_ok_iff.mp written
      obtain ⟨after, rowWritten, written⟩ := Checked.bind_eq_settled_ok_iff.mp written
      cases written
      refine started ?_ rowWritten
      unfold Checked.subtract at counted
      split at counted
      · cases counted
        omega
      · cases counted

end Progress

/-- Writes headers up to the end of their block, or up to one that is broken. -/
def writeHeaders (table : HeaderTable) (stop : Nat) (sheet : Sheet) : Checked Sheet :=
  if _before : sheet.offset < stop then
    match _written : (buffer.writeHeader table stop sheet).run with
    | .error cause => .crash cause
    | .ok (.error fault) => throw fault
    | .ok (.ok (true, next)) => writeHeaders table stop next
    | .ok (.ok (false, next)) => pure next
  else pure sheet
termination_by stop - sheet.offset
decreasing_by
  have advanced : sheet.offset < next.offset := lt_of_writeHeader _before _written
  omega

/-- Writes the header block with its length. A header that runs past the end of the block is
written whole. -/
def writeBlock (table : HeaderTable) (sheet : Sheet) : Checked Sheet := do
  match ← buffer.writeLength sheet.gap "Headers length" with
  | (none, sheet) => return sheet
  | (some length, sheet) =>
    let stop := min (space.clamp (sheet.offset + space.clamp length.toNat)) buffer.size
    buffer.writeHeaders table stop sheet

/-- Writes the body with its length. -/
def writeBody (sheet : Sheet) : Checked Sheet := do
  match ← buffer.writeLength sheet.gap "Body length" with
  | (none, sheet) => return sheet
  | (some length, sheet) =>
    if length = 0 then return sheet
    let taken := min (space.clamp length.toNat) (buffer.remaining sheet.offset)
    let reached ← Checked.toWord taken
    let size :=
      if reached < length then toString taken ++ " of " ++ toString length.toNat
      else toString length.toNat
    buffer.writeRow sheet taken ("Body (" ++ size ++ " bytes)")

/-- Writes the texts in front of the header block, each even when the one before it is broken. -/
def writeTarget : MessageKind → Sheet → Checked Sheet
  | .request, sheet => do
    let (_, sheet) ← buffer.writeText sheet "Host"
    let (_, sheet) ← buffer.writeText sheet "Path"
    return sheet
  | .response, sheet => return sheet

/-- The dump of the message in a buffer, if there is anything in it. -/
def sheet (kind : MessageKind) : Checked (Option Sheet) := do
  let some first := buffer.bytes.head? | return none
  let sheet ← buffer.writeRow .blank 1 (firstMeaning kind first)
  let sheet ← buffer.writeTarget kind sheet
  let sheet ← buffer.writeBlock kind.headerTable sheet
  return some (← buffer.writeBody sheet)

end Buffer

end CompactHttp
