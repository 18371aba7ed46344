import CompactHttp.Framing
import CompactHttp.Proofs.HeaderBlocks
import CompactHttp.Proofs.SmallNames

/-! # The grammar of header blocks

A block is made of entries, one after the other (`BlockSpelled`): the byte of a header with its
value, the byte of a name with a value behind it, or the marker with a name and a value behind
it. A text stands behind a number that says how many bytes it takes, however that number is
spelled (`TextSpelled`). Nothing else is read as a block, and what is read is what the entries
spell, their names in small letters. All other byte strings begin with entries that are well
formed and go on with something that begins no entry (`EntryBroken`), which decides how the
reading fails. So blocks may be joined: the headers of the second are laid over those of the
first (`HeaderBlock.decode_grammar`).
-/

namespace CompactHttp

/-- The tables of both kinds of messages are well-formed. -/
theorem MessageKind.headerTable_wellFormed (kind : MessageKind) : kind.headerTable.WellFormed := by
  cases kind with
  | request => exact HeaderTable.request_wellFormed
  | response => exact HeaderTable.response_wellFormed

/-- The names in both tables are in small letters. -/
theorem MessageKind.lowercase_headerTable (kind : MessageKind) :
    ∀ row ∈ kind.headerTable, lowercase row.name = row.name := by
  cases kind with
  | request => exact HeaderTable.lowercase_request
  | response => exact HeaderTable.lowercase_response

/-! ## What a block is made of -/

/-- A text behind the number of its bytes, in any spelling of that number. -/
def TextSpelled (field : Bytes) (text : String) : Prop :=
  ∃ number, Varint.decode number = .ok ((Utf8.encode text).length, []) ∧
    field = number ++ Utf8.encode text

/-- The bytes of one entry, and the name and the value that they spell. -/
inductive EntrySpelled (table : HeaderTable) : (piece : Bytes) → String × String → Prop where
  | full {row : HeaderRow} {value : String} :
      row ∈ table → row.value = some value → EntrySpelled table [row.id] (row.name, value)
  | named {row : HeaderRow} {field : Bytes} {value : String} :
      row ∈ table → row.value = none → TextSpelled field value →
      EntrySpelled table (row.id :: field) (row.name, value)
  | custom {nameField valueField : Bytes} {name value : String} :
      TextSpelled nameField name → TextSpelled valueField value →
      EntrySpelled table (HeaderTable.customId :: (nameField ++ valueField)) (name, value)

/-- The bytes of a block, and the names and values that its entries spell. -/
inductive BlockSpelled (table : HeaderTable) : Bytes → List (String × String) → Prop where
  | nil : BlockSpelled table [] []
  | cons {piece rest : Bytes} {entry : String × String} {entries : List (String × String)} :
      EntrySpelled table piece entry → BlockSpelled table rest entries →
      BlockSpelled table (piece ++ rest) (entry :: entries)

/-! ## What is no block -/

/-- Why no text behind the number of its bytes is at the front of a byte string: the number is
too large, the number breaks off, there are fewer bytes than it says, or these are no text. -/
inductive TextBroken (part : MessagePart) : (data : Bytes) → FormatError → Prop where
  | overflow {data : Bytes} :
      Varint.decode data = .error .overflow → TextBroken part data .lengthOverflow
  | breaksOff {data : Bytes} :
      Varint.decode data = .error .incomplete → TextBroken part data (.partTooLong .headers)
  | tooLong {data behind : Bytes} {length : Nat} :
      Varint.decode data = .ok (length, behind) → behind.length < length →
      TextBroken part data (.partTooLong part)
  | noText {data bytes rest : Bytes} :
      Varint.decode data = .ok (bytes.length, bytes ++ rest) →
      (∀ text, Utf8.encode text ≠ bytes) → TextBroken part data (.notText part)

/-- Why no entry is at the front of a byte string: its first byte means nothing, or a text is
broken that has to be there. -/
inductive EntryBroken (table : HeaderTable) : (data : Bytes) → FormatError → Prop where
  | unknown {id : UInt8} {rest : Bytes} :
      id ≠ HeaderTable.customId → (∀ row ∈ table, row.id ≠ id) →
      EntryBroken table (id :: rest) (.unknownHeader id)
  | value {row : HeaderRow} {rest : Bytes} {fault : FormatError} :
      row ∈ table → row.value = none → TextBroken .headerValue rest fault →
      EntryBroken table (row.id :: rest) fault
  | customName {rest : Bytes} {fault : FormatError} :
      TextBroken .customHeaderName rest fault →
      EntryBroken table (HeaderTable.customId :: rest) fault
  | customValue {nameField rest : Bytes} {name : String} {fault : FormatError} :
      TextSpelled nameField name → TextBroken .customHeaderValue rest fault →
      EntryBroken table (HeaderTable.customId :: (nameField ++ rest)) fault

section Texts

variable {data rest : Bytes} {text : String} {part : MessagePart} {fault : FormatError}

/-- A text is where its bytes are a part. -/
theorem partAt_iff_textSpelled : PartAt data (Utf8.encode text) rest ↔
    ∃ field, TextSpelled field text ∧ data = field ++ rest := by
  constructor
  · intro here
    obtain ⟨number, rfl, again⟩ := Varint.decode_front here
    have alone := again []
    rw [List.append_nil] at alone
    exact ⟨_, ⟨number, alone, rfl⟩, (List.append_assoc ..).symm⟩
  · rintro ⟨field, ⟨number, read, rfl⟩, rfl⟩
    have followed := Varint.decode_append read (Utf8.encode text ++ rest)
    rw [List.nil_append, ← List.append_assoc] at followed
    exact followed

/-- Bytes are no text if no text is written so. -/
theorem Utf8.decode_eq_none_iff {bytes : Bytes} :
    Utf8.decode bytes = none ↔ ∀ text, Utf8.encode text ≠ bytes := by
  constructor
  · rintro broken text rfl
    rw [Utf8.decode_encode] at broken
    cases broken
  · intro noText
    match read : Utf8.decode bytes with
    | none => rfl
    | some text => exact absurd (Utf8.encode_of_decode read) (noText text)

/-- A text is refused exactly for what is wrong with it. -/
theorem decodeText_eq_error_iff :
    HeaderBlock.decodeText part data = .error fault ↔ TextBroken part data fault := by
  constructor
  · intro failed
    rcases part_cases data with large | broken | ⟨length, behind, read, short⟩ | ⟨bytes, rest, here⟩
    · simp only [HeaderBlock.decodeText, large, Except.error.injEq] at failed
      exact failed ▸ .overflow large
    · simp only [HeaderBlock.decodeText, broken, Except.error.injEq] at failed
      exact failed ▸ .breaksOff broken
    · simp only [HeaderBlock.decodeText, read, short, ↓reduceIte, Except.error.injEq] at failed
      exact failed ▸ .tooLong read short
    · rw [HeaderBlock.decodeText_of_partAt here] at failed
      split at failed
      · cases failed
      · next noText =>
        cases failed
        exact .noText here (Utf8.decode_eq_none_iff.mp noText)
  · intro broken
    cases broken with
    | overflow large => simp only [HeaderBlock.decodeText, large]
    | breaksOff cut => simp only [HeaderBlock.decodeText, cut]
    | tooLong read short => simp only [HeaderBlock.decodeText, read, short, ↓reduceIte]
    | noText here noText =>
      rw [HeaderBlock.decodeText_of_partAt here, Utf8.decode_eq_none_iff.mpr noText]

/-- A broken text in a whole block is not just incomplete. -/
theorem TextBroken.ne_incomplete (broken : TextBroken part data fault) : fault ≠ .incomplete := by
  cases broken <;> exact nofun

theorem EntryBroken.ne_incomplete {table : HeaderTable} (broken : EntryBroken table data fault) :
    fault ≠ .incomplete := by
  cases broken with
  | unknown => exact nofun
  | value _ _ valueBroken => exact valueBroken.ne_incomplete
  | customName nameBroken => exact nameBroken.ne_incomplete
  | customValue _ valueBroken => exact valueBroken.ne_incomplete

end Texts

namespace HeaderBlock

variable {table : HeaderTable} {data rest block : Bytes} {entry : String × String}
  {entries : List (String × String)} {headers : Headers} {fault : FormatError}

section Entries

variable (wellFormed : table.WellFormed)
  (rows : ∀ row ∈ table, lowercase row.name = row.name)

include wellFormed rows

/-- An entry stands for the header that it spells, its name in small letters. -/
theorem entryAt_iff_entrySpelled : EntryAt table data entry rest ↔
    ∃ piece name, EntrySpelled table piece (name, entry.2) ∧ data = piece ++ rest ∧
      entry.1 = lowercase name := by
  constructor
  · intro here
    cases here with
    | @full id row value _ notMarker found fixed =>
      have listed : row ∈ table := List.mem_of_find?_eq_some found
      obtain rfl : row.id = id := by simpa using List.find?_some found
      exact ⟨_, _, .full listed fixed, rfl, (rows row listed).symm⟩
    | @named id row value field _ notMarker found free valueHere =>
      have listed : row ∈ table := List.mem_of_find?_eq_some found
      obtain rfl : row.id = id := by simpa using List.find?_some found
      obtain ⟨field, spelled, rfl⟩ := partAt_iff_textSpelled.mp valueHere
      exact ⟨_, _, .named listed free spelled, rfl, (rows row listed).symm⟩
    | @custom name value _ _ _ nameHere valueHere =>
      obtain ⟨valueField, valueSpelled, rfl⟩ := partAt_iff_textSpelled.mp valueHere
      obtain ⟨nameField, nameSpelled, rfl⟩ := partAt_iff_textSpelled.mp nameHere
      refine ⟨_, name, .custom nameSpelled valueSpelled, ?_, rfl⟩
      rw [List.cons_append, List.append_assoc]
  · obtain ⟨small, value⟩ := entry
    rintro ⟨piece, name, spelled, rfl, rfl⟩
    cases spelled with
    | @full row _ listed fixed =>
      rw [List.singleton_append, rows row listed]
      exact .full (wellFormed.noMarker row listed) (wellFormed.row?_eq_some listed) fixed
    | @named row field _ listed free valueSpelled =>
      rw [List.cons_append, rows row listed]
      exact .named (wellFormed.noMarker row listed) (wellFormed.row?_eq_some listed) free
        (partAt_iff_textSpelled.mpr ⟨field, valueSpelled, rfl⟩)
    | @custom nameField valueField _ _ nameSpelled valueSpelled =>
      rw [List.cons_append, List.append_assoc]
      exact .custom (partAt_iff_textSpelled.mpr ⟨nameField, nameSpelled, rfl⟩)
        (partAt_iff_textSpelled.mpr ⟨valueField, valueSpelled, rfl⟩)

/-- What is read as the entries of a block is a block that spells them. -/
theorem blockSpelled_of_decodeEntries (read : decodeEntries table block = .ok entries) :
    ∃ spelled, BlockSpelled table block spelled ∧
      entries = spelled.map fun entry => (lowercase entry.1, entry.2) := by
  have here := entriesAt_of_decodeEntries read
  clear read
  induction here with
  | nil => exact ⟨[], .nil, rfl⟩
  | @cons _ _ entry _ first _ ih =>
    obtain ⟨piece, name, spelled, rfl, small⟩ :=
      (entryAt_iff_entrySpelled wellFormed rows).mp first
    obtain ⟨others, othersSpelled, rfl⟩ := ih
    refine ⟨(name, entry.2) :: others, .cons spelled othersSpelled, ?_⟩
    rw [List.map_cons, ← small]

/-- A block in front of other bytes is read as the entries that it spells, and these bytes are
read for themselves. -/
theorem decodeEntries_append {spelled : List (String × String)}
    (here : BlockSpelled table block spelled) (more : Bytes) :
    decodeEntries table (block ++ more) = (decodeEntries table more).map fun others =>
      (spelled.map fun entry => (lowercase entry.1, entry.2)) ++ others := by
  induction here with
  | nil => cases read : decodeEntries table more <;> rw [List.nil_append, read] <;> rfl
  | @cons piece rest entry spelled first _ ih =>
    have entryHere : EntryAt table (piece ++ (rest ++ more)) (lowercase entry.1, entry.2) _ :=
      (entryAt_iff_entrySpelled wellFormed rows).mpr ⟨piece, entry.1, first, rfl, rfl⟩
    rw [List.append_assoc, decodeEntries_of_entryAt entryHere, ih]
    cases decodeEntries table more <;> rfl

end Entries

/-- An entry is refused exactly for what is wrong with it. -/
theorem decodeEntry_eq_error_iff (wellFormed : table.WellFormed) {id : UInt8} :
    decodeEntry table id data = .error fault ↔ EntryBroken table (id :: data) fault := by
  constructor
  · intro failed
    unfold decodeEntry at failed
    split at failed
    · next marker =>
      subst marker
      rcases bind_eq_error_iff.mp failed with nameFailed | ⟨⟨name, behind⟩, nameRead, failed⟩
      · exact .customName (decodeText_eq_error_iff.mp nameFailed)
      · rcases bind_eq_error_iff.mp failed with valueFailed | ⟨_, -, failed⟩
        · obtain ⟨field, spelled, rfl⟩ :=
            partAt_iff_textSpelled.mp (decodeText_eq_ok_iff.mp nameRead)
          exact .customValue spelled (decodeText_eq_error_iff.mp valueFailed)
        · cases failed
    · next notMarker =>
      split at failed
      · next missing =>
        cases failed
        refine .unknown notMarker fun row listed same => ?_
        exact List.find?_eq_none.mp missing row listed (beq_iff_eq.mpr same)
      · next row found =>
        have listed : row ∈ table := List.mem_of_find?_eq_some found
        obtain rfl : row.id = id := by simpa using List.find?_some found
        split at failed
        · cases failed
        · next free =>
          rcases bind_eq_error_iff.mp failed with valueFailed | ⟨_, -, failed⟩
          · exact .value listed free (decodeText_eq_error_iff.mp valueFailed)
          · cases failed
  · intro broken
    cases broken with
    | unknown notMarker missing =>
      have none : table.row? id = none :=
        List.find?_eq_none.mpr fun row listed same => missing row listed (beq_iff_eq.mp same)
      simp only [decodeEntry, notMarker, ↓reduceIte, none]
    | @value row _ _ listed free valueBroken =>
      simp only [decodeEntry, wellFormed.noMarker row listed, ↓reduceIte,
        wellFormed.row?_eq_some listed, free]
      exact bind_eq_error_iff.mpr (.inl (decodeText_eq_error_iff.mpr valueBroken))
    | customName nameBroken =>
      rw [decodeEntry, if_pos rfl]
      exact bind_eq_error_iff.mpr (.inl (decodeText_eq_error_iff.mpr nameBroken))
    | @customValue field rest _ _ spelled valueBroken =>
      have nameHere := partAt_iff_textSpelled.mpr ⟨field, spelled, Eq.refl (field ++ rest)⟩
      rw [decodeEntry, if_pos rfl]
      refine bind_eq_error_iff.mpr (.inr ⟨_, decodeText_eq_ok_iff.mpr nameHere, ?_⟩)
      exact bind_eq_error_iff.mpr (.inl (decodeText_eq_error_iff.mpr valueBroken))

section Blocks

variable (wellFormed : table.WellFormed)
  (rows : ∀ row ∈ table, lowercase row.name = row.name)

include wellFormed rows

/-- What begins no entry does not begin with one. -/
theorem ne_append_of_entryBroken (broken : EntryBroken table data fault) {piece more : Bytes}
    (spelled : EntrySpelled table piece entry) : data ≠ piece ++ more := by
  intro split
  have here : EntryAt table data (lowercase entry.1, entry.2) more :=
    (entryAt_iff_entrySpelled wellFormed rows).mpr ⟨piece, entry.1, spelled, split, rfl⟩
  match data with
  | [] => cases here
  | id :: data =>
    have failed := (decodeEntry_eq_error_iff wellFormed).mpr broken
    rw [decodeEntry_of_entryAt here] at failed
    cases failed

/-- A block is refused for the first of its entries that is broken. -/
theorem decodeEntries_eq_error_iff : decodeEntries table block = .error fault ↔
    ∃ front spelled rest, block = front ++ rest ∧ BlockSpelled table front spelled ∧
      EntryBroken table rest fault := by
  constructor
  · intro failed
    induction block using decodeEntries.induct table with
    | case1 =>
      rw [decodeEntries] at failed
      cases failed
    | case2 id data cause stopped =>
      rw [decodeEntries_of_fault stopped] at failed
      cases failed
      exact ⟨[], [], id :: data, rfl, .nil, (decodeEntry_eq_error_iff wellFormed).mp stopped⟩
    | case3 id data entry rest read ih =>
      have first := entryAt_of_decodeEntry read
      rw [decodeEntries_of_entryAt first] at failed
      obtain ⟨piece, name, spelled, split, -⟩ :=
        (entryAt_iff_entrySpelled wellFormed rows).mp first
      obtain ⟨front, others, behind, rfl, frontSpelled, broken⟩ := ih (map_eq_error_iff.mp failed)
      refine ⟨piece ++ front, _, behind, ?_, .cons spelled frontSpelled, broken⟩
      rw [split, List.append_assoc]
  · rintro ⟨front, spelled, rest, rfl, here, broken⟩
    rw [decodeEntries_append wellFormed rows here, map_eq_error_iff]
    cases rest with
    | nil => cases broken
    | cons id data =>
      exact decodeEntries_of_fault ((decodeEntry_eq_error_iff wellFormed).mpr broken)

/-- Headers are read from a block that spells them, with their names in small letters. -/
theorem decodeEntries_eq_ok_iff : decodeEntries table block = .ok entries ↔
    ∃ spelled, BlockSpelled table block spelled ∧
      entries = spelled.map fun entry => (lowercase entry.1, entry.2) := by
  refine ⟨blockSpelled_of_decodeEntries wellFormed rows, ?_⟩
  rintro ⟨spelled, here, rfl⟩
  have read := decodeEntries_append wellFormed rows here []
  rw [List.append_nil, decodeEntries] at read
  rw [read, Except.map, List.append_nil]

/-- Of two blocks that are joined the headers of the second are laid over those of the first. -/
theorem decode_append {front : Bytes} (read : decode table front = .ok headers) (more : Bytes) :
    decode table (front ++ more) = (decode table more).map fun others =>
      headers.overlay others.entries := by
  obtain ⟨entries, listed, rfl⟩ := map_eq_ok_iff.mp read
  obtain ⟨spelled, here, rfl⟩ := (decodeEntries_eq_ok_iff wellFormed rows).mp listed
  unfold decode
  rw [decodeEntries_append wellFormed rows here]
  cases decodeEntries table more with
  | error fault => rfl
  | ok others =>
    refine congrArg Except.ok (Eq.trans List.foldl_append ?_)
    exact (Headers.overlay_ofList _ others).symm

end Blocks

/-- A block is read exactly if it is made of entries, as the map that their names in small
letters and their values make, a later one replacing an earlier one. All other byte strings are
refused for the first thing in them that begins no entry, and never for bytes that are missing.
What is joined to a block is read for itself, and its headers are laid over those of the block. -/
theorem decode_grammar (kind : MessageKind) (block : Bytes) :
    let table := kind.headerTable
    (∀ headers, decode table block = .ok headers ↔
      ∃ spelled, BlockSpelled table block spelled ∧
        headers = .ofList (spelled.map fun entry => (lowercase entry.1, entry.2))) ∧
    (∀ fault, decode table block = .error fault ↔
      ∃ front spelled rest, block = front ++ rest ∧ BlockSpelled table front spelled ∧
        EntryBroken table rest fault) ∧
    (∀ rest fault, EntryBroken table rest fault → fault ≠ .incomplete ∧
      ∀ piece entry more, EntrySpelled table piece entry → rest ≠ piece ++ more) ∧
    ∀ front headers, decode table front = .ok headers →
      (∀ fault, decode table block = .error fault → decode table (front ++ block) = .error fault) ∧
      ∀ others, decode table block = .ok others →
        decode table (front ++ block) = .ok (headers.overlay others.entries) ∧
        ∀ name, (headers.overlay others.entries).get? name =
          (others.get? name).or (headers.get? name) := by
  intro table
  have wellFormed : table.WellFormed := kind.headerTable_wellFormed
  have rows : ∀ row ∈ table, lowercase row.name = row.name := kind.lowercase_headerTable
  refine ⟨fun headers => ?_, fun fault => ?_, fun rest fault broken => ⟨broken.ne_incomplete, ?_⟩,
    fun front headers read => ⟨fun fault failed => ?_, fun others readOthers => ⟨?_, ?_⟩⟩⟩
  · unfold decode
    rw [map_eq_ok_iff]
    constructor
    · rintro ⟨entries, listed, rfl⟩
      obtain ⟨spelled, here, rfl⟩ := (decodeEntries_eq_ok_iff wellFormed rows).mp listed
      exact ⟨spelled, here, rfl⟩
    · rintro ⟨spelled, here, rfl⟩
      exact ⟨_, (decodeEntries_eq_ok_iff wellFormed rows).mpr ⟨spelled, here, rfl⟩, rfl⟩
  · unfold decode
    rw [map_eq_error_iff]
    exact decodeEntries_eq_error_iff wellFormed rows
  · intro piece entry more spelled
    exact ne_append_of_entryBroken wellFormed rows broken spelled
  · rw [decode_append wellFormed rows read, failed]
    rfl
  · rw [decode_append wellFormed rows read, readOthers]
    rfl
  · exact headers.get?_overlay_entries others

end HeaderBlock

end CompactHttp
