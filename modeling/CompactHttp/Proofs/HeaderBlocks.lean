import CompactHttp.Proofs.HeaderMaps
import CompactHttp.Proofs.Lowercase
import CompactHttp.Proofs.Outcome
import CompactHttp.Proofs.Parts

/-! # Header blocks are read back

A table in which every byte stands for one row (`HeaderTable.WellFormed`) lets the three
forms of an entry be told apart by their first byte. `EntryAt` states where an entry
stands; the writer puts one there for every header (`HeaderBlock.entryAt_encodeEntry`), and
the reader finds the header it stands for (`HeaderBlock.decodeEntry_of_entryAt`). So a
block that has been written is read as the headers with their names in small letters
(`HeaderBlock.decode_encode`).
-/

namespace CompactHttp

/-- Members of a list with distinct keys are found by their keys. -/
theorem find?_key_of_mem {α β : Type} [BEq β] [LawfulBEq β] {key : α → β} {list : List α} {item : α}
    (distinct : (list.map key).Nodup) (member : item ∈ list) :
    list.find? (fun other => key other == key item) = some item := by
  induction list with
  | nil => cases member
  | cons first others ih =>
    rw [List.map_cons, List.nodup_cons] at distinct
    rcases List.mem_cons.mp member with rfl | later
    · exact List.find?_cons_of_pos (beq_self_eq_true _)
    · have different : key first ≠ key item := fun same =>
        distinct.1 (same ▸ List.mem_map_of_mem later)
      rw [List.find?_cons_of_neg (by rwa [beq_iff_eq])]
      exact ih distinct.2 later

namespace HeaderTable

/-- Every byte stands for at most one row, and the marker of written-out headers for none. -/
structure WellFormed (table : HeaderTable) : Prop where
  distinctIds : (table.map HeaderRow.id).Nodup
  noMarker : ∀ row ∈ table, row.id ≠ customId

/-- The table of requests is well-formed. -/
theorem request_wellFormed : request.WellFormed := ⟨by decide, by decide⟩

/-- The table of responses is well-formed. -/
theorem response_wellFormed : response.WellFormed := ⟨by decide, by decide⟩

variable {table : HeaderTable} {id : UInt8} {name value : String}

/-- In a well-formed table every row is found by its number. -/
theorem WellFormed.row?_eq_some (wellFormed : table.WellFormed) {row : HeaderRow}
    (member : row ∈ table) : table.row? row.id = some row :=
  find?_key_of_mem wellFormed.distinctIds member

/-- The byte for a header with this value is that of a row for both. -/
theorem mem_of_fullId? (found : table.fullId? name value = some id) :
    ∃ row ∈ table, row.id = id ∧ row.name = name ∧ row.value = some value := by
  obtain ⟨row, first, rfl⟩ := Option.map_eq_some_iff.mp found
  have matching := List.find?_some first
  rw [Bool.and_eq_true, beq_iff_eq, beq_iff_eq] at matching
  exact ⟨row, List.mem_of_find?_eq_some first, rfl, matching⟩

/-- The byte for a header of this name is that of a row for the name alone. -/
theorem mem_of_namedId? (found : table.namedId? name = some id) :
    ∃ row ∈ table, row.id = id ∧ row.name = name ∧ row.value = none := by
  obtain ⟨row, first, rfl⟩ := Option.map_eq_some_iff.mp found
  have matching := List.find?_some first
  rw [Bool.and_eq_true, beq_iff_eq, beq_iff_eq] at matching
  exact ⟨row, List.mem_of_find?_eq_some first, rfl, matching⟩

end HeaderTable

/-- An entry that stands for the header `entry` is at the front of a byte string, and `rest`
behind it: a byte for name and value, a byte for the name with the value behind it, or the
marker with both behind it. -/
inductive EntryAt (table : HeaderTable) :
    (data : Bytes) → (entry : String × String) → (rest : Bytes) → Prop where
  | full {id : UInt8} {row : HeaderRow} {value : String} {rest : Bytes} :
      id ≠ HeaderTable.customId → table.row? id = some row → row.value = some value →
      EntryAt table (id :: rest) (row.name, value) rest
  | named {id : UInt8} {row : HeaderRow} {value : String} {data rest : Bytes} :
      id ≠ HeaderTable.customId → table.row? id = some row → row.value = none →
      PartAt data (Utf8.encode value) rest → EntryAt table (id :: data) (row.name, value) rest
  | custom {name value : String} {data behind rest : Bytes} :
      PartAt data (Utf8.encode name) behind → PartAt behind (Utf8.encode value) rest →
      EntryAt table (HeaderTable.customId :: data) (lowercase name, value) rest

/-- Entries stand one after the other and fill a block. -/
inductive EntriesAt (table : HeaderTable) : (block : Bytes) → List (String × String) → Prop where
  | nil : EntriesAt table [] []
  | cons {data rest : Bytes} {entry : String × String} {entries : List (String × String)} :
      EntryAt table data entry rest → EntriesAt table rest entries →
      EntriesAt table data (entry :: entries)

namespace HeaderBlock

variable {table : HeaderTable} {data rest : Bytes} {entry : String × String}

/-- What is where a text has to be is that text, or it is none. -/
theorem decodeText_of_partAt {name : MessagePart} {bytes : Bytes} (here : PartAt data bytes rest) :
    decodeText name data =
      match Utf8.decode bytes with
      | some text => .ok (text, rest)
      | none => .error (.notText name) := by
  have enough : ¬(bytes ++ rest).length < bytes.length := by
    rw [List.length_append]
    omega
  unfold decodeText
  rw [here]
  cases decoded : Utf8.decode bytes <;>
    simp only [enough, ↓reduceIte, List.take_left, List.drop_left, decoded]

/-- A text is read where its bytes are a part. -/
theorem decodeText_eq_ok_iff {name : MessagePart} {text : String} :
    decodeText name data = .ok (text, rest) ↔ PartAt data (Utf8.encode text) rest := by
  constructor
  · intro read
    unfold decodeText at read
    split at read
    · cases read
    · cases read
    · next length behind found =>
      split at read
      · cases read
      · next enough =>
        split at read
        · next decoded =>
          cases read
          rw [Utf8.encode_of_decode decoded]
          exact partAt_take found (Nat.le_of_not_lt enough)
        · cases read
  · intro here
    rw [decodeText_of_partAt here, Utf8.decode_encode]

/-- An entry is read as the header it stands for. -/
theorem decodeEntry_of_entryAt {id : UInt8} (here : EntryAt table (id :: data) entry rest) :
    decodeEntry table id data = .ok (entry, rest) := by
  cases here with
  | full notMarker found fixed => simp only [decodeEntry, notMarker, ↓reduceIte, found, fixed]
  | named notMarker found free valueHere =>
    simp only [decodeEntry, notMarker, ↓reduceIte, found, free,
      decodeText_eq_ok_iff.mpr valueHere]
    rfl
  | custom nameHere valueHere =>
    simp only [decodeEntry, ↓reduceIte, decodeText_eq_ok_iff.mpr nameHere, bind, Except.bind,
      decodeText_eq_ok_iff.mpr valueHere]
    rfl

/-- What is read as a header is an entry that stands for it. -/
theorem entryAt_of_decodeEntry {id : UInt8} (read : decodeEntry table id data = .ok (entry, rest)) :
    EntryAt table (id :: data) entry rest := by
  unfold decodeEntry at read
  split at read
  · next marker =>
    obtain ⟨⟨name, behind⟩, nameRead, read⟩ := bind_eq_ok_iff.mp read
    obtain ⟨⟨value, left⟩, valueRead, read⟩ := bind_eq_ok_iff.mp read
    cases read
    rw [marker]
    exact .custom (decodeText_eq_ok_iff.mp nameRead) (decodeText_eq_ok_iff.mp valueRead)
  · next notMarker =>
    split at read
    · cases read
    · next row found =>
      split at read
      · next fixed =>
        cases read
        exact .full notMarker found fixed
      · next free =>
        obtain ⟨⟨value, left⟩, valueRead, read⟩ := bind_eq_ok_iff.mp read
        cases read
        exact .named notMarker found free (decodeText_eq_ok_iff.mp valueRead)

section Writing

variable {id : UInt8} {name value : String}

/-- A name and value with a number take one byte. -/
theorem encodeEntry_of_fullId? (full : table.fullId? (lowercase name) value = some id) :
    encodeEntry table name value = [id] := by
  simp only [encodeEntry, full]

/-- A name with a number is written as that, before its value. -/
theorem encodeEntry_of_namedId? (notFull : table.fullId? (lowercase name) value = none)
    (named : table.namedId? (lowercase name) = some id) :
    encodeEntry table name value = id :: lengthPrefixed (Utf8.encode value) := by
  simp only [encodeEntry, notFull, named]

/-- Any other header is written out in full. -/
theorem encodeEntry_of_unlisted (notFull : table.fullId? (lowercase name) value = none)
    (notNamed : table.namedId? (lowercase name) = none) :
    encodeEntry table name value = HeaderTable.customId ::
      (lengthPrefixed (Utf8.encode (lowercase name)) ++ lengthPrefixed (Utf8.encode value)) := by
  simp only [encodeEntry, notFull, notNamed]

end Writing

/-- The entry of a header stands for it, its name in small letters. -/
theorem entryAt_encodeEntry (wellFormed : table.WellFormed) (name value : String)
    (addressable : Addressable (encodeEntry table name value)) (rest : Bytes) :
    EntryAt table (encodeEntry table name value ++ rest) (lowercase name, value) rest := by
  match full : table.fullId? (lowercase name) value with
  | some id =>
    obtain ⟨row, member, rfl, named, fixed⟩ := HeaderTable.mem_of_fullId? full
    rw [encodeEntry_of_fullId? full, List.singleton_append, ← named]
    exact .full (wellFormed.noMarker row member) (wellFormed.row?_eq_some member) fixed
  | none =>
    match half : table.namedId? (lowercase name) with
    | some id =>
      obtain ⟨row, member, rfl, named, free⟩ := HeaderTable.mem_of_namedId? half
      rw [encodeEntry_of_namedId? full half] at addressable ⊢
      rw [List.cons_append, ← named]
      refine .named (wellFormed.noMarker row member) (wellFormed.row?_eq_some member) free ?_
      exact partAt_lengthPrefixed addressable.of_cons.of_lengthPrefixed rest
    | none =>
      rw [encodeEntry_of_unlisted full half] at addressable ⊢
      rw [List.cons_append, List.append_assoc]
      have nameHere := partAt_lengthPrefixed addressable.of_cons.left.of_lengthPrefixed
        (lengthPrefixed (Utf8.encode value) ++ rest)
      have valueHere := partAt_lengthPrefixed addressable.of_cons.right.of_lengthPrefixed rest
      -- The reader brings the name to small letters once more.
      have written : EntryAt table _ _ rest := .custom nameHere valueHere
      rwa [lowercase_lowercase] at written

/-- A block that starts with an entry is read as that entry and what follows. -/
theorem decodeEntries_of_entryAt (here : EntryAt table data entry rest) :
    decodeEntries table data = (decodeEntries table rest).map (entry :: ·) := by
  match data with
  | [] => cases here
  | id :: data =>
    have read := decodeEntry_of_entryAt here
    rw [decodeEntries]
    split
    · next fault failed =>
      rw [read] at failed
      cases failed
    · next found left again =>
      rw [read] at again
      cases again
      rfl

/-- Headers cannot be read beyond a broken one. -/
theorem decodeEntries_of_fault {id : UInt8} {fault : FormatError}
    (failed : decodeEntry table id data = .error fault) :
    decodeEntries table (id :: data) = .error fault := by
  rw [decodeEntries]
  split
  · next again =>
    rw [failed] at again
    cases again
    rfl
  · next again =>
    rw [failed] at again
    cases again

/-- A block that has been read is made of the entries that stand for its headers. -/
theorem entriesAt_of_decodeEntries {entries : List (String × String)}
    (read : decodeEntries table data = .ok entries) : EntriesAt table data entries := by
  induction data using decodeEntries.induct table generalizing entries with
  | case1 =>
    rw [decodeEntries] at read
    cases read
    exact .nil
  | case2 id data fault stopped =>
    rw [decodeEntries_of_fault stopped] at read
    cases read
  | case3 id data entry rest first ih =>
    rw [decodeEntries_of_entryAt (entryAt_of_decodeEntry first)] at read
    obtain ⟨others, later, rfl⟩ := map_eq_ok_iff.mp read
    exact .cons (entryAt_of_decodeEntry first) (ih later)

/-- The entries of a block are those that were written, their names in small letters. -/
theorem decodeEntries_flatMap (wellFormed : table.WellFormed) (entries : List (String × String))
    (addressable : Addressable (entries.flatMap fun entry => encodeEntry table entry.1 entry.2)) :
    decodeEntries table (entries.flatMap fun entry => encodeEntry table entry.1 entry.2) =
      .ok (entries.map fun entry => (lowercase entry.1, entry.2)) := by
  induction entries with
  | nil =>
    rw [List.flatMap_nil, decodeEntries]
    rfl
  | cons entry rest ih =>
    rw [List.flatMap_cons] at addressable ⊢
    have here := entryAt_encodeEntry wellFormed entry.1 entry.2 addressable.left
      (rest.flatMap fun entry => encodeEntry table entry.1 entry.2)
    rw [decodeEntries_of_entryAt here, ih addressable.right]
    rfl

/-- A block is read as the headers that were written, their names in small letters. -/
theorem decode_encode (wellFormed : table.WellFormed) {headers : Headers}
    (addressable : Addressable (encode table headers)) :
    decode table (encode table headers) = .ok (Headers.ofList headers.lowerEntries) := by
  unfold decode encode at *
  rw [decodeEntries_flatMap wellFormed headers.entries addressable]
  rfl

/-- The faults that the reading of a block can end with. -/
inductive Fault : FormatError → Prop where
  | lengthOverflow : Fault .lengthOverflow
  | partTooLong (part : MessagePart) : Fault (.partTooLong part)
  | notText (part : MessagePart) : Fault (.notText part)
  | unknownHeader (id : UInt8) : Fault (.unknownHeader id)

section Reading

variable {fault : FormatError}

/-- A text of a header is refused for its length, or as no text. -/
theorem fault_of_decodeText {name : MessagePart} (failed : decodeText name data = .error fault) :
    Fault fault := by
  unfold decodeText at failed
  split at failed
  · cases failed
    exact .partTooLong .headers
  · cases failed
    exact .lengthOverflow
  · split at failed
    · cases failed
      exact .partTooLong name
    · split at failed
      · cases failed
      · cases failed
        exact .notText name

/-- A header is refused for a text of its own or for its number. -/
theorem fault_of_decodeEntry {id : UInt8} (failed : decodeEntry table id data = .error fault) :
    Fault fault := by
  unfold decodeEntry at failed
  split at failed
  · rw [bind_eq_error_iff] at failed
    rcases failed with stopped | ⟨named, -, failed⟩
    · exact fault_of_decodeText stopped
    · rw [bind_eq_error_iff] at failed
      rcases failed with stopped | ⟨valued, -, failed⟩
      · exact fault_of_decodeText stopped
      · cases failed
  · split at failed
    · cases failed
      exact .unknownHeader id
    · split at failed
      · cases failed
      · rw [bind_eq_error_iff] at failed
        rcases failed with stopped | ⟨valued, -, failed⟩
        · exact fault_of_decodeText stopped
        · cases failed

/-- Headers are refused for one of them. -/
theorem fault_of_decodeEntries (failed : decodeEntries table data = .error fault) :
    Fault fault := by
  induction data using decodeEntries.induct table with
  | case1 =>
    rw [decodeEntries] at failed
    cases failed
  | case2 id data cause stopped =>
    rw [decodeEntries] at failed
    split at failed
    · next again =>
      cases failed
      exact fault_of_decodeEntry again
    · next again =>
      rw [stopped] at again
      cases again
  | case3 id data entry rest read ih =>
    rw [decodeEntries] at failed
    split at failed
    · next again =>
      rw [read] at again
      cases again
    · next again =>
      rw [read] at again
      cases again
      exact ih (map_eq_error_iff.mp failed)

/-- A header block is refused for one of its headers. -/
theorem fault_of_decode (failed : decode table data = .error fault) : Fault fault :=
  fault_of_decodeEntries (map_eq_error_iff.mp failed)

end Reading

end HeaderBlock

end CompactHttp
