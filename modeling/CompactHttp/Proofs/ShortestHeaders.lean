import CompactHttp.Proofs.EncodedSize
import CompactHttp.Proofs.HeaderGrammar
import CompactHttp.Proofs.TextParts

/-! # Headers take as few bytes as they can

A header whose name has only ASCII small letters is written in the fewest bytes that are read
as this header and no other (`HeaderBlock.encodeEntry_shortest`). Any block that is read so has
an entry for the header in it, and none of its three forms is shorter: a table that has the
header with its value gives it a byte, a table that has its name gives that a byte, and a name
that is written out has at least as many bytes as its small letters
(`utf8ByteSize_lowercase_of_ascii`).
-/

namespace CompactHttp

namespace Lowercase

/-- Small letters in ASCII take no more bytes than what they were made from. -/
theorem utf8ByteSize_lettersFrom_of_ascii (before chars : List Char)
    (ascii : ∀ char ∈ lettersFrom before chars, char.toNat < 128) :
    (String.ofList (lettersFrom before chars)).utf8ByteSize ≤
      (String.ofList chars).utf8ByteSize := by
  induction chars generalizing before with
  | nil => exact Nat.le_refl _
  | cons first rest ih =>
    have split := lettersFrom_cons_of_ascii ascii
    rw [split, List.forall_mem_cons] at ascii
    obtain ⟨small, later⟩ := ascii
    have single : (letter first).utf8Size = 1 :=
      Char.utf8Size_eq_one_iff.mpr (UInt32.le_iff_toNat_le.mpr (Nat.le_of_lt_succ small))
    rw [split, String.ofList_cons, String.ofList_cons]
    simp only [String.utf8ByteSize_append, String.utf8ByteSize_singleton, single]
    exact Nat.add_le_add first.utf8Size_pos (ih (first :: before) later)

end Lowercase

/-- A text has at least as many bytes as its small letters, if these are ASCII. -/
theorem utf8ByteSize_lowercase_of_ascii {text : String}
    (ascii : ∀ char ∈ (lowercase text).toList, char.toNat < 128) :
    (lowercase text).utf8ByteSize ≤ text.utf8ByteSize := by
  rw [lowercase, String.toList_ofList] at ascii
  have bounded := Lowercase.utf8ByteSize_lettersFrom_of_ascii [] text.toList ascii
  rwa [String.ofList_toList] at bounded

/-- Every name in a table has a byte of its own. -/
theorem MessageKind.exists_named_of_mem (kind : MessageKind) : ∀ row ∈ kind.headerTable,
    ∃ other ∈ kind.headerTable, other.name = row.name ∧ other.value = none := by
  cases kind <;> decide +kernel

namespace HeaderBlock

variable {table : HeaderTable} {block : Bytes} {entry : String × String}
  {entries : List (String × String)} {name value : String}

/-- An entry of a block stands somewhere in it. -/
theorem exists_entryAt_of_mem (rows : ∀ row ∈ table, lowercase row.name = row.name)
    (here : EntriesAt table block entries) (member : entry ∈ entries) :
    ∃ data rest, EntryAt table data entry rest ∧ data.length ≤ block.length := by
  induction here with
  | nil => cases member
  | @cons data rest first others firstHere _ ih =>
    rcases List.mem_cons.mp member with rfl | later
    · exact ⟨data, rest, firstHere, Nat.le_refl _⟩
    · obtain ⟨deeper, behind, found, short⟩ := ih later
      refine ⟨deeper, behind, found, short.trans ?_⟩
      rcases length_encodeEntry_cases rows firstHere with whole | ⟨_, -, named, -⟩ <;> omega

/-- No entry that is read as a header is shorter than the one that is written for it. -/
theorem length_encodeEntry_le_of_entryAt {data rest : Bytes}
    (rows : ∀ row ∈ table, lowercase row.name = row.name) (here : EntryAt table data entry rest)
    (ascii : ∀ char ∈ entry.1.toList, char.toNat < 128) :
    (encodeEntry table entry.1 entry.2).length ≤ data.length := by
  rcases length_encodeEntry_cases rows here with short | ⟨name, small, nameThere, written⟩
  · omega
  · rw [← small] at ascii
    have shrunk : (lengthPrefixed (Utf8.encode entry.1)).length ≤
        (lengthPrefixed (Utf8.encode name)).length := by
      rw [← small]
      exact length_lengthPrefixed_mono (utf8ByteSize_lowercase_of_ascii ascii)
    omega

/-- A header is written in the shortest of the three forms that its table has for it. -/
theorem encodeEntry_cases (kind : MessageKind) (name value : String) :
    let table := kind.headerTable
    (∃ row ∈ table, row.name = lowercase name ∧ row.value = some value ∧
      encodeEntry table name value = [row.id]) ∨
    ((∀ row ∈ table, row.name = lowercase name → row.value ≠ some value) ∧
      ∃ row ∈ table, row.name = lowercase name ∧ row.value = none ∧
        encodeEntry table name value = row.id :: lengthPrefixed (Utf8.encode value)) ∨
    ((∀ row ∈ table, row.name ≠ lowercase name) ∧
      encodeEntry table name value = HeaderTable.customId ::
        (lengthPrefixed (Utf8.encode (lowercase name)) ++ lengthPrefixed (Utf8.encode value))) := by
  intro table
  match full : table.fullId? (lowercase name) value with
  | some id =>
    obtain ⟨row, listed, rfl, named, fixed⟩ := HeaderTable.mem_of_fullId? full
    exact .inl ⟨row, listed, named, fixed, encodeEntry_of_fullId? full⟩
  | none =>
    right
    match half : table.namedId? (lowercase name) with
    | some id =>
      left
      refine ⟨fun row listed named fixed => ?_, ?_⟩
      · obtain ⟨other, found⟩ := HeaderTable.fullId?_of_mem listed fixed
        rw [named, full] at found
        cases found
      · obtain ⟨row, listed, rfl, named, free⟩ := HeaderTable.mem_of_namedId? half
        exact ⟨row, listed, named, free, encodeEntry_of_namedId? full half⟩
    | none =>
      right
      refine ⟨fun row listed named => ?_, encodeEntry_of_unlisted full half⟩
      obtain ⟨other, otherListed, same, free⟩ := kind.exists_named_of_mem row listed
      obtain ⟨id, found⟩ := HeaderTable.namedId?_of_mem otherListed free
      rw [same, named, half] at found
      cases found

/-- A header whose name is ASCII in small letters is written as short as can be: what is written
is read as this header alone, and whatever is read so has as many bytes or more. It is the byte
of the header with its value if there is one, else the byte of its name with the value behind
it, and written out only if its name is not in the table. -/
theorem encodeEntry_shortest (kind : MessageKind) (name value : String)
    (ascii : ∀ char ∈ (lowercase name).toList, char.toNat < 128) :
    let table := kind.headerTable
    let written := encodeEntry table name value
    (Addressable written → ∃ headers, decode table written = .ok headers ∧
      headers.entries = [(lowercase name, value)]) ∧
    (∀ block headers, decode table block = .ok headers →
      headers.entries = [(lowercase name, value)] → written.length ≤ block.length) ∧
    ((∃ row ∈ table, row.name = lowercase name ∧ row.value = some value ∧ written = [row.id]) ∨
    ((∀ row ∈ table, row.name = lowercase name → row.value ≠ some value) ∧
      ∃ row ∈ table, row.name = lowercase name ∧ row.value = none ∧
        written = row.id :: lengthPrefixed (Utf8.encode value)) ∨
    ((∀ row ∈ table, row.name ≠ lowercase name) ∧
      written = HeaderTable.customId ::
        (lengthPrefixed (Utf8.encode (lowercase name)) ++ lengthPrefixed (Utf8.encode value)))) := by
  intro table written
  refine ⟨fun addressable => ?_, fun block headers read alone => ?_,
    encodeEntry_cases kind name value⟩
  · have here := entryAt_encodeEntry kind.headerTable_wellFormed name value addressable []
    rw [List.append_nil] at here
    have alone : ([(lowercase name, value)].map Prod.fst).Nodup := List.nodup_singleton _
    refine ⟨.ofList [(lowercase name, value)], ?_, Headers.entries_ofList alone⟩
    unfold decode
    rw [decodeEntries_of_entryAt here, decodeEntries]
    rfl
  · have rows : ∀ row ∈ table, lowercase row.name = row.name := kind.lowercase_headerTable
    obtain ⟨entries, listed, rfl⟩ := map_eq_ok_iff.mp read
    have found : (Headers.ofList entries).get? (lowercase name) = some value := by
      rw [Headers.get?_eq_some_iff, alone]
      exact List.mem_singleton_self _
    obtain ⟨data, rest, here, short⟩ := exists_entryAt_of_mem rows
      (entriesAt_of_decodeEntries listed) (Headers.mem_of_get?_ofList found)
    have bounded := length_encodeEntry_le_of_entryAt rows here ascii
    have same : encodeEntry table (lowercase name) value = written := by
      simp only [written, encodeEntry, lowercase_lowercase]
    rw [same] at bounded
    exact bounded.trans short

/-- A Kelvin sign is read as a small letter, which makes a name of the table. -/
theorem encodeEntry_shortest_sample :
    -- The third letter but one is the Kelvin sign, of three bytes.
    lowercase "COO\u212AIE" = "cookie" ∧ encodeEntry .request "COO\u212AIE" "a" = [7, 1, 97] ∧
    (∃ headers, decode .request [7, 1, 97] = .ok headers ∧ headers.entries = [("cookie", "a")]) ∧
    ∀ block headers, decode .request block = .ok headers →
      headers.entries = [("cookie", "a")] → 3 ≤ block.length := by
  have small : lowercase "COO\u212AIE" = "cookie" := by decide +kernel
  have written : encodeEntry .request "COO\u212AIE" "a" = [7, 1, 97] := by decide +kernel
  obtain ⟨reads, shortest, -⟩ :=
    encodeEntry_shortest .request "COO\u212AIE" "a"
      (by rw [small]; exact forall_mem_of_all (by decide))
  have addressable : Addressable (encodeEntry .request "COO\u212AIE" "a") := by
    unfold Addressable
    decide +kernel
  have reading := reads addressable
  simp only [MessageKind.headerTable, written, small] at reading shortest
  exact ⟨small, written, reading, shortest⟩

end HeaderBlock

end CompactHttp
