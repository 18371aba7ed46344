import CompactHttp.Proofs.SmallNames
import Mathlib.Algebra.Order.BigOperators.Group.List

/-! # How much longer a message may become

What has been read need not be as long as what it was read from when it is written again:
lengths become shorter, headers are abbreviated and repeated ones left out, while a name may
become longer in small letters and an empty path becomes the root. Still a text has at most
twice as many bytes in small letters (`utf8ByteSize_lowercase_le`), a number is never read
from fewer bytes than it is written with (`Varint.length_encode_le`), and so a block of
headers is written with at most twice the bytes it was read from
(`HeaderBlock.length_encode_le`).
-/

namespace CompactHttp

namespace Varint

variable {position value : Nat} {data rest : Bytes}

/-- A number takes at least one byte. -/
theorem length_encode_pos (value : Nat) : 0 < (encode value).length := by
  rw [encode]
  split <;> simp

/-- A smaller number does not take more bytes. -/
theorem length_encode_mono {value other : Nat} (below : value ≤ other) :
    (encode value).length ≤ (encode other).length := by
  induction value using encode.induct generalizing other with
  | case1 value small =>
    rw [encode, if_pos small]
    exact length_encode_pos other
  | case2 value large ih =>
    have alsoLarge : ¬other < 0x80 := by omega
    rw [encode, if_neg large, encode.eq_def other, if_neg alsoLarge]
    simp only [List.length_cons, Nat.add_le_add_iff_right]
    exact ih (by omega)

/-- A number up to twice as large takes one more byte at most. -/
theorem length_encode_le_succ {other : Nat} (bounded : value ≤ 2 * other) :
    (encode value).length ≤ (encode other).length + 1 := by
  rw [encode]
  split
  · exact Nat.le_add_left 1 _
  · simp only [List.length_cons, Nat.add_le_add_iff_right]
    exact length_encode_mono (by omega)

/-- A number is not read from fewer bytes than it is written with. -/
theorem length_encode_le (read : decodeFrom position data = .ok (value, rest)) :
    (encode value).length + rest.length ≤ data.length := by
  induction data generalizing position value with
  | nil => cases read
  | cons byte tail ih =>
    simp only [decodeFrom] at read
    split at read
    · cases read
    · split at read
      · next ends =>
        split at read
        · cases read
        · cases read
          have small : byte.toNat < 0x80 := UInt8.lt_iff_toNat_lt.mp ends
          rw [encode, if_pos small]
          simp only [List.length_cons, List.length_nil]
          omega
      · split at read
        · next higher left higherRead =>
          cases read
          have shorter := ih higherRead
          have grown : (encode (byte.toNat % 0x80 + 0x80 * higher)).length ≤
              (encode higher).length + 1 := by
            rw [encode]
            split
            · exact Nat.le_add_left 1 _
            · have above : (byte.toNat % 0x80 + 0x80 * higher) / 0x80 = higher := by omega
              rw [above, List.length_cons]
          rw [List.length_cons]
          omega
        · cases read

end Varint

section Parts

variable {data part rest : Bytes}

/-- A part takes its own length and that of the number in front. -/
theorem length_lengthPrefixed (part : Bytes) :
    (lengthPrefixed part).length = (Varint.encode part.length).length + part.length :=
  List.length_append

/-- A part is not read from fewer bytes than it is written with. -/
theorem PartAt.length_le (here : PartAt data part rest) :
    (lengthPrefixed part).length + rest.length ≤ data.length := by
  have shorter := Varint.length_encode_le here
  rw [List.length_append] at shorter
  rw [length_lengthPrefixed]
  omega

/-- A shorter part does not take more bytes with its length in front. -/
theorem length_lengthPrefixed_mono {other : Bytes} (shorter : other.length ≤ part.length) :
    (lengthPrefixed other).length ≤ (lengthPrefixed part).length := by
  have number := Varint.length_encode_mono shorter
  rw [length_lengthPrefixed, length_lengthPrefixed]
  omega

/-- Parts that stand somewhere fit there when they are written again. -/
theorem PartsAt.length_le {parts : List Bytes} (here : PartsAt data parts rest) :
    (parts.flatMap lengthPrefixed).length + rest.length ≤ data.length := by
  induction here with
  | nil rest => exact Nat.le_of_eq (Nat.zero_add _)
  | cons first _ ih =>
    have shorter := first.length_le
    rw [List.flatMap_cons, List.length_append]
    omega

/-- A part that grows to twice its size takes twice the bytes with its length. -/
theorem length_lengthPrefixed_le {other : Bytes} (bounded : other.length ≤ 2 * part.length) :
    (lengthPrefixed other).length ≤ 2 * (lengthPrefixed part).length := by
  have number := Varint.length_encode_le_succ bounded
  have positive := Varint.length_encode_pos part.length
  rw [length_lengthPrefixed, length_lengthPrefixed]
  omega

end Parts

namespace Lowercase

/-- The small letter of an ASCII letter takes one byte. -/
theorem utf8Size_toLower_ascii : ∀ code < 128, (Char.ofNat code).toLower.utf8Size = 1 := by
  decide +kernel

/-- The small letter of a character has at most twice as many bytes. -/
theorem utf8Size_letter_le (char : Char) : (letter char).utf8Size ≤ 2 * char.utf8Size := by
  have size := (letter char).utf8Size_le_four
  have positive := char.utf8Size_pos
  by_cases ascii : char.utf8Size = 1
  · have small : char.toNat < 128 := by
      have bound := UInt32.le_iff_toNat_le.mp (Char.utf8Size_eq_one_iff.mp ascii)
      exact Nat.lt_succ_of_le bound
    have single := utf8Size_toLower_ascii char.toNat small
    rw [Char.ofNat_toNat, ← letter_eq_toLower small] at single
    omega
  · omega

/-- Small letters take at most twice as many bytes, whatever stands before them. -/
theorem utf8ByteSize_lettersFrom_le (before chars : List Char) :
    (String.ofList (lettersFrom before chars)).utf8ByteSize ≤
      2 * (String.ofList chars).utf8ByteSize := by
  induction chars generalizing before with
  | nil => simp [lettersFrom]
  | cons first rest ih =>
    have others := ih (first :: before)
    have size := utf8Size_letter_le first
    obtain ⟨small, split, cases⟩ := lettersFrom_cons_cases before first rest
    rw [split, String.ofList_append, String.ofList_cons]
    simp only [String.utf8ByteSize_append, String.utf8ByteSize_singleton]
    apply Nat.add_le_add _ others |>.trans_eq (Nat.mul_add 2 _ _).symm
    obtain ⟨rfl, rfl | rfl⟩ | ⟨rfl, rfl⟩ | ⟨-, -, rfl⟩ := cases
    · decide
    · decide
    · decide
    · rw [← String.singleton_eq_ofList, String.utf8ByteSize_singleton]
      exact size

end Lowercase

/-- A text in small letters takes at most twice as many bytes. -/
theorem utf8ByteSize_lowercase_le (text : String) :
    (lowercase text).utf8ByteSize ≤ 2 * text.utf8ByteSize := by
  have bounded := Lowercase.utf8ByteSize_lettersFrom_le [] text.toList
  rwa [String.ofList_toList] at bounded

namespace HeaderTable

variable {table : HeaderTable} {row : HeaderRow} {value : String}

/-- A row of a table can be found there by its name and value. -/
theorem exists_find?_of_mem (member : row ∈ table) : ∃ other,
    (table.find? fun other => other.name == row.name && other.value == row.value) =
      some other := by
  apply Option.isSome_iff_exists.mp
  rw [List.find?_isSome]
  exact ⟨row, member, by simp⟩

/-- A name and value with a row of their own have a number. -/
theorem fullId?_of_mem (member : row ∈ table) (fixed : row.value = some value) :
    ∃ id, table.fullId? row.name value = some id := by
  obtain ⟨other, first⟩ := exists_find?_of_mem member
  rw [fixed] at first
  exact ⟨other.id, by rw [fullId?, first, Option.map_some]⟩

/-- A name with a row of its own has a number. -/
theorem namedId?_of_mem (member : row ∈ table) (free : row.value = none) :
    ∃ id, table.namedId? row.name = some id := by
  obtain ⟨other, first⟩ := exists_find?_of_mem member
  rw [free] at first
  exact ⟨other.id, by rw [namedId?, first, Option.map_some]⟩

end HeaderTable

namespace HeaderBlock

variable {table : HeaderTable} {data rest block : Bytes} {entry : String × String}
  {entries : List (String × String)} {name value : String}

/-- A header whose name has a number takes at most a byte and its value. -/
theorem length_encodeEntry_of_named {id : UInt8} (named : table.namedId? (lowercase name) = some id) :
    (encodeEntry table name value).length ≤ 1 + (lengthPrefixed (Utf8.encode value)).length := by
  match full : table.fullId? (lowercase name) value with
  | some id =>
    rw [encodeEntry_of_fullId? full]
    exact Nat.le_add_right 1 _
  | none =>
    rw [encodeEntry_of_namedId? full named, List.length_cons, Nat.add_comm]

/-- A header never takes more bytes than it does written out. -/
theorem length_encodeEntry_le_custom (table : HeaderTable) (name value : String) :
    (encodeEntry table name value).length ≤ 1 +
      (lengthPrefixed (Utf8.encode (lowercase name))).length +
      (lengthPrefixed (Utf8.encode value)).length := by
  match named : table.namedId? (lowercase name) with
  | some id =>
    have short : (encodeEntry table name value).length ≤ _ := length_encodeEntry_of_named named
    omega
  | none =>
    match full : table.fullId? (lowercase name) value with
    | some id =>
      rw [encodeEntry_of_fullId? full, List.length_singleton]
      omega
    | none =>
      rw [encodeEntry_of_unlisted full named, List.length_cons, List.length_append]
      omega

/-- A header is written with no more bytes than the entry that it was read from, but that a name
which was written out may have become longer in small letters. -/
theorem length_encodeEntry_cases (rows : ∀ row ∈ table, lowercase row.name = row.name)
    (here : EntryAt table data entry rest) :
    (encodeEntry table entry.1 entry.2).length + rest.length ≤ data.length ∨
      ∃ name, lowercase name = entry.1 ∧
        (lengthPrefixed (Utf8.encode name)).length + rest.length ≤ data.length ∧
        (encodeEntry table entry.1 entry.2).length +
            (lengthPrefixed (Utf8.encode name)).length + rest.length ≤
          data.length + (lengthPrefixed (Utf8.encode entry.1)).length := by
  cases here with
  | @full _ row value _ _ found fixed =>
    have listed : row ∈ table := List.mem_of_find?_eq_some found
    obtain ⟨id, full⟩ := HeaderTable.fullId?_of_mem listed fixed
    rw [← rows row listed] at full
    left
    rw [encodeEntry_of_fullId? full, List.length_singleton, List.length_cons]
    omega
  | @named _ row value _ _ _ found free valueHere =>
    have listed : row ∈ table := List.mem_of_find?_eq_some found
    obtain ⟨id, named⟩ := HeaderTable.namedId?_of_mem listed free
    rw [← rows row listed] at named
    have short : (encodeEntry table row.name value).length ≤ _ :=
      length_encodeEntry_of_named named
    have there := valueHere.length_le
    left
    rw [List.length_cons]
    dsimp only
    omega
  | @custom name value _ _ _ nameHere valueHere =>
    have written := length_encodeEntry_le_custom table (lowercase name) value
    have nameThere := nameHere.length_le
    have valueThere := valueHere.length_le
    rw [lowercase_lowercase] at written
    rw [List.length_cons]
    refine .inr ⟨name, rfl, by omega, ?_⟩
    dsimp only
    omega

/-- A header is written with at most twice the bytes of the entry it was read from. -/
theorem length_encodeEntry_le (rows : ∀ row ∈ table, lowercase row.name = row.name)
    (here : EntryAt table data entry rest) :
    (encodeEntry table entry.1 entry.2).length + 2 * rest.length ≤ 2 * data.length := by
  rcases length_encodeEntry_cases rows here with short | ⟨name, small, nameThere, written⟩
  · omega
  · have grown : (lengthPrefixed (Utf8.encode entry.1)).length ≤
        2 * (lengthPrefixed (Utf8.encode name)).length := by
      rw [← small]
      exact length_lengthPrefixed_le (utf8ByteSize_lowercase_le name)
    omega

/-- How many bytes headers take as entries of a block. -/
def entriesSize (table : HeaderTable) (entries : List (String × String)) : Nat :=
  (entries.map fun entry => (encodeEntry table entry.1 entry.2).length).sum

/-- Headers take as many bytes as their entries together. -/
theorem length_encode (table : HeaderTable) (headers : Headers) :
    (encode table headers).length = entriesSize table headers.entries :=
  List.length_flatMap

/-- Putting a header in place adds at most its own bytes. -/
theorem entriesSize_put_le (table : HeaderTable) (name value : String)
    (entries : List (String × String)) : entriesSize table (Headers.put name value entries) ≤
      entriesSize table entries + (encodeEntry table name value).length := by
  induction entries with
  | nil => simp [entriesSize, Headers.put]
  | cons entry others ih =>
    unfold entriesSize at ih ⊢
    rw [Headers.put]
    split
    · simp only [List.map_cons, List.sum_cons]
      omega
    · simp only [List.map_cons, List.sum_cons]
      omega

/-- Putting headers over others adds at most their own bytes. -/
theorem entriesSize_overlay_le (table : HeaderTable) (headers : Headers)
    (entries : List (String × String)) : entriesSize table (headers.overlay entries).entries ≤
      entriesSize table headers.entries + entriesSize table entries := by
  induction entries generalizing headers with
  | nil => exact Nat.le_add_right _ _
  | cons entry others ih =>
    have placed := entriesSize_put_le table entry.1 entry.2 headers.entries
    have onward := ih (headers.insert entry.1 entry.2)
    have split : entriesSize table (entry :: others) =
        (encodeEntry table entry.1 entry.2).length + entriesSize table others := List.sum_cons
    rw [split]
    exact onward.trans (by unfold Headers.insert; dsimp only; omega)

/-- Headers that were read take at most twice as many bytes when they are written. -/
theorem entriesSize_le_of_decodeEntries (rows : ∀ row ∈ table, lowercase row.name = row.name)
    (read : decodeEntries table block = .ok entries) :
    entriesSize table entries ≤ 2 * block.length := by
  have listed := entriesAt_of_decodeEntries read
  clear read
  induction listed with
  | nil => exact Nat.le_refl 0
  | @cons data rest entry entries first _ ih =>
    have shorter := length_encodeEntry_le rows first
    have split : entriesSize table (entry :: entries) =
        (encodeEntry table entry.1 entry.2).length + entriesSize table entries := List.sum_cons
    rw [split]
    omega

/-- A block is written with at most twice the bytes it was read from, in whatever order its
headers are gone through. -/
theorem length_encode_le {headers order : Headers}
    (rows : ∀ row ∈ table, lowercase row.name = row.name)
    (read : decode table block = .ok headers) (reordered : order.Reordering headers) :
    (encode table order).length ≤ 2 * block.length := by
  obtain ⟨entries, listed, rfl⟩ := map_eq_ok_iff.mp read
  rw [length_encode]
  calc entriesSize table order.entries
    _ = entriesSize table (Headers.ofList entries).entries := (reordered.map _).sum_eq
    _ ≤ entriesSize table entries := by
      have laid := entriesSize_overlay_le table .empty entries
      rwa [show entriesSize table Headers.empty.entries = 0 from rfl, Nat.zero_add] at laid
    _ ≤ 2 * block.length := entriesSize_le_of_decodeEntries rows listed

end HeaderBlock

end CompactHttp
