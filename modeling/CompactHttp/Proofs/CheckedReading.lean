import CompactHttp.Buffer
import CompactHttp.Proofs.HeaderBlocks
import Mathlib.Tactic.Linarith
import Mathlib.Tactic.Ring

/-! # Reading a buffer does not crash

A reading by offsets comes to the same outcome as the reading from the front of what is left of
the buffer there (`Checked.Mirrors`, `Buffer.Left`). Each reader mirrors its counterpart as long
as its offset lies inside the buffer, and leaves an offset of which the same is true, so that
none of the checked operations on the way crashes (`Buffer.reading_never_crashes`).
-/

namespace CompactHttp

namespace Checked

variable {α β γ δ : Type} {relates : α → β → Prop}

/-- A checked reading comes without a crash to the outcome of another reading: to the same
fault, or to a result that is related to the other's. -/
inductive Mirrors (relates : α → β → Prop) : Checked α → Except FormatError β → Prop where
  | ok {result : α} {other : β} :
      relates result other → Mirrors relates (settled (.ok result)) (.ok other)
  | error (fault : FormatError) : Mirrors relates (settled (.error fault)) (.error fault)

/-- Readings that mirror one another can be continued by readings that do. -/
theorem Mirrors.bind {reading : Checked α} {other : Except FormatError β}
    {next : α → Checked γ} {otherNext : β → Except FormatError δ} {relatesNext : γ → δ → Prop}
    (mirrors : Mirrors relates reading other)
    (onward : ∀ result found, relates result found →
      Mirrors relatesNext (next result) (otherNext found)) :
    Mirrors relatesNext (reading >>= next) (other >>= otherNext) := by
  cases mirrors with
  | ok related => exact onward _ _ related
  | error fault => exact .error fault

/-- A reading that mirrors another one does not crash. -/
theorem Mirrors.exists_outcome {reading : Checked α} {other : Except FormatError β}
    (mirrors : Mirrors relates reading other) : ∃ outcome, reading = settled outcome := by
  cases mirrors with
  | ok => exact ⟨_, rfl⟩
  | error => exact ⟨_, rfl⟩

/-- What the other reading gives, this one gives in its own form. -/
theorem Mirrors.exists_settled {reading : Checked α} {other : β}
    (mirrors : Mirrors relates reading (.ok other)) :
    ∃ result, reading = settled (.ok result) ∧ relates result other := by
  cases mirrors with
  | ok related => exact ⟨_, rfl, related⟩

/-- The fault of the other reading is the fault of this one. -/
theorem Mirrors.eq_error {reading : Checked α} {fault : FormatError}
    (mirrors : Mirrors relates reading (.error fault)) : reading = settled (.error fault) := by
  cases mirrors with
  | error => rfl

/-- A reading whose results are those of the other has the outcome of the other. -/
theorem Mirrors.eq_settled {reading : Checked α} {other : Except FormatError α}
    (mirrors : Mirrors Eq reading other) : reading = settled other := by
  cases mirrors with
  | ok same => rw [same]
  | error fault => rfl

/-- A reading that has a part of the other's result has it for its own result. -/
theorem Mirrors.eq_settled_map {reading : Checked α} {other : Except FormatError β} {view : β → α}
    (mirrors : Mirrors (fun result found => result = view found) reading other) :
    reading = settled (other.map view) := by
  cases mirrors with
  | ok same => rw [same]; rfl
  | error fault => rfl

theorem settled_bind (result : α) (next : α → Checked β) :
    settled (.ok result) >>= next = next result := rfl

/-- A result is not incomplete. -/
theorem unlessIncomplete_ok (result : α) :
    (settled (.ok result)).unlessIncomplete = settled (.ok (some result)) := rfl

/-- A part can be taken from a total that is not smaller. -/
theorem subtract_of_le {total part : Nat} (enough : part ≤ total) :
    subtract total part = settled (.ok (total - part)) := if_pos enough

/-- A size fits a word if it is below the bound of words. -/
theorem toWord_of_lt {size : Nat} (small : size < 2 ^ 64) :
    toWord size = settled (.ok (.ofNat size)) := if_pos small

/-- A word can be shifted by less than its width. -/
theorem shift_of_lt {word : UInt64} {amount : Nat} (narrow : amount < 64) :
    shift word amount = settled (.ok (word <<< .ofNat amount)) := if_pos narrow

end Checked

/-- Bits above those of a number are put to it as they are added. -/
theorem or_shiftLeft {value group amount : Nat} (below : value < 2 ^ amount)
    (narrow : amount < 64) : UInt64.ofNat value ||| UInt64.ofNat group <<< UInt64.ofNat amount =
      UInt64.ofNat (value + 2 ^ amount * group) := by
  rw [← UInt64.ofNat_shiftLeft _ _ narrow, ← UInt64.ofNat_or, Nat.shiftLeft_eq, Nat.or_comm,
    Nat.mul_comm, ← Nat.two_pow_add_eq_or_of_lt below, Nat.add_comm]

/-- The low seven bits of a byte are its number modulo 128. -/
theorem toUInt64_and (byte : UInt8) :
    (byte &&& 0x7F).toUInt64 = UInt64.ofNat (byte.toNat % 0x80) := by
  rw [← UInt64.ofNat_uInt8ToNat, UInt8.toNat_and]
  exact congrArg UInt64.ofNat (Nat.and_two_pow_sub_one_eq_mod byte.toNat 7)

namespace Buffer

variable {space : AddressSpace}

/-- Addresses that stay inside the space can be added. -/
theorem add_of_lt {address count : Nat} (inside : address + count < space.size) :
    space.add address count = .settled (.ok (address + count)) := if_pos inside

open Checked (Mirrors settled settled_bind)

/-- A piece between two offsets in order and inside the buffer is there. -/
theorem exists_slice (buffer : Buffer space) {start stop : Nat} (ordered : start ≤ stop)
    (within : stop ≤ buffer.size) : ∃ found, buffer.slice start stop = settled (.ok found) ∧
      found.bytes = (buffer.bytes.take stop).drop start :=
  ⟨_, if_pos ⟨ordered, within⟩, rfl⟩

/-- Reading a number with words and shifts is decoding it, whatever has been read of it before. -/
theorem numberFrom_eq (position value : Nat) {count : Nat} {data : Bytes}
    (counted : count = position + data.length) (addressed : count < space.size)
    (few : position ≤ Varint.maxSize) (below : value < 2 ^ (7 * position)) :
    numberFrom space count position (.ofNat value) (7 * position) data =
      settled (((Varint.decodeFrom position data).mapError .ofVarint).map fun read =>
        (UInt64.ofNat (value + 2 ^ (7 * position) * read.1), count - read.2.length)) := by
  induction data generalizing position value with
  | nil =>
    obtain rfl : count = position := counted
    by_cases full : count < Varint.maxSize
    · rw [numberFrom, Varint.decodeFrom, if_neg (Nat.not_le_of_lt full), if_pos full]
      rfl
    · rw [numberFrom, Varint.decodeFrom, if_pos (Nat.le_of_not_lt full), if_neg full]
      rfl
  | cons byte rest ih =>
    rw [List.length_cons] at counted
    by_cases full : position = Varint.maxSize
    · rw [numberFrom, Varint.decodeFrom, if_pos full, if_pos (Nat.le_of_eq full.symm)]
      rfl
    · have fewer : position < 10 := Nat.lt_of_le_of_ne few full
      have inside : ¬Varint.maxSize ≤ position := Nat.not_le_of_lt fewer
      have narrow : 7 * position < 64 := by omega
      have tenth : position = Varint.maxSize - 1 ↔ position + 1 = Varint.maxSize := by
        unfold Varint.maxSize
        omega
      rw [numberFrom, Varint.decodeFrom, if_neg full, if_neg inside]
      by_cases last : byte < 0x80
      · rw [if_pos last, if_pos last]
        by_cases wide : position + 1 = Varint.maxSize ∧ 1 < byte
        · rw [if_pos (wide.imp_left tenth.mpr), if_pos wide]
          rfl
        · rw [if_neg (mt (And.imp_left tenth.mp) wide), if_neg wide, Checked.shift_of_lt narrow]
          simp only [settled_bind]
          have taken : position + 1 = count - rest.length := by omega
          have advanced : space.add position 1 = settled (.ok (count - rest.length)) := by
            rw [add_of_lt (by omega), taken]
          rw [advanced, settled_bind, ← UInt64.ofNat_uInt8ToNat, or_shiftLeft below narrow]
          rfl
      · rw [if_neg last, if_neg last]
        simp only [Checked.shift_of_lt narrow, settled_bind]
        have further : 2 ^ (7 * (position + 1)) = 2 ^ (7 * position) * 0x80 :=
          Nat.pow_add 2 (7 * position) 7
        have group : byte.toNat % 0x80 < 0x80 := Nat.mod_lt _ (by decide)
        have wider : value + 2 ^ (7 * position) * (byte.toNat % 0x80) <
            2 ^ (7 * (position + 1)) := by
          rw [further]
          nlinarith
        rw [toUInt64_and, or_shiftLeft below narrow]
        rw [show 7 * position + 7 = 7 * (position + 1) from rfl, ih _ _ (by omega) fewer wider]
        cases Varint.decodeFrom (position + 1) rest with
        | error fault => rfl
        | ok read =>
          have together : value + 2 ^ (7 * position) * (byte.toNat % 0x80) +
              2 ^ (7 * (position + 1)) * read.1 =
                value + 2 ^ (7 * position) * (byte.toNat % 0x80 + 0x80 * read.1) := by
            rw [further]
            ring
          simp only [Except.mapError, Except.map, together]

/-- There is a number, or none, at every offset of a buffer and behind its end. -/
theorem number_eq (buffer : Buffer space) (offset : Nat) : buffer.number offset =
    settled (((Varint.decodeAt buffer.bytes offset).mapError .ofVarint).map fun read =>
      (.ofNat read.1, read.2)) := by
  have addressed : (buffer.bytes.drop offset).length < space.size :=
    Nat.lt_of_le_of_lt (List.length_drop ▸ Nat.sub_le ..) buffer.fits
  have read := numberFrom_eq 0 0 (Nat.zero_add _).symm addressed (Nat.zero_le _) (by decide)
  apply read.trans
  simp only [Varint.decodeAt, Varint.decode]
  cases Varint.decodeFrom 0 (buffer.bytes.drop offset) with
  | error fault => rfl
  | ok read =>
    simp only [Except.mapError, Except.map, Nat.zero_add, Nat.mul_zero, Nat.pow_zero, Nat.one_mul]

/-- What is left of a buffer from an offset on. -/
def Left (buffer : Buffer space) (offset : Nat) (rest : Bytes) : Prop :=
  offset ≤ buffer.size ∧ rest = buffer.bytes.drop offset

/-- Results that agree, and an offset with what is left of a buffer there. -/
def After {α β : Type} (buffer : Buffer space) (agree : α → β → Prop) (result : α × Nat)
    (found : β × Bytes) : Prop :=
  agree result.1 found.1 ∧ buffer.Left result.2 found.2

variable {buffer : Buffer space} {offset length : Nat} {data behind rest : Bytes}

namespace Left

variable (here : buffer.Left offset data)

include here

/-- So many bytes are left as there are behind the offset. -/
theorem length_eq : data.length = buffer.size - offset := by
  rw [here.2, List.length_drop]
  rfl

/-- Further on, fewer bytes are left. -/
theorem drop (enough : length ≤ data.length) :
    buffer.Left (offset + length) (data.drop length) := by
  have sized := here.length_eq
  have inside := here.1
  refine ⟨by omega, ?_⟩
  rw [here.2, List.drop_drop]

/-- An offset in a buffer is an address. -/
theorem addressed : offset < space.size := Nat.lt_of_le_of_lt here.1 buffer.fits

/-- Decoding a number at an offset is decoding what is left there. -/
theorem decodeAt_eq : Varint.decodeAt buffer.bytes offset =
    (Varint.decode data).map fun read => (read.1, data.length - read.2.length) := by
  unfold Varint.decodeAt
  rw [← here.2]

/-- A number that cannot be decoded is refused for the same reason. -/
theorem number_of_fault {fault : Varint.Fault} (failed : Varint.decode data = .error fault) :
    buffer.number offset = settled (.error (.ofVarint fault)) := by
  rw [number_eq, here.decodeAt_eq, failed]
  rfl

/-- A number is followed by what is left behind it. -/
theorem exists_number (read : Varint.decode data = .ok (length, behind)) :
    ∃ taken, buffer.number offset = settled (.ok (.ofNat length, taken)) ∧
      buffer.Left (offset + taken) behind := by
  refine ⟨data.length - behind.length, ?_, ?_⟩
  · rw [number_eq, here.decodeAt_eq, read]
    rfl
  · have next := here.drop (Nat.sub_le data.length behind.length)
    rwa [Varint.drop_of_decode read] at next

end Left

section Pieces

variable (here : buffer.Left offset data) (name : MessagePart)

include here

/-- The bytes that are left can be counted in a word. -/
theorem Left.small : data.length < 2 ^ 64 := by
  have sized := here.length_eq
  have fits : buffer.size < space.size := buffer.fits
  have words := space.size_le
  omega

/-- The length of a piece is compared with the bytes that are left. -/
theorem piece_of_short (narrow : length < 2 ^ 64) (short : data.length < length) :
    buffer.piece name offset (.ofNat length) = settled (.error (.partTooLong name)) := by
  have beyond : UInt64.ofNat data.length < UInt64.ofNat length :=
    (UInt64.ofNat_lt_iff_lt here.small narrow).mpr short
  unfold piece
  rw [Checked.subtract_of_le here.1, settled_bind, ← here.length_eq,
    Checked.toWord_of_lt here.small, settled_bind, if_pos beyond]
  rfl

/-- A length that has passed the comparison is an address. -/
theorem ofWord_of_le (enough : length ≤ data.length) :
    space.ofWord (.ofNat length) = settled (.ok length) ∧
      ¬UInt64.ofNat data.length < UInt64.ofNat length := by
  have narrow : length < 2 ^ 64 := Nat.lt_of_le_of_lt enough here.small
  have addressed : length < space.size := by
    have sized := here.length_eq
    have fits : buffer.size < space.size := buffer.fits
    omega
  constructor
  · unfold AddressSpace.ofWord
    rw [UInt64.toNat_ofNat_of_lt' narrow, if_pos addressed]
    rfl
  · rw [UInt64.ofNat_lt_iff_lt here.small narrow]
    exact Nat.not_lt_of_le enough

/-- A piece that is all there is cut out without a crash. -/
theorem piece_of_enough {part : Bytes} (split : data = part ++ rest) :
    ∃ found, buffer.piece name offset (.ofNat part.length) =
        settled (.ok (found, offset + part.length)) ∧
      found.bytes = part ∧ buffer.Left (offset + part.length) rest := by
  have enough : part.length ≤ data.length := by
    rw [split, List.length_append]
    exact Nat.le_add_right ..
  have next : buffer.Left (offset + part.length) rest := by
    have dropped := here.drop enough
    rwa [split, List.drop_left] at dropped
  obtain ⟨address, within⟩ := ofWord_of_le here enough
  obtain ⟨found, cut, bytes⟩ := buffer.exists_slice (Nat.le_add_right offset part.length) next.1
  unfold piece
  rw [Checked.subtract_of_le here.1, settled_bind, ← here.length_eq,
    Checked.toWord_of_lt here.small, settled_bind, if_neg within, address, settled_bind,
    add_of_lt next.addressed, settled_bind, cut, settled_bind]
  refine ⟨found, rfl, ?_, next⟩
  rw [bytes, List.drop_take, ← here.2, Nat.add_sub_cancel_left, split, List.take_left]

/-- A part with its length in front is taken from the buffer as from the bytes. -/
theorem part_mirrors :
    Mirrors (buffer.After fun found part => found.bytes = part) (buffer.part name offset)
      (takePart name data) := by
  unfold part
  rcases part_cases data with large | broken | ⟨length, behind, read, short⟩ | ⟨part, rest, there⟩
  · rw [here.number_of_fault large, takePart, large]
    exact .error _
  · rw [here.number_of_fault broken, takePart, broken]
    exact .error _
  · obtain ⟨taken, numbered, next⟩ := here.exists_number read
    rw [numbered, takePart, read]
    simp only [settled_bind, short, ↓reduceIte]
    rw [add_of_lt next.addressed, settled_bind,
      piece_of_short next name (Varint.lt_of_decode read) short]
    exact .error _
  · obtain ⟨taken, numbered, next⟩ := here.exists_number there
    obtain ⟨found, cut, bytes, left⟩ := piece_of_enough next name rfl
    rw [numbered, there.takePart name]
    simp only [settled_bind]
    rw [add_of_lt next.addressed, settled_bind, cut]
    exact .ok ⟨bytes, left⟩

omit here in
/-- A part is a text if its bytes are one. -/
theorem asText_mirrors {found : Buffer space} {part : Bytes} {next : Nat}
    (bytes : found.bytes = part) (left : buffer.Left next rest) :
    Mirrors (buffer.After Eq) (do return (← found.asText name, next))
      (match Utf8.decode part with
        | some text => .ok (text, rest)
        | none => .error (.notText name)) := by
  subst bytes
  unfold asText
  cases Utf8.decode found.bytes with
  | none => exact .error _
  | some text => exact .ok ⟨rfl, left⟩

/-- A text is taken from the buffer as from the bytes. -/
theorem text_mirrors :
    Mirrors (buffer.After Eq) (buffer.text name offset) (takeText name data) := by
  apply (part_mirrors here name).bind
  rintro ⟨found, next⟩ ⟨part, rest⟩ ⟨bytes, left⟩
  exact asText_mirrors name bytes left

theorem blockText_mirrors :
    Mirrors (buffer.After Eq) (buffer.blockText name offset)
      (HeaderBlock.decodeText name data) := by
  unfold blockText HeaderBlock.decodeText
  rcases part_cases data with large | broken | ⟨length, behind, read, short⟩ | ⟨part, rest, there⟩
  · rw [here.number_of_fault large, large]
    exact .error _
  · rw [here.number_of_fault broken, broken]
    exact .error _
  · obtain ⟨taken, numbered, next⟩ := here.exists_number read
    rw [numbered, read, Checked.unlessIncomplete_ok, settled_bind]
    simp only [short, ↓reduceIte]
    rw [add_of_lt next.addressed, settled_bind,
      piece_of_short next name (Varint.lt_of_decode read) short]
    exact .error _
  · obtain ⟨taken, numbered, next⟩ := here.exists_number there
    obtain ⟨found, cut, bytes, left⟩ := piece_of_enough next name rfl
    have enough : ¬(part ++ rest).length < part.length := by
      rw [List.length_append]
      omega
    rw [numbered, there, Checked.unlessIncomplete_ok, settled_bind]
    simp only [enough, ↓reduceIte, List.take_left, List.drop_left]
    rw [add_of_lt next.addressed, settled_bind, cut, settled_bind]
    exact asText_mirrors name bytes left

/-- A part is skipped in the buffer as in the bytes. -/
theorem skipPart_mirrors :
    Mirrors (Option.Rel buffer.Left) (buffer.skipPart offset) (Framing.skipPart data) := by
  unfold skipPart Framing.skipPart
  rcases part_cases data with large | broken | ⟨length, behind, read, short⟩ | ⟨part, rest, there⟩
  · rw [here.number_of_fault large, large]
    exact .error _
  · rw [here.number_of_fault broken, broken]
    exact .ok .none
  · obtain ⟨taken, numbered, next⟩ := here.exists_number read
    have remaining := next.1
    rw [numbered, read, Checked.unlessIncomplete_ok, settled_bind]
    simp only [short, ↓reduceIte]
    rw [Checked.subtract_of_le here.1, settled_bind, Checked.subtract_of_le (by omega),
      settled_bind, Nat.sub_sub, ← next.length_eq, Checked.toWord_of_lt next.small, settled_bind,
      if_pos ((UInt64.ofNat_lt_iff_lt next.small (Varint.lt_of_decode read)).mpr short)]
    exact .ok .none
  · obtain ⟨taken, numbered, next⟩ := here.exists_number there
    have remaining := next.1
    have enough : part.length ≤ (part ++ rest).length := by
      rw [List.length_append]
      exact Nat.le_add_right ..
    have left := next.drop enough
    rw [List.drop_left, Nat.add_assoc] at left
    have addressed := left.addressed
    obtain ⟨address, within⟩ := ofWord_of_le next enough
    rw [numbered, there, Checked.unlessIncomplete_ok, settled_bind]
    simp only [Nat.not_lt_of_le enough, ↓reduceIte, List.drop_left]
    rw [Checked.subtract_of_le here.1, settled_bind, Checked.subtract_of_le (by omega),
      settled_bind, Nat.sub_sub, ← next.length_eq, Checked.toWord_of_lt next.small, settled_bind,
      if_neg within, address, settled_bind, add_of_lt (by omega), settled_bind,
      add_of_lt addressed]
    exact .ok (.some left)

end Pieces

/-- The byte at an offset is the first of those that are left. -/
theorem byteAt_of_left {id : UInt8} (here : buffer.Left offset (id :: rest)) :
    buffer.byteAt offset = settled (.ok id) ∧ buffer.Left (offset + 1) rest := by
  constructor
  · unfold byteAt
    rw [← List.head?_drop, ← here.2]
    rfl
  · exact here.drop (Nat.le_add_left 1 rest.length)

/-- A header is read from the buffer as from the bytes. -/
theorem entry_mirrors (table : HeaderTable) {id : UInt8} (here : buffer.Left offset (id :: rest)) :
    Mirrors (buffer.After Eq) (buffer.entry table offset)
      (HeaderBlock.decodeEntry table id rest) := by
  obtain ⟨there, left⟩ := byteAt_of_left here
  unfold entry HeaderBlock.decodeEntry
  rw [there, settled_bind, add_of_lt left.addressed, settled_bind]
  by_cases custom : id = HeaderTable.customId
  · rw [if_pos custom, if_pos custom]
    apply (blockText_mirrors left .customHeaderName).bind
    rintro ⟨name, behind⟩ ⟨_, rest⟩ ⟨rfl, left⟩
    apply (blockText_mirrors left .customHeaderValue).bind
    rintro ⟨value, next⟩ ⟨_, rest⟩ ⟨rfl, left⟩
    exact .ok ⟨rfl, left⟩
  · rw [if_neg custom, if_neg custom]
    match table.row? id with
    | none => exact .error _
    | some ⟨_, name, some value⟩ => exact .ok ⟨rfl, left⟩
    | some ⟨_, name, none⟩ =>
      apply (blockText_mirrors left .headerValue).bind
      rintro ⟨value, next⟩ ⟨_, rest⟩ ⟨rfl, left⟩
      exact .ok ⟨rfl, left⟩

/-- An offset where bytes are left is inside the buffer. -/
theorem Left.inside {id : UInt8} (here : buffer.Left offset (id :: rest)) :
    offset < buffer.size := by
  have sized := here.length_eq
  rw [List.length_cons] at sized
  omega

/-- Headers are read one, and then the others. -/
theorem headersFrom_eq (table : HeaderTable) (headers : Headers) (more : offset < buffer.size) :
    buffer.headersFrom table offset headers = buffer.entry table offset >>= fun read =>
      buffer.headersFrom table read.2 (headers.insert read.1.1 read.1.2) := by
  rw [headersFrom, if_pos more]
  split
  · next cause read =>
    have entered : buffer.entry table offset = .crash cause := read
    rw [entered]
    rfl
  · next fault read =>
    have entered : buffer.entry table offset = settled (.error fault) := read
    rw [entered]
    rfl
  · next name value behind read =>
    have entered : buffer.entry table offset = settled (.ok ((name, value), behind)) := read
    rw [entered, settled_bind]

/-- Headers are read from the buffer as from the bytes, onto those that there are. -/
theorem headersFrom_mirrors (table : HeaderTable) (here : buffer.Left offset data)
    (headers : Headers) : Mirrors Eq (buffer.headersFrom table offset headers)
      ((HeaderBlock.decodeEntries table data).map headers.overlay) := by
  induction data using HeaderBlock.decodeEntries.induct table generalizing offset headers with
  | case1 =>
    have ended : ¬offset < buffer.size := by
      have sized := here.length_eq
      rw [List.length_nil] at sized
      omega
    rw [headersFrom, if_neg ended, HeaderBlock.decodeEntries]
    exact .ok rfl
  | case2 id block fault read =>
    have mirrors := entry_mirrors table here
    rw [read] at mirrors
    rw [headersFrom_eq table headers here.inside, mirrors.eq_error,
      HeaderBlock.decodeEntries_of_fault read]
    exact .error fault
  | case3 id block entry rest read ih =>
    have mirrors := entry_mirrors table here
    rw [read] at mirrors
    obtain ⟨⟨header, next⟩, entered, ⟨rfl, left⟩⟩ := mirrors.exists_settled
    rw [headersFrom_eq table headers here.inside, entered, settled_bind,
      HeaderBlock.decodeEntries_of_entryAt (HeaderBlock.entryAt_of_decodeEntry read)]
    have onward := ih left (headers.insert header.1 header.2)
    cases listed : HeaderBlock.decodeEntries table rest with
    | error fault =>
      rw [listed] at onward
      exact onward
    | ok entries =>
      rw [listed] at onward
      exact onward

/-- A header block is read from the buffer as from the bytes. -/
theorem headers_mirrors (table : HeaderTable) (buffer : Buffer space) :
    Mirrors Eq (buffer.headers table) (HeaderBlock.decode table buffer.bytes) :=
  headersFrom_mirrors table ⟨Nat.zero_le _, rfl⟩ .empty

/-- Behind the first byte all the others are left. -/
theorem left_tail {first : UInt8} (split : buffer.bytes = first :: rest) : buffer.Left 1 rest := by
  have whole : buffer.Left 0 (first :: rest) := ⟨Nat.zero_le _, split.symm⟩
  exact whole.drop (Nat.le_add_left 1 rest.length)

/-- A request is read from the buffer as from the bytes. -/
theorem request_mirrors (buffer : Buffer space) :
    Mirrors (fun request found => request = found.1) buffer.request
      (Request.decodeFront buffer.bytes) := by
  unfold request
  match split : buffer.bytes with
  | [] => exact .error _
  | first :: rest =>
    have left := left_tail split
    simp only [Request.decodeFront, List.head?_cons]
    cases Method.ofCode? (Request.methodBits first) with
    | none => exact .error _
    | some method =>
      apply (text_mirrors left .host).bind
      rintro ⟨host, offset⟩ ⟨_, rest⟩ ⟨rfl, left⟩
      simp only
      by_cases missing : host.isEmpty
      · rw [if_pos missing, if_pos missing]
        exact .error _
      · rw [if_neg missing, if_neg missing]
        by_cases long : Request.maxHostSize < host.utf8ByteSize
        · rw [if_pos long, if_pos long]
          exact .error _
        · rw [if_neg long, if_neg long]
          apply (text_mirrors left .path).bind
          rintro ⟨path, offset⟩ ⟨_, rest⟩ ⟨rfl, left⟩
          apply (part_mirrors left .headers).bind
          rintro ⟨block, offset⟩ ⟨_, rest⟩ ⟨rfl, left⟩
          apply (headers_mirrors .request block).bind
          rintro headers _ rfl
          apply (part_mirrors left .body).bind
          rintro ⟨body, offset⟩ ⟨_, rest⟩ ⟨rfl, left⟩
          exact .ok rfl

theorem response_mirrors (buffer : Buffer space) :
    Mirrors (fun response found => response = found.1) buffer.response
      (Response.decodeFront buffer.bytes) := by
  unfold response
  match split : buffer.bytes with
  | [] => exact .error _
  | first :: rest =>
    apply (part_mirrors (left_tail split) .headers).bind
    rintro ⟨block, offset⟩ ⟨_, rest⟩ ⟨rfl, left⟩
    apply (headers_mirrors .response block).bind
    rintro headers _ rfl
    apply (part_mirrors left .body).bind
    rintro ⟨body, offset⟩ ⟨_, rest⟩ ⟨rfl, left⟩
    exact .ok rfl

/-- Parts are skipped in the buffer as in the bytes. -/
theorem skipParts_mirrors (count : Nat) (here : buffer.Left offset data) :
    Mirrors (Option.Rel buffer.Left) (buffer.skipParts count offset)
      (Framing.skipParts count data) := by
  induction count generalizing offset data with
  | zero => exact .ok (.some here)
  | succ count ih =>
    have mirrors := skipPart_mirrors here
    unfold skipParts Framing.skipParts
    cases first : Framing.skipPart data with
    | error fault =>
      rw [first] at mirrors
      rw [mirrors.eq_error]
      exact .error fault
    | ok behind =>
      rw [first] at mirrors
      obtain ⟨next, skipped, related⟩ := mirrors.exists_settled
      rw [skipped]
      cases related with
      | none => exact .ok .none
      | some left => exact ih left

/-- The host is checked in the buffer as in the bytes, as far as the space can tell. -/
theorem checkHost_mirrors (left : buffer.Left 1 data) :
    Mirrors Eq buffer.checkHost ((Framing.checkHost data).mapError space.tell) := by
  unfold checkHost Framing.checkHost
  match read : Varint.decode data with
  | .error .incomplete =>
    rw [left.number_of_fault read]
    exact .ok rfl
  | .error .overflow =>
    rw [left.number_of_fault read]
    exact .error _
  | .ok (length, rest) =>
    have narrow := Varint.lt_of_decode read
    have word : (UInt64.ofNat length).toNat = length := UInt64.toNat_ofNat_of_lt' narrow
    have zero : UInt64.ofNat length = 0 ↔ length = 0 := by
      rw [← UInt64.toNat_inj, word]
      rfl
    obtain ⟨taken, numbered, -⟩ := left.exists_number read
    rw [numbered, Checked.unlessIncomplete_ok, settled_bind]
    simp only [word, zero]
    by_cases missing : length = 0
    · rw [if_pos missing, if_pos missing]
      exact .error _
    · rw [if_neg missing, if_neg missing]
      by_cases long : Request.maxHostSize < length
      · rw [if_pos long, if_pos long]
        exact .error _
      · rw [if_neg long, if_neg long]
        exact .ok rfl

/-- Behind parts that are skipped is an offset, which is a length from the front. -/
theorem length_mirrors (count : Nat) (left : buffer.Left 1 data) :
    Mirrors Eq (buffer.skipParts count 1) (((Framing.skipParts count data).map fun behind =>
      behind.map fun rest => buffer.bytes.length - rest.length).mapError space.tell) := by
  have mirrors := skipParts_mirrors count left
  cases skipped : Framing.skipParts count data with
  | error fault =>
    rw [skipped] at mirrors
    rw [mirrors.eq_error, Framing.fault_of_skipParts skipped]
    exact .error _
  | ok behind =>
    rw [skipped] at mirrors
    obtain ⟨next, read, related⟩ := mirrors.exists_settled
    rw [read]
    cases related with
    | none => exact .ok rfl
    | @some offset rest left =>
      have sized := left.length_eq
      have inside := left.1
      have back : offset = buffer.bytes.length - rest.length := by
        unfold size at sized inside
        omega
      exact .ok (congrArg some back)

/-- The length of a message is found in the buffer as in the bytes, as far as the space can tell. -/
theorem length?_mirrors (kind : MessageKind) (buffer : Buffer space) :
    Mirrors Eq (buffer.length? kind) ((kind.length? buffer.bytes).mapError space.tell) := by
  cases kind with
  | request =>
    unfold length?
    match split : buffer.bytes with
    | [] => exact .ok rfl
    | first :: rest =>
      have left := left_tail split
      simp only [MessageKind.length?, Request.length?, List.head?_cons]
      by_cases unknown : 6 < Request.methodBits first
      · rw [if_pos unknown, if_pos unknown]
        exact .error _
      · rw [if_neg unknown, if_neg unknown]
        have mirrors := checkHost_mirrors left
        cases checked : Framing.checkHost rest with
        | error fault =>
          rw [checked] at mirrors
          rw [mirrors.eq_error]
          exact .error _
        | ok _ =>
          rw [checked] at mirrors
          rw [mirrors.eq_settled]
          have sized := length_mirrors 4 left
          rw [split] at sized
          exact sized
  | response =>
    unfold length?
    match split : buffer.bytes with
    | [] => exact .ok rfl
    | first :: rest =>
      have sized := length_mirrors 2 (left_tail split)
      rw [split] at sized
      exact sized

section Wide

variable (wide : space.bits = 64)

include wide

/-- In a wide space there is nothing that could not be told of a host. -/
theorem tell_checkHost (data : Bytes) :
    (Framing.checkHost data).mapError space.tell = Framing.checkHost data := by
  unfold Framing.checkHost
  match read : Varint.decode data with
  | .error .incomplete | .error .overflow => rfl
  | .ok (length, rest) =>
    have clamped : space.clamp length = length := by
      have narrow := Varint.lt_of_decode read
      unfold AddressSpace.clamp AddressSpace.size
      rw [wide]
      omega
    simp only
    split
    · rfl
    · split
      · simp only [Except.mapError, AddressSpace.tell, clamped]
      · rfl

omit wide in
/-- In a wide space there is nothing that could not be told of the parts behind the host. -/
theorem tell_skipParts {α : Type} (count : Nat) (data : Bytes) (view : Option Bytes → α) :
    ((Framing.skipParts count data).map view).mapError space.tell =
      (Framing.skipParts count data).map view := by
  cases skipped : Framing.skipParts count data with
  | error fault =>
    rw [Framing.fault_of_skipParts skipped]
    rfl
  | ok behind => rfl

/-- Where addresses are as wide as words, every fault is told as it is. -/
theorem length?_of_wide (kind : MessageKind) (buffer : Buffer space) :
    buffer.length? kind = settled (kind.length? buffer.bytes) := by
  rw [(length?_mirrors kind buffer).eq_settled]
  apply congrArg settled
  match kind, buffer.bytes with
  | .request, [] | .response, [] => rfl
  | .response, first :: rest => exact tell_skipParts 2 rest _
  | .request, first :: rest =>
    have told := tell_checkHost wide rest
    simp only [MessageKind.length?, Request.length?]
    split
    · rfl
    · cases checked : Framing.checkHost rest with
      | error fault =>
        rw [checked] at told
        exact congrArg Except.error (Except.error.inj told)
      | ok _ => exact tell_skipParts 4 rest _

end Wide

/-- No bytes crash a reading of them, wherever a number or a header is looked for and whatever
the table: each reading comes to the outcome that the bytes have. A number has at most
sixty-four bits and lies inside the buffer, each header takes the offset further and not behind
the end, a declared length is compared with the bytes that are left, and a message is no longer
than the buffer. -/
theorem reading_never_crashes (buffer : Buffer space) :
    (∀ offset, buffer.number offset = settled (((Varint.decodeAt buffer.bytes offset).mapError
        .ofVarint).map fun read => (.ofNat read.1, read.2))) ∧
      (∀ offset value taken, Varint.decodeAt buffer.bytes offset = .ok (value, taken) →
        value < 2 ^ 64 ∧ 0 < taken ∧ offset + taken ≤ buffer.size) ∧
      (∀ name offset length, offset ≤ buffer.size →
        (buffer.size - offset < length.toNat ∧
            buffer.piece name offset length = settled (.error (.partTooLong name)) ∨
          offset + length.toNat ≤ buffer.size ∧ ∃ found,
            buffer.piece name offset length = settled (.ok (found, offset + length.toNat)) ∧
              found.bytes = (buffer.bytes.drop offset).take length.toNat)) ∧
      (∀ table, buffer.headers table = settled (HeaderBlock.decode table buffer.bytes)) ∧
      (∀ table offset, offset < buffer.size →
        ∃ outcome, buffer.entry table offset = settled outcome ∧
          ∀ header next, outcome = .ok (header, next) → offset < next ∧ next ≤ buffer.size) ∧
      buffer.request = settled (Request.decode buffer.bytes) ∧
      buffer.response = settled (Response.decode buffer.bytes) ∧
      (∀ kind, buffer.length? kind =
        settled ((kind.length? buffer.bytes).mapError space.tell)) ∧
      ∀ kind length, buffer.length? kind = settled (.ok (some length)) →
        length ≤ buffer.size := by
  refine ⟨buffer.number_eq, ?numbers, ?pieces, ?headers, ?entries, ?request, ?response, ?lengths,
    ?bounds⟩
  case numbers =>
    intro offset value taken read
    unfold Varint.decodeAt at read
    obtain ⟨⟨number, rest⟩, decoded, same⟩ := map_eq_ok_iff.mp read
    cases same
    have shorter := Varint.decode_shortens decoded
    have sized : (buffer.bytes.drop offset).length = buffer.size - offset := List.length_drop
    refine ⟨Varint.lt_of_decode decoded, ?_, ?_⟩
    · exact Nat.sub_pos_of_lt shorter
    · omega
  case pieces =>
    intro name offset length within
    have here : buffer.Left offset (buffer.bytes.drop offset) := ⟨within, rfl⟩
    have word : UInt64.ofNat length.toNat = length := UInt64.ofNat_toNat
    by_cases short : (buffer.bytes.drop offset).length < length.toNat
    · left
      have refused := piece_of_short here name length.toNat_lt short
      rw [word] at refused
      rw [← here.length_eq]
      exact ⟨short, refused⟩
    · right
      have enough := Nat.le_of_not_lt short
      obtain ⟨found, cut, bytes, left⟩ :=
        piece_of_enough here name (List.take_append_drop length.toNat _).symm
      rw [List.length_take, Nat.min_eq_left enough] at cut left
      rw [word] at cut
      exact ⟨left.1, found, cut, bytes⟩
  case headers =>
    intro table
    exact (buffer.headers_mirrors table).eq_settled
  case entries =>
    intro table offset inside
    have here : buffer.Left offset (buffer.bytes[offset] :: buffer.bytes.drop (offset + 1)) :=
      ⟨Nat.le_of_lt inside, List.drop_eq_getElem_cons inside |>.symm⟩
    obtain ⟨outcome, entered⟩ := (entry_mirrors table here).exists_outcome
    refine ⟨outcome, entered, ?_⟩
    rintro header next rfl
    exact lt_of_entry entered
  case request => exact buffer.request_mirrors.eq_settled_map
  case response => exact buffer.response_mirrors.eq_settled_map
  case lengths =>
    intro kind
    exact (length?_mirrors kind buffer).eq_settled
  case bounds =>
    intro kind length known
    rw [(length?_mirrors kind buffer).eq_settled] at known
    cases outcome : kind.length? buffer.bytes with
    | error fault =>
      rw [outcome] at known
      cases known
    | ok found =>
      rw [outcome] at known
      cases known
      exact (MessageKind.length?_bounds outcome).2

example :
    (⟨0 :: (List.replicate 9 0xFF ++ [1]), by decide⟩ : Buffer ⟨64, Nat.le_refl 64⟩).response =
      settled (.error (.partTooLong .headers)) := rfl

end Buffer

end CompactHttp
