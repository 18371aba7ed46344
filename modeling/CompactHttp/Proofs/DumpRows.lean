import CompactHttp.Dump.Sheet
import CompactHttp.Proofs.CheckedReading
import CompactHttp.Proofs.DumpItems
import CompactHttp.Proofs.DumpText

/-! # A dump is written row by row

What is written by offsets onto a sheet is what is shown of the bytes that are left of the buffer
there: each writer lays out the items of its counterpart (`Sheet.write`), and none of the checked
operations on the way crashes (`Buffer.sheet_eq`). So the rows of a dump lie one behind another from
the start of the message, and the number at its end is where they end (`Buffer.dump_tiles`).
-/

namespace CompactHttp

namespace Dump

/-! ## Items on a sheet -/

/-- Items as lines, the first of them at an offset. -/
def laid (offset : Nat) : List Item → List Line
  | [] => []
  | .gap :: items => .gap :: laid offset items
  | .row bytes meaning :: items => .row offset bytes meaning :: laid (offset + bytes.length) items

/-- Writes items behind what has been written. -/
def Sheet.write (sheet : Sheet) (items : List Item) : Sheet :=
  ⟨sheet.offset + covered items, sheet.lines ++ laid sheet.offset items⟩

variable {items more : List Item}

theorem covered_cons (item : Item) (items : List Item) :
    covered (item :: items) = item.bytes.length + covered items := by
  rw [covered, List.flatMap_cons, List.length_append, covered]

theorem covered_append (items more : List Item) :
    covered (items ++ more) = covered items + covered more := by
  rw [covered, List.flatMap_append, List.length_append, covered, covered]

/-- Items behind others are laid out where those end. -/
theorem laid_append (offset : Nat) (items more : List Item) :
    laid offset (items ++ more) = laid offset items ++ laid (offset + covered items) more := by
  induction items generalizing offset with
  | nil => rfl
  | cons item items ih =>
    cases item with
    | gap =>
      simp only [List.cons_append, laid, ih, covered_cons, Item.bytes, List.length_nil,
        Nat.zero_add]
    | row bytes meaning =>
      simp only [List.cons_append, laid, ih, covered_cons, Item.bytes, Nat.add_assoc]

theorem Sheet.write_nil (sheet : Sheet) : sheet.write [] = sheet := by
  rw [write, laid, List.append_nil]
  rfl

/-- Items are written behind one another. -/
theorem Sheet.write_write (sheet : Sheet) (items more : List Item) :
    (sheet.write items).write more = sheet.write (items ++ more) := by
  simp only [write, covered_append, laid_append, List.append_assoc, Nat.add_assoc]

/-- An empty line is an item. -/
theorem Sheet.gap_write (sheet : Sheet) (items : List Item) :
    sheet.gap.write items = sheet.write (.gap :: items) := by
  simp only [write, gap, covered_cons, Item.bytes, List.length_nil, Nat.zero_add, laid,
    List.append_assoc, List.cons_append, List.nil_append]

theorem Sheet.blank_write (items : List Item) :
    blank.write items = ⟨covered items, laid 0 items⟩ := by
  rw [write, blank, Nat.zero_add, List.nil_append]

/-- Items are laid out as the text of their lines. -/
theorem layout_eq_join (offset : Nat) (items : List Item) :
    layout offset items = String.join ((laid offset items).map Line.text) := by
  induction items generalizing offset with
  | nil => rfl
  | cons item items ih =>
    cases item with
    | gap => rw [layout, laid, List.map_cons, String.join_cons, ← ih, Line.text]
    | row bytes meaning => rw [layout, laid, List.map_cons, String.join_cons, ← ih, Line.text]

/-- What is rendered is the text of the sheet with all items on it. -/
theorem render_eq_text (kind : MessageKind) (first : UInt8) (data : Bytes) :
    render kind (first :: data) =
      (Sheet.blank.write (Dump.items kind (first :: data))).text (data.length + 1) := by
  rw [Sheet.blank_write]
  -- An equation of `Sheet.text` would put the strings of its title together first.
  delta Sheet.text
  rw [← layout_eq_join]
  rfl

/-- Laying out items keeps their bytes. -/
theorem bytes_laid (offset : Nat) (items : List Item) :
    (laid offset items).flatMap Line.bytes = items.flatMap Item.bytes := by
  induction items generalizing offset with
  | nil => rfl
  | cons item items ih => cases item <;> simp only [laid, List.flatMap_cons, ih] <;> rfl

/-- A row stands at an offset as far on as there are bytes in the lines before it. -/
theorem offset_of_laid {start offset : Nat} {bytes : Bytes} {meaning : String}
    {front back : List Line}
    (split : laid start items = front ++ .row offset bytes meaning :: back) :
    offset = start + (front.flatMap Line.bytes).length := by
  induction items generalizing start front with
  | nil => cases front <;> cases split
  | cons item items ih =>
    cases front with
    | nil =>
      cases item with
      | gap => cases split
      | row => cases split; rfl
    | cons line front =>
      rw [List.flatMap_cons, List.length_append]
      cases item with
      | gap =>
        obtain ⟨rfl, later⟩ := List.cons.inj split
        rw [ih later, Line.bytes, List.length_nil, Nat.zero_add]
      | row =>
        obtain ⟨rfl, later⟩ := List.cons.inj split
        rw [ih later, Line.bytes, Nat.add_assoc]

/-- The lines of a sheet show a byte string row by row from its start on: each row stands at the
offset where its bytes begin, and the sheet is at the end of the last one. -/
structure Sheet.Tiles (sheet : Sheet) (data : Bytes) : Prop where
  within : sheet.offset ≤ data.length
  shown : sheet.lines.flatMap Line.bytes = data.take sheet.offset
  placed : ∀ front offset bytes meaning back,
    sheet.lines = front ++ .row offset bytes meaning :: back →
      offset = (front.flatMap Line.bytes).length
  ended : ∃ front offset bytes meaning, sheet.lines = front ++ [.row offset bytes meaning] ∧
    sheet.offset = offset + bytes.length

/-- A length is shown in a row, whether it can be read or not. -/
theorem showLength_row (label : String) (data : Bytes) :
    ∃ bytes meaning, (showLength label data).1 = .row bytes meaning := by
  unfold showLength
  split <;> exact ⟨_, _, rfl⟩

/-- A dump ends with a row. -/
theorem exists_last_row (kind : MessageKind) (first : UInt8) (data : Bytes) :
    ∃ front bytes meaning, Dump.items kind (first :: data) = front ++ [.row bytes meaning] := by
  have body (data : Bytes) :
      ∃ front bytes meaning, (showBody data).1 = front ++ [.row bytes meaning] := by
    obtain ⟨bytes, meaning, row⟩ := showLength_row "Body length" data
    unfold showBody
    split
    · next item rest shown =>
      rw [shown] at row
      exact ⟨[.gap], bytes, meaning, congrArg ([.gap, ·]) row⟩
    · next item length rest shown =>
      rw [shown] at row
      split
      · exact ⟨[.gap], bytes, meaning, congrArg ([.gap, ·]) row⟩
      · exact ⟨[.gap, item], _, _, rfl⟩
  obtain ⟨front, bytes, meaning, last⟩ :=
    body (showBlock kind.headerTable (showTarget kind data).2).2
  refine ⟨.row [first] (firstMeaning kind first) :: ((showTarget kind data).1 ++
    (showBlock kind.headerTable (showTarget kind data).2).1 ++ front), bytes, meaning, ?_⟩
  rw [List.cons_append, List.append_assoc, ← last]
  rfl

/-- Items that hold the front of a byte string and end with a row are laid out over it. -/
theorem tiles_of_covers {data rest bytes : Bytes} {meaning : String}
    (covers : Covers (items ++ [.row bytes meaning]) data rest) :
    (Sheet.blank.write (items ++ [.row bytes meaning])).Tiles data := by
  rw [Sheet.blank_write]
  exact {
    within := by
      rw [covers.covered_eq]
      exact Nat.sub_le ..
    shown := by
      rw [bytes_laid, ← covers]
      exact List.take_left.symm
    placed := by
      intro front offset bytes meaning back split
      rw [offset_of_laid split, Nat.zero_add]
    ended := by
      refine ⟨laid 0 items, 0 + covered items, bytes, meaning, laid_append .., ?_⟩
      rw [covered_append, covered_cons, Nat.zero_add]
      rfl }

end Dump

open Dump

namespace Checked

theorem outcome_settled {α : Type} (found : Except FormatError α) :
    (settled found).outcome = settled (.ok found) := rfl

end Checked

namespace Buffer

open Checked (settled settled_bind)

variable {space : AddressSpace} {buffer : Buffer space} {sheet : Sheet} {items : List Item}
  {data rest : Bytes} {length : Nat}

/-! ## Writers -/

/-- As many bytes remain as are left. -/
theorem Left.remaining_eq {offset : Nat} (here : buffer.Left offset data) :
    buffer.remaining offset = data.length := here.length_eq.symm

/-- Behind what has been written of the bytes that are left is the rest of them. -/
theorem Left.write (here : buffer.Left sheet.offset data) (covers : Covers items data rest) :
    buffer.Left (sheet.write items).offset rest := by
  have inside : covered items ≤ data.length := by
    rw [covers.covered_eq]
    exact Nat.sub_le ..
  have next := here.drop inside
  have behind : data.drop (covered items) = rest := by
    rw [← covers]
    exact List.drop_left
  rwa [behind] at next

/-- The bytes that come next can be cut out. -/
theorem Left.exists_slice {offset : Nat} (here : buffer.Left offset data)
    (enough : length ≤ data.length) : ∃ found, buffer.slice offset (offset + length) =
      settled (.ok found) ∧ found.bytes = data.take length := by
  obtain ⟨found, cut, bytes⟩ :=
    buffer.exists_slice (Nat.le_add_right offset length) (here.drop enough).1
  refine ⟨found, cut, ?_⟩
  rw [bytes, List.drop_take, ← here.2, Nat.add_sub_cancel_left]

/-- A row takes the bytes that come next. -/
theorem writeRow_eq (here : buffer.Left sheet.offset data) (enough : length ≤ data.length)
    (meaning : String) : buffer.writeRow sheet length meaning =
      settled (.ok (sheet.write [.row (data.take length) meaning])) := by
  obtain ⟨found, cut, bytes⟩ := here.exists_slice enough
  unfold writeRow
  rw [here.remaining_eq, Nat.min_eq_left enough, add_of_lt (here.drop enough).addressed,
    settled_bind, cut, settled_bind, bytes]
  have taken : covered [.row (data.take length) meaning] = length := by
    rw [covered_cons, Item.bytes, List.length_take, Nat.min_eq_left enough]
    rfl
  rw [Sheet.write, taken]
  rfl

/-- What is taken can be taken again by its length. -/
theorem take_length_take (length : Nat) (data : Bytes) :
    data.take (data.take length).length = data.take length := by
  rw [List.length_take, List.take_eq_take_iff]
  omega

/-- A row takes so many bytes, or all that are left. -/
theorem writeRow_take_eq (here : buffer.Left sheet.offset data) (length : Nat) (meaning : String) :
    buffer.writeRow sheet (data.take length).length meaning =
      settled (.ok (sheet.write [.row (data.take length) meaning])) := by
  rw [writeRow_eq here (List.length_take_le' ..), take_length_take]

/-- A length is written as it is shown, and the value that is shown is the one that is given. -/
theorem writeLength_eq (here : buffer.Left sheet.offset data) (label : String) :
    buffer.writeLength sheet label = settled (.ok
      ((showLength label data).2.1.map UInt64.ofNat, sheet.write [(showLength label data).1])) := by
  unfold writeLength showLength
  cases read : Varint.decode data with
  | error fault =>
    rw [here.number_of_fault read, Checked.outcome_settled, settled_bind]
    simp only
    rw [here.remaining_eq, writeRow_eq here (Nat.le_refl _), List.take_length]
    rfl
  | ok found =>
    obtain ⟨length, behind⟩ := found
    obtain ⟨taken, numbered, next⟩ := here.exists_number read
    have count : taken = data.length - behind.length := by
      have all := here.length_eq
      have left := next.length_eq
      have inside := next.1
      omega
    have word : (UInt64.ofNat length).toNat = length :=
      UInt64.toNat_ofNat_of_lt' (Varint.lt_of_decode read)
    rw [numbered, Checked.outcome_settled, settled_bind]
    simp only [word]
    rw [count, writeRow_eq here (Nat.sub_le ..)]
    rfl

/-- As much of a declared length as there are bytes for. -/
theorem Left.reach_eq {offset : Nat} (here : buffer.Left offset data) (length : Nat) :
    min (space.clamp length) (buffer.remaining offset) = (data.take length).length := by
  have all := here.length_eq
  have fits : buffer.size < space.size := buffer.fits
  rw [here.remaining_eq, List.length_take, AddressSpace.clamp]
  omega

/-- How many bytes are taken fits a word, and words compare as the numbers do. -/
theorem Left.toWord_lt_iff {offset : Nat} (here : buffer.Left offset data)
    (narrow : length < 2 ^ 64) :
    Checked.toWord (data.take length).length =
        settled (.ok (UInt64.ofNat (data.take length).length)) ∧
      (UInt64.ofNat (data.take length).length < UInt64.ofNat length ↔
        (data.take length).length < length) := by
  have small : (data.take length).length < 2 ^ 64 :=
    Nat.lt_of_le_of_lt (List.length_take_le' ..) here.small
  exact ⟨Checked.toWord_of_lt small, UInt64.ofNat_lt_iff_lt small narrow⟩

/-- A length that is shown has at most sixty-four bits. -/
theorem lt_of_showLength {label : String} {item : Item}
    (shown : showLength label data = (item, some length, rest)) : length < 2 ^ 64 := by
  unfold showLength at shown
  split at shown
  · next found behind read =>
    cases shown
    exact Varint.lt_of_decode read
  · cases shown

/-- A text is written as it is shown, and is whole if it is shown whole. -/
theorem writeText_eq (here : buffer.Left sheet.offset data) (label : String) :
    buffer.writeText sheet label = settled (.ok
      ((showText label data).whole, sheet.write (showText label data).items)) := by
  have first := writeLength_eq here (label ++ " length")
  have next := here.write (covers_showLength (label ++ " length") data)
  unfold writeText showText
  rw [first, settled_bind]
  match shown : showLength (label ++ " length") data with
  | (item, none, rest) => rfl
  | (item, some length, rest) =>
    rw [shown] at next
    have narrow := lt_of_showLength shown
    have word : (UInt64.ofNat length).toNat = length := UInt64.toNat_ofNat_of_lt' narrow
    obtain ⟨reached, short⟩ := next.toWord_lt_iff narrow
    have enough := List.length_take_le' length rest
    obtain ⟨found, cut, bytes⟩ := next.exists_slice enough
    simp only [Option.map_some, word]
    rw [next.reach_eq, add_of_lt (next.drop enough).addressed, settled_bind, cut, settled_bind,
      reached, settled_bind]
    simp only [short, bytes, take_length_take]
    split
    · rw [writeRow_take_eq next, settled_bind, Sheet.write_write]
      rfl
    · rw [writeRow_take_eq next, settled_bind, Sheet.write_write]
      rfl

/-- A header is written as it is shown with the bytes up to the end of its block. -/
theorem writeHeader_eq {table : HeaderTable} {stop : Nat} {id : UInt8}
    (here : buffer.Left sheet.offset (id :: data)) (before : sheet.offset < stop)
    (inside : stop ≤ buffer.size) :
    buffer.writeHeader table stop sheet =
      let shown := showHeader table (stop - sheet.offset) id data
      settled (.ok (shown.whole, sheet.write shown.items)) := by
  obtain ⟨there, -⟩ := byteAt_of_left here
  have row (meaning : String) : buffer.writeRow sheet 1 meaning =
      settled (.ok (sheet.write [.row [id] meaning])) :=
    writeRow_eq here (Nat.le_add_left 1 data.length) meaning
  have next (meaning : String) : buffer.Left (sheet.write [.row [id] meaning]).offset data :=
    here.write (covers_row [id] data meaning)
  unfold writeHeader showHeader
  rw [there, settled_bind]
  by_cases custom : id = HeaderTable.customId
  · rw [if_pos custom, if_pos custom, row, settled_bind, writeText_eq (next _), settled_bind]
    have behind := (next "Custom header").write (covers_showText "  Name" data)
    simp only
    split
    · rw [writeText_eq behind, Sheet.write_write, Sheet.write_write]
      rfl
    · rw [Sheet.write_write]
      rfl
  · rw [if_neg custom, if_neg custom]
    match table.row? id with
    | some ⟨_, name, some value⟩ =>
      simp only
      rw [row]
      rfl
    | some ⟨_, name, none⟩ =>
      simp only
      rw [row, settled_bind, writeText_eq (next _), Sheet.write_write]
      rfl
    | none =>
      have sized := here.length_eq
      have enough : stop - sheet.offset ≤ (id :: data).length := by omega
      have positive : stop - sheet.offset = stop - sheet.offset - 1 + 1 := by omega
      simp only
      rw [Checked.subtract_of_le (Nat.le_of_lt before), settled_bind, writeRow_eq here enough,
        settled_bind, positive, List.take_succ_cons]
      rfl

/-- Behind a header that is whole the next one is written. -/
theorem writeHeaders_eq_bind (table : HeaderTable) {stop : Nat} (before : sheet.offset < stop) :
    buffer.writeHeaders table stop sheet =
      buffer.writeHeader table stop sheet >>= fun written =>
        if written.1 then buffer.writeHeaders table stop written.2 else pure written.2 := by
  rw [writeHeaders, dif_pos before]
  split
  · next cause ran =>
    have written : buffer.writeHeader table stop sheet = .crash cause := ran
    rw [written]
    rfl
  · next fault ran =>
    have written : buffer.writeHeader table stop sheet = settled (.error fault) := ran
    rw [written]
    rfl
  · next next ran =>
    have written : buffer.writeHeader table stop sheet = settled (.ok (true, next)) := ran
    rw [written]
    rfl
  · next next ran =>
    have written : buffer.writeHeader table stop sheet = settled (.ok (false, next)) := ran
    rw [written]
    rfl

/-- At the end of the block no header is written. -/
theorem writeHeaders_of_ended (table : HeaderTable) {beyond : Nat}
    (here : buffer.Left sheet.offset data) (ended : ¬beyond < data.length) :
    buffer.writeHeaders table (buffer.size - beyond) sheet =
      settled (.ok (sheet.write (showHeaders table beyond data).1)) := by
  have sized := here.length_eq
  rw [showHeaders_of_ended ended, writeHeaders, dif_neg (by omega), Sheet.write_nil]
  rfl

/-- Before the end of a block the header there is written, and behind it the next one. -/
theorem writeHeaders_step (table : HeaderTable) {beyond : Nat} {id : UInt8}
    (here : buffer.Left sheet.offset (id :: data)) (inside : beyond < data.length + 1) :
    buffer.writeHeaders table (buffer.size - beyond) sheet =
      let shown := showHeader table (data.length + 1 - beyond) id data
      if shown.whole then
        buffer.writeHeaders table (buffer.size - beyond) (sheet.write shown.items)
      else settled (.ok (sheet.write shown.items)) := by
  have sized := here.length_eq
  rw [List.length_cons] at sized
  have before : sheet.offset < buffer.size - beyond := by omega
  have available : buffer.size - beyond - sheet.offset = data.length + 1 - beyond := by omega
  rw [writeHeaders_eq_bind table before, writeHeader_eq here before (Nat.sub_le ..), available]
  rfl

/-- Headers are written as they are shown, where their block ends so many bytes before the end of
the buffer. -/
theorem writeHeaders_eq (table : HeaderTable) (beyond : Nat) (data : Bytes) :
    ∀ sheet : Sheet, buffer.Left sheet.offset data →
      buffer.writeHeaders table (buffer.size - beyond) sheet =
        settled (.ok (sheet.write (showHeaders table beyond data).1)) := by
  induction data using showHeaders.induct table beyond with
  | case1 =>
    intro sheet here
    exact writeHeaders_of_ended table here (Nat.not_lt_zero beyond)
  | case2 id data inside _ whole _ _ _ ih =>
    intro sheet here
    have next := here.write (covers_showHeader table (data.length + 1 - beyond) id data)
    rw [writeHeaders_step table here inside, showHeaders_of_whole inside whole]
    have others := ih _ next
    rw [Sheet.write_write] at others
    exact (if_pos whole).trans others
  | case3 id data inside _ broken =>
    intro sheet here
    rw [writeHeaders_step table here inside, showHeaders_of_broken inside broken]
    exact if_neg broken
  | case4 id data done =>
    intro sheet here
    exact writeHeaders_of_ended table here done

/-- A block that is declared to be longer than what is left ends with the buffer. -/
theorem Left.stop_eq {offset : Nat} (here : buffer.Left offset data) (length : Nat) :
    min (space.clamp (offset + space.clamp length)) buffer.size =
      buffer.size - (data.length - length) := by
  have all := here.length_eq
  have inside := here.1
  have fits : buffer.size < space.size := buffer.fits
  simp only [AddressSpace.clamp]
  omega

/-- A length may stand behind an empty line. -/
theorem writeLength_gap_eq (here : buffer.Left sheet.offset data) (label : String) :
    buffer.writeLength sheet.gap label = settled (.ok ((showLength label data).2.1.map UInt64.ofNat,
        sheet.write [.gap, (showLength label data).1])) ∧
      buffer.Left (sheet.write [.gap, (showLength label data).1]).offset
        (showLength label data).2.2 := by
  have below : buffer.Left sheet.gap.offset data := here
  rw [writeLength_eq below, Sheet.gap_write]
  exact ⟨rfl, here.write (covers_showLength label data).gap⟩

/-- A header block is written as it is shown. -/
theorem writeBlock_eq (table : HeaderTable) (here : buffer.Left sheet.offset data) :
    buffer.writeBlock table sheet = settled (.ok (sheet.write (showBlock table data).1)) := by
  obtain ⟨first, next⟩ := writeLength_gap_eq here "Headers length"
  unfold writeBlock showBlock
  rw [first, settled_bind]
  match shown : showLength "Headers length" data with
  | (item, none, rest) => rfl
  | (item, some length, rest) =>
    rw [shown] at next
    have word : (UInt64.ofNat length).toNat = length :=
      UInt64.toNat_ofNat_of_lt' (lt_of_showLength shown)
    simp only [Option.map_some, word]
    rw [next.stop_eq, writeHeaders_eq table _ _ _ next, Sheet.write_write]
    rfl

/-- A body is written as it is shown. -/
theorem writeBody_eq (here : buffer.Left sheet.offset data) :
    buffer.writeBody sheet = settled (.ok (sheet.write (showBody data).1)) := by
  obtain ⟨first, next⟩ := writeLength_gap_eq here "Body length"
  unfold writeBody showBody
  rw [first, settled_bind]
  match shown : showLength "Body length" data with
  | (item, none, rest) => rfl
  | (item, some length, rest) =>
    rw [shown] at next
    have narrow := lt_of_showLength shown
    have word : (UInt64.ofNat length).toNat = length := UInt64.toNat_ofNat_of_lt' narrow
    have zero : UInt64.ofNat length = 0 ↔ length = 0 := by
      rw [← UInt64.toNat_inj, word]
      rfl
    obtain ⟨reached, short⟩ := next.toWord_lt_iff narrow
    simp only [Option.map_some, word, zero]
    by_cases empty : length = 0
    · rw [if_pos empty, if_pos empty]
      rfl
    · rw [if_neg empty, if_neg empty, next.reach_eq, reached, settled_bind]
      simp only [short]
      rw [writeRow_take_eq next, Sheet.write_write]
      rfl

/-- Host and path are written as they are shown. -/
theorem writeTarget_eq (kind : MessageKind) (here : buffer.Left sheet.offset data) :
    buffer.writeTarget kind sheet = settled (.ok (sheet.write (showTarget kind data).1)) := by
  cases kind with
  | request =>
    have next := here.write (covers_showText "Host" data)
    rw [writeTarget, writeText_eq here, settled_bind]
    simp only
    rw [writeText_eq next, settled_bind, Sheet.write_write]
    rfl
  | response =>
    rw [showTarget, Sheet.write_nil]
    rfl

/-- The dump of a message has the items of the message in it. -/
theorem sheet_eq (kind : MessageKind) {first : UInt8} {tail : Bytes}
    (split : buffer.bytes = first :: tail) : buffer.sheet kind =
      settled (.ok (some (Sheet.blank.write (Dump.items kind (first :: tail))))) := by
  have start : buffer.Left Sheet.blank.offset (first :: tail) := ⟨Nat.zero_le _, split.symm⟩
  have behindFirst := start.write (covers_row [first] tail (firstMeaning kind first))
  have behindTarget := behindFirst.write (covers_showTarget kind tail)
  have behindBlock := behindTarget.write (covers_showBlock kind.headerTable _)
  have firstRow := writeRow_eq start (Nat.le_add_left 1 tail.length) (firstMeaning kind first)
  rw [List.take_succ_cons, List.take_zero] at firstRow
  unfold sheet
  rw [split, List.head?_cons]
  simp only
  rw [firstRow, settled_bind, writeTarget_eq kind behindFirst, settled_bind,
    writeBlock_eq _ behindTarget, settled_bind, writeBody_eq behindBlock, settled_bind]
  simp only [Sheet.write_write]
  rfl

/-- The dump of every byte string that is not empty can be written without a crash, and its rows
lie one behind another from the start of the bytes, each with the offset where it begins. The text
of the dump is one text for each line between a title and a summary: for a row the text begins with
that offset and shows the bytes. What the summary says has been parsed ends with the last row. Of
bytes that can be read as a message that is the message: nothing of it is left out, and nothing that
stands behind it is counted. -/
theorem dump_tiles (buffer : Buffer space) (kind : MessageKind) (nonempty : buffer.bytes ≠ []) :
    ∃ sheet texts, buffer.sheet kind = settled (.ok (some sheet)) ∧
      Dump.render kind buffer.bytes =
        "OFFSET  " ++ padded columnWidth "BYTES" ++ "DESCRIPTION\n" ++ String.join texts ++
          "\nSummary: parsed " ++ toString sheet.offset ++ " / " ++ toString buffer.size ++
          " bytes\n" ∧
      List.Forall₂ Line.Reads sheet.lines texts ∧
      sheet.Tiles buffer.bytes ∧
      ∀ message, kind.decode buffer.bytes = .ok message →
        kind.length? buffer.bytes = .ok (some sheet.offset) := by
  obtain ⟨first, tail, split⟩ := List.exists_cons_of_ne_nil nonempty
  have covers := covers_items kind first tail
  obtain ⟨front, bytes, meaning, last⟩ := exists_last_row kind first tail
  refine ⟨_, _, sheet_eq kind split, ?_, Sheet.reads_texts _, ?_, fun message read => ?_⟩
  · rw [size, split]
    exact render_eq_text kind first tail
  · rw [split, last]
    rw [last] at covers
    exact tiles_of_covers covers
  · rw [Sheet.blank_write, length?_of_decode read, split]

/-- Of fourteen bytes the dump shows the twelve of the request, and nothing else is parsed. -/
theorem dump_tiles_sample :
    -- A request with a header and a body, and two bytes behind it.
    let buffer : Buffer ⟨64, Nat.le_refl 64⟩ :=
      ⟨[0x40, 1, 104, 1, 47, 3, 0x1E, 1, 97, 2, 5, 6, 7, 8], by decide⟩
    buffer.bytes ≠ [] ∧ ∃ sheet texts, buffer.sheet .request = settled (.ok (some sheet)) ∧
      Dump.render .request buffer.bytes =
        "OFFSET  " ++ padded columnWidth "BYTES" ++ "DESCRIPTION\n" ++ String.join texts ++
          "\nSummary: parsed " ++ toString 12 ++ " / " ++ toString 14 ++ " bytes\n" ∧
      List.Forall₂ Line.Reads sheet.lines texts ∧ sheet.Tiles buffer.bytes ∧
        sheet.offset = 12 := by
  intro buffer
  have nonempty : buffer.bytes ≠ [] := List.cons_ne_nil _ _
  have read : MessageKind.request.decode buffer.bytes =
      .ok (⟨.get, "h", "/", 1, .ofList [("x-forwarded-for", "a")], [5, 6]⟩ : Request) := by
    decide +kernel
  obtain ⟨sheet, texts, written, text, printed, tiles, whole⟩ :=
    dump_tiles buffer .request nonempty
  have sized := whole _ read
  have known : MessageKind.request.length? buffer.bytes = .ok (some 12) := rfl
  have ended : sheet.offset = 12 := Option.some.inj (Except.ok.inj (sized.symm.trans known))
  refine ⟨nonempty, sheet, texts, written, ?_, printed, tiles, ended⟩
  rw [text, ended]
  rfl

end Buffer

end CompactHttp
