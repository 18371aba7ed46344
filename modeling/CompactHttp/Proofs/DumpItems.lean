import CompactHttp.Dump
import CompactHttp.Proofs.Relaying

/-! # What a dump covers

The items of a dump hold the bytes of a message from its start on, in order and without gaps,
whatever the bytes (`Dump.covers_items`). Where the bytes can be read as a message, the items end
where the message does, so no part of it is left out and nothing behind it is shown
(`Dump.length?_of_decode`).
-/

namespace CompactHttp

namespace Dump

/-- Items hold the bytes of a byte string up to the rest of it. -/
def Covers (items : List Item) (data rest : Bytes) : Prop := items.flatMap Item.bytes ++ rest = data

variable {items more : List Item} {data part behind rest : Bytes} {table : HeaderTable}

namespace Covers

/-- Items that hold one part and items that hold the next hold both. -/
theorem append (front : Covers items data behind) (back : Covers more behind rest) :
    Covers (items ++ more) data rest := by
  unfold Covers at *
  rw [List.flatMap_append, List.append_assoc, back, front]

/-- An empty line holds nothing. -/
theorem gap (covers : Covers items data rest) : Covers (.gap :: items) data rest := covers

/-- Items hold as many bytes as lie between the data and the rest. -/
theorem covered_eq (covers : Covers items data rest) :
    covered items = data.length - rest.length := by
  rw [← covers, List.length_append, Nat.add_sub_cancel, covered]

end Covers

/-! ## Any bytes -/

/-- A row holds its bytes. -/
theorem covers_row (bytes rest : Bytes) (meaning : String) :
    Covers [.row bytes meaning] (bytes ++ rest) rest :=
  congrArg (· ++ rest) (List.append_nil bytes)

/-- A row holds the bytes that are taken into it, or all that are left. -/
theorem covers_take (length : Nat) (data : Bytes) (meaning : String) :
    Covers [.row (data.take length) meaning] data (data.drop length) := by
  have row := covers_row (data.take length) (data.drop length) meaning
  rwa [List.take_append_drop] at row

/-- A length is shown with the bytes that it takes up. -/
theorem covers_showLength (label : String) (data : Bytes) :
    Covers [(showLength label data).1] data (showLength label data).2.2 := by
  unfold showLength
  split
  · next length rest read =>
    have row := covers_take (data.length - rest.length) data
      (label ++ " (varint: " ++ toString length ++ ")")
    rwa [Varint.drop_of_decode read] at row
  · next fault _ =>
    have row := covers_row data [] (label ++ ": " ++ (FormatError.ofVarint fault).message)
    rwa [List.append_nil] at row

/-- A text is shown with the bytes that it takes up. -/
theorem covers_showText (label : String) (data : Bytes) :
    Covers (showText label data).items data (showText label data).rest := by
  have first := covers_showLength (label ++ " length") data
  unfold showText
  split
  · next item rest shown =>
    rw [shown] at first
    exact first
  · next item length rest shown =>
    rw [shown] at first
    dsimp only
    split
    · exact first.append (covers_take ..)
    · exact first.append (covers_take ..)

/-- A header is shown with the bytes that it takes up. -/
theorem covers_showHeader (table : HeaderTable) (available : Nat) (id : UInt8) (data : Bytes) :
    Covers (showHeader table available id data).items (id :: data)
      (showHeader table available id data).rest := by
  have first (meaning : String) : Covers [.row [id] meaning] (id :: data) data :=
    covers_row [id] data meaning
  unfold showHeader
  split
  · have name := (first "Custom header").append (covers_showText "  Name" data)
    dsimp only
    split
    · exact name.append (covers_showText ..)
    · exact name
  · dsimp only
    split
    · split
      · exact first _
      · exact (first _).append (covers_showText ..)
    · have row := covers_row (id :: data.take (available - 1)) (data.drop (available - 1))
        ("Unknown header ID " ++ byteName id)
      rwa [List.cons_append, List.take_append_drop] at row

section Block

variable {beyond : Nat} {id : UInt8}

/-- Behind a header that is whole the next one is shown. -/
theorem showHeaders_of_whole (inside : beyond < data.length + 1)
    (whole : (showHeader table (data.length + 1 - beyond) id data).whole = true) :
    showHeaders table beyond (id :: data) =
      let shown := showHeader table (data.length + 1 - beyond) id data
      let others := showHeaders table beyond shown.rest
      (shown.items ++ others.1, others.2) := by
  rw [showHeaders, if_pos inside]
  exact if_pos whole

/-- A header that is broken is the last one to be shown. -/
theorem showHeaders_of_broken (inside : beyond < data.length + 1)
    (broken : ¬(showHeader table (data.length + 1 - beyond) id data).whole = true) :
    showHeaders table beyond (id :: data) =
      let shown := showHeader table (data.length + 1 - beyond) id data
      (shown.items, shown.rest) := by
  rw [showHeaders, if_pos inside]
  exact if_neg broken

/-- At the end of the block there are no more headers to show. -/
theorem showHeaders_of_ended (ended : ¬beyond < data.length) :
    showHeaders table beyond data = ([], data) := by
  cases data with
  | nil => rw [showHeaders]
  | cons id data =>
    rw [showHeaders]
    exact if_neg ended

end Block

/-- Headers are shown with the bytes that they take up. -/
theorem covers_showHeaders (table : HeaderTable) (beyond : Nat) (data : Bytes) :
    Covers (showHeaders table beyond data).1 data (showHeaders table beyond data).2 := by
  induction data using showHeaders.induct table beyond with
  | case1 =>
    rw [showHeaders_of_ended (Nat.not_lt_zero beyond)]
    rfl
  | case2 id data inside _ whole _ _ _ ih =>
    rw [showHeaders_of_whole inside whole]
    exact (covers_showHeader ..).append ih
  | case3 id data inside _ broken =>
    rw [showHeaders_of_broken inside broken]
    exact covers_showHeader ..
  | case4 id data ended =>
    rw [showHeaders_of_ended ended]
    rfl

theorem covers_showBlock (table : HeaderTable) (data : Bytes) :
    Covers (showBlock table data).1 data (showBlock table data).2 := by
  have first := (covers_showLength "Headers length" data).gap
  unfold showBlock
  split
  · next item rest shown =>
    rw [shown] at first
    exact first
  · next item length rest shown =>
    rw [shown] at first
    exact first.append (covers_showHeaders ..)

theorem covers_showBody (data : Bytes) : Covers (showBody data).1 data (showBody data).2 := by
  have first := (covers_showLength "Body length" data).gap
  unfold showBody
  split
  · next item rest shown =>
    rw [shown] at first
    exact first
  · next item length rest shown =>
    rw [shown] at first
    split
    · exact first
    · exact first.append (covers_take ..)

theorem covers_showTarget (kind : MessageKind) (data : Bytes) :
    Covers (showTarget kind data).1 data (showTarget kind data).2 := by
  cases kind with
  | request => exact (covers_showText "Host" data).append (covers_showText "Path" _)
  | response => rfl

/-- What is left behind the body of a message, whose first byte has been taken. -/
def leftover (kind : MessageKind) (data : Bytes) : Bytes :=
  (showBody (showBlock kind.headerTable (showTarget kind data).2).2).2

/-- The items of a dump hold the bytes of a message from its first byte on. -/
theorem covers_items (kind : MessageKind) (first : UInt8) (data : Bytes) :
    Covers (Dump.items kind (first :: data)) (first :: data) (leftover kind data) :=
  (covers_row [first] data (firstMeaning kind first)).append
    (((covers_showTarget kind data).append (covers_showBlock ..)).append (covers_showBody _))

/-! ## Messages -/

/-- A length that can be read is shown as such. -/
theorem showLength_of_decode {length : Nat} (label : String)
    (read : Varint.decode data = .ok (length, rest)) :
    (showLength label data).2 = (some length, rest) := by
  unfold showLength
  rw [read]

/-- A text that is all there is shown as one. -/
theorem showText_of_partAt (label : String) (here : PartAt data part rest) :
    (showText label data).whole = true ∧ (showText label data).rest = rest := by
  have enough : ¬((part ++ rest).take part.length).length < part.length := by
    rw [List.take_left]
    exact Nat.lt_irrefl _
  unfold showText
  rw [← Prod.mk.eta (p := showLength (label ++ " length") data), showLength_of_decode _ here]
  simp only [if_neg enough, List.drop_left, and_self]

/-- A header that can be read is shown whole. -/
theorem showHeader_of_entryAt {id : UInt8} {entry : String × String} (available : Nat)
    (here : EntryAt table (id :: data) entry rest) :
    (showHeader table available id data).whole = true ∧
      (showHeader table available id data).rest = rest := by
  unfold showHeader
  cases here with
  | full notMarker found fixed => simp only [if_neg notMarker, found, fixed, and_self]
  | named notMarker found free valueHere =>
    simp only [if_neg notMarker, found, free]
    exact showText_of_partAt "  Value" valueHere
  | custom nameHere valueHere =>
    obtain ⟨nameWhole, nameRest⟩ := showText_of_partAt "  Name" nameHere
    simp only [if_true, nameWhole, nameRest]
    exact showText_of_partAt "  Value" valueHere

end Dump

/-- Where a header stands it stands whatever comes behind it. -/
theorem EntryAt.append {entry : String × String} {data rest : Bytes} {table : HeaderTable}
    (here : EntryAt table data entry rest) (more : Bytes) :
    EntryAt table (data ++ more) entry (rest ++ more) := by
  cases here with
  | full notMarker found fixed => exact .full notMarker found fixed
  | named notMarker found free valueHere =>
    exact .named notMarker found free (valueHere.append more)
  | custom nameHere valueHere => exact .custom (nameHere.append more) (valueHere.append more)

namespace Dump

variable {part block body behind rest data : Bytes} {table : HeaderTable}

/-- Headers that fill a block are shown up to its end. -/
theorem showHeaders_of_entriesAt {entries : List (String × String)}
    (here : EntriesAt table block entries) (more : Bytes) :
    (showHeaders table more.length (block ++ more)).2 = more := by
  induction here with
  | nil => rw [List.nil_append, showHeaders_of_ended (Nat.lt_irrefl _)]
  | @cons data rest entry entries first _ ih =>
    match data with
    | [] => cases first
    | id :: data =>
      have here : EntryAt table (id :: (data ++ more)) entry (rest ++ more) := first.append more
      have inside : more.length < (data ++ more).length + 1 := by
        rw [List.length_append]
        omega
      obtain ⟨whole, left⟩ :=
        showHeader_of_entryAt ((data ++ more).length + 1 - more.length) here
      rw [List.cons_append, showHeaders_of_whole inside whole]
      simp only [left, ih]

/-- A header block that can be read is shown up to its end. -/
theorem showBlock_of_partAt {headers : Headers} (here : PartAt data block rest)
    (read : HeaderBlock.decode table block = .ok headers) : (showBlock table data).2 = rest := by
  obtain ⟨entries, listed, -⟩ := map_eq_ok_iff.mp read
  have beyond : (block ++ rest).length - block.length = rest.length := by
    rw [List.length_append, Nat.add_sub_cancel_left]
  unfold showBlock
  rw [← Prod.mk.eta (p := showLength "Headers length" data), showLength_of_decode _ here]
  simp only [beyond]
  exact showHeaders_of_entriesAt (HeaderBlock.entriesAt_of_decodeEntries listed) rest

/-- A body that is there is shown to its end. -/
theorem showBody_of_partAt (here : PartAt data body rest) : (showBody data).2 = rest := by
  unfold showBody
  rw [← Prod.mk.eta (p := showLength "Body length" data), showLength_of_decode _ here]
  by_cases empty : body.length = 0
  · obtain rfl := List.length_eq_zero_iff.mp empty
    rfl
  · simp only [if_neg empty, List.drop_left]

/-- A host and a path that are there are shown to their end. -/
theorem showTarget_of_partAt {host path : Bytes} (hostHere : PartAt data host behind)
    (pathHere : PartAt behind path rest) : (showTarget .request data).2 = rest := by
  show (showText "Path" (showText "Host" data).rest).rest = rest
  rw [(showText_of_partAt "Host" hostHere).2, (showText_of_partAt "Path" pathHere).2]

/-- Behind a header block that can be read and a body nothing is left to be shown but what stands
behind the message. -/
theorem leftover_of_content (kind : MessageKind) {headers : Headers}
    (here : PartsAt (showTarget kind data).2 [block, body] rest)
    (read : HeaderBlock.decode kind.headerTable block = .ok headers) :
    leftover kind data = rest := by
  obtain _ | ⟨blockHere, _ | ⟨bodyHere, ⟨⟩⟩⟩ := here
  unfold leftover
  rw [showBlock_of_partAt blockHere read, showBody_of_partAt bodyHere]

/-- Where a message can be read, its dump leaves over what stands behind the message. -/
theorem leftover_of_decode {kind : MessageKind} {message : kind.Message}
    (read : kind.decode data = .ok message) :
    ∃ first tail parts, data = first :: tail ∧
      MessageAt kind data first parts (leftover kind tail) := by
  cases kind with
  | request =>
    obtain ⟨first, path, block, rest, here, -, -, blockRead⟩ := Request.exists_of_decode read
    obtain @⟨_, tail, _, _, allowed, counted, partsHere⟩ := id here
    obtain _ | ⟨hostHere, others⟩ := partsHere
    obtain _ | ⟨pathHere, contentHere⟩ := others
    have target := showTarget_of_partAt hostHere pathHere
    have left := leftover_of_content .request (target ▸ contentHere) blockRead
    exact ⟨first, tail, _, rfl, left ▸ here⟩
  | response =>
    obtain ⟨first, block, rest, here, -, -, blockRead⟩ := Response.exists_parts_of_decode read
    obtain @⟨_, tail, _, _, allowed, counted, contentHere⟩ := id here
    have left := leftover_of_content .response contentHere blockRead
    exact ⟨first, tail, _, rfl, left ▸ here⟩

/-- The items of the dump of a message cover as many bytes as the message has. -/
theorem length?_of_decode {kind : MessageKind} {message : kind.Message}
    (read : kind.decode data = .ok message) :
    kind.length? data = .ok (some (covered (items kind data))) := by
  obtain ⟨first, tail, parts, rfl, here⟩ := leftover_of_decode read
  rw [(covers_items kind first tail).covered_eq]
  exact here.length?

end Dump

end CompactHttp
