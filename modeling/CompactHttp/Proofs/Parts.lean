import CompactHttp.Framing
import CompactHttp.Proofs.Outcome
import CompactHttp.Proofs.Varint

/-! # Length-prefixed parts

Messages and header blocks are read by several functions that each look for a part behind
its length: `takePart`, `takeText`, `HeaderBlock.decodeText` and `Framing.skipPart`. They
find a part in the same place (`PartAt`) and differ only in what they say when there is
none. A part stays where it is when bytes are appended, and does not depend on what stands
behind it; a part that is not all there can always be completed. The same holds of several
parts in a row (`PartsAt`).
-/

namespace CompactHttp

/-- A byte string short enough for its length to be written. Every byte string that a
machine with 64-bit addresses can hold is. -/
def Addressable (data : Bytes) : Prop := data.length < 2 ^ 64

namespace Addressable

variable {byte : UInt8} {front back : Bytes}

theorem of_cons (all : Addressable (byte :: back)) : Addressable back := by
  unfold Addressable at *
  rw [List.length_cons] at all
  omega

theorem left (all : Addressable (front ++ back)) : Addressable front := by
  unfold Addressable at *
  rw [List.length_append] at all
  omega

theorem right (all : Addressable (front ++ back)) : Addressable back := by
  unfold Addressable at *
  rw [List.length_append] at all
  omega

/-- A part can be addressed if it can with its length in front. -/
theorem of_lengthPrefixed (all : Addressable (lengthPrefixed back)) : Addressable back := all.right

/-- Each of several parts can be addressed if all of them can together. -/
theorem of_mem {part : Bytes} {parts : List Bytes} (member : part ∈ parts)
    (all : Addressable (parts.flatMap lengthPrefixed)) : Addressable part := by
  obtain ⟨before, after, rfl⟩ := List.append_of_mem member
  rw [List.flatMap_append, List.flatMap_cons] at all
  exact all.right.left.of_lengthPrefixed

end Addressable

/-- A part stands behind its length at the front of a byte string, and `rest` behind it. -/
def PartAt (data part rest : Bytes) : Prop :=
  Varint.decode data = .ok (part.length, part ++ rest)

variable {data part rest : Bytes}

/-- A part that is written stands where it has been written. -/
theorem partAt_lengthPrefixed (addressable : Addressable part) (rest : Bytes) :
    PartAt (lengthPrefixed part ++ rest) part rest := by
  unfold PartAt lengthPrefixed
  rw [List.append_assoc]
  exact Varint.decode_encode_append addressable _

/-- Whatever the size of a part, no other part is found where it was written. -/
theorem PartAt.of_lengthPrefixed {other left : Bytes}
    (here : PartAt (lengthPrefixed part ++ rest) other left) : other = part ∧ left = rest := by
  unfold PartAt lengthPrefixed at here
  rw [List.append_assoc] at here
  obtain ⟨sized, joined⟩ := Varint.decodeFrom_encode_append_eq_ok here
  exact List.append_inj joined sized

/-- A part stands behind its length if there are enough bytes. -/
theorem partAt_take {length : Nat} {behind : Bytes}
    (read : Varint.decode data = .ok (length, behind)) (enough : length ≤ behind.length) :
    PartAt data (behind.take length) (behind.drop length) := by
  unfold PartAt
  rw [List.take_append_drop, List.length_take, Nat.min_eq_left enough]
  exact read

/-- What can stand at the front of a byte string: a length that is too large, a length that
breaks off, a length that reaches beyond the end, or a part. -/
theorem part_cases (data : Bytes) :
    Varint.decode data = .error .overflow ∨ Varint.decode data = .error .incomplete ∨
      (∃ length behind, Varint.decode data = .ok (length, behind) ∧ behind.length < length) ∨
        ∃ part rest, PartAt data part rest := by
  match read : Varint.decode data with
  | .error .overflow => exact .inl rfl
  | .error .incomplete => exact .inr (.inl rfl)
  | .ok (length, behind) =>
    by_cases short : behind.length < length
    · exact .inr (.inr (.inl ⟨length, behind, rfl, short⟩))
    · exact .inr (.inr (.inr ⟨_, _, partAt_take read (Nat.le_of_not_lt short)⟩))

namespace PartAt

variable (here : PartAt data part rest)

include here

/-- Where a part stands it stands whatever comes behind it. -/
theorem append (more : Bytes) : PartAt (data ++ more) part (rest ++ more) := by
  unfold PartAt
  rw [← List.append_assoc]
  exact Varint.decode_append here more

/-- The bytes of a part with its length hold that part whatever stands behind them. -/
theorem front : ∃ front, data = front ++ rest ∧ ∀ more, PartAt (front ++ more) part more := by
  obtain ⟨prefixed, split, again⟩ := Varint.decode_front here
  refine ⟨prefixed ++ part, by rw [split, List.append_assoc], fun more => ?_⟩
  unfold PartAt
  rw [List.append_assoc]
  exact again (part ++ more)

/-- A part that stands there is taken. -/
theorem takePart (name : MessagePart) : takePart name data = .ok (part, rest) := by
  have enough : ¬(part ++ rest).length < part.length := by
    rw [List.length_append]
    omega
  unfold CompactHttp.takePart
  rw [here]
  simp only [enough, ↓reduceIte, List.take_left, List.drop_left]

/-- A text is taken from the part that stands there, if it is one. -/
theorem takeText (name : MessagePart) : takeText name data = match Utf8.decode part with
    | some text => .ok (text, rest)
    | none => .error (.notText name) := by
  unfold CompactHttp.takeText
  rw [here.takePart name]
  simp only [bind, Except.bind]
  cases Utf8.decode part <;> rfl

/-- A part that stands there is skipped. -/
theorem skipPart : Framing.skipPart data = .ok (some rest) := by
  have enough : ¬(part ++ rest).length < part.length := by
    rw [List.length_append]
    omega
  unfold Framing.skipPart
  rw [here]
  simp only [enough, ↓reduceIte, List.drop_left]

end PartAt

/-- Only a part that stands there is taken. -/
theorem takePart_eq_ok_iff (name : MessagePart) :
    takePart name data = .ok (part, rest) ↔ PartAt data part rest := by
  refine ⟨fun taken => ?_, fun here => here.takePart name⟩
  unfold takePart at taken
  rcases part_cases data with large | broken | ⟨length, behind, read, short⟩ | ⟨_, _, here⟩
  · simp only [large, reduceCtorEq] at taken
  · simp only [broken, reduceCtorEq] at taken
  · simp only [read, short, ↓reduceIte, reduceCtorEq] at taken
  · have both := here.takePart name
    unfold takePart at both
    rw [both] at taken
    cases taken
    exact here

/-- Taking a part runs out of bytes only inside its length. -/
theorem decode_of_takePart_incomplete {name : MessagePart}
    (broken : takePart name data = .error .incomplete) :
    Varint.decode data = .error .incomplete := by
  unfold takePart at broken
  rcases part_cases data with large | incomplete | ⟨length, behind, read, short⟩ | ⟨_, _, here⟩
  · simp only [large, FormatError.ofVarint, Except.error.injEq, reduceCtorEq] at broken
  · exact incomplete
  · simp only [read, short, ↓reduceIte, Except.error.injEq, reduceCtorEq] at broken
  · have taken := here.takePart name
    unfold takePart at taken
    rw [taken] at broken
    cases broken

/-- A text is read where its bytes are a part. -/
theorem takeText_eq_ok_iff {name : MessagePart} {text : String} :
    takeText name data = .ok (text, rest) ↔ PartAt data (Utf8.encode text) rest := by
  constructor
  · intro taken
    unfold takeText at taken
    obtain ⟨⟨bytes, left⟩, found, taken⟩ := bind_eq_ok_iff.mp taken
    have here := (takePart_eq_ok_iff name).mp found
    match decoded : Utf8.decode bytes with
    | none =>
      simp only [decoded] at taken
      cases taken
    | some read =>
      simp only [decoded] at taken
      cases taken
      rwa [Utf8.encode_of_decode decoded]
  · intro here
    rw [here.takeText name, Utf8.decode_encode]

/-- A text is incomplete only if its length is. -/
theorem decode_of_takeText_incomplete {name : MessagePart}
    (broken : takeText name data = .error .incomplete) :
    Varint.decode data = .error .incomplete := by
  unfold takeText at broken
  rcases bind_eq_error_iff.mp broken with stopped | ⟨⟨bytes, left⟩, -, failed⟩
  · exact decode_of_takePart_incomplete stopped
  · match decoded : Utf8.decode bytes with
    | none =>
      simp only [decoded] at failed
      cases failed
    | some _ =>
      simp only [decoded] at failed
      cases failed

namespace Framing

variable {count : Nat} {fault : FormatError}

/-- Only a part that stands there is skipped. -/
theorem skipPart_eq_some_iff :
    skipPart data = .ok (some rest) ↔ ∃ part, PartAt data part rest := by
  refine ⟨fun skipped => ?_, fun ⟨part, here⟩ => here.skipPart⟩
  rcases part_cases data with large | broken | ⟨length, behind, read, short⟩ | ⟨part, left, here⟩
  · simp only [skipPart, large, reduceCtorEq] at skipped
  · simp only [skipPart, broken, Except.ok.injEq, reduceCtorEq] at skipped
  · simp only [skipPart, read, short, ↓reduceIte, Except.ok.injEq, reduceCtorEq] at skipped
  · rw [here.skipPart] at skipped
    cases skipped
    exact ⟨part, here⟩

/-- A part is never there only when its length is too large. -/
theorem skipPart_eq_error_iff : skipPart data = .error fault ↔
    Varint.decode data = .error .overflow ∧ fault = .lengthOverflow := by
  constructor
  · intro failed
    rcases part_cases data with large | broken | ⟨length, behind, read, short⟩ | ⟨part, left, here⟩
    · simp only [skipPart, large, Except.error.injEq] at failed
      exact ⟨large, failed.symm⟩
    · simp only [skipPart, broken, reduceCtorEq] at failed
    · simp only [skipPart, read, reduceCtorEq] at failed
    · rw [here.skipPart] at failed
      cases failed
  · rintro ⟨large, rfl⟩
    simp only [skipPart, large]

/-- A part that is not all there is there once enough zero bytes follow. -/
theorem skipPart_completable (missing : skipPart data = .ok none) :
    ∃ more part, PartAt (data ++ more) part [] := by
  rcases part_cases data with large | broken | ⟨length, behind, read, short⟩ | ⟨part, left, here⟩
  · simp only [skipPart, large, reduceCtorEq] at missing
  · obtain ⟨length, completed⟩ := Varint.decode_completable broken
    refine ⟨0 :: List.replicate length 0, List.replicate length 0, ?_⟩
    have read := Varint.decode_append completed (List.replicate length 0)
    unfold PartAt
    rw [List.length_replicate, List.append_nil]
    rwa [List.append_assoc] at read
  · refine ⟨List.replicate (length - behind.length) 0,
      behind ++ List.replicate (length - behind.length) 0, ?_⟩
    have enough : (behind ++ List.replicate (length - behind.length) 0).length = length := by
      rw [List.length_append, List.length_replicate]
      omega
    unfold PartAt
    rw [enough, List.append_nil]
    exact Varint.decode_append read _
  · rw [here.skipPart] at missing
    cases missing

end Framing

/-- Parts stand one after the other at the front of a byte string, each behind its length,
and `rest` behind them. -/
inductive PartsAt : (data : Bytes) → (parts : List Bytes) → (rest : Bytes) → Prop where
  | nil (rest : Bytes) : PartsAt rest [] rest
  | cons {data part behind : Bytes} {parts : List Bytes} {rest : Bytes} :
      PartAt data part behind → PartsAt behind parts rest → PartsAt data (part :: parts) rest

/-- Parts that are written one after the other stand there. -/
theorem partsAt_flatMap (parts : List Bytes)
    (addressable : Addressable (parts.flatMap lengthPrefixed)) (rest : Bytes) :
    PartsAt (parts.flatMap lengthPrefixed ++ rest) parts rest := by
  induction parts with
  | nil => exact .nil rest
  | cons part parts ih =>
    rw [List.flatMap_cons] at addressable
    rw [List.flatMap_cons, List.append_assoc]
    exact .cons (partAt_lengthPrefixed addressable.left.of_lengthPrefixed _)
      (ih addressable.right)

namespace PartsAt

variable {parts : List Bytes} (here : PartsAt data parts rest)

include here

/-- Where parts stand they stand whatever comes behind them. -/
theorem append (more : Bytes) : PartsAt (data ++ more) parts (rest ++ more) := by
  induction here with
  | nil rest => exact .nil _
  | cons first _ ih => exact .cons (first.append more) ih

/-- Where parts were written, as many parts that are found are these. -/
theorem of_flatMap {written : List Bytes} {more : Bytes}
    (behind : data = written.flatMap lengthPrefixed ++ more)
    (counted : parts.length = written.length) : parts = written ∧ rest = more := by
  induction here generalizing written with
  | nil rest =>
    obtain rfl := List.length_eq_zero_iff.mp counted.symm
    exact ⟨rfl, behind⟩
  | cons first _ ih =>
    obtain ⟨part, others, rfl⟩ := List.exists_cons_of_length_eq_add_one counted.symm
    subst behind
    rw [List.flatMap_cons, List.append_assoc] at first
    obtain ⟨rfl, rfl⟩ := first.of_lengthPrefixed
    obtain ⟨rfl, rfl⟩ := ih rfl (Nat.succ_inj.mp counted)
    exact ⟨rfl, rfl⟩

/-- The bytes of parts hold those parts whatever stands behind them. -/
theorem front : ∃ front, data = front ++ rest ∧ ∀ more, PartsAt (front ++ more) parts more := by
  induction here with
  | nil rest => exact ⟨[], rfl, .nil⟩
  | cons first _ ih =>
    obtain ⟨head, rfl, firstAgain⟩ := first.front
    obtain ⟨tail, rfl, again⟩ := ih
    refine ⟨head ++ tail, (List.append_assoc ..).symm, fun more => ?_⟩
    rw [List.append_assoc]
    exact .cons (firstAgain _) (again more)

/-- Skipping as many parts as are there, and more, skips these first. -/
theorem skipParts (count : Nat) :
    Framing.skipParts (parts.length + count) data = Framing.skipParts count rest := by
  induction here with
  | nil rest => rw [List.length_nil, Nat.zero_add]
  | cons first _ ih =>
    rw [List.length_cons, Nat.add_right_comm, Framing.skipParts, first.skipPart]
    exact ih

end PartsAt

namespace Framing

variable {count : Nat} {fault : FormatError}

/-- Only parts that stand there are skipped. -/
theorem skipParts_eq_some_iff : skipParts count data = .ok (some rest) ↔
    ∃ parts, parts.length = count ∧ PartsAt data parts rest := by
  constructor
  · intro skipped
    induction count generalizing data with
    | zero =>
      cases skipped
      exact ⟨[], rfl, .nil rest⟩
    | succ count ih =>
      match first : skipPart data with
      | .error _ =>
        simp only [skipParts, first, reduceCtorEq] at skipped
      | .ok none =>
        simp only [skipParts, first, Except.ok.injEq, reduceCtorEq] at skipped
      | .ok (some behind) =>
        simp only [skipParts, first] at skipped
        obtain ⟨part, here⟩ := skipPart_eq_some_iff.mp first
        obtain ⟨parts, rfl, others⟩ := ih skipped
        exact ⟨part :: parts, rfl, .cons here others⟩
  · rintro ⟨parts, rfl, here⟩
    exact here.skipParts 0

/-- Parts that can never be there stay so when bytes are appended. -/
theorem skipParts_error_append (failed : skipParts count data = .error fault) (more : Bytes) :
    skipParts count (data ++ more) = .error fault := by
  induction count generalizing data with
  | zero => cases failed
  | succ count ih =>
    match first : skipPart data with
    | .error cause =>
      simp only [skipParts, first] at failed
      obtain ⟨large, rfl⟩ := skipPart_eq_error_iff.mp first
      have still := skipPart_eq_error_iff.mpr ⟨Varint.decode_overflow_append large more, rfl⟩
      rw [skipParts, still, ← failed]
    | .ok none =>
      simp only [skipParts, first, reduceCtorEq] at failed
    | .ok (some behind) =>
      simp only [skipParts, first] at failed
      obtain ⟨part, here⟩ := skipPart_eq_some_iff.mp first
      rw [skipParts, (here.append more).skipPart]
      exact ih failed

/-- Parts cannot be skipped for a length that is too large, and for nothing else. -/
theorem fault_of_skipParts (failed : skipParts count data = .error fault) :
    fault = .lengthOverflow := by
  induction count generalizing data with
  | zero => cases failed
  | succ count ih =>
    match first : skipPart data with
    | .error cause =>
      simp only [skipParts, first] at failed
      cases failed
      exact (skipPart_eq_error_iff.mp first).2
    | .ok none =>
      simp only [skipParts, first, reduceCtorEq] at failed
    | .ok (some behind) =>
      simp only [skipParts, first] at failed
      exact ih failed

/-- Zeros are empty parts. -/
theorem partsAt_replicate (count : Nat) :
    PartsAt (List.replicate count 0) (List.replicate count []) [] := by
  induction count with
  | zero => exact .nil []
  | succ count ih => exact .cons rfl ih

/-- Parts that are not all there can be completed. -/
theorem skipParts_completable (missing : skipParts count data = .ok none) :
    ∃ more parts, parts.length = count ∧ PartsAt (data ++ more) parts [] := by
  induction count generalizing data with
  | zero => cases missing
  | succ count ih =>
    match first : skipPart data with
    | .error _ =>
      simp only [skipParts, first, reduceCtorEq] at missing
    | .ok none =>
      obtain ⟨more, part, here⟩ := skipPart_completable first
      refine ⟨more ++ List.replicate count 0, part :: List.replicate count [], ?_, ?_⟩
      · rw [List.length_cons, List.length_replicate]
      · rw [← List.append_assoc]
        exact .cons (here.append _) (partsAt_replicate count)
    | .ok (some behind) =>
      simp only [skipParts, first] at missing
      obtain ⟨part, here⟩ := skipPart_eq_some_iff.mp first
      obtain ⟨more, parts, rfl, others⟩ := ih missing
      exact ⟨more, part :: parts, rfl, .cons (here.append more) others⟩

end Framing

end CompactHttp
