import CompactHttp.Proofs.CheckedReading
import Mathlib.Algebra.BigOperators.Fin

/-! # What becomes of the reading of a number

The bytes from which a number is read are of one of three kinds (`Varint.outlook`). A number may
stand in front of them (`Varint.IsNumber`), a number may stand there that is too large
(`Varint.IsTooLarge`), or they may end before the number does (`Varint.IsBroken`). Each kind has
an outcome of its own, and so the outcome tells the kind (`Varint.decode_eq_iff`). Only the last
outcome changes with the bytes that follow (`Varint.number_outcomes`).
-/

namespace CompactHttp

namespace Varint

/-- The number that bytes make up with their seven low bits, the least significant first. -/
def groupSum (bytes : Bytes) : Nat :=
  ∑ index : Fin bytes.length, (bytes.get index).toNat % 0x80 * 0x80 ^ index.val

/-- A number, of which `position` groups have been read: groups that say that there is more,
and the last one. There are at most ten groups in all, and the tenth is a single bit. -/
structure IsNumber (position : Nat) (groups : Bytes) (last : UInt8) : Prop where
  continued : ∀ byte ∈ groups, 0x80 ≤ byte
  ends : last < 0x80
  few : position + groups.length < maxSize
  single : position + groups.length + 1 = maxSize → last ≤ 1

/-- A number that is too large, of which `position` groups have been read: the tenth group is
more than a single bit. -/
structure IsTooLarge (position : Nat) (groups : Bytes) (tenth : UInt8) : Prop where
  continued : ∀ byte ∈ groups, 0x80 ≤ byte
  ninth : position + groups.length + 1 = maxSize
  wide : 1 < tenth

/-- A number that breaks off, of which `position` groups have been read: there are fewer than
ten groups in all, and each says that there is more. -/
structure IsBroken (position : Nat) (data : Bytes) : Prop where
  continued : ∀ byte ∈ data, 0x80 ≤ byte
  few : position + data.length < maxSize

/-- What stands in front of bytes from which the rest of a number is read. -/
inductive Outlook (position : Nat) : Bytes → Prop where
  | number (groups : Bytes) (last : UInt8) (rest : Bytes)
      (shape : IsNumber position groups last) : Outlook position (groups ++ last :: rest)
  | tooLarge (groups : Bytes) (tenth : UInt8) (rest : Bytes)
      (shape : IsTooLarge position groups tenth) : Outlook position (groups ++ tenth :: rest)
  | broken {data : Bytes} (shape : IsBroken position data) : Outlook position data

variable {position value count : Nat} {data groups rest : Bytes} {byte last tenth : UInt8}

@[simp] theorem groupSum_nil : groupSum [] = 0 := rfl

/-- The first group counts once, the others 128 times. -/
theorem groupSum_cons (byte : UInt8) (rest : Bytes) :
    groupSum (byte :: rest) = byte.toNat % 0x80 + 0x80 * groupSum rest := by
  unfold groupSum
  rw [Finset.mul_sum]
  apply (Fin.sum_univ_succ _).trans
  congr 1
  · simp
  · apply Finset.sum_congr rfl
    intro index _
    simp only [List.get_eq_getElem, Fin.val_succ, List.getElem_cons_succ, Nat.pow_succ]
    ring

/-- A last byte alone makes its own number. -/
theorem groupSum_singleton (ends : last < 0x80) : groupSum [last] = last.toNat := by
  rw [groupSum_cons, groupSum_nil, Nat.mul_zero, Nat.add_zero]
  exact Nat.mod_eq_of_lt (UInt8.lt_iff_toNat_lt.mp ends)

section Step

variable (within : position < maxSize)

include within

/-- A number ends with a byte below 128, which is at most one in the last place. -/
theorem decodeFrom_last (ends : byte < 0x80) (single : position + 1 = maxSize → byte ≤ 1)
    (rest : Bytes) : decodeFrom position (byte :: rest) = .ok (byte.toNat, rest) := by
  have narrow : ¬(position + 1 = maxSize ∧ 1 < byte) :=
    fun ⟨tenth, wide⟩ => UInt8.not_lt.mpr (single tenth) wide
  rw [decodeFrom, if_neg (Nat.not_le_of_lt within), if_pos ends, if_neg narrow]

/-- A byte from 128 on has more of the number behind it. -/
theorem decodeFrom_more (more : 0x80 ≤ byte) (rest : Bytes) :
    decodeFrom position (byte :: rest) = (decodeFrom (position + 1) rest).map fun higher =>
      (byte.toNat % 0x80 + 0x80 * higher.1, higher.2) := by
  rw [decodeFrom, if_neg (Nat.not_le_of_lt within), if_neg (UInt8.not_lt.mpr more)]
  cases decodeFrom (position + 1) rest <;> rfl

end Step

/-- A tenth group that is more than a single bit is refused, whether it is the last or not. -/
theorem decodeFrom_tenth (ninth : position + 1 = maxSize) (wide : 1 < tenth) (rest : Bytes) :
    decodeFrom position (tenth :: rest) = .error .overflow := by
  have within : position < maxSize := by omega
  by_cases ends : tenth < 0x80
  · rw [decodeFrom, if_neg (Nat.not_le_of_lt within), if_pos ends, if_pos ⟨ninth, wide⟩]
  · rw [decodeFrom_more within (UInt8.not_lt.mp ends), ninth]
    cases rest <;> rfl

/-- A group that says that there is more stands in front of what is read behind it. -/
theorem IsNumber.decodeFrom (number : IsNumber position groups last) (rest : Bytes) :
    Varint.decodeFrom position (groups ++ last :: rest) =
      .ok (groupSum (groups ++ [last]), rest) := by
  induction groups generalizing position with
  | nil =>
    have few : position < maxSize := number.few
    rw [List.nil_append, decodeFrom_last few number.ends number.single, List.nil_append,
      groupSum_singleton number.ends]
  | cons byte later ih =>
    obtain ⟨more, continued⟩ := List.forall_mem_cons.mp number.continued
    have few := number.few
    have single := number.single
    rw [List.length_cons] at few single
    have behind : IsNumber (position + 1) later last :=
      ⟨continued, number.ends, by omega, fun tenth => single (by omega)⟩
    rw [List.cons_append, decodeFrom_more (by omega) more, ih behind, List.cons_append,
      groupSum_cons]
    rfl

/-- A number that is too large overflows, whatever is behind it. -/
theorem IsTooLarge.decodeFrom (large : IsTooLarge position groups tenth) (rest : Bytes) :
    Varint.decodeFrom position (groups ++ tenth :: rest) = .error .overflow := by
  induction groups generalizing position with
  | nil => exact decodeFrom_tenth large.ninth large.wide rest
  | cons byte later ih =>
    obtain ⟨more, continued⟩ := List.forall_mem_cons.mp large.continued
    have ninth := large.ninth
    rw [List.length_cons] at ninth
    have behind : IsTooLarge (position + 1) later tenth :=
      ⟨continued, by omega, large.wide⟩
    rw [List.cons_append, decodeFrom_more (by omega) more, ih behind]
    rfl

/-- A number that breaks off is incomplete. -/
theorem IsBroken.decodeFrom (broken : IsBroken position data) :
    Varint.decodeFrom position data = .error .incomplete := by
  induction data generalizing position with
  | nil =>
    have few : position < maxSize := broken.few
    rw [Varint.decodeFrom, if_pos few]
  | cons byte later ih =>
    obtain ⟨more, continued⟩ := List.forall_mem_cons.mp broken.continued
    have few := broken.few
    rw [List.length_cons] at few
    have behind : IsBroken (position + 1) later := ⟨continued, by omega⟩
    rw [decodeFrom_more (by omega) more, ih behind]
    rfl

/-- One more group in front, which says that there is more, leaves the kind of the bytes. -/
theorem Outlook.cons (more : 0x80 ≤ byte) (behind : Outlook (position + 1) rest) :
    Outlook position (byte :: rest) := by
  cases behind with
  | number groups last rest shape =>
    refine .number (byte :: groups) last rest ⟨?_, shape.ends, ?_, fun tenth => ?_⟩
    · exact List.forall_mem_cons.mpr ⟨more, shape.continued⟩
    · have few := shape.few
      rw [List.length_cons]
      omega
    · rw [List.length_cons] at tenth
      exact shape.single (by omega)
  | tooLarge groups tenth rest shape =>
    refine .tooLarge (byte :: groups) tenth rest ⟨?_, ?_, shape.wide⟩
    · exact List.forall_mem_cons.mpr ⟨more, shape.continued⟩
    · have ninth := shape.ninth
      rw [List.length_cons]
      omega
  | broken shape =>
    refine .broken ⟨List.forall_mem_cons.mpr ⟨more, shape.continued⟩, ?_⟩
    have few := shape.few
    rw [List.length_cons]
    omega

/-- Bytes from which the rest of a number is read are of one of the three kinds. -/
theorem outlook (within : position < maxSize) (data : Bytes) : Outlook position data := by
  induction data generalizing position with
  | nil => exact .broken ⟨List.forall_mem_nil _, within⟩
  | cons byte rest ih =>
    -- Of the tenth group all bits count, of the groups before it the highest alone.
    by_cases tenth : position + 1 = maxSize
    · by_cases wide : 1 < byte
      · exact .tooLarge [] byte rest ⟨List.forall_mem_nil _, tenth, wide⟩
      · have narrow := UInt8.not_lt.mp wide
        have ends : byte < 0x80 := UInt8.lt_of_le_of_lt narrow (by decide)
        exact .number [] byte rest ⟨List.forall_mem_nil _, ends, within, fun _ => narrow⟩
    · by_cases ends : byte < 0x80
      · exact .number [] byte rest
          ⟨List.forall_mem_nil _, ends, within, fun ninth => absurd ninth tenth⟩
      · exact .cons (UInt8.not_lt.mp ends) (ih (by omega))

/-- What the outcome of a reading tells of the bytes. -/
def Tells (data : Bytes) : Except Fault (Nat × Bytes) → Prop
  | .ok (value, rest) => ∃ groups last, data = groups ++ last :: rest ∧
      IsNumber 0 groups last ∧ value = groupSum (groups ++ [last])
  | .error .overflow => ∃ groups tenth rest, data = groups ++ tenth :: rest ∧
      IsTooLarge 0 groups tenth
  | .error .incomplete => IsBroken 0 data

/-- Decoding tells of every byte string what it begins with. -/
theorem tells_decode (data : Bytes) : Tells data (decode data) := by
  have within : 0 < maxSize := by decide
  unfold decode
  cases outlook within data with
  | number groups last rest shape =>
    rw [shape.decodeFrom]
    exact ⟨groups, last, rfl, shape, rfl⟩
  | tooLarge groups tenth rest shape =>
    rw [shape.decodeFrom]
    exact ⟨groups, tenth, rest, rfl, shape⟩
  | broken shape =>
    rw [shape.decodeFrom]
    exact shape

/-- A reading has an outcome exactly if the bytes are as that outcome tells. -/
theorem decode_eq_iff {outcome : Except Fault (Nat × Bytes)} :
    decode data = outcome ↔ Tells data outcome := by
  constructor
  · rintro rfl
    exact tells_decode data
  · match outcome with
    | .ok (_, rest) =>
      rintro ⟨groups, last, rfl, number, rfl⟩
      exact number.decodeFrom rest
    | .error .overflow =>
      rintro ⟨groups, tenth, rest, rfl, large⟩
      exact large.decodeFrom rest
    | .error .incomplete => exact IsBroken.decodeFrom

variable {buffer : Bytes} {offset : Nat}

/-- A number is read at an offset if its groups stand there. -/
theorem decodeAt_eq_ok_iff : decodeAt buffer offset = .ok (value, count) ↔
    ∃ groups last rest, buffer.drop offset = groups ++ last :: rest ∧
      IsNumber 0 groups last ∧ count = groups.length + 1 ∧
        value = groupSum (groups ++ [last]) := by
  have size (groups : Bytes) (last : UInt8) (rest : Bytes) :
      (groups ++ last :: rest).length - rest.length = groups.length + 1 := by
    rw [List.length_append, List.length_cons]
    omega
  rw [decodeAt_eq_map, map_eq_ok_iff]
  constructor
  · rintro ⟨⟨number, rest⟩, read, same⟩
    cases same
    obtain ⟨groups, last, split, shape, rfl⟩ := decode_eq_iff.mp read
    rw [split]
    exact ⟨groups, last, rest, rfl, shape, size groups last rest, rfl⟩
  · rintro ⟨groups, last, rest, split, shape, rfl, rfl⟩
    refine ⟨(groupSum (groups ++ [last]), rest),
      decode_eq_iff.mpr ⟨groups, last, split, shape, rfl⟩, ?_⟩
    rw [split, size]

/-- A reading at an offset fails as that of the bytes from there on. -/
theorem decodeAt_eq_error_iff {fault : Fault} : decodeAt buffer offset = .error fault ↔
    decode (buffer.drop offset) = .error fault :=
  map_eq_error_iff

/-- What has been settled at an offset stays so when bytes follow. -/
theorem decodeAt_append (settled : decodeAt buffer offset ≠ .error .incomplete) (more : Bytes) :
    decodeAt (buffer ++ more) offset = decodeAt buffer offset := by
  have final : decode (buffer.drop offset) ≠ .error .incomplete :=
    mt decodeAt_eq_error_iff.mpr settled
  have inside : offset ≤ buffer.length := by
    by_contra past
    exact final (by rw [List.drop_eq_nil_of_le (Nat.le_of_not_le past)]; rfl)
  rw [decodeAt_eq_map, decodeAt_eq_map, List.drop_append_of_le_length inside]
  match read : decode (buffer.drop offset) with
  | .ok (value, rest) =>
    rw [decode_append read]
    simp only [Except.map, List.length_append, Nat.add_sub_add_right]
  | .error .overflow =>
    rw [decode_overflow_append read]
    rfl
  | .error .incomplete => exact absurd read final

/-- A number that breaks off at an offset is completed there by one more group. -/
theorem decodeAt_completable (broken : decodeAt buffer offset = .error .incomplete)
    (inside : offset ≤ buffer.length) : ∃ value,
      decodeAt (buffer ++ [0]) offset = .ok (value, (buffer.drop offset).length + 1) := by
  obtain ⟨value, completed⟩ := decode_completable (decodeAt_eq_error_iff.mp broken)
  refine ⟨value, ?_⟩
  rw [decodeAt_eq_map, List.drop_append_of_le_length inside, completed]
  simp only [Except.map, List.length_append, List.length_singleton, List.length_nil,
    Nat.sub_zero]

/-- A number is read at an offset exactly if one stands there, and is then the sum of its
groups. It is too large, or it breaks off, exactly if the bytes say so. Bytes behind change
nothing but the last of these, which one more group turns into a number. A reading that puts
the number together in a word loses no bit of it and comes to the same outcome. -/
theorem number_outcomes (buffer : Bytes) (offset : Nat) :
    (∀ value count, decodeAt buffer offset = .ok (value, count) ↔
      ∃ groups last rest, buffer.drop offset = groups ++ last :: rest ∧
        IsNumber 0 groups last ∧ count = groups.length + 1 ∧
          value = groupSum (groups ++ [last])) ∧
      (∀ value count, decodeAt buffer offset = .ok (value, count) → value < 2 ^ 64) ∧
      (decodeAt buffer offset = .error .overflow ↔
        ∃ groups tenth rest, buffer.drop offset = groups ++ tenth :: rest ∧
          IsTooLarge 0 groups tenth) ∧
      (decodeAt buffer offset = .error .incomplete ↔ IsBroken 0 (buffer.drop offset)) ∧
      (decodeAt buffer offset ≠ .error .incomplete →
        ∀ more, decodeAt (buffer ++ more) offset = decodeAt buffer offset) ∧
      (decodeAt buffer offset = .error .incomplete → offset ≤ buffer.length → ∃ value,
        decodeAt (buffer ++ [0]) offset = .ok (value, (buffer.drop offset).length + 1)) ∧
      ∀ (space : AddressSpace) (held : Buffer space), held.bytes = buffer →
        held.number offset = .settled (((decodeAt buffer offset).mapError .ofVarint).map
          fun read => (.ofNat read.1, read.2)) := by
  refine ⟨fun value count => decodeAt_eq_ok_iff, ?bounded, ?tooLarge, ?broken, decodeAt_append,
    decodeAt_completable, ?word⟩
  case bounded =>
    intro value count read
    obtain ⟨⟨number, rest⟩, found, same⟩ := map_eq_ok_iff.mp read
    cases same
    exact lt_of_decode found
  case tooLarge => exact decodeAt_eq_error_iff.trans decode_eq_iff
  case broken => exact decodeAt_eq_error_iff.trans decode_eq_iff
  case word =>
    rintro space held rfl
    exact held.number_eq offset

/-- A number of two groups behind another byte, ten groups that are too many, and one group
that lacks a second. -/
theorem number_outcomes_sample :
    decodeAt ([0x61, 0xAC, 0x02] ++ [0x7F]) 1 = .ok (300, 2) ∧ 300 < 2 ^ 64 ∧
      (⟨[0x61, 0xAC, 0x02], by decide⟩ : Buffer ⟨64, Nat.le_refl 64⟩).number 1 =
        .settled (.ok (300, 2)) ∧
      decodeAt (List.replicate 10 0xFF ++ [0]) 0 = .error .overflow ∧
      ∃ value, decodeAt ([0x61, 0x80] ++ [0]) 1 = .ok (value, 2) := by
  have read : decodeAt [0x61, 0xAC, 0x02] 1 = .ok (300, 2) := rfl
  have large : decodeAt (List.replicate 10 0xFF) 0 = .error .overflow := rfl
  have broken : decodeAt [0x61, 0x80] 1 = .error .incomplete := rfl
  obtain ⟨-, bounded, -, -, kept, -, word⟩ := number_outcomes [0x61, 0xAC, 0x02] 1
  obtain ⟨-, -, -, -, keptLarge, -⟩ := number_outcomes (List.replicate 10 0xFF) 0
  obtain ⟨-, -, -, -, -, completed, -⟩ := number_outcomes [0x61, 0x80] 1
  refine ⟨(kept (by rw [read]; exact nofun) _).trans read, bounded 300 2 read, ?_,
    (keptLarge (by rw [large]; exact nofun) _).trans large, completed broken (by decide)⟩
  exact word ⟨64, Nat.le_refl 64⟩ ⟨_, by decide⟩ rfl

end Varint

end CompactHttp
