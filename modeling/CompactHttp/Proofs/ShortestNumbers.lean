import CompactHttp.Proofs.CheckedReading
import CompactHttp.Proofs.EncodedSize
import CompactHttp.Varint.Word

/-! # Numbers take as few bytes as they can

The written form of a number has as many bytes as its binary digits need in groups of seven
(`Varint.length_encode`). A number that is held in a word is written in this form
(`Varint.writeWord_eq`), and its size is told by the zeros in front of the word
(`Varint.wordSize_eq`). Other bytes that give the same number are padded and therefore more
(`Varint.eq_encode_of_length`).
-/

namespace CompactHttp

namespace Varint

variable {position value count bits : Nat} {data rest : Bytes}

/-- The digits of a number are counted by the power of two it stays below. -/
theorem bitLength_le_iff : bitLength value ≤ bits ↔ value < 2 ^ bits := by
  by_cases zero : value = 0
  · subst zero
    exact ⟨fun _ => Nat.two_pow_pos bits, fun _ => Nat.zero_le bits⟩
  · rw [bitLength, if_neg zero, Nat.add_one_le_iff, Nat.log2_lt zero]

/-- A number is longer than so many bits if it is not below their power of two. -/
theorem lt_bitLength_iff : bits < bitLength value ↔ 2 ^ bits ≤ value := by
  rw [← Nat.not_le, bitLength_le_iff, Nat.not_lt]

/-- A group holds seven digits. -/
theorem bitLength_of_large (large : 0x80 ≤ value) :
    bitLength value = bitLength (value / 0x80) + 7 := by
  have above : 7 < bitLength value := lt_bitLength_iff.mpr large
  -- The two lengths have the same upper bounds, apart from seven.
  have shifted (bits : Nat) : bitLength value ≤ bits + 7 ↔ bitLength (value / 0x80) ≤ bits := by
    rw [bitLength_le_iff, bitLength_le_iff, Nat.div_lt_iff_lt_mul (by decide), Nat.pow_add]
  have upper := (shifted _).mpr (Nat.le_refl (bitLength (value / 0x80)))
  have lower := (shifted (bitLength value - 7)).mp (by omega)
  omega

/-- The written form has the size that the digits of the number tell. -/
theorem length_encode (value : Nat) : (encode value).length = size value := by
  induction value using encode.induct with
  | case1 value small =>
    have few : bitLength value ≤ 7 := bitLength_le_iff.mpr small
    rw [encode, if_pos small, List.length_singleton, size]
    omega
  | case2 value large ih =>
    have enough := Nat.le_of_not_lt large
    have above : 7 < bitLength value := lt_bitLength_iff.mpr enough
    have digits := bitLength_of_large enough
    rw [encode, if_neg large, List.length_cons, ih, size, size]
    omega

/-- A number takes at least one byte. -/
theorem size_pos (value : Nat) : 0 < size value := by
  unfold size
  omega

/-- A word takes at most ten bytes. -/
theorem size_le_maxSize (bounded : value < 2 ^ 64) : size value ≤ maxSize := by
  have digits : bitLength value ≤ 64 := bitLength_le_iff.mpr bounded
  unfold size maxSize
  omega

/-- What is read from as many bytes as it is written with is read from its written form. -/
theorem eq_encode_of_length (read : decodeFrom position data = .ok (value, rest))
    (shortest : data.length = (encode value).length + rest.length) :
    data = encode value ++ rest := by
  induction data generalizing position value with
  | nil => cases read
  | cons byte tail ih =>
    simp only [decodeFrom] at read
    split at read
    · cases read
    · split at read
      · next ends =>
        split at read
        · cases read
        · cases read
          have small : byte.toNat < 0x80 := UInt8.lt_iff_toNat_lt.mp ends
          rw [encode, if_pos small, Bytes.byte, UInt8.ofNat_toNat]
          rfl
      · next more =>
        split at read
        · next higher left higherRead =>
          cases read
          have high : 0x80 ≤ byte.toNat := UInt8.le_iff_toNat_le.mp (UInt8.not_lt.mp more)
          have width := byte.toNat_lt
          -- A last group of zero would have been left out of the written form.
          have large : ¬byte.toNat % 0x80 + 0x80 * higher < 0x80 := by
            intro small
            have shortened := decodeFrom_shortens higherRead
            rw [encode, if_pos small] at shortest
            simp only [List.length_cons, List.length_nil] at shortest
            omega
          have group : (byte.toNat % 0x80 + 0x80 * higher) % 0x80 + 0x80 = byte.toNat := by omega
          have above : (byte.toNat % 0x80 + 0x80 * higher) / 0x80 = higher := by omega
          rw [encode, if_neg large, group, above] at shortest ⊢
          rw [List.length_cons, List.length_cons] at shortest
          rw [List.cons_append, ← ih higherRead (by omega), Bytes.byte, UInt8.ofNat_toNat]
        · cases read

section Words

/-- Setting the high bit of a byte puts it above the seven low ones. -/
theorem or_highBit (byte : UInt8) : byte ||| 0x80 = Bytes.byte (byte.toNat % 0x80 + 0x80) := by
  have low : byte.toNat % 0x80 < 2 ^ 7 := Nat.mod_lt _ (by decide)
  have sum : 0x80 + byte.toNat % 0x80 = 0x80 ||| byte.toNat % 0x80 :=
    Nat.two_pow_add_eq_or_of_lt low 1
  have width := byte.toNat_lt
  apply UInt8.toNat_inj.mp
  rw [UInt8.toNat_or, toNat_byte (by omega), Nat.or_comm, Nat.add_comm, sum]
  by_cases high : byte.toNat < 0x80
  · rw [Nat.mod_eq_of_lt high]
    rfl
  · have whole : byte.toNat = 0x80 ||| byte.toNat % 0x80 := by omega
    calc 0x80 ||| byte.toNat = 0x80 ||| (0x80 ||| byte.toNat % 0x80) := congrArg _ whole
      _ = 0x80 ||| byte.toNat % 0x80 := by rw [← Nat.or_assoc, Nat.or_self]

/-- The low byte of a word with the high bit set is the group that the number is written with. -/
theorem group_of_word (word : UInt64) :
    word.toUInt8 ||| 0x80 = Bytes.byte (word.toNat % 0x80 + 0x80) := by
  rw [or_highBit, UInt64.toNat_toUInt8, Nat.mod_mod_of_dvd _ (by decide)]

/-- Writing a word puts its written form behind what is there. -/
theorem writeWord_eq (written : Bytes) (word : UInt64) :
    writeWord written word = written ++ encode word.toNat := by
  induction written, word using writeWord.induct with
  | case1 written word small =>
    have last : word.toNat < 0x80 := UInt64.lt_iff_toNat_lt.mp small
    rw [writeWord, if_pos small, encode, if_pos last]
    rfl
  | case2 written word large ih =>
    have more : ¬word.toNat < 0x80 := fun small => large (UInt64.lt_iff_toNat_lt.mpr small)
    rw [writeWord, if_neg large, ih, toNat_shiftRight_seven, group_of_word,
      encode.eq_def word.toNat, if_neg more, List.append_assoc]
    rfl

/-- The zeros in front of a number and its bits fill the word. -/
theorem clz_add_bitLength (word : UInt64) :
    word.toBitVec.clz.toNat + bitLength word.toNat = 64 := by
  have below : bitLength word.toNat ≤ 64 - word.toBitVec.clz.toNat :=
    bitLength_le_iff.mpr BitVec.toNat_lt_two_pow_sub_clz
  have within : word.toBitVec.clz.toNat ≤ 64 := BitVec.le_def.mp BitVec.clz_le
  by_cases zero : word = 0
  · subst zero
    decide
  · have nonzero : word.toBitVec ≠ 0#64 := fun same => zero (UInt64.toBitVec_inj.mp same)
    have highest : 64 - 1 - word.toBitVec.clz.toNat < bitLength word.toNat :=
      lt_bitLength_iff.mpr (BitVec.two_pow_sub_clz_le_toNat_of_ne_zero (by decide) nonzero)
    have fewer : word.toBitVec.clz.toNat < 64 :=
      BitVec.lt_def.mp (BitVec.clz_lt_iff_ne_zero.mpr nonzero)
    omega

/-- The size of a word is that of its number. -/
theorem wordSize_eq (word : UInt64) : wordSize word = .settled (.ok (size word.toNat)) := by
  have sum := clz_add_bitLength word
  have digits : 64 - word.toBitVec.clz.toNat = bitLength word.toNat := by omega
  unfold wordSize
  rw [Checked.subtract_of_le (by omega), Checked.settled_bind, digits]
  rfl

end Words

variable {buffer : Bytes} {offset : Nat}

/-- A number is read back from its written form anywhere between other bytes. -/
theorem decodeAt_encode (bounded : value < 2 ^ 64) (front behind : Bytes) :
    decodeAt (front ++ encode value ++ behind) front.length = .ok (value, size value) := by
  rw [decodeAt_eq_map, List.append_assoc, List.drop_left, decode_encode_append bounded]
  simp only [Except.map, List.length_append, Nat.add_sub_cancel_right, length_encode]

/-- No number is read from fewer bytes than it is written with, and from as many only if they
are its written form. -/
theorem decodeAt_shortest (read : decodeAt buffer offset = .ok (value, count)) :
    size value ≤ count ∧
      (count = size value ↔ (buffer.drop offset).take count = encode value) := by
  obtain ⟨⟨number, rest⟩, found, same⟩ := map_eq_ok_iff.mp read
  cases same
  have fewest := length_encode_le found
  have shorter := decode_shortens found
  rw [length_encode] at fewest
  refine ⟨by omega, fun shortest => ?_, fun taken => ?_⟩
  · have split : buffer.drop offset = encode value ++ rest :=
      eq_encode_of_length found (by rw [length_encode]; omega)
    rw [shortest, split, ← length_encode, List.take_left]
  · rw [← length_encode, ← taken, List.length_take]
    omega

/-- Writing a word puts behind what is there the one shortest form that its number is read
from, and the size is known beforehand from the zeros in front of the word. The number is read
back between any other bytes, with a word or without. -/
theorem word_roundTrip (word : UInt64) (front behind : Bytes) :
    writeWord front word = front ++ encode word.toNat ∧
      (encode word.toNat).length = size word.toNat ∧
      wordSize word = .settled (.ok (size word.toNat)) ∧
      0 < size word.toNat ∧ size word.toNat ≤ maxSize ∧
      decodeAt (writeWord front word ++ behind) front.length =
        .ok (word.toNat, size word.toNat) ∧
      (∀ (space : AddressSpace) (held : Buffer space),
        held.bytes = writeWord front word ++ behind →
          held.number front.length = .settled (.ok (word, size word.toNat))) ∧
      ∀ buffer offset count, decodeAt buffer offset = .ok (word.toNat, count) →
        size word.toNat ≤ count ∧
          (count = size word.toNat ↔ (buffer.drop offset).take count = encode word.toNat) := by
  have back : decodeAt (writeWord front word ++ behind) front.length =
      .ok (word.toNat, size word.toNat) := by
    rw [writeWord_eq]
    exact decodeAt_encode word.toNat_lt front behind
  refine ⟨writeWord_eq front word, length_encode _, wordSize_eq word, size_pos _,
    size_le_maxSize word.toNat_lt, back, ?_, fun buffer offset count => decodeAt_shortest⟩
  intro space held holds
  rw [held.number_eq, holds, back, Except.mapError, Except.map, UInt64.ofNat_toNat]

/-- The number three hundred takes two bytes, and is read from three that are padded. -/
theorem word_roundTrip_sample :
    (⟨[0xFF] ++ [0xAC, 0x02] ++ [0x07], by decide⟩ : Buffer ⟨64, Nat.le_refl 64⟩).number 1 =
        .settled (.ok (300, 2)) ∧
      size 300 ≤ 3 ∧
      (3 = size 300 ↔ ([0xFF, 0xAC, 0x82, 0x00].drop 1).take 3 = encode 300) := by
  obtain ⟨written, -, -, -, -, -, word, fewest⟩ := word_roundTrip 300 [0xFF] [0x07]
  have shortest : encode 300 = [0xAC, 0x02] := by cbv
  have padded : decodeAt [0xFF, 0xAC, 0x82, 0x00] 1 = .ok (300, 3) := rfl
  have bytes : [0xFF] ++ [0xAC, 0x02] ++ [0x07] = writeWord [0xFF] 300 ++ [0x07] := by
    rw [written]
    exact congrArg (fun form => [0xFF] ++ form ++ [0x07]) shortest.symm
  exact ⟨word ⟨64, Nat.le_refl 64⟩ ⟨_, by decide⟩ bytes, fewest _ _ _ padded⟩

end Varint

end CompactHttp
