import CompactHttp.Varint
import Mathlib.Algebra.GroupWithZero.Nat
import Mathlib.Tactic.Common

/-! # Numbers in a stream of bytes

A number that has been read, and a number that is too large, are not changed by the bytes
that follow (`Varint.decode_append`, `Varint.decode_overflow_append`), while a number that
breaks off can always be completed (`Varint.decode_completable`). What is written is read
back from the front of any byte string (`Varint.decode_encode_append`).
-/

namespace CompactHttp

namespace Varint

variable {position value : Nat} {data rest : Bytes}

/-- What one byte does to the reading of a number: it makes the number too large, it is the
last group, or the groups behind it are read and it is put below them. Which of the three
holds does not depend on the bytes behind it. -/
theorem decodeFrom_cons_cases (position : Nat) (byte : UInt8) :
    (∀ rest, decodeFrom position (byte :: rest) = .error .overflow) ∨
      (∀ rest, decodeFrom position (byte :: rest) = .ok (byte.toNat, rest)) ∨
      ∀ rest, decodeFrom position (byte :: rest) = (decodeFrom (position + 1) rest).map
        fun higher => (byte.toNat % 0x80 + 0x80 * higher.1, higher.2) := by
  by_cases large : maxSize ≤ position
  · left
    intro rest
    simp only [decodeFrom, large, ↓reduceIte]
  · by_cases last : byte < 0x80
    · by_cases wide : position + 1 = maxSize ∧ 1 < byte
      · left
        intro rest
        simp only [decodeFrom, large, last, wide, and_self, ↓reduceIte]
      · right; left
        intro rest
        simp only [decodeFrom, large, last, wide, ↓reduceIte]
    · right; right
      intro rest
      simp only [decodeFrom, large, last, ↓reduceIte]
      cases decodeFrom (position + 1) rest <;> rfl

/-- Bytes after a number do not change how it is read, unless it is the end of the bytes
that stopped the reading. -/
theorem decodeFrom_append (final : decodeFrom position data ≠ .error .incomplete) (more : Bytes) :
    decodeFrom position (data ++ more) =
      (decodeFrom position data).map fun read => (read.1, read.2 ++ more) := by
  induction data generalizing position with
  | nil =>
    -- Without bytes a reading either lacks them or has gone on for too long already.
    have large : ¬position < maxSize := fun small =>
      final (by simp only [decodeFrom, small, ↓reduceIte])
    cases more <;> simp only [List.nil_append, decodeFrom, large, Nat.le_of_not_lt large,
      ↓reduceIte, Except.map]
  | cons byte tail ih =>
    rw [List.cons_append]
    rcases decodeFrom_cons_cases position byte with large | last | continues
    · rw [large, large]
      rfl
    · rw [last, last]
      rfl
    · rw [continues] at final
      have unbroken : decodeFrom (position + 1) tail ≠ .error .incomplete := by
        intro broken
        exact final (by rw [broken]; rfl)
      rw [continues, continues, ih unbroken]
      cases decodeFrom (position + 1) tail <;> rfl

/-- A number that is read stays the same whatever comes behind. -/
theorem decode_append (read : decode data = .ok (value, rest)) (more : Bytes) :
    decode (data ++ more) = .ok (value, rest ++ more) := by
  unfold decode at read ⊢
  rw [decodeFrom_append (by rw [read]; exact nofun), read]
  rfl

/-- A number that overflows does so whatever comes behind. -/
theorem decode_overflow_append (large : decode data = .error .overflow) (more : Bytes) :
    decode (data ++ more) = .error .overflow := by
  unfold decode at large ⊢
  rw [decodeFrom_append (by rw [large]; exact nofun), large]
  rfl

/-- A number is read from its own bytes alone. -/
theorem decodeFrom_front (read : decodeFrom position data = .ok (value, rest)) :
    ∃ front, data = front ++ rest ∧
      ∀ more, decodeFrom position (front ++ more) = .ok (value, more) := by
  induction data generalizing position value with
  | nil => cases read
  | cons byte tail ih =>
    rcases decodeFrom_cons_cases position byte with large | last | continues
    · rw [large] at read
      cases read
    · rw [last] at read
      cases read
      exact ⟨[byte], rfl, last⟩
    · rw [continues] at read
      match higherRead : decodeFrom (position + 1) tail with
      | .error fault =>
        rw [higherRead] at read
        cases read
      | .ok (higher, left) =>
        rw [higherRead] at read
        cases read
        obtain ⟨front, rfl, again⟩ := ih higherRead
        refine ⟨byte :: front, rfl, fun more => ?_⟩
        rw [List.cons_append, continues, again]
        rfl

/-- The bytes of a number that has been read, which give that number whatever stands
behind them. -/
theorem decode_front (read : decode data = .ok (value, rest)) :
    ∃ front, data = front ++ rest ∧ ∀ more, decode (front ++ more) = .ok (value, more) :=
  decodeFrom_front read

/-- A number is the bytes that are left behind it away from the end of the bytes. -/
theorem drop_of_decode (read : decode data = .ok (value, rest)) :
    data.drop (data.length - rest.length) = rest := by
  obtain ⟨front, rfl, -⟩ := decode_front read
  rw [List.length_append, Nat.add_sub_cancel_right, List.drop_left]

/-- What is read of a number fits behind what has been read of it. -/
theorem lt_of_decodeFrom (read : decodeFrom position data = .ok (value, rest)) :
    value < 2 ^ (64 - 7 * position) := by
  induction data generalizing position value with
  | nil => cases read
  | cons byte tail ih =>
    rw [decodeFrom] at read
    by_cases large : maxSize ≤ position
    · rw [if_pos large] at read
      cases read
    · have inside : position < 10 := Nat.lt_of_not_le large
      rw [if_neg large] at read
      by_cases last : byte < 0x80
      · rw [if_pos last] at read
        by_cases wide : position + 1 = maxSize ∧ 1 < byte
        · rw [if_pos wide] at read
          cases read
        · rw [if_neg wide] at read
          cases read
          have small : byte.toNat < 0x80 := last
          by_cases tenth : position = 9
          · subst tenth
            have narrow : ¬1 < byte := fun more => wide ⟨rfl, more⟩
            rw [UInt8.lt_iff_toNat_lt] at narrow
            exact Nat.lt_succ_of_le (Nat.le_of_not_lt narrow)
          · calc byte.toNat < 2 ^ 7 := small
              _ ≤ 2 ^ (64 - 7 * position) := Nat.pow_le_pow_right (by decide) (by omega)
      · rw [if_neg last] at read
        cases higherRead : decodeFrom (position + 1) tail with
        | error fault =>
          rw [higherRead] at read
          cases read
        | ok higher =>
          rw [higherRead] at read
          cases read
          have below := ih higherRead
          have notTenth : position ≠ 9 := by
            rintro rfl
            cases tail <;> cases higherRead
          have wider : 2 ^ (64 - 7 * position) = 0x80 * 2 ^ (64 - 7 * (position + 1)) := by
            rw [show 64 - 7 * position = 7 + (64 - 7 * (position + 1)) by omega, Nat.pow_add]
          omega

/-- No number reaches `2 ^ 64`. -/
theorem lt_of_decode (read : decode data = .ok (value, rest)) : value < 2 ^ 64 :=
  lt_of_decodeFrom read

/-- A number that breaks off can be ended by a zero. -/
theorem decodeFrom_completable (broken : decodeFrom position data = .error .incomplete) :
    ∃ value, decodeFrom position (data ++ [0]) = .ok (value, []) := by
  induction data generalizing position with
  | nil =>
    have small : position < maxSize := by
      by_contra large
      simp only [decodeFrom, large, ↓reduceIte, Except.error.injEq, reduceCtorEq] at broken
    have within : ¬maxSize ≤ position := Nat.not_le.mpr small
    have ends : (0 : UInt8) < 0x80 := by decide
    have narrow : ¬(1 : UInt8) < 0 := by decide
    refine ⟨0, ?_⟩
    simp only [List.nil_append, decodeFrom, within, ends, narrow, and_false, ↓reduceIte]
    rfl
  | cons byte tail ih =>
    rcases decodeFrom_cons_cases position byte with large | last | continues
    · rw [large] at broken
      cases broken
    · rw [last] at broken
      cases broken
    · rw [continues] at broken
      cases higherRead : decodeFrom (position + 1) tail with
      | ok higher =>
        rw [higherRead] at broken
        cases broken
      | error fault =>
        rw [higherRead] at broken
        cases broken
        obtain ⟨higher, completed⟩ := ih higherRead
        refine ⟨byte.toNat % 0x80 + 0x80 * higher, ?_⟩
        rw [List.cons_append, continues, completed]
        rfl

/-- A number that breaks off is completed by one more group. -/
theorem decode_completable (broken : decode data = .error .incomplete) :
    ∃ value, decode (data ++ [0]) = .ok (value, []) :=
  decodeFrom_completable broken

/-- A number at an offset is one in front of the bytes from there on. -/
theorem decodeAt_eq_map (buffer : Bytes) (offset : Nat) : decodeAt buffer offset =
    (decode (buffer.drop offset)).map fun read =>
      (read.1, (buffer.drop offset).length - read.2.length) := rfl

theorem toNat_byte {value : Nat} (small : value < 256) : (Bytes.byte value).toNat = value :=
  UInt8.toNat_ofNat_of_lt' small

theorem byte_lt_iff {value : Nat} (small : value < 256) :
    Bytes.byte value < 0x80 ↔ value < 0x80 := by
  rw [UInt8.lt_iff_toNat_lt, toNat_byte small]
  rfl

/-- A number is read back at the position of any group that its remaining bits reach. -/
theorem decodeFrom_encode_append (within : position < maxSize)
    (bounded : value < 2 ^ (64 - 7 * position)) (more : Bytes) :
    decodeFrom position (encode value ++ more) = .ok (value, more) := by
  induction value using encode.induct generalizing position with
  | case1 value small =>
    have inside : ¬maxSize ≤ position := Nat.not_le.mpr within
    have narrow : ¬(position + 1 = maxSize ∧ 1 < Bytes.byte value) := by
      rintro ⟨tenth, wide⟩
      rw [UInt8.lt_iff_toNat_lt, toNat_byte (by omega)] at wide
      have atNine : position = 9 := by unfold maxSize at tenth; omega
      subst atNine
      have : value < 2 := bounded
      have : 1 < value := wide
      omega
    have ends : Bytes.byte value < 0x80 := (byte_lt_iff (by omega)).mpr small
    rw [encode, if_pos small]
    simp only [List.singleton_append, decodeFrom, inside, ends, narrow, ↓reduceIte,
      toNat_byte (show value < 256 by omega)]
  | case2 value large ih =>
    have inside : ¬maxSize ≤ position := Nat.not_le.mpr within
    have groupSmall : value % 0x80 + 0x80 < 256 := by omega
    have continues : ¬Bytes.byte (value % 0x80 + 0x80) < 0x80 := by
      rw [byte_lt_iff groupSmall]
      omega
    -- Only a number of one group can start at the tenth position.
    have notLast : position < 9 := by
      by_contra ninth
      have atNine : position = 9 := by unfold maxSize at within; omega
      subst atNine
      have : value < 2 := bounded
      omega
    have higherBounded : value / 0x80 < 2 ^ (64 - 7 * (position + 1)) := by
      rw [Nat.div_lt_iff_lt_mul (by decide)]
      calc value < 2 ^ (64 - 7 * position) := bounded
        _ ≤ 2 ^ (64 - 7 * (position + 1) + 7) := Nat.pow_le_pow_right (by decide) (by omega)
        _ = 2 ^ (64 - 7 * (position + 1)) * 0x80 := by rw [Nat.pow_add]
    rw [encode, if_neg large]
    simp only [List.cons_append, decodeFrom, inside, continues, ↓reduceIte,
      ih (by unfold maxSize; omega) higherBounded, toNat_byte groupSmall]
    congr 2
    omega

/-- A number below `2 ^ 64` is read back from its written form, whatever follows. -/
theorem decode_encode_append (bounded : value < 2 ^ 64) (more : Bytes) :
    decode (encode value ++ more) = .ok (value, more) :=
  decodeFrom_encode_append (by decide) bounded more

/-- A number of any size is read back from its written form, if a number is read at all. -/
theorem decodeFrom_encode_append_eq_ok {found : Nat} {more : Bytes}
    (read : decodeFrom position (encode value ++ more) = .ok (found, rest)) :
    found = value ∧ rest = more := by
  induction value using encode.induct generalizing position found with
  | case1 value small =>
    have ends : Bytes.byte value < 0x80 := (byte_lt_iff (by omega)).mpr small
    rw [encode, if_pos small, List.singleton_append, decodeFrom] at read
    simp only [ends, ↓reduceIte] at read
    split at read
    · cases read
    · split at read
      · cases read
      · cases read
        exact ⟨toNat_byte (by omega), rfl⟩
  | case2 value large ih =>
    have groupSmall : value % 0x80 + 0x80 < 256 := by omega
    have continues : ¬Bytes.byte (value % 0x80 + 0x80) < 0x80 := by
      rw [byte_lt_iff groupSmall]
      omega
    rw [encode, if_neg large, List.cons_append, decodeFrom] at read
    simp only [continues, ↓reduceIte] at read
    split at read
    · cases read
    · split at read
      · next higher behind higherRead =>
        cases read
        obtain ⟨rfl, rfl⟩ := ih higherRead
        rw [toNat_byte groupSmall]
        exact ⟨by omega, rfl⟩
      · cases read

end Varint

end CompactHttp
