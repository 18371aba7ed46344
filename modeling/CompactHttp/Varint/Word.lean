import CompactHttp.Checked

/-! # Length prefixes from words

A number that is held in a word of sixty-four bits is written group by group behind the bytes
that are there already, and shifted down after each group. How many bytes it takes is told by
the zeros in front of its highest bit, before anything is written.
-/

namespace CompactHttp

namespace Varint

theorem toNat_shiftRight_seven (word : UInt64) : (word >>> 7).toNat = word.toNat / 0x80 := by
  rw [UInt64.toNat_shiftRight]
  exact Nat.shiftRight_eq_div_pow word.toNat 7

/-- Writes a word behind other bytes. What is left of the word goes into the last byte once
seven bits hold it. -/
def writeWord (written : Bytes) (word : UInt64) : Bytes :=
  if word < 0x80 then written ++ [word.toUInt8]
  else writeWord (written ++ [word.toUInt8 ||| 0x80]) (word >>> 7)
termination_by word.toNat
decreasing_by
  next large =>
    have enough : 0x80 ≤ word.toNat := UInt64.le_iff_toNat_le.mp (UInt64.not_lt.mp large)
    rw [toNat_shiftRight_seven]
    omega

/-- The number of bytes a word is written with: its binary digits, one at least, in groups of
seven. -/
def wordSize (word : UInt64) : Checked Nat := do
  let bits ← Checked.subtract 64 word.toBitVec.clz.toNat
  return (max bits 1 + 6) / 7

end Varint

end CompactHttp
