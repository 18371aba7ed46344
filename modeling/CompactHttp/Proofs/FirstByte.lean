import CompactHttp.Message
import Mathlib.Data.FinEnum
import Mathlib.Tactic.Common

/-! # The first byte of a message

The version stands in the two highest bits, method or status in the bits below, and both
are had again from the byte. Status codes outside the table are sent as the fallback.
-/

namespace CompactHttp

/-- Two bits hold no version above three. -/
theorem versionBits_le (first : UInt8) : versionBits first ≤ 3 := by
  revert first
  decide +kernel

/-- Two bits of the version are kept. -/
theorem version_and_three (version : UInt8) : version &&& 3 = version % 4 := by
  revert version
  decide +kernel

/-- There are four versions in the first byte. -/
theorem version_and_three_mem (version : UInt8) : version &&& 3 ∈ [0, 1, 2, 3] := by
  revert version
  decide +kernel

/-- Version and six bits below it are had again from the byte that holds both. -/
theorem firstByte_bits (version : UInt8) {low : UInt8} (small : low < 64) :
    versionBits ((version &&& 3) <<< 6 ||| low) = version % 4 ∧
      ((version &&& 3) <<< 6 ||| low) &&& 0x3F = low := by
  have bits : ∀ high ∈ [(0 : UInt8), 1, 2, 3], ∀ low : UInt8, low < 64 →
      versionBits (high <<< 6 ||| low) = high ∧ (high <<< 6 ||| low) &&& 0x3F = low := by
    decide +kernel
  have both := bits _ (version_and_three_mem version) low small
  rwa [version_and_three] at both ⊢

namespace Method

/-- The codes above six, and no others, stand for no method. -/
theorem ofCode?_eq_none_iff (code : UInt8) : ofCode? code = none ↔ 6 < code := by
  revert code
  decide +kernel

end Method

namespace Request

/-- The version stands in the first byte of a request as far as it fits there. -/
@[simp] theorem versionBits_firstByte (request : Request) :
    versionBits request.firstByte = request.version % 4 := by
  have small : request.method.code <<< 3 < 64 := by cases request.method <;> decide
  exact (firstByte_bits request.version small).1

/-- The method stands in the first byte of a request. -/
@[simp] theorem methodBits_firstByte (request : Request) :
    methodBits request.firstByte = request.method.code := by
  have bits : ∀ (version : UInt8) (method : Method),
      methodBits ((version &&& 3) <<< 6 ||| method.code <<< 3) = method.code := by
    intro version method
    revert version
    cases method <;> decide +kernel
  exact bits request.version request.method

end Request

namespace Status

/-- A place in the table fits a byte. -/
theorem toNat_position {position : Nat} (inside : position < table.length) :
    (UInt8.ofNat position).toNat = position :=
  UInt8.toNat_ofNat_of_lt' (Nat.lt_trans inside (by decide))

/-- A compact status takes six bits. -/
theorem toCompact_lt (code : UInt16) : toCompact code < 64 := by
  unfold toCompact
  match found : table.idxOf? code with
  | none => decide
  | some position =>
    obtain ⟨inside, -, -⟩ := List.idxOf?_eq_some_iff.mp found
    rw [UInt8.lt_iff_toNat_lt, toNat_position inside]
    exact Nat.lt_trans inside (by decide)

/-- A code of the table is sent as it is, every other as the fallback. -/
theorem ofCompact_toCompact (code : UInt16) :
    ofCompact (toCompact code) = if isCompact code then code else fallback := by
  unfold toCompact isCompact
  match found : table.idxOf? code with
  | none =>
    have absent : table.contains code = false := by
      rw [← Bool.not_eq_true, List.contains_iff_mem]
      exact List.idxOf?_eq_none_iff.mp found
    rw [absent]
    rfl
  | some position =>
    obtain ⟨inside, here, -⟩ := List.idxOf?_eq_some_iff.mp found
    have present : table.contains code = true :=
      List.contains_iff_mem.mpr (here ▸ List.getElem_mem inside)
    simp only [present, ↓reduceIte, ofCompact, toNat_position inside,
      List.getElem?_eq_getElem inside, here, Option.getD_some]

end Status

namespace Response

/-- The version stands in the first byte of a response as far as it fits there. -/
@[simp] theorem versionBits_firstByte (response : Response) :
    versionBits response.firstByte = response.version % 4 :=
  (firstByte_bits response.version (Status.toCompact_lt response.status)).1

/-- The status stands in the first byte of a response, or the fallback for it. -/
@[simp] theorem ofCompact_firstByte (response : Response) :
    Status.ofCompact (response.firstByte &&& 0x3F) =
      if Status.isCompact response.status then response.status else Status.fallback := by
  rw [← Status.ofCompact_toCompact]
  exact congrArg Status.ofCompact
    (firstByte_bits response.version (Status.toCompact_lt response.status)).2

end Response

end CompactHttp
