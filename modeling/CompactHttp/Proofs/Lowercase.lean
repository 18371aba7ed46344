import CompactHttp.Text.Lowercase
import Mathlib.Tactic.Common

/-! # Small letters have no smaller form

A text in small letters is its own form in small letters (`lowercase_lowercase`). The one
fact about the table is that no small letter of a run of capitals is a capital itself; it
is checked run against run, not character by character. The form of a sigma depends on its
neighbours only while it is a capital.
-/

namespace CompactHttp

/-- Whether no small letter of a run is a capital of another run: the two lie apart, or the
small letters and the capitals alternate. -/
def CaseRun.avoids (run other : CaseRun) : Bool :=
  Nat.blt (run.lower + (run.last - run.first)) other.first || (Nat.blt other.last run.lower ||
    ((run.stride == 2 || run.first == run.last) && other.stride == 2 &&
      (run.lower + other.first) % 2 == 1))

/-- Whether the small letters of a run are characters, none of them the dotted capital I. -/
def CaseRun.givesLetters (run : CaseRun) : Bool :=
  let last := run.lower + (run.last - run.first)
  (last < 0xD800 || 0xDFFF < run.lower && last < 0x110000) && (last < 0x130 || 0x130 < run.lower)

namespace Lowercase

/-- No run of capitals has small letters that are capitals of another one. -/
theorem capitals_avoid_capitals :
    ∀ run ∈ CaseTable.capitals, CaseTable.capitals.all run.avoids = true := by
  decide +kernel

/-- All runs of capitals give characters. -/
theorem capitals_giveLetters : ∀ run ∈ CaseTable.capitals, run.givesLetters = true := by
  decide +kernel

variable {code : Nat} {run : CaseRun}

/-- The run of a capital is one of the table, and the capital is one of its steps. -/
theorem run?_eq_some (found : run? code = some run) :
    run ∈ CaseTable.capitals ∧ run.first ≤ code ∧ code ≤ run.last ∧
      (code - run.first) % run.stride = 0 := by
  have member := List.mem_of_find?_eq_some found
  have holds := List.find?_some found
  simp only [Bool.and_eq_true, decide_eq_true_eq, beq_iff_eq] at holds
  exact ⟨member, holds.1.1, holds.1.2, holds.2⟩

/-- The small letter of a capital is no capital. -/
theorem run?_small (found : run? code = some run) :
    run? (run.lower + (code - run.first)) = none := by
  obtain ⟨member, above, below, step⟩ := run?_eq_some found
  refine List.find?_eq_none.mpr fun other otherMember inside => ?_
  simp only [Bool.and_eq_true, decide_eq_true_eq, beq_iff_eq] at inside
  obtain ⟨⟨otherAbove, otherBelow⟩, otherStep⟩ := inside
  have apart := List.all_eq_true.mp (capitals_avoid_capitals run member) other otherMember
  simp only [CaseRun.avoids, Bool.or_eq_true, Bool.and_eq_true, Nat.blt_eq, beq_iff_eq] at apart
  rcases apart with before | after | ⟨⟨stride | single, otherStride⟩, odd⟩
  · omega
  · omega
  · rw [stride] at step
    rw [otherStride] at otherStep
    omega
  · rw [otherStride] at otherStep
    omega

/-- The small letter of a capital is the character at its distance in the run, and not the
dotted capital I. -/
theorem toNat_small (found : run? code = some run) :
    (Char.ofNat (run.lower + (code - run.first))).toNat = run.lower + (code - run.first) ∧
      run.lower + (code - run.first) ≠ 0x130 := by
  obtain ⟨member, above, below, step⟩ := run?_eq_some found
  have letters := capitals_giveLetters run member
  simp only [CaseRun.givesLetters, Bool.or_eq_true, Bool.and_eq_true, decide_eq_true_eq] at letters
  have valid : (run.lower + (code - run.first)).isValidChar := by
    unfold Nat.isValidChar
    omega
  refine ⟨?_, by omega⟩
  unfold Char.ofNat
  rw [dif_pos valid]
  rfl

/-- Whether a character stays as it is in small letters, wherever it stands. -/
def IsSmall (char : Char) : Prop := char ≠ 'Σ' ∧ char ≠ 'İ' ∧ letter char = char

/-- The small letter of a character is one, but for two characters that depend on others or become
more than one. -/
theorem letter_isSmall {char : Char} (noSigma : char ≠ 'Σ') (noDotted : char ≠ 'İ') :
    IsSmall (letter char) := by
  match found : run? char.toNat with
  | none =>
    have same : letter char = char := by simp only [letter, found]
    rw [same]
    exact ⟨noSigma, noDotted, same⟩
  | some run =>
    have small : letter char = Char.ofNat (run.lower + (char.toNat - run.first)) := by
      simp only [letter, found]
    obtain ⟨value, notDotted⟩ := toNat_small found
    have noCapital := run?_small found
    rw [← small] at value
    rw [← value] at noCapital notDotted
    refine ⟨?_, ?_, ?_⟩
    · intro sigma
      rw [sigma] at noCapital
      revert noCapital
      decide +kernel
    · intro dotted
      rw [dotted] at notDotted
      exact notDotted rfl
    · rw [letter, noCapital]

/-- A sigma becomes one of its two small forms, the dotted capital I two characters, and every
other character its small letter. -/
theorem lettersFrom_cons_cases (before : List Char) (first : Char) (rest : List Char) :
    ∃ small, lettersFrom before (first :: rest) = small ++ lettersFrom (first :: before) rest ∧
      (first = 'Σ' ∧ (small = ['ς'] ∨ small = ['σ']) ∨
        first = 'İ' ∧ small = ['i', '\u0307'] ∨
        first ≠ 'Σ' ∧ first ≠ 'İ' ∧ small = [letter first]) := by
  refine ⟨_, by rw [lettersFrom], ?_⟩
  by_cases isSigma : first = 'Σ'
  · rw [if_pos isSigma]
    refine .inl ⟨isSigma, ?_⟩
    split
    · exact .inl rfl
    · exact .inr rfl
  · rw [if_neg isSigma]
    by_cases isDotted : first = 'İ'
    · rw [if_pos isDotted]
      exact .inr (.inl ⟨isDotted, rfl⟩)
    · rw [if_neg isDotted]
      exact .inr (.inr ⟨isSigma, isDotted, rfl⟩)

/-- Small letters that are all of ASCII are those of the characters one by one. -/
theorem lettersFrom_cons_of_ascii {before rest : List Char} {first : Char}
    (ascii : ∀ small ∈ lettersFrom before (first :: rest), small.toNat < 128) :
    lettersFrom before (first :: rest) = letter first :: lettersFrom (first :: before) rest := by
  obtain ⟨small, split, cases⟩ := lettersFrom_cons_cases before first rest
  rw [split, List.forall_mem_append] at ascii
  obtain ⟨-, rfl | rfl⟩ | ⟨-, rfl⟩ | ⟨-, -, rfl⟩ := cases
  · exact absurd (ascii.1 'ς' List.mem_cons_self) (by decide)
  · exact absurd (ascii.1 'σ' List.mem_cons_self) (by decide)
  · exact absurd (ascii.1 '\u0307' (List.mem_cons_of_mem _ List.mem_cons_self)) (by decide)
  · exact split

/-- All characters of a text in small letters stay as they are. -/
theorem isSmall_of_mem_lettersFrom {before chars : List Char} {char : Char}
    (member : char ∈ lettersFrom before chars) : IsSmall char := by
  have sigma : IsSmall 'σ' := by unfold IsSmall; decide +kernel
  have finalSigma : IsSmall 'ς' := by unfold IsSmall; decide +kernel
  have dotless : IsSmall 'i' := by unfold IsSmall; decide +kernel
  have dot : IsSmall '\u0307' := by unfold IsSmall; decide +kernel
  induction chars generalizing before with
  | nil => cases member
  | cons first rest ih =>
    obtain ⟨small, split, cases⟩ := lettersFrom_cons_cases before first rest
    rw [split, List.mem_append] at member
    obtain here | later := member
    · obtain ⟨-, rfl | rfl⟩ | ⟨-, rfl⟩ | ⟨noSigma, noDotted, rfl⟩ := cases
      · rwa [List.mem_singleton.mp here]
      · rwa [List.mem_singleton.mp here]
      · rw [List.mem_cons, List.mem_singleton] at here
        obtain rfl | rfl := here
        · exact dotless
        · exact dot
      · rw [List.mem_singleton.mp here]
        exact letter_isSmall noSigma noDotted
    · exact ih later

/-- Characters that stay as they are make a text that stays as it is. -/
theorem lettersFrom_of_isSmall (before : List Char) {chars : List Char}
    (small : ∀ char ∈ chars, IsSmall char) : lettersFrom before chars = chars := by
  induction chars generalizing before with
  | nil => rfl
  | cons first rest ih =>
    obtain ⟨noSigma, noDotted, same⟩ := small first List.mem_cons_self
    rw [lettersFrom, if_neg noSigma, if_neg noDotted, same,
      ih (first :: before) fun char member => small char (List.mem_cons_of_mem first member)]
    rfl

end Lowercase

/-- A text in small letters is in small letters. -/
@[simp] theorem lowercase_lowercase (text : String) :
    lowercase (lowercase text) = lowercase text := by
  unfold lowercase
  rw [String.toList_ofList,
    Lowercase.lettersFrom_of_isSmall [] fun _ => Lowercase.isSmall_of_mem_lettersFrom]

end CompactHttp
