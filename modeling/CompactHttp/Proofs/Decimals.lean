import CompactHttp.Text.Number
import Mathlib.Data.Nat.Digits.Defs
import Mathlib.Tactic.Ring

/-! # Numbers in decimal digits

What is read as a number below a bound is a row of decimal digits, of any length and with or
without a plus sign before it, whose value is below that bound
(`Number.unsignedBelow?_eq_some_iff`). A number that is written out is read back
(`Number.unsignedBelow?_toString`).
-/

namespace CompactHttp

namespace Number

/-- The characters that are decimal digits. -/
def IsDigit (char : Char) : Prop := '0' ≤ char ∧ char ≤ '9'

instance (char : Char) : Decidable (IsDigit char) := inferInstanceAs (Decidable (_ ∧ _))

/-- The number that decimal digits stand for, the most significant one first. -/
def decimalValue (digits : List Char) : Nat :=
  Nat.ofDigits 10 (digits.map fun char => char.toNat - '0'.toNat).reverse

/-- A text of decimal digits that stand for a number, with or without a plus sign before them. -/
def Spells (text : String) (number : Nat) : Prop :=
  ∃ sign digits, text.toList = sign ++ digits ∧ (sign = [] ∨ sign = ['+']) ∧ digits ≠ [] ∧
    (∀ char ∈ digits, IsDigit char) ∧ number = decimalValue digits

/-- The first digit counts for as much as there are digits behind it. -/
theorem decimalValue_cons (char : Char) (rest : List Char) :
    decimalValue (char :: rest) =
      (char.toNat - '0'.toNat) * 10 ^ rest.length + decimalValue rest := by
  unfold decimalValue
  rw [List.map_cons, List.reverse_cons, Nat.ofDigits_append, Nat.ofDigits_singleton,
    List.length_reverse, List.length_map]
  ring

/-- A digit is read as its distance from zero. -/
theorem decimalDigit?_of_isDigit {char : Char} (digit : IsDigit char) :
    decimalDigit? char = some (char.toNat - '0'.toNat) :=
  if_pos digit

/-- Nothing else is read as a digit. -/
theorem decimalDigit?_of_not_isDigit {char : Char} (other : ¬IsDigit char) :
    decimalDigit? char = none :=
  if_neg other

/-- Digits are read one by one behind those that have been read. -/
theorem digitsFrom_eq_some_iff {value number : Nat} {chars : List Char} :
    digitsFrom decimalDigit? 10 value chars = some number ↔
      (∀ char ∈ chars, IsDigit char) ∧
        number = value * 10 ^ chars.length + decimalValue chars := by
  induction chars generalizing value with
  | nil =>
    have nothing : decimalValue [] = 0 := rfl
    simp [digitsFrom, nothing, eq_comm]
  | cons char rest ih =>
    rw [digitsFrom, List.forall_mem_cons, decimalValue_cons, List.length_cons]
    by_cases digit : IsDigit char
    · rw [decimalDigit?_of_isDigit digit]
      simp only [ih, digit, true_and]
      have shifted : (value * 10 + (char.toNat - '0'.toNat)) * 10 ^ rest.length +
          decimalValue rest = value * 10 ^ (rest.length + 1) +
            ((char.toNat - '0'.toNat) * 10 ^ rest.length + decimalValue rest) := by
        ring
      rw [shifted]
    · rw [decimalDigit?_of_not_isDigit digit]
      simp only [reduceCtorEq, digit, false_and]

/-- A number is read from at least one digit, and from digits only. -/
theorem decimal?_eq_some_iff {number : Nat} {chars : List Char} :
    decimal? chars = some number ↔
      chars ≠ [] ∧ (∀ char ∈ chars, IsDigit char) ∧ number = decimalValue chars := by
  match chars with
  | [] => simp [decimal?]
  | char :: rest =>
    rw [decimal?, digitsFrom_eq_some_iff, Nat.zero_mul, Nat.zero_add]
    simp only [ne_eq, reduceCtorEq, not_false_eq_true, true_and]
    exact nofun

/-- A plus sign is left out. -/
theorem unsignedBelow?_of_plus {bound : Nat} {text : String} {digits : List Char}
    (signed : text.toList = '+' :: digits) :
    unsignedBelow? bound text = (decimal? digits).filter (· < bound) := by
  simp only [unsignedBelow?, signed]

/-- Without a plus sign the whole text is digits. -/
theorem unsignedBelow?_of_no_plus {bound : Nat} {text : String}
    (unsigned : ∀ digits, text.toList ≠ '+' :: digits) :
    unsignedBelow? bound text = (decimal? text.toList).filter (· < bound) := by
  unfold unsignedBelow?
  split
  · next digits signed => exact absurd signed (unsigned digits)
  · rfl

/-- A text is read as the number that it spells, if that is below the bound. -/
theorem unsignedBelow?_eq_some_iff {bound number : Nat} {text : String} :
    unsignedBelow? bound text = some number ↔ Spells text number ∧ number < bound := by
  by_cases signed : ∃ digits, text.toList = '+' :: digits
  · obtain ⟨digits, split⟩ := signed
    rw [unsignedBelow?_of_plus split, Option.filter_eq_some_iff, decide_eq_true_eq,
      decimal?_eq_some_iff]
    refine and_congr_left fun _ => ⟨fun ⟨something, allDigits, value⟩ => ?_, ?_⟩
    · exact ⟨['+'], digits, split, .inr rfl, something, allDigits, value⟩
    · rintro ⟨sign, others, same, rfl | rfl, something, allDigits, value⟩
      · have plus : '+' ∈ others := by
          rw [← List.nil_append others, ← same, split]
          exact List.mem_cons_self
        exact absurd (allDigits '+' plus) (by decide)
      · obtain rfl : digits = others := (List.cons.inj (split.symm.trans same)).2
        exact ⟨something, allDigits, value⟩
  · rw [unsignedBelow?_of_no_plus fun digits split => signed ⟨digits, split⟩,
      Option.filter_eq_some_iff, decide_eq_true_eq, decimal?_eq_some_iff]
    refine and_congr_left fun _ => ⟨fun ⟨something, allDigits, value⟩ => ?_, ?_⟩
    · exact ⟨[], text.toList, rfl, .inl rfl, something, allDigits, value⟩
    · rintro ⟨sign, digits, split, rfl | rfl, something, allDigits, value⟩
      · rw [split]
        exact ⟨something, allDigits, value⟩
      · exact absurd ⟨digits, split⟩ signed

/-! ## Numbers that are written out -/

theorem isDigit_iff {char : Char} : IsDigit char ↔ char.isDigit = true := by
  rw [Char.isDigit, Bool.and_eq_true, decide_eq_true_eq, decide_eq_true_eq]
  rfl

/-- The library gives the same value to digits behind others. -/
theorem ofDigitChars_eq (digits : List Char) (value : Nat) :
    Nat.ofDigitChars 10 digits value = value * 10 ^ digits.length + decimalValue digits := by
  induction digits generalizing value with
  | nil =>
    have nothing : decimalValue [] = 0 := rfl
    rw [nothing, List.length_nil, Nat.pow_zero, Nat.mul_one]
    rfl
  | cons char rest ih =>
    rw [Nat.ofDigitChars, List.foldl_cons, ← Nat.ofDigitChars, ih, decimalValue_cons,
      List.length_cons]
    ring

/-- The digits of a number have it as their value. -/
theorem decimalValue_toDigits (number : Nat) : decimalValue (Nat.toDigits 10 number) = number := by
  have value := ofDigitChars_eq (Nat.toDigits 10 number) 0
  rw [Nat.ofDigitChars_ten_toDigits, Nat.zero_mul, Nat.zero_add] at value
  exact value.symm

theorem toList_toString (number : Nat) : (toString number).toList = Nat.toDigits 10 number := by
  rw [Nat.toString_eq_ofList_toDigits, String.toList_ofList]

/-- There are only digits in a number that is printed. -/
theorem isDigit_of_mem_toString {number : Nat} {char : Char}
    (member : char ∈ (toString number).toList) : IsDigit char := by
  rw [toList_toString] at member
  exact isDigit_iff.mpr (Nat.isDigit_of_mem_toDigits (by decide) (by decide) member)

/-- The written form of a number spells it. -/
theorem spells_toString (number : Nat) : Spells (toString number) number := by
  refine ⟨[], (toString number).toList, rfl, .inl rfl, ?_, fun _ => isDigit_of_mem_toString, ?_⟩
  · rw [toList_toString]
    exact Nat.toDigits_ne_nil
  · rw [toList_toString, decimalValue_toDigits]

/-- A number that is printed is read back. -/
theorem unsignedBelow?_toString {bound number : Nat} (below : number < bound) :
    unsignedBelow? bound (toString number) = some number :=
  unsignedBelow?_eq_some_iff.mpr ⟨spells_toString number, below⟩

end Number

end CompactHttp
