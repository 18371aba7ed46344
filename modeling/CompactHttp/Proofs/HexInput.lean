import CompactHttp.CommandLine.Input
import CompactHttp.Proofs.SmallNames
import CompactHttp.Text.Quoted
import Mathlib.Data.String.Basic

/-! # What is read as hexadecimal

Bytes that are written in hexadecimal, in capitals or small letters and with white space anywhere,
are read back, and a text without a plus sign is read only if it is that. A pair may also be a plus
sign and a digit (`Input.PairsSpelled`). Every other text is refused, for an odd number of bytes or
for the first pair that is no byte (`Input.PairBroken`); but a pair that ends inside a character
stops the program (`Input.hexadecimal_decided`).
-/

namespace CompactHttp

namespace Number

/-- In ASCII a character is a digit if its small letter is what is written for the value. -/
theorem hexDigit?_ascii : ∀ code < 128, ∀ value < 16,
    hexDigit? (Char.ofNat code) = some value ↔ (Char.ofNat code).toLower = hexDigit value := by
  decide +kernel

/-- In ASCII a digit has one of sixteen values. -/
theorem hexDigit?_ascii_lt : ∀ code < 128, ∀ value ∈ hexDigit? (Char.ofNat code), value < 16 := by
  decide +kernel

/-- Digits are ASCII. -/
theorem hexDigit_ascii : ∀ value < 16, (hexDigit value).toNat < 128 := by
  decide +kernel

variable {char : Char} {value : Nat}

/-- There are no digits beyond ASCII. -/
theorem ascii_of_hexDigit? (digit : hexDigit? char = some value) : char.toNat < 128 := by
  unfold hexDigit? at digit
  split at digit
  · next inside => exact Nat.lt_of_le_of_lt inside.2 (by decide)
  · split at digit
    · next inside => exact Nat.lt_of_le_of_lt inside.2 (by decide)
    · split at digit
      · next inside => exact Nat.lt_of_le_of_lt inside.2 (by decide)
      · cases digit

/-- A character is a digit of base sixteen if its small letter is what is written for the value. -/
theorem hexDigit?_eq_some_iff :
    hexDigit? char = some value ↔ value < 16 ∧ char.toLower = hexDigit value := by
  constructor
  · intro digit
    have ascii := ascii_of_hexDigit? digit
    rw [← Char.ofNat_toNat char] at digit
    have small := hexDigit?_ascii_lt _ ascii value digit
    have written := (hexDigit?_ascii _ ascii value small).mp digit
    rw [Char.ofNat_toNat] at written
    exact ⟨small, written⟩
  · rintro ⟨small, written⟩
    have ascii : char.toNat < 128 := Lowercase.ascii_of_toLower (written ▸ hexDigit_ascii _ small)
    rw [← Char.ofNat_toNat char] at written ⊢
    exact (hexDigit?_ascii _ ascii value small).mpr written

end Number

namespace Input

/-- The characters of a text that are no white space. -/
def solid (text : String) : List Char := text.toList.filter fun char => !Blank.isBlank char

/-- The digits of bytes, two for each, in small letters. -/
def hexDigits (bytes : Bytes) : List Char :=
  bytes.flatMap fun byte => [hexDigit (byte.toNat / 16), hexDigit (byte.toNat % 16)]

/-- The characters are the digits of bytes, in capitals or small letters. -/
def Spells (chars : List Char) (bytes : Bytes) : Prop := chars.map Char.toLower = hexDigits bytes

instance (chars : List Char) (bytes : Bytes) : Decidable (Spells chars bytes) :=
  inferInstanceAs (Decidable (_ = _))

/-- The characters are pairs that stand for bytes: two digits, or a plus sign and a digit. -/
inductive PairsSpelled : List Char → Bytes → Prop where
  | nil : PairsSpelled [] []
  | digits {first second : Char} {high low : Nat} {rest : List Char} {bytes : Bytes} :
      Number.hexDigit? first = some high → Number.hexDigit? second = some low →
      PairsSpelled rest bytes →
      PairsSpelled (first :: second :: rest) (Bytes.byte (high * 16 + low) :: bytes)
  | plus {second : Char} {low : Nat} {rest : List Char} {bytes : Bytes} :
      Number.hexDigit? second = some low → PairsSpelled rest bytes →
      PairsSpelled ('+' :: second :: rest) (Bytes.byte low :: bytes)

/-- Why the first two bytes of some characters are no pair: they end inside a character, or they are
characters that stand for no byte. -/
inductive PairBroken : List Char → InputError → Prop where
  | cutFirst {first : Char} {rest : List Char} :
      2 < first.utf8Size → PairBroken (first :: rest) .brokenCharacter
  | cutSecond {first second : Char} {rest : List Char} :
      first.utf8Size = 1 → second.utf8Size ≠ 1 →
      PairBroken (first :: second :: rest) .brokenCharacter
  | wide {first : Char} {rest : List Char} :
      first.utf8Size = 2 → PairBroken (first :: rest) .invalidDigit
  | noDigit {first second : Char} {rest : List Char} :
      first.utf8Size = 1 → second.utf8Size = 1 →
      Number.hexDigit? second = none ∨ first ≠ '+' ∧ Number.hexDigit? first = none →
      PairBroken (first :: second :: rest) .invalidDigit

variable {chars rest : List Char} {first second : Char} {bytes : Bytes} {fault : InputError}

/-! ## Pairs of digits -/

/-- A byte is made of its halves. -/
theorem byte_of_halves (byte : UInt8) :
    Bytes.byte (byte.toNat / 16 * 16 + byte.toNat % 16) = byte := by
  rw [Nat.div_add_mod', Bytes.byte, UInt8.ofNat_toNat]

/-- The halves of a byte are the digits it is made of. -/
theorem halves_of_byte {high low : Nat} (highSmall : high < 16) (lowSmall : low < 16) :
    (Bytes.byte (high * 16 + low)).toNat / 16 = high ∧
      (Bytes.byte (high * 16 + low)).toNat % 16 = low := by
  have whole : (Bytes.byte (high * 16 + low)).toNat = high * 16 + low :=
    UInt8.toNat_ofNat_of_lt' (by show _ < 256; omega)
  omega

/-- What is written in digits is pairs of them. -/
theorem Spells.pairsSpelled (spelled : Spells chars bytes) : PairsSpelled chars bytes := by
  induction bytes generalizing chars with
  | nil =>
    obtain rfl : chars = [] := List.map_eq_nil_iff.mp spelled
    exact .nil
  | cons byte bytes ih =>
    obtain ⟨first, tail, rfl, high, spelled⟩ := List.map_eq_cons_iff.mp spelled
    obtain ⟨second, rest, rfl, low, spelled⟩ := List.map_eq_cons_iff.mp spelled
    rw [← byte_of_halves byte]
    refine .digits (Number.hexDigit?_eq_some_iff.mpr ⟨?_, high⟩)
      (Number.hexDigit?_eq_some_iff.mpr ⟨Nat.mod_lt _ (by decide), low⟩) (ih spelled)
    have small := byte.toNat_lt
    omega

/-- Pairs without a plus sign are what is written in digits. -/
theorem PairsSpelled.spells (pairs : PairsSpelled chars bytes) (noPlus : '+' ∉ chars) :
    Spells chars bytes := by
  induction pairs with
  | nil => rfl
  | digits highDigit lowDigit _ ih =>
    obtain ⟨highSmall, high⟩ := Number.hexDigit?_eq_some_iff.mp highDigit
    obtain ⟨lowSmall, low⟩ := Number.hexDigit?_eq_some_iff.mp lowDigit
    obtain ⟨highHalf, lowHalf⟩ := halves_of_byte highSmall lowSmall
    have later := ih fun plus => noPlus (List.mem_cons_of_mem _ (List.mem_cons_of_mem _ plus))
    rw [Spells, List.map_cons, List.map_cons, hexDigits, List.flatMap_cons, highHalf, lowHalf, high,
      low]
    exact congrArg (_ :: _ :: ·) later
  | plus => exact absurd List.mem_cons_self noPlus

/-- A character of ASCII takes one byte. -/
theorem utf8Size_of_ascii {char : Char} (ascii : char.toNat < 128) : char.utf8Size = 1 :=
  Char.utf8Size_eq_one_iff.mpr (UInt32.le_iff_toNat_le.mpr (Nat.le_of_lt_succ ascii))

/-- A digit takes one byte. -/
theorem utf8Size_of_digit {char : Char} {value : Nat} (digit : Number.hexDigit? char = some value) :
    char.utf8Size = 1 :=
  utf8Size_of_ascii (Number.ascii_of_hexDigit? digit)

/-- A plus sign is no digit. -/
theorem ne_plus_of_digit {char : Char} {value : Nat} (digit : Number.hexDigit? char = some value) :
    char ≠ '+' := by
  rintro rfl
  cases digit

/-- Two digits are a pair. -/
theorem pair?_digits {high low : Nat} (highDigit : Number.hexDigit? first = some high)
    (lowDigit : Number.hexDigit? second = some low) :
    pair? first second = some (Bytes.byte (high * 16 + low)) := by
  simp [pair?, highDigit, lowDigit, ne_plus_of_digit highDigit]

/-- A plus sign and a digit are a pair. -/
theorem pair?_plus {low : Nat} (lowDigit : Number.hexDigit? second = some low) :
    pair? '+' second = some (Bytes.byte low) := by
  simp [pair?, lowDigit]

/-- A pair stands for no byte if its second character is no digit, or its first is neither a digit
nor a plus sign. -/
theorem pair?_eq_none_iff :
    pair? first second = none ↔
      Number.hexDigit? second = none ∨ first ≠ '+' ∧ Number.hexDigit? first = none := by
  cases lowDigit : Number.hexDigit? second with
  | none => simp [pair?, lowDigit]
  | some low =>
    by_cases plus : first = '+'
    · simp [pair?, lowDigit, plus]
    · cases highDigit : Number.hexDigit? first <;> simp [pair?, lowDigit, highDigit, plus]

/-- A pair that stands for a byte begins what is spelled in pairs. -/
theorem PairsSpelled.cons {byte : UInt8} (pair : pair? first second = some byte)
    (later : PairsSpelled rest bytes) : PairsSpelled (first :: second :: rest) (byte :: bytes) := by
  cases lowDigit : Number.hexDigit? second with
  | none => simp [pair?, lowDigit] at pair
  | some low =>
    by_cases plus : first = '+'
    · subst plus
      obtain rfl := Option.some.inj ((pair?_plus lowDigit).symm.trans pair)
      exact .plus lowDigit later
    · cases highDigit : Number.hexDigit? first with
      | none => simp [pair?, lowDigit, highDigit, plus] at pair
      | some high =>
        obtain rfl := Option.some.inj ((pair?_digits highDigit lowDigit).symm.trans pair)
        exact .digits highDigit lowDigit later

/-! ## Reading in pairs -/

/-- A pair that stands for a byte gives that byte before the others. -/
theorem pairs_cons {byte : UInt8} (firstSize : first.utf8Size = 1)
    (secondSize : second.utf8Size = 1) (pair : pair? first second = some byte) :
    pairs (first :: second :: rest) = (pairs rest).map (byte :: ·) := by
  rw [pairs, if_neg (by omega), if_neg (not_not.mpr firstSize)]
  simp only [secondSize, ne_eq, not_true_eq_false, if_false, pair]

/-- Reading goes on behind pairs that stand for bytes. -/
theorem PairsSpelled.pairs_append (front : PairsSpelled chars bytes) (rest : List Char) :
    pairs (chars ++ rest) = (pairs rest).map (bytes ++ ·) := by
  induction front with
  | nil => cases read : pairs rest <;> simp [read, Except.map]
  | digits highDigit lowDigit _ ih =>
    rw [List.cons_append, List.cons_append, pairs_cons (utf8Size_of_digit highDigit)
      (utf8Size_of_digit lowDigit) (pair?_digits highDigit lowDigit), ih]
    cases pairs rest <;> rfl
  | plus lowDigit _ ih =>
    rw [List.cons_append, List.cons_append, pairs_cons rfl (utf8Size_of_digit lowDigit)
      (pair?_plus lowDigit), ih]
    cases pairs rest <;> rfl

/-- Reading stops at the first pair that stands for no byte. -/
theorem PairBroken.pairs_eq (broken : PairBroken rest fault) : pairs rest = .error fault := by
  cases broken with
  | cutFirst size =>
    rw [pairs.eq_def]
    dsimp only
    rw [if_neg (by omega), if_pos (by omega)]
  | cutSecond firstSize secondSize =>
    rw [pairs, if_neg (by omega), if_neg (not_not.mpr firstSize)]
    exact if_pos secondSize
  | wide size =>
    rw [pairs.eq_def]
    exact if_pos size
  | noDigit firstSize secondSize none =>
    rw [pairs, if_neg (by omega), if_neg (not_not.mpr firstSize)]
    simp only [secondSize, ne_eq, not_true_eq_false, if_false, pair?_eq_none_iff.mpr none]

/-- Pairs up to one that stands for no byte. -/
def Breaks (chars : List Char) (fault : InputError) : Prop :=
  ∃ front bytes rest, chars = front ++ rest ∧ PairsSpelled front bytes ∧ PairBroken rest fault

/-- A pair that stands for no byte is broken where it stands. -/
theorem PairBroken.breaks (broken : PairBroken rest fault) : Breaks rest fault :=
  ⟨[], [], rest, rfl, .nil, broken⟩

/-- What breaks further on breaks. -/
theorem Breaks.cons {byte : UInt8} (pair : pair? first second = some byte)
    (breaks : Breaks rest fault) : Breaks (first :: second :: rest) fault := by
  obtain ⟨front, bytes, rest, rfl, spelled, broken⟩ := breaks
  exact ⟨first :: second :: front, byte :: bytes, rest, rfl, spelled.cons pair, broken⟩

/-- What breaks is refused for the pair where it does. -/
theorem Breaks.pairs_eq (breaks : Breaks chars fault) : pairs chars = .error fault := by
  obtain ⟨front, bytes, rest, rfl, spelled, broken⟩ := breaks
  rw [spelled.pairs_append, broken.pairs_eq]
  rfl

/-- Pairs that stand for bytes give them. -/
theorem PairsSpelled.pairs_eq (spelled : PairsSpelled chars bytes) : pairs chars = .ok bytes := by
  have read := spelled.pairs_append []
  rw [List.append_nil] at read
  rw [read, pairs, Except.map, List.append_nil]

/-- An even number of bytes is pairs that stand for bytes, up to the end or to one that does not. -/
theorem spelled_or_breaks (chars : List Char) (even : String.utf8Len chars % 2 = 0) :
    (∃ bytes, PairsSpelled chars bytes) ∨ ∃ fault, Breaks chars fault := by
  induction chars using pairs.induct with
  | case1 => exact .inl ⟨[], .nil⟩
  | case2 first rest wide => exact .inr ⟨_, (PairBroken.wide wide).breaks⟩
  | case3 first rest notTwo notOne =>
    have positive := first.utf8Size_pos
    exact .inr ⟨_, (PairBroken.cutFirst (by omega)).breaks⟩
  | case4 first notTwo one =>
    rw [String.utf8Len_cons, String.utf8Len_nil] at even
    omega
  | case5 first notTwo one second rest cut =>
    exact .inr ⟨_, (PairBroken.cutSecond (not_not.mp one) cut).breaks⟩
  | case6 first notTwo one second rest secondOne none =>
    exact .inr ⟨_, (PairBroken.noDigit (not_not.mp one) (not_not.mp secondOne)
      (pair?_eq_none_iff.mp none)).breaks⟩
  | case7 first notTwo one second rest secondOne byte pair ih =>
    rw [String.utf8Len_cons, String.utf8Len_cons] at even
    rcases ih (by omega) with ⟨bytes, spelled⟩ | ⟨fault, breaks⟩
    · exact .inl ⟨byte :: bytes, spelled.cons pair⟩
    · exact .inr ⟨fault, breaks.cons pair⟩

/-- Pairs that stand for bytes have an even number of bytes themselves. -/
theorem PairsSpelled.even (spelled : PairsSpelled chars bytes) : String.utf8Len chars % 2 = 0 := by
  induction spelled with
  | nil => rfl
  | digits highDigit lowDigit _ ih =>
    rw [String.utf8Len_cons, String.utf8Len_cons, utf8Size_of_digit highDigit,
      utf8Size_of_digit lowDigit]
    omega
  | plus lowDigit _ ih =>
    have plusSize : '+'.utf8Size = 1 := rfl
    rw [String.utf8Len_cons, String.utf8Len_cons, plusSize, utf8Size_of_digit lowDigit]
    omega

/-- A broken pair is another fault than an odd number of bytes. -/
theorem PairBroken.ne_oddDigits (broken : PairBroken rest fault) : fault ≠ .oddDigits := by
  cases broken <;> simp

/-- A character is cut in two only if it is longer than a byte. -/
theorem PairBroken.exists_wide (broken : PairBroken rest .brokenCharacter) :
    ∃ char ∈ rest, 128 ≤ char.toNat := by
  obtain ⟨char, inside, size⟩ : ∃ char ∈ rest, char.utf8Size ≠ 1 := by
    cases broken with
    | cutFirst size => exact ⟨_, List.mem_cons_self, by omega⟩
    | cutSecond _ size => exact ⟨_, List.mem_cons_of_mem _ List.mem_cons_self, size⟩
  exact ⟨char, inside, not_lt.mp fun ascii => size (utf8Size_of_ascii ascii)⟩

/-- An even number of bytes gives bytes if all pairs do. -/
theorem pairs_eq_ok_iff (even : String.utf8Len chars % 2 = 0) :
    pairs chars = .ok bytes ↔ PairsSpelled chars bytes := by
  refine ⟨fun read => ?_, PairsSpelled.pairs_eq⟩
  rcases spelled_or_breaks chars even with ⟨found, spelled⟩ | ⟨found, breaks⟩
  · rw [spelled.pairs_eq] at read
    cases read
    exact spelled
  · rw [breaks.pairs_eq] at read
    cases read

/-- An even number of bytes is refused for the first pair that gives none. -/
theorem pairs_eq_error_iff (even : String.utf8Len chars % 2 = 0) :
    pairs chars = .error fault ↔ Breaks chars fault := by
  refine ⟨fun refused => ?_, Breaks.pairs_eq⟩
  rcases spelled_or_breaks chars even with ⟨found, spelled⟩ | ⟨found, breaks⟩
  · rw [spelled.pairs_eq] at refused
    cases refused
  · rw [breaks.pairs_eq] at refused
    cases refused
    exact breaks

/-! ## Reading a text -/

/-- What is no white space is read in pairs, if the number of its bytes is even. -/
theorem hexadecimal_eq (text : String) :
    hexadecimal text =
      if String.utf8Len (solid text) % 2 ≠ 0 then .error .oddDigits else pairs (solid text) := by
  rw [← String.utf8ByteSize_ofList]
  rfl

/-- Bytes are given by pairs that stand for them. -/
theorem hexadecimal_eq_ok_iff (text : String) (bytes : Bytes) :
    hexadecimal text = .ok bytes ↔ PairsSpelled (solid text) bytes := by
  by_cases even : String.utf8Len (solid text) % 2 = 0
  · rw [hexadecimal_eq, if_neg (not_not.mpr even)]
    exact pairs_eq_ok_iff even
  · rw [hexadecimal_eq, if_pos even]
    exact ⟨fun read => (nomatch read), fun spelled => absurd spelled.even even⟩

/-- An odd number of bytes is refused as such. -/
theorem hexadecimal_eq_oddDigits_iff (text : String) :
    hexadecimal text = .error .oddDigits ↔ String.utf8Len (solid text) % 2 ≠ 0 := by
  refine ⟨fun refused even => ?_, fun odd => by rw [hexadecimal_eq, if_pos odd]⟩
  rw [hexadecimal_eq, if_neg (not_not.mpr even)] at refused
  obtain ⟨_, _, _, _, _, broken⟩ := (pairs_eq_error_iff even).mp refused
  exact broken.ne_oddDigits rfl

/-- An even number of bytes is refused for the first pair that stands for no byte. -/
theorem hexadecimal_eq_error_iff (text : String) (other : fault ≠ .oddDigits) :
    hexadecimal text = .error fault ↔
      String.utf8Len (solid text) % 2 = 0 ∧ Breaks (solid text) fault := by
  by_cases even : String.utf8Len (solid text) % 2 = 0
  · rw [hexadecimal_eq, if_neg (not_not.mpr even)]
    exact (pairs_eq_error_iff even).trans (iff_and_self.mpr fun _ => even)
  · rw [hexadecimal_eq, if_pos even]
    exact ⟨fun refused => absurd (Except.error.inj refused).symm other, fun refused =>
      absurd refused.1 even⟩

/-- What is read as hexadecimal. Digits that spell bytes give them, whatever their case and the
white space between them, and a text without a plus sign gives bytes in no other way; in general a
pair is two digits, or a plus sign and a digit. An odd number of bytes is refused as such, and an
even one for the first pair that stands for no byte: that pair ends inside a character, which stops
the program, or has a character that is no digit. A text in ASCII does not stop the program. -/
theorem hexadecimal_decided (text : String) :
    (∀ bytes, Spells (solid text) bytes → hexadecimal text = .ok bytes) ∧
      ('+' ∉ text.toList →
        ∀ bytes, hexadecimal text = .ok bytes ↔ Spells (solid text) bytes) ∧
      (∀ bytes, hexadecimal text = .ok bytes ↔ PairsSpelled (solid text) bytes) ∧
      (hexadecimal text = .error .oddDigits ↔ String.utf8Len (solid text) % 2 ≠ 0) ∧
      (∀ fault ≠ InputError.oddDigits, hexadecimal text = .error fault ↔
        String.utf8Len (solid text) % 2 = 0 ∧ Breaks (solid text) fault) ∧
      ((∀ char ∈ text.toList, char.toNat < 128) →
        hexadecimal text ≠ .error .brokenCharacter) := by
  have solid_mem : ∀ char ∈ solid text, char ∈ text.toList := fun char => List.mem_of_mem_filter
  have spelled : ∀ bytes, Spells (solid text) bytes → hexadecimal text = .ok bytes :=
    fun bytes spells => (hexadecimal_eq_ok_iff text bytes).mpr spells.pairsSpelled
  refine ⟨spelled, fun noPlus bytes => ⟨fun read => ?_, spelled bytes⟩, hexadecimal_eq_ok_iff text,
    hexadecimal_eq_oddDigits_iff text, fun fault other => hexadecimal_eq_error_iff text other,
    fun ascii stopped => ?_⟩
  · have pairs := (hexadecimal_eq_ok_iff text bytes).mp read
    exact pairs.spells fun plus => noPlus (solid_mem _ plus)
  · obtain ⟨-, front, bytes, rest, whole, -, broken⟩ :=
      (hexadecimal_eq_error_iff text (by decide)).mp stopped
    obtain ⟨char, inside, wide⟩ := broken.exists_wide
    have inText := solid_mem char (whole ▸ List.mem_append_right front inside)
    exact absurd (ascii char inText) (not_lt.mpr wide)

/-- A plus sign and a digit are no two digits, but they give a byte; and half of a euro sign stops
the program. -/
theorem hexadecimal_lenient :
    hexadecimal "+f" = .ok [15] ∧ ¬ Spells (solid "+f") [15] ∧
      hexadecimal "€a" = .error .brokenCharacter := by
  decide +kernel

end Input

end CompactHttp
