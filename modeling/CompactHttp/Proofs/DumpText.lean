import CompactHttp.Dump.Sheet
import CompactHttp.Proofs.HexInput

/-! # What a line of a dump reads

The text of a row begins with its offset in base sixteen, which is read back as that number, and
shows its bytes: the first sixteen in a column of fixed width before what they mean, and the others,
up to the hundred and twenty-eighth, below (`Dump.RowText`). What is shown can be read as
hexadecimal again. Every line of a sheet is printed like this (`Dump.Line.reads_text`), and the
offset can be read from the text alone (`Dump.RowText.offset?_text`).
-/

namespace CompactHttp

namespace Number

/-! ## Numbers in base sixteen -/

/-- Digits behind others are read on from the value of those. -/
theorem digitsFrom_append (digit? : Char → Option Nat) (base value : Nat) (front back : List Char) :
    digitsFrom digit? base value (front ++ back) =
      (digitsFrom digit? base value front).bind fun value =>
        digitsFrom digit? base value back := by
  induction front generalizing value with
  | nil => rfl
  | cons char front ih =>
    rw [List.cons_append, digitsFrom, digitsFrom]
    cases digit? char with
    | none => rfl
    | some digit => exact ih (value * base + digit)

/-- A number is read from nothing but digits. -/
theorem digit_of_digitsFrom {digit? : Char → Option Nat} {base value number : Nat}
    {chars : List Char} (reads : digitsFrom digit? base value chars = some number) :
    ∀ char ∈ chars, ∃ digit, digit? char = some digit := by
  induction chars generalizing value with
  | nil => exact fun _ member => (nomatch member)
  | cons char rest ih =>
    rw [digitsFrom] at reads
    split at reads
    · next digit found => exact List.forall_mem_cons.mpr ⟨⟨digit, found⟩, ih reads⟩
    · cases reads

/-- Digits are written in small letters, and are no white space. -/
theorem hexDigit_small : ∀ value < 16,
    (hexDigit value).toLower = hexDigit value ∧ Blank.isBlank (hexDigit value) = false := by
  decide

/-- A digit that is written for a value is read as that value. -/
theorem hexDigit?_hexDigit {value : Nat} (small : value < 16) :
    hexDigit? (hexDigit value) = some value :=
  hexDigit?_eq_some_iff.mpr ⟨small, (hexDigit_small value small).1⟩

/-- Zeros before a number do not change it. -/
theorem digitsFrom_zeros (count : Nat) :
    digitsFrom hexDigit? 16 0 (List.replicate count '0') = some 0 := by
  induction count with
  | zero => rfl
  | succ count ih => exact ih

/-- The digits of a number are read as that number. -/
theorem digitsFrom_toDigits (number : Nat) :
    digitsFrom hexDigit? 16 0 (Nat.toDigits 16 number) = some number := by
  induction number using Nat.strongRecOn with
  | ind number ih =>
    have last (value : Nat) : digitsFrom hexDigit? 16 value [hexDigit (number % 16)] =
        some (value * 16 + number % 16) := by
      rw [digitsFrom, hexDigit?_hexDigit (Nat.mod_lt _ (by decide))]
      rfl
    rw [Nat.toDigits_eq_if (by decide)]
    split
    · next small =>
      have alone := last 0
      rwa [Nat.mod_eq_of_lt small, Nat.zero_mul, Nat.zero_add] at alone
    · next large =>
      rw [digitsFrom_append, ih _ (by omega), Option.bind_some]
      exact (last _).trans (congrArg some (Nat.div_add_mod' number 16))

/-- At least one digit is a number if all of them are digits. -/
theorem hex?_of_ne_nil {chars : List Char} (some : chars ≠ []) :
    hex? chars = digitsFrom hexDigit? 16 0 chars := by
  cases chars with
  | nil => exact absurd rfl some
  | cons => rfl

/-- A number that is written in base sixteen is read back, with or without zeros before it. -/
theorem hex?_hexPadded (width number : Nat) :
    hex? (hexPadded width number).toList = some number := by
  have some := Nat.toDigits_ne_nil (n := number) (b := 16)
  rw [hexPadded, String.toList_ofList, hex?_of_ne_nil (List.append_ne_nil_of_right_ne_nil _ some),
    digitsFrom_append, digitsFrom_zeros, Option.bind_some, digitsFrom_toDigits]

end Number

/-- A number takes as many digits as it needs, and at least those that are asked for. -/
theorem length_hexPadded (width number : Nat) :
    (hexPadded width number).length = max width (Nat.toDigits 16 number).length := by
  rw [hexPadded, String.length_ofList, List.length_append, List.length_replicate]
  omega

/-- A byte takes two digits, its halves. -/
theorem toList_hexPadded_byte (byte : UInt8) : (hexPadded 2 byte.toNat).toList =
    [hexDigit (byte.toNat / 16), hexDigit (byte.toNat % 16)] := by
  have narrow := byte.toNat_lt
  rw [hexPadded, String.toList_ofList, Nat.toDigits_eq_if (by decide)]
  split
  · next small =>
    rw [Nat.div_eq_of_lt small, Nat.mod_eq_of_lt small]
    rfl
  · next large =>
    rw [Nat.toDigits_of_lt_base (by omega)]
    rfl

namespace Input

/-! ## Texts with white space in them -/

theorem solid_append (text more : String) : solid (text ++ more) = solid text ++ solid more := by
  rw [solid, String.toList_append, List.filter_append, solid, solid]

theorem hexDigits_cons (byte : UInt8) (bytes : Bytes) :
    hexDigits (byte :: bytes) =
      [hexDigit (byte.toNat / 16), hexDigit (byte.toNat % 16)] ++ hexDigits bytes :=
  List.flatMap_cons

theorem hexDigits_append (bytes more : Bytes) :
    hexDigits (bytes ++ more) = hexDigits bytes ++ hexDigits more :=
  List.flatMap_append

theorem halves_lt (byte : UInt8) : byte.toNat / 16 < 16 ∧ byte.toNat % 16 < 16 := by
  have narrow := byte.toNat_lt
  omega

/-- The digits of bytes spell them. -/
theorem spells_hexDigits (bytes : Bytes) : Spells (hexDigits bytes) bytes := by
  induction bytes with
  | nil => rfl
  | cons byte bytes ih =>
    obtain ⟨high, low⟩ := halves_lt byte
    rw [Spells, hexDigits_cons, List.map_append, List.map_cons, List.map_cons, List.map_nil,
      (Number.hexDigit_small _ high).1, (Number.hexDigit_small _ low).1, ih]

/-- A text with the digits of bytes and white space gives those bytes. -/
theorem hexadecimal_of_solid {text : String} {bytes : Bytes}
    (digits : solid text = hexDigits bytes) : hexadecimal text = .ok bytes := by
  rw [hexadecimal_eq_ok_iff, digits]
  exact (spells_hexDigits bytes).pairsSpelled

/-- There is no white space in a byte. -/
theorem solid_byte (byte : UInt8) : solid (hexPadded 2 byte.toNat) =
    [hexDigit (byte.toNat / 16), hexDigit (byte.toNat % 16)] := by
  obtain ⟨high, low⟩ := halves_lt byte
  rw [solid, toList_hexPadded_byte]
  simp [(Number.hexDigit_small _ high).2, (Number.hexDigit_small _ low).2]

end Input

namespace Dump

open Input (solid hexDigits)

variable {offset : Nat} {bytes : Bytes}

/-! ## Bytes in a line -/

/-- Bytes are written with a space behind each but the last. -/
theorem hexBytes_cons_cons (first second : UInt8) (rest : Bytes) :
    hexBytes (first :: second :: rest) =
      hexPadded 2 first.toNat ++ " " ++ hexBytes (second :: rest) := by
  simp only [hexBytes, List.map_cons, String.intercalate_cons_cons]

theorem hexBytes_singleton (byte : UInt8) : hexBytes [byte] = hexPadded 2 byte.toNat :=
  String.intercalate_singleton

/-- A line of bytes has their digits in it. -/
theorem solid_hexBytes (bytes : Bytes) : solid (hexBytes bytes) = hexDigits bytes := by
  induction bytes with
  | nil => rfl
  | cons byte bytes ih =>
    cases bytes with
    | nil => rw [hexBytes_singleton, Input.solid_byte]; rfl
    | cons second rest =>
      have space : solid " " = [] := rfl
      rw [hexBytes_cons_cons, Input.solid_append, Input.solid_append, Input.solid_byte, ih, space,
        List.append_nil, ← Input.hexDigits_cons]

/-- A byte takes at most three places in a line. -/
theorem length_hexBytes_le (bytes : Bytes) : (hexBytes bytes).length ≤ 3 * bytes.length := by
  have two (byte : UInt8) : (hexPadded 2 byte.toNat).length = 2 := by
    rw [← String.length_toList, toList_hexPadded_byte]
    rfl
  induction bytes with
  | nil => exact Nat.le_refl 0
  | cons byte bytes ih =>
    cases bytes with
    | nil =>
      rw [hexBytes_singleton, two, List.length_singleton]
      decide
    | cons second rest =>
      have space : " ".length = 1 := rfl
      rw [hexBytes_cons_cons, String.length_append, String.length_append, two, space]
      simp only [List.length_cons] at ih ⊢
      omega

theorem length_padded (width : Nat) (text : String) :
    (padded width text).length = max width text.length := by
  rw [padded, String.length_append, String.length_ofList, List.length_replicate]
  omega

/-- Filling up a text adds white space only. -/
theorem solid_padded (width : Nat) (text : String) : solid (padded width text) = solid text := by
  have spaces (count : Nat) : solid (String.ofList (List.replicate count ' ')) = [] := by
    rw [solid, String.toList_ofList]
    exact List.filter_replicate_of_neg (by decide)
  rw [padded, Input.solid_append, spaces, List.append_nil]

/-! ## Bytes in several lines -/

theorem chunks_nil : chunks [] = [] := by
  rw [chunks]
  rfl

/-- The first line holds as many bytes as fit, the others the rest. -/
theorem chunks_of_ne_nil (some : bytes ≠ []) :
    chunks bytes = bytes.take lineSize :: chunks (bytes.drop lineSize) := by
  rw [chunks, if_neg (by rwa [List.isEmpty_iff])]

/-- The lines that bytes are cut into hold all of them. -/
theorem flatten_chunks (bytes : Bytes) : (chunks bytes).flatten = bytes := by
  induction bytes using chunks.induct with
  | case1 bytes none =>
    obtain rfl := List.isEmpty_iff.mp none
    rw [chunks_nil, List.flatten_nil]
  | case2 bytes some ih =>
    rw [chunks_of_ne_nil fun none => some (List.isEmpty_iff.mpr none), List.flatten_cons, ih,
      List.take_append_drop]

/-- The first line shows the first bytes, if there are any. -/
theorem head_chunks (bytes : Bytes) :
    ((chunks bytes).map hexBytes).headD "" = hexBytes (bytes.take lineSize) := by
  by_cases none : bytes = []
  · rw [none, chunks_nil]
    rfl
  · rw [chunks_of_ne_nil none]
    rfl

/-- The other lines show the bytes behind them. -/
theorem tail_chunks (bytes : Bytes) : (chunks bytes).tail = chunks (bytes.drop lineSize) := by
  by_cases none : bytes = []
  · rw [none, List.drop_nil, chunks_nil, List.tail_nil]
  · rw [chunks_of_ne_nil none, List.tail_cons]

/-- Lines one below another. -/
def column (lines : List Bytes) : String :=
  String.join ((lines.map hexBytes).map fun line => "        " ++ line ++ "\n")

/-- Lines below one another hold the digits of all their bytes. -/
theorem solid_column (lines : List Bytes) : solid (column lines) = hexDigits lines.flatten := by
  induction lines with
  | nil => rfl
  | cons line lines ih =>
    have margin : solid "        " = [] := rfl
    have ending : solid "\n" = [] := rfl
    rw [column, List.map_cons, List.map_cons, String.join_cons, Input.solid_append,
      Input.solid_append, Input.solid_append, solid_hexBytes, margin, ending, List.flatten_cons,
      Input.hexDigits_append, List.nil_append, List.append_nil]
    exact congrArg _ ih

/-! ## Lines of a dump -/

/-- The parts of a text that shows bytes at an offset: the digits of the offset, the column of the
first bytes, and the lines below it. -/
structure RowText (offset : Nat) (bytes : Bytes) where
  digits : String
  first : String
  below : String
  /-- The digits are those of the offset, -/
  placed : Number.hex? digits.toList = some offset
  /-- and there are four of them if that is enough. -/
  wide : digits.length = max 4 (Nat.toDigits 16 offset).length
  /-- What the bytes mean begins in the same place in every row. -/
  aligned : first.length = columnWidth
  shown : Input.hexadecimal first = .ok (bytes.take lineSize)
  continued : Input.hexadecimal below = .ok ((bytes.take shownSize).drop lineSize)

/-- The whole text, with what the bytes mean behind the first of them. Of bytes that are not all
shown it says how many there are. -/
def RowText.text (parts : RowText offset bytes) (meaning : String) : String :=
  "0x" ++ parts.digits ++ "  " ++ parts.first ++ meaning ++ "\n" ++ parts.below ++
    if shownSize < bytes.length then
      "        ... " ++ toString bytes.length ++ " bytes total, " ++ toString shownSize ++
        " shown\n"
    else ""

/-- The offset that the text of a row begins with: what stands behind `0x`, up to a space. -/
def offset? (text : String) : Option Nat :=
  Number.hex? ((text.toList.drop 2).takeWhile (· ≠ ' '))

/-- However a row is printed, its offset can be read from it. -/
theorem RowText.offset?_text (parts : RowText offset bytes) (meaning : String) :
    offset? (parts.text meaning) = some offset := by
  obtain ⟨rest, begins⟩ : ∃ rest, (parts.text meaning).toList =
      '0' :: 'x' :: (parts.digits.toList ++ ' ' :: rest) := by
    have mark : "0x".toList = ['0', 'x'] := rfl
    have space : "  ".toList = [' ', ' '] := rfl
    simp only [RowText.text, String.toList_append, mark, space, List.append_assoc]
    exact ⟨_, rfl⟩
  have solid : ∀ char ∈ parts.digits.toList, decide (char ≠ ' ') = true := by
    intro char member
    have some : parts.digits.toList ≠ [] := List.ne_nil_of_mem member
    have reads := parts.placed
    rw [Number.hex?_of_ne_nil some] at reads
    obtain ⟨digit, found⟩ := Number.digit_of_digitsFrom reads char member
    refine decide_eq_true ?_
    rintro rfl
    cases found
  rw [offset?, begins, List.drop_succ_cons, List.drop_succ_cons, List.drop_zero,
    List.takeWhile_append_of_pos solid, List.takeWhile_cons_of_neg (by decide), List.append_nil]
  exact parts.placed

/-- The parts of a row as it is laid out. -/
def rowText (offset : Nat) (bytes : Bytes) : RowText offset bytes where
  digits := hexPadded 4 offset
  first := padded columnWidth (hexBytes (bytes.take lineSize))
  below := column (chunks ((bytes.take shownSize).drop lineSize))
  placed := Number.hex?_hexPadded 4 offset
  wide := length_hexPadded 4 offset
  aligned := by
    have short := length_hexBytes_le (bytes.take lineSize)
    have few : (bytes.take lineSize).length ≤ 16 := List.length_take_le ..
    rw [length_padded]
    exact Nat.max_eq_left (show _ ≤ 49 by omega)
  shown := by
    apply Input.hexadecimal_of_solid
    rw [solid_padded, solid_hexBytes]
  continued := by
    apply Input.hexadecimal_of_solid
    rw [solid_column, flatten_chunks]

/-- A row is laid out as a text of its offset and its bytes. -/
theorem layoutRow_eq (offset : Nat) (bytes : Bytes) (meaning : String) :
    layoutRow offset bytes meaning = (rowText offset bytes).text meaning := by
  have front : (bytes.take shownSize).take lineSize = bytes.take lineSize := by
    rw [List.take_take]
    rfl
  unfold layoutRow
  dsimp only
  -- Without bytes there are no lines, and the first of none is as empty as that of no bytes.
  rw [head_chunks, ← List.map_tail, tail_chunks, front]
  simp only [RowText.text, rowText, column, String.append_assoc]

/-- What is printed for a line: an empty line for a gap, and for a row its offset, its bytes and
what they mean. -/
def Line.Reads : Line → String → Prop
  | row offset bytes meaning, text => ∃ parts : RowText offset bytes, text = parts.text meaning
  | gap, text => text = "\n"

/-- Every line is printed like this. -/
theorem Line.reads_text (line : Line) : line.Reads line.text := by
  cases line with
  | row offset bytes meaning => exact ⟨rowText offset bytes, layoutRow_eq offset bytes meaning⟩
  | gap => rfl

theorem Sheet.reads_texts (sheet : Sheet) :
    List.Forall₂ Line.Reads sheet.lines (sheet.lines.map Line.text) :=
  List.forall₂_map_right_iff.mpr (List.forall₂_same.mpr fun line _ => line.reads_text)

end Dump

end CompactHttp
