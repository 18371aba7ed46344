/-! # Punycode

Labels of domain names hold ASCII only. A label with other characters is written as its
ASCII characters, a hyphen, and the places and values of the others as a sequence of
numbers in base thirty-six, whose digits have weights that adapt to the numbers seen.
-/

namespace CompactHttp

namespace Punycode

/-- The base of the numbers. -/
def base : Nat := 36

/-- The first character that is not written as itself. -/
def firstCode : Nat := 128

/-- The bias at the start. -/
def firstBias : Nat := 72

/-- The largest number that may occur. -/
def limit : Nat := Nat.pow 2 32

/-- The character of a digit. -/
def digitChar (digit : Nat) : Char :=
  if digit < 26 then Char.ofNat ('a'.toNat + digit) else Char.ofNat ('0'.toNat + (digit - 26))

/-- The digit of a character. -/
def digit? (char : Char) : Option Nat :=
  if 'a' ≤ char ∧ char ≤ 'z' then some (char.toNat - 'a'.toNat)
  else if 'A' ≤ char ∧ char ≤ 'Z' then some (char.toNat - 'A'.toNat)
  else if '0' ≤ char ∧ char ≤ '9' then some (char.toNat - '0'.toNat + 26)
  else none

/-- The digit below which a number ends, at a position of the number. -/
def threshold (position bias : Nat) : Nat := min 26 (max 1 (position - bias))

/-- A threshold is at least one. -/
theorem threshold_pos (position bias : Nat) : 1 ≤ threshold position bias := by
  unfold threshold
  omega

/-- A threshold is below the base. -/
theorem threshold_lt (position bias : Nat) : threshold position bias < base := by
  unfold threshold base
  omega

/-- Brings a number down to what two digits hold, counting the positions that takes. -/
def scale (number position : Nat) : Nat × Nat :=
  if 455 < number then scale (number / 35) (position + base) else (number, position)
termination_by number
decreasing_by omega

/-- The bias after a number, with so many characters placed. -/
def adapt (number count : Nat) (isFirst : Bool) : Nat :=
  let halved := if isFirst then number / 700 else number / 2
  let (rest, position) := scale (halved + halved / count) 0
  position + base * rest / (rest + 38)

/-- The digits of a number from a position on. -/
def encodeNumber (bias position number : Nat) : List Char :=
  let least := threshold position bias
  if number < least then [digitChar number]
  else
    digitChar (least + (number - least) % (base - least)) ::
      encodeNumber bias (position + base) ((number - least) / (base - least))
termination_by number
decreasing_by
  have pos := threshold_pos position bias
  have := Nat.div_le_self (number - threshold position bias) (base - threshold position bias)
  omega

/-- What has been written, the number since the last character, the bias, and how many
characters have been placed. -/
structure Writing where
  written : List Char
  number : Nat
  bias : Nat
  placed : Nat

/-- Passes over a character of the label while characters of value `code` are placed. -/
def placeChar (basic code : Nat) (state : Writing) (char : Char) : Writing :=
  if char.toNat < code then { state with number := state.number + 1 }
  else if char.toNat = code then
    ⟨state.written ++ encodeNumber state.bias base state.number, 0,
      adapt state.number (state.placed + 1) (state.placed == basic), state.placed + 1⟩
  else state

/-- Places the characters of the given values, in rising order, from `next` on. -/
def placeAll (label : List Char) (basic : Nat) : (codes : List Nat) → (next : Nat) → Writing → Writing
  | [], _, state => state
  | code :: codes, next, state =>
    let state := { state with number := state.number + (code - next) * (state.placed + 1) }
    let state := label.foldl (placeChar basic code) state
    placeAll label basic codes (code + 1) { state with number := state.number + 1 }

/-- The written form of a label. -/
def encode (label : List Char) : List Char :=
  let basic := label.filter fun char => char.toNat < firstCode
  let codes := ((label.filter fun char => firstCode ≤ char.toNat).map Char.toNat).eraseDups
  let start := if basic.isEmpty then [] else basic ++ ['-']
  (placeAll label basic.length (codes.mergeSort (· ≤ ·)) firstCode
    ⟨start, 0, firstBias, basic.length⟩).written

/-- Reads the digits of a number from a position on, each counting `weight` times. -/
def decodeNumber (bias : Nat) : (position weight number : Nat) → List Char →
    Option (Nat × List Char)
  | _, _, _, [] => none
  | position, weight, number, char :: rest =>
    match digit? char with
    | none => none
    | some digit =>
      let number := number + digit * weight
      let least := threshold position bias
      if limit ≤ number then none
      else if digit < least then some (number, rest)
      else decodeNumber bias (position + base) (weight * (base - least)) number rest

/-- A code point as a character, if it is one. -/
def char? (code : Nat) : Option Char :=
  if code < 0xD800 ∨ (0xDFFF < code ∧ code < 0x110000) then some (Char.ofNat code) else none

/-- Inserts the characters that the digits name into a label, from a place and a value on. The
fuel is at least the number of digits. -/
def insertAll : (fuel : Nat) → (label : List Char) → (place code bias : Nat) → (digits : List Char) →
    Option (List Char)
  | _, label, _, _, _, [] => some label
  | 0, _, _, _, _, _ :: _ => none
  | fuel + 1, label, place, code, bias, digits => do
    let (number, digits) ← decodeNumber bias base 1 0 digits
    let count := label.length + 1
    let total := place + number
    let code := code + total / count
    let next := total % count
    let char ← char? code
    insertAll fuel (label.take next ++ char :: label.drop next) (next + 1) code
      (adapt number count (place == 0)) digits

/-- The ASCII characters of a written label and the digits after them: what stands before and
after the last hyphen. -/
def splitBasic (written : List Char) : List Char × List Char :=
  let digits := (written.reverse.takeWhile (· ≠ '-')).reverse
  if digits.length = written.length then ([], written)
  else (written.take (written.length - digits.length - 1), digits)

/-- The label that a text is the written form of. -/
def decode? (written : List Char) : Option (List Char) :=
  let (basic, digits) := splitBasic written
  if basic.all fun char => char.toNat < firstCode then
    insertAll digits.length basic 0 firstCode firstBias digits
  else none

end Punycode

end CompactHttp
