import CompactHttp.Text.Number
import CompactHttp.Toml.Value

/-! # Numbers and points in time in TOML

Integers, fractions and points in time are made of letters, digits and a few signs, so
each is read as one word and told apart afterwards. Underscores may stand between two
digits. Integers have sixty-three bits and a sign; a fraction may not be too large for a
binary one of sixty-four bits.
-/

namespace CompactHttp.Toml

open CompactHttp.Number

/-- Whether a character may be part of a word. -/
def isWordChar (char : Char) : Bool := char.isAlphanum || "+-_.:".contains char

/-- Digits with the underscores between them taken out. -/
def joinDigits (digit? : Char → Option Nat) : List Char → Option (List Char)
  | [] => none
  | [last] => if (digit? last).isSome then some [last] else none
  | first :: '_' :: rest =>
    if (digit? first).isSome then (joinDigits digit? rest).map (first :: ·) else none
  | first :: rest =>
    if (digit? first).isSome then (joinDigits digit? rest).map (first :: ·) else none

/-- The value of a digit in a base up to sixteen. -/
def digitBelow? (base : Nat) (char : Char) : Option Nat := (hexDigit? char).filter (· < base)

/-- A number in digits of a base up to sixteen. -/
def number? (base : Nat) (chars : List Char) : Option Nat := do
  digitsFrom (digitBelow? base) base 0 (← joinDigits (digitBelow? base) chars)

/-- A number in decimal digits, the first of which is zero only if it is the only one. -/
def wholeDigits? (chars : List Char) : Option (List Char) :=
  (joinDigits decimalDigit? chars).filter fun digits => digits.head? != some '0' || digits.length == 1

/-- The sign of a number, and what follows. -/
def splitSign : List Char → Bool × List Char
  | '-' :: rest => (true, rest)
  | '+' :: rest => (false, rest)
  | chars => (false, chars)

/-- One more than the largest integer. -/
def integerBound : Nat := Nat.pow 2 63

/-- The integer that a word stands for. -/
def integer? (word : List Char) : Option Int :=
  let positive (value : Option Nat) : Option Int := (value.filter (· < integerBound)).map Int.ofNat
  match word with
  | '0' :: 'x' :: digits => positive (number? 16 digits)
  | '0' :: 'o' :: digits => positive (number? 8 digits)
  | '0' :: 'b' :: digits => positive (number? 2 digits)
  | _ =>
    let (negative, digits) := splitSign word
    let value := (wholeDigits? digits).bind decimal?
    if negative then (value.filter (· ≤ integerBound)).map fun value => -(value : Int)
    else positive value

/-- The smallest number that is too large: half a step above the largest binary fraction. -/
def fractionBound : Nat := (Nat.pow 2 54 - 1) * Nat.pow 2 970

/-- Whether `digits` times ten to the power of `scale` is too large. Numbers far from the
bound are told by their number of digits. -/
def isTooLarge (digits : Nat) (scale : Int) : Bool :=
  let places := ((Nat.toDigits 10 digits).length : Int) + scale
  if digits = 0 ∨ places < 300 then false
  else if 320 < places then true
  else if 0 ≤ scale then fractionBound ≤ digits * Nat.pow 10 scale.toNat
  else fractionBound * Nat.pow 10 (-scale).toNat ≤ digits

/-- The power of ten behind a fraction, zero if none is written. -/
def exponent? : List Char → Option Int
  | [] => some 0
  | mark :: rest =>
    if mark = 'e' ∨ mark = 'E' then do
      let (negative, digits) := splitSign rest
      let value ← decimal? (← joinDigits decimalDigit? digits)
      return if negative then -(value : Int) else value
    else none

/-- Whether a character may stand in a row of digits. -/
def isDigitOrBar (char : Char) : Bool := char.isDigit || char == '_'

/-- Whether a word without sign is a fraction: a whole number with a part behind a point, a
power of ten, or both. -/
def isUnsignedFraction (negative : Bool) (word : List Char) : Bool :=
  let whole := word.takeWhile isDigitOrBar
  let rest := word.drop whole.length
  let parts : Option (List Char × List Char) :=
    match rest with
    | '.' :: rest =>
      let behind := rest.takeWhile isDigitOrBar
      (joinDigits decimalDigit? behind).map fun digits => (digits, rest.drop behind.length)
    | [] => none
    | _ => some ([], rest)
  let valid : Option Bool := do
    let (behind, power) ← parts
    let before ← wholeDigits? whole
    let digits ← decimal? (before ++ behind)
    let scale ← exponent? power
    return negative || !isTooLarge digits (scale - behind.length)
  valid.getD false

/-- Whether a word is a fraction. -/
def isFraction (word : List Char) : Bool :=
  let (negative, rest) := splitSign word
  rest == ['i', 'n', 'f'] || rest == ['n', 'a', 'n'] || isUnsignedFraction negative rest

/-- The number in two digits at the front of a text, if it lies between two bounds. -/
def twoDigits? (low high : Nat) : List Char → Option (Nat × List Char)
  | tens :: ones :: rest => do
    let value := (← decimalDigit? tens) * 10 + (← decimalDigit? ones)
    if low ≤ value ∧ value ≤ high then some (value, rest) else none
  | _ => none

/-- What follows a character at the front of a text. -/
def after? (char : Char) : List Char → Option (List Char)
  | first :: rest => if first = char then some rest else none
  | [] => none

/-- How many days a month has. -/
def daysIn (year month : Nat) : Nat :=
  if month = 2 then
    if year % 4 = 0 ∧ (year % 100 ≠ 0 ∨ year % 400 = 0) then 29 else 28
  else if month ∈ [4, 6, 9, 11] then 30
  else 31

/-- What follows a date at the front of a text. -/
def afterDate? (chars : List Char) : Option (List Char) := do
  let (century, rest) ← twoDigits? 0 99 chars
  let (yearIn, rest) ← twoDigits? 0 99 rest
  let (month, rest) ← twoDigits? 1 12 (← after? '-' rest)
  let (_, rest) ← twoDigits? 1 (daysIn (century * 100 + yearIn) month) (← after? '-' rest)
  return rest

/-- What follows a time of day at the front of a text. A leap second is allowed for. -/
def afterTime? (chars : List Char) : Option (List Char) := do
  let (_, rest) ← twoDigits? 0 23 chars
  let (_, rest) ← twoDigits? 0 59 (← after? ':' rest)
  let (_, rest) ← twoDigits? 0 60 (← after? ':' rest)
  match rest with
  | '.' :: digit :: rest => if digit.isDigit then some (rest.dropWhile Char.isDigit) else none
  | _ => some rest

/-- Whether a text is nothing or the distance of a clock from the common one. -/
def isClockOffset : List Char → Bool
  | [] => true
  | [mark] => mark == 'Z' || mark == 'z'
  | sign :: rest =>
    (sign == '+' || sign == '-') &&
      ((do
        let (_, rest) ← twoDigits? 0 23 rest
        let (_, rest) ← twoDigits? 0 59 (← after? ':' rest)
        return rest.isEmpty : Option Bool).getD false)

/-- Whether a text is a time of day on some clock. -/
def isClockTime (chars : List Char) : Bool :=
  ((afterTime? chars).map isClockOffset).getD false

/-- Whether a word is a date. -/
def isDate (word : List Char) : Bool := afterDate? word == some []

/-- Whether a word is a point in time: a date, a time of day, or both. -/
def isMoment (word : List Char) : Bool :=
  match afterDate? word with
  | some (mark :: time) => (mark == 'T' || mark == 't') && isClockTime time
  | some [] => true
  | none => afterTime? word == some []

/-- The value that a word stands for. -/
def ofWord? (word : List Char) : Option Value :=
  if word = "true".toList then some (.boolean true)
  else if word = "false".toList then some (.boolean false)
  else if isMoment word then some (.moment (String.ofList word))
  else if isFraction word then some (.fraction (String.ofList word))
  else (integer? word).map .integer

/-- The value that a word at the front of a text stands for. A date may be followed by a
blank and a time of day. -/
def scalar (chars : List Char) : Option (Value × List Char) :=
  let word := chars.takeWhile isWordChar
  let rest := chars.drop word.length
  let time := (rest.drop 1).takeWhile isWordChar
  if isDate word ∧ rest.head? = some ' ' ∧ time ≠ [] then
    if isClockTime time then
      some (.moment (String.ofList (word ++ ' ' :: time)), rest.drop (1 + time.length))
    else none
  else (ofWord? word).map fun value => (value, rest)

end CompactHttp.Toml
