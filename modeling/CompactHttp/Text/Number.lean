/-! # Numbers in text

Unsigned numbers in decimal and hexadecimal digits. A number has at least one digit, and
only ASCII digits count.
-/

namespace CompactHttp

namespace Number

/-- The value of a decimal digit. -/
def decimalDigit? (char : Char) : Option Nat :=
  if '0' ≤ char ∧ char ≤ '9' then some (char.toNat - '0'.toNat) else none

/-- The value of a hexadecimal digit, in capitals or small letters. -/
def hexDigit? (char : Char) : Option Nat :=
  if '0' ≤ char ∧ char ≤ '9' then some (char.toNat - '0'.toNat)
  else if 'a' ≤ char ∧ char ≤ 'f' then some (char.toNat - 'a'.toNat + 10)
  else if 'A' ≤ char ∧ char ≤ 'F' then some (char.toNat - 'A'.toNat + 10)
  else none

/-- The number made of `value` and the digits that follow. -/
def digitsFrom (digit? : Char → Option Nat) (base : Nat) (value : Nat) : List Char → Option Nat
  | [] => some value
  | char :: rest =>
    match digit? char with
    | some digit => digitsFrom digit? base (value * base + digit) rest
    | none => none

/-- The number written in decimal digits. -/
def decimal? : List Char → Option Nat
  | [] => none
  | chars => digitsFrom decimalDigit? 10 0 chars

/-- The number written in hexadecimal digits. -/
def hex? : List Char → Option Nat
  | [] => none
  | chars => digitsFrom hexDigit? 16 0 chars

/-- The number in decimal digits, with or without a plus sign before them, if it is below a
bound. -/
def unsignedBelow? (bound : Nat) (text : String) : Option Nat :=
  let digits :=
    match text.toList with
    | '+' :: digits => digits
    | digits => digits
  (decimal? digits).filter (· < bound)

end Number

/-- The parts of a text between the occurrences of a separator. -/
def splitAtChar (separator : Char) : List Char → List (List Char)
  | [] => [[]]
  | char :: rest =>
    match splitAtChar separator rest with
    | [] => [[char]]
    | first :: others =>
      if char = separator then [] :: first :: others else (char :: first) :: others

/-- What stands before and after the last occurrence of a separator. -/
def splitAtLast (separator : Char) (chars : List Char) : Option (List Char × List Char) :=
  let back := (chars.reverse.takeWhile (· ≠ separator)).reverse
  if back.length = chars.length then none
  else some (chars.take (chars.length - back.length - 1), back)

end CompactHttp
