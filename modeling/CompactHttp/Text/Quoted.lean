import CompactHttp.Text.PrintTable

/-! # Quoted text

A text between double quotes, in which every character can be told apart by eye: line
breaks, tabs, quotes and backslashes have a short escape, and what does not show on
its own is written by its code point in hexadecimal.
-/

namespace CompactHttp

/-- A digit of base sixteen, in small letters. -/
def hexDigit (value : Nat) : Char := Nat.digitChar value

/-- A number in base sixteen, without leading zeros. -/
def hexNumber (value : Nat) : String := String.ofList (Nat.toDigits 16 value)

/-- A number in base sixteen, filled up with zeros to at least `width` digits. -/
def hexPadded (width value : Nat) : String :=
  let digits := Nat.toDigits 16 value
  String.ofList (List.replicate (width - digits.length) '0' ++ digits)

namespace Quoted

/-- Whether a character is written as itself. -/
def isPlain (char : Char) : Bool :=
  if char.toNat < 0x7F then 0x20 ≤ char.toNat
  else !PrintTable.attached.contains char && PrintTable.visible.contains char

/-- What is written for a character between the quotes. -/
def escape (char : Char) : String :=
  match char with
  | '\x00' => "\\0"
  | '\t' => "\\t"
  | '\r' => "\\r"
  | '\n' => "\\n"
  | '"' => "\\\""
  | '\\' => "\\\\"
  | char =>
    if isPlain char then char.toString else "\\u\x7b" ++ hexNumber char.toNat ++ "\x7d"

end Quoted

/-- A text between quotes. -/
def quoted (text : String) : String :=
  "\"" ++ String.join (text.toList.map Quoted.escape) ++ "\""

end CompactHttp
