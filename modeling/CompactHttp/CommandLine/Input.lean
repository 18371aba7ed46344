import CompactHttp.Base64
import CompactHttp.Text.Blank
import CompactHttp.Text.Number
import CompactHttp.Text.Utf8

/-! # Bytes on the command line

Bytes are given in hexadecimal, with white space anywhere, or in base64, with white space
around it. Hexadecimal is read in pairs of bytes of the text: a pair is two digits, or a
plus sign and a digit. A pair that cuts a character in two stops the program.
-/

namespace CompactHttp

/-- Why a text gives no bytes. -/
inductive InputError where
  /-- The number of digits is odd. -/
  | oddDigits
  /-- A pair is no number. -/
  | invalidDigit
  /-- A pair ends inside a character. -/
  | brokenCharacter
  | invalidBase64 (cause : Base64Error)
deriving DecidableEq, Repr

namespace Input

/-- The byte that two characters stand for. -/
def pair? (first second : Char) : Option UInt8 := do
  let low ← Number.hexDigit? second
  if first = '+' then return Bytes.byte low
  return Bytes.byte ((← Number.hexDigit? first) * 16 + low)

/-- The bytes that pairs of digits stand for. -/
def pairs : List Char → Except InputError Bytes
  | [] => .ok []
  | first :: rest =>
    if first.utf8Size = 2 then .error .invalidDigit
    else if first.utf8Size ≠ 1 then .error .brokenCharacter
    else
      match rest with
      | [] => .error .oddDigits
      | second :: rest =>
        if second.utf8Size ≠ 1 then .error .brokenCharacter
        else
          match pair? first second with
          | none => .error .invalidDigit
          | some byte => (pairs rest).map (byte :: ·)

/-- The bytes that a text gives in hexadecimal. -/
def hexadecimal (text : String) : Except InputError Bytes :=
  let digits := text.toList.filter fun char => !Blank.isBlank char
  if (String.ofList digits).utf8ByteSize % 2 ≠ 0 then .error .oddDigits else pairs digits

/-- The bytes that a text gives in base64. -/
def base64 (text : String) : Except InputError Bytes :=
  match Base64.decode (Utf8.encode (Blank.trim text)) with
  | .ok bytes => .ok bytes
  | .error cause => .error (.invalidBase64 cause)

end Input

end CompactHttp
