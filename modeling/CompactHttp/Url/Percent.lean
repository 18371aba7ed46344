import CompactHttp.Text.Number
import CompactHttp.Text.Quoted
import CompactHttp.Text.Utf8

/-! # Percent encoding

Bytes that may not stand in some part of a URL are written as a percent sign and two
hexadecimal digits. Which characters of ASCII are affected depends on the part; all
others always are.
-/

namespace CompactHttp

namespace Percent

/-- A set of ASCII characters that are encoded in some part of a URL. -/
abbrev EncodeSet := Char → Bool

/-- Controls, encoded everywhere. -/
def controls : EncodeSet := fun char => char.toNat < 0x20 || char.toNat == 0x7F

/-- What is encoded in a path. -/
def path : EncodeSet := fun char => controls char || " \"#<>?`\x7b\x7d".toList.contains char

/-- What is encoded in a query. -/
def query : EncodeSet := fun char => controls char || " \"#<>".toList.contains char

/-- What is encoded in the query of a URL of a special scheme. -/
def specialQuery : EncodeSet := fun char => query char || char == '\''

/-- A byte as a percent sign and two digits. -/
def encodeByte (byte : UInt8) : String := "%" ++ (hexPadded 2 byte.toNat).toUpper

/-- A character as it is, or its bytes encoded. -/
def encodeChar (set : EncodeSet) (char : Char) : String :=
  if char.toNat < 0x80 && !set char then char.toString
  else String.join ((Utf8.encode char.toString).map encodeByte)

/-- A text with the characters of a set encoded. -/
def encode (set : EncodeSet) (chars : List Char) : String :=
  String.join (chars.map (encodeChar set))

/-- The bytes of a text in which encoded bytes are decoded. A percent sign that two digits do
not follow stays. -/
def decode : List Char → Bytes
  | [] => []
  | '%' :: high :: low :: rest =>
    match Number.hexDigit? high, Number.hexDigit? low with
    | some first, some second => Bytes.byte (first * 16 + second) :: decode rest
    | _, _ => Bytes.byte '%'.toNat :: decode (high :: low :: rest)
  | char :: rest => Utf8.encode char.toString ++ decode rest

end Percent

end CompactHttp
