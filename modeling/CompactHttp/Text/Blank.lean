import CompactHttp.Text.CharRanges

/-! # White space

The characters that count as white space, in ASCII and beyond, and the text without
those at its ends.
-/

namespace CompactHttp

namespace Blank

/-- The white space characters. -/
def ranges : CharRanges :=
  [(0x9, 0xD), (0x20, 0x20), (0x85, 0x85), (0xA0, 0xA0), (0x1680, 0x1680), (0x2000, 0x200A),
   (0x2028, 0x2029), (0x202F, 0x202F), (0x205F, 0x205F), (0x3000, 0x3000)]

/-- Whether a character is white space. -/
def isBlank (char : Char) : Bool := ranges.contains char

/-- The characters without the white space at both ends. -/
def trimChars (chars : List Char) : List Char :=
  ((chars.dropWhile isBlank).reverse.dropWhile isBlank).reverse

/-- The text without the white space at both ends. -/
def trim (text : String) : String := String.ofList (trimChars text.toList)

end Blank

end CompactHttp
