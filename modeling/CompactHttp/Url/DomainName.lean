import CompactHttp.Text.Lowercase
import CompactHttp.Text.Number
import CompactHttp.Text.PrintTable
import CompactHttp.Text.Utf8
import CompactHttp.Url.Punycode

/-! # Domain names

A domain name is brought to its ASCII form: characters give way to the ones they stand for
(capitals to small letters, wide forms to ordinary ones, other full stops to the full
stop), some are left out, and a label with characters beyond ASCII is written in Punycode
behind `xn--`. A name with a character that may not stand in a domain, or with a label
that only pretends to be written in Punycode, is refused.

This is a part of UTS 46 only. Of its mapping there are the letters, the wide forms of
ASCII, the full stops and the characters that are left out. The other compatibility
characters (ligatures such as `ﬁ`, superscripts, circled and half-width letters) stay as
they are, where the standard puts `fi` and the like in their place. There is no
normalization (NFC): a letter and a mark behind it are not put together. The rules for
right-to-left text and for joiners are left out too.
-/

namespace CompactHttp

namespace DomainName

/-- ASCII characters that may not stand in a domain name. -/
def isForbidden (char : Char) : Bool :=
  char.toNat ≤ 0x20 || char.toNat == 0x7F || "%#/:<>?@[\\]^|".toList.contains char

/-- Characters that are left out. -/
def ignored : CharRanges :=
  [(0xAD, 0xAD), (0x34F, 0x34F), (0x180B, 0x180D), (0x180F, 0x180F), (0x200B, 0x200B),
   (0x2060, 0x2060), (0x2064, 0x2064), (0xFE00, 0xFE0F), (0xFEFF, 0xFEFF), (0xE0100, 0xE01EF)]

/-- Characters that stand for the full stop between labels. -/
def fullStops : List Char := ['\u3002', '\uFF0E', '\uFF61']

/-- The characters that a character stands for: small letters for capitals, ASCII for its wide
forms, a full stop for another one, and none for a character that is left out. Every other
character stands for itself, also where UTS 46 has a compatibility mapping for it (`ﬁ` is not
`fi` here), and what comes out is not normalized. -/
def mapChar (char : Char) : List Char :=
  if char.toNat < 0x80 then [char.toLower]
  else if CharRanges.contains ignored char then []
  else if fullStops.contains char then ['.']
  else if 0xFF01 ≤ char.toNat ∧ char.toNat ≤ 0xFF5E then
    [(Char.ofNat (char.toNat - 0xFEE0)).toLower]
  else
    match char with
    | 'ẞ' => ['s', 's']
    | 'ſ' => ['s']
    | 'İ' => ['i', '\u0307']
    | char => [Lowercase.letter char]

/-- Whether a character may stand in a label. -/
def isAllowed (char : Char) : Bool :=
  if char.toNat < 0x80 then !isForbidden char
  else PrintTable.visible.contains char && char != '\uFFFC' && char != '\uFFFD' &&
    Lowercase.letter char == char

/-- Whether a label is sound: it starts with no mark, and all of it may stand there. -/
def isSoundLabel (label : List Char) : Bool :=
  label.all isAllowed && !(label.head?.any PrintTable.attached.contains)

/-- How a label in Punycode begins. -/
def punycodeMark : List Char := ['x', 'n', '-', '-']

/-- The ASCII form of a label. -/
def labelToAscii (label : List Char) : Option (List Char) :=
  if punycodeMark.isPrefixOf label then
    match Punycode.decode? (label.drop 4) with
    | some inner =>
      if isSoundLabel inner && inner.any (0x80 ≤ ·.toNat) &&
          Punycode.encode inner == label.drop 4 then some label
      else none
    | none => none
  else if !isSoundLabel label then none
  else if label.all (·.toNat < 0x80) then some label
  else some (punycodeMark ++ Punycode.encode label)

/-- The ASCII form of a domain name given by its bytes. -/
def toAscii (name : Bytes) : Option (List Char) := do
  let text ← Utf8.decode name
  let labels ← (splitAtChar '.' (text.toList.flatMap mapChar)).mapM labelToAscii
  return ['.'].intercalate labels

end DomainName

end CompactHttp
