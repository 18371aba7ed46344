import CompactHttp.Text.Number

/-! # Text in TOML

A text stands in quotes, where a backslash escapes, or in apostrophes, where nothing does.
Both may be tripled; then the text may go over several lines, a line break right at the
start is left out, every line break is read as a line feed, and one or two quotes may
stand right before the closing ones. In tripled quotes a backslash at the end of a line
leaves out all white space up to the next character. Control characters other than the
tab may not be written.
-/

namespace CompactHttp.Toml

/-- Whether a character may be written as it is, within a line. -/
def isPlain (char : Char) : Bool := char == '\t' || (' ' ≤ char && char != '\x7f')

/-- Whether a character separates words within a line. -/
def isBlank (char : Char) : Bool := char == ' ' || char == '\t'

/-- A text without the blanks at its front. -/
def skipBlank (chars : List Char) : List Char := chars.dropWhile isBlank

/-- What follows a line break at the front of a text. -/
def afterBreak? : List Char → Option (List Char)
  | '\n' :: rest => some rest
  | '\r' :: '\n' :: rest => some rest
  | _ => none

/-- A text without the blanks and line breaks at its front. -/
def skipWhite : List Char → List Char
  | [] => []
  | '\n' :: rest => skipWhite rest
  | '\r' :: '\n' :: rest => skipWhite rest
  | char :: rest => if isBlank char then skipWhite rest else char :: rest

/-- How many characters the white space takes that a backslash at the end of a line leaves
out. -/
def lineGap? (chars : List Char) : Option Nat :=
  (afterBreak? (skipBlank chars)).map fun rest => chars.length - (skipWhite rest).length

/-- The character with a number in hexadecimal digits. -/
def ofHex? (digits : List Char) : Option Char :=
  match Number.hex? digits with
  | some code => if code.isValidChar then some (Char.ofNat code) else none
  | none => none

/-- The character that an escape stands for, and how many characters it has after the
backslash. -/
def escape? : List Char → Option (Char × Nat)
  | 'b' :: _ => some ('\x08', 1)
  | 't' :: _ => some ('\t', 1)
  | 'n' :: _ => some ('\n', 1)
  | 'f' :: _ => some ('\x0c', 1)
  | 'r' :: _ => some ('\r', 1)
  | '"' :: _ => some ('"', 1)
  | '\\' :: _ => some ('\\', 1)
  | 'u' :: rest =>
    if rest.length < 4 then none else (ofHex? (rest.take 4)).map fun char => (char, 5)
  | 'U' :: rest =>
    if rest.length < 8 then none else (ofHex? (rest.take 8)).map fun char => (char, 9)
  | _ => none

/-- A text that has been read backwards. -/
def textOf (read : List Char) : String := String.ofList read.reverse

/-- The text up to the closing quote. The first `skip` characters are passed over, and
`read` is what comes before, backwards. -/
def quotedText (read : List Char) : (skip : Nat) → List Char → Option (String × List Char)
  | _, [] => none
  | skip + 1, _ :: rest => quotedText read skip rest
  | 0, '"' :: rest => some (textOf read, rest)
  | 0, '\\' :: rest =>
    match escape? rest with
    | some (char, count) => quotedText (char :: read) count rest
    | none => none
  | 0, char :: rest => if isPlain char then quotedText (char :: read) 0 rest else none

/-- The text up to the closing apostrophe. -/
def literalText (read : List Char) : List Char → Option (String × List Char)
  | [] => none
  | '\'' :: rest => some (textOf read, rest)
  | char :: rest => if isPlain char then literalText (char :: read) rest else none

/-- The text up to three closing quotes. -/
def quotedLines (read : List Char) : (skip : Nat) → List Char → Option (String × List Char)
  | _, [] => none
  | skip + 1, _ :: rest => quotedLines read skip rest
  | 0, '"' :: '"' :: '"' :: '"' :: '"' :: rest => some (textOf ('"' :: '"' :: read), rest)
  | 0, '"' :: '"' :: '"' :: '"' :: rest => some (textOf ('"' :: read), rest)
  | 0, '"' :: '"' :: '"' :: rest => some (textOf read, rest)
  | 0, '\\' :: rest =>
    match lineGap? rest with
    | some count => quotedLines read count rest
    | none =>
      match escape? rest with
      | some (char, count) => quotedLines (char :: read) count rest
      | none => none
  | 0, '\r' :: '\n' :: rest => quotedLines ('\n' :: read) 0 rest
  | 0, char :: rest =>
    if isPlain char || char == '\n' then quotedLines (char :: read) 0 rest else none

/-- The text up to three closing apostrophes. -/
def literalLines (read : List Char) : List Char → Option (String × List Char)
  | [] => none
  | '\'' :: '\'' :: '\'' :: '\'' :: '\'' :: rest => some (textOf ('\'' :: '\'' :: read), rest)
  | '\'' :: '\'' :: '\'' :: '\'' :: rest => some (textOf ('\'' :: read), rest)
  | '\'' :: '\'' :: '\'' :: rest => some (textOf read, rest)
  | '\r' :: '\n' :: rest => literalLines ('\n' :: read) rest
  | char :: rest =>
    if isPlain char || char == '\n' then literalLines (char :: read) rest else none

/-- A text at the front of a text, in any of the four forms. -/
def anyText : List Char → Option (String × List Char)
  | '"' :: '"' :: '"' :: rest => quotedLines [] 0 ((afterBreak? rest).getD rest)
  | '"' :: rest => quotedText [] 0 rest
  | '\'' :: '\'' :: '\'' :: rest => literalLines [] ((afterBreak? rest).getD rest)
  | '\'' :: rest => literalText [] rest
  | _ => none

end CompactHttp.Toml
