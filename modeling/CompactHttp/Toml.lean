import CompactHttp.Toml.Scalar
import CompactHttp.Toml.Text

/-! # TOML documents

A document is read as a list of statements, one a line, and the statements are then
carried out in their order (`Document.run`). Arrays and tables in braces may be nested,
and keys dotted, less than eighty levels deep.
-/

namespace CompactHttp.Toml

/-- Reads something at the front of a text and gives back what follows. -/
abbrev Reader (Item : Type) := List Char → Option (Item × List Char)

/-- The number of levels that is too deep. -/
def maxDepth : Nat := 80

/-- What follows the end of a line, before which there may be a comment. -/
def afterLine? (chars : List Char) : Option (List Char) :=
  let chars :=
    match skipBlank chars with
    | '#' :: rest => rest.dropWhile isPlain
    | chars => chars
  if chars.isEmpty then some [] else afterBreak? chars

/-- What follows white space and comments over several lines. -/
def skipLines : (comment : Bool) → Reader Unit
  | _, [] => some ((), [])
  | _, '\n' :: rest => skipLines false rest
  | _, '\r' :: '\n' :: rest => skipLines false rest
  | true, char :: rest => if isPlain char then skipLines true rest else none
  | false, char :: rest =>
    if isBlank char then skipLines false rest
    else if char = '#' then skipLines true rest
    else some ((), char :: rest)

/-- Whether a character may be part of a name without quotes. -/
def isNameChar (char : Char) : Bool := char.isAlphanum || char == '-' || char == '_'

/-- A name in a key. -/
def name : Reader String
  | '"' :: rest => quotedText [] 0 rest
  | '\'' :: rest => literalText [] rest
  | chars =>
    let bare := chars.takeWhile isNameChar
    if bare.isEmpty then none else some (String.ofList bare, chars.drop bare.length)

/-- A key of at most so many names, with the blanks around it. -/
def key : (most : Nat) → Reader Key
  | 0, _ => none
  | most + 1, chars => do
    let (first, rest) ← name (skipBlank chars)
    match skipBlank rest with
    | '.' :: rest =>
      let (others, rest) ← key most rest
      return (⟨first :: others.path, others.name⟩, rest)
    | rest => return (⟨[], first⟩, rest)

/-- A key with its value behind an equals sign. -/
def definition (item : Reader Value) : Reader (Key × Value) := fun chars => do
  let (key, rest) ← key (maxDepth - 1) chars
  let (value, rest) ← item (skipBlank (← after? '=' rest))
  return ((key, value), rest)

/-- The items of an array up to its closing bracket, at most `most` of them. -/
def arrayItems (item : Reader Value) : (most : Nat) → Reader (List Value)
  | 0, _ => none
  | most + 1, chars => do
    match ← skipLines false chars with
    | (_, ']' :: rest) => return ([], rest)
    | (_, chars) =>
      let (first, rest) ← item chars
      match ← skipLines false rest with
      | (_, ',' :: rest) =>
        let (others, rest) ← arrayItems item most rest
        return (first :: others, rest)
      | (_, ']' :: rest) => return ([first], rest)
      | _ => none

/-- The definitions of a table in braces up to its closing brace, at most `most` of them. -/
def tableItems (item : Reader Value) : (most : Nat) → Reader (List (Key × Value))
  | 0, _ => none
  | most + 1, chars => do
    let (first, rest) ← definition item chars
    match skipBlank rest with
    | ',' :: rest =>
      let (others, rest) ← tableItems item most rest
      return (first :: others, rest)
    | '\x7d' :: rest => return ([first], rest)
    | _ => none

/-- The table in braces that definitions make. -/
def inlineTable (definitions : List (Key × Value)) : Option Value := do
  let entries ← definitions.foldlM (fun entries item => Entries.define item.1 item.2 entries) []
  return .table .inline entries

/-- A text, number or point in time. -/
def simpleValue : Reader Value := fun chars =>
  match anyText chars with
  | some (text, rest) => some (.text text, rest)
  | none => scalar chars

/-- A value with arrays and tables nested at most so deep. -/
def value : (depth : Nat) → Reader Value
  | depth + 1, '[' :: rest => do
    let (items, rest) ← arrayItems (value depth) rest.length rest
    return (.array items, rest)
  | depth + 1, '\x7b' :: rest =>
    match skipBlank rest with
    | '\x7d' :: rest => some (.table .inline [], rest)
    | rest => do
      let (definitions, rest) ← tableItems (value depth) rest.length rest
      return (← inlineTable definitions, rest)
  | _, chars => simpleValue chars

/-- What a line of a document says. -/
inductive Statement where
  /-- Sets the value of a key in the table that was opened last. -/
  | define (key : Key) (value : Value)
  /-- Opens a table. -/
  | openTable (key : Key)
  /-- Opens a new table in a list of tables. -/
  | openRow (key : Key)

/-- A statement at the front of a text, which may go over several lines. -/
def statement : Reader Statement
  | '[' :: '[' :: rest => do
    let (key, rest) ← key (maxDepth - 1) rest
    return (.openRow key, ← after? ']' (← after? ']' rest))
  | '[' :: rest => do
    let (key, rest) ← key (maxDepth - 1) rest
    return (.openTable key, ← after? ']' rest)
  | chars => do
    let ((key, value), rest) ← definition (value (maxDepth - 1)) chars
    return (.define key value, rest)

/-- The statements of a text of at most `most` lines. -/
def statements : (most : Nat) → List Char → Option (List Statement)
  | 0, chars => if chars.isEmpty then some [] else none
  | most + 1, chars => do
    if chars.isEmpty then return []
    match afterLine? chars with
    | some rest => statements most rest
    | none =>
      let (first, rest) ← statement (skipBlank chars)
      return first :: (← statements most (← afterLine? rest))

/-- What a document holds, and the path of the table that was opened last. -/
structure Document where
  entries : Entries
  opened : List String

namespace Document

/-- The document of no statements. -/
def empty : Document := ⟨[], []⟩

/-- Carries out a statement, if it contradicts none before. -/
def run (document : Document) : Statement → Option Document
  | .define key value => do
    let define (_ : TableOrigin) (entries : Entries) := entries.define key value
    return { document with
      entries := ← Entries.alter .passed define document.opened .opened document.entries }
  | .openTable key => do
    return ⟨← document.entries.openTable key, key.path ++ [key.name]⟩
  | .openRow key => do
    return ⟨← document.entries.openRow key, key.path ++ [key.name]⟩

end Document

/-- What a text holds, if it is a document. A byte order mark at its front is left aside. -/
def parse? (text : String) : Option Entries := do
  let chars :=
    match text.toList with
    | '\uFEFF' :: rest => rest
    | chars => chars
  let document ← (← statements (chars.length + 1) chars).foldlM Document.run .empty
  return document.entries

end CompactHttp.Toml
