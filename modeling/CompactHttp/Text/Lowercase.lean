import CompactHttp.Text.CaseTable

/-! # Small letters

A text in small letters: every capital gives way to its small letter, the dotted
capital I to an i with a dot above it, and a capital sigma to the form it has at the
place where it stands. A sigma is final when a letter comes before it and none after
it, not counting the characters that letters pass over.
-/

namespace CompactHttp

namespace Lowercase

/-- The run of capitals that holds a code point. -/
def run? (code : Nat) : Option CaseRun :=
  CaseTable.capitals.find? fun run =>
    run.first ≤ code && code ≤ run.last && (code - run.first) % run.stride == 0

/-- The small letter of a character, or the character itself. -/
def letter (char : Char) : Char :=
  match run? char.toNat with
  | some run => Char.ofNat (run.lower + (char.toNat - run.first))
  | none => char

/-- Whether the first character that is not passed over is a letter with case. -/
def meetsLetter (chars : List Char) : Bool :=
  match chars.dropWhile CaseTable.ignorable.contains with
  | [] => false
  | char :: _ => CaseTable.cased.contains char

/-- The small letters of the characters `rest` that follow the characters `before` (last
first). -/
def lettersFrom (before : List Char) : List Char → List Char
  | [] => []
  | char :: rest =>
    let small :=
      if char = 'Σ' then if meetsLetter before && !meetsLetter rest then ['ς'] else ['σ']
      else if char = 'İ' then ['i', '\u0307']
      else [letter char]
    small ++ lettersFrom (char :: before) rest

end Lowercase

/-- A text in small letters. -/
def lowercase (text : String) : String := String.ofList (Lowercase.lettersFrom [] text.toList)

end CompactHttp
