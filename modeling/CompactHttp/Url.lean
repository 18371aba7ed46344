import CompactHttp.Url.Host

/-! # URLs

A URL is a scheme, a host if it has one, a path and a query; of the other parts it may
have, a user, a port and a fragment, only it is checked that they are well-formed. Three
kinds of scheme differ in what they accept: the well-known ones, which take a backslash
for a slash and always have a host; `file`; and all others.

`Url.parse` reads a URL that names its scheme, and `Url.resolve` one that may leave out
scheme, host or path, which it then takes from a base.
-/

namespace CompactHttp

/-- A URL, as far as it says where to go. -/
structure Url where
  scheme : String
  host : Option UrlHost
  path : String
  query : Option String
deriving DecidableEq, Repr

namespace Url

/-- What a scheme accepts. -/
inductive SchemeKind where
  /-- Well-known, with a host. -/
  | special
  /-- Files, whose host may be missing. -/
  | file
  /-- Any other. -/
  | general
deriving DecidableEq, Repr

namespace SchemeKind

/-- The kind of a scheme in small letters. -/
def ofScheme (scheme : String) : SchemeKind :=
  if ["http", "https", "ws", "wss", "ftp"].contains scheme then special
  else if scheme == "file" then file
  else general

/-- Whether a character separates the segments of a path. -/
def isSlash (kind : SchemeKind) (char : Char) : Bool :=
  char == '/' || (char == '\\' && kind != general)

/-- Whether a character ends an authority. -/
def endsAuthority (kind : SchemeKind) (char : Char) : Bool :=
  char == '?' || char == '#' || kind.isSlash char

/-- The characters that are encoded in a query. -/
def querySet (kind : SchemeKind) : Percent.EncodeSet :=
  if kind = general then Percent.query else Percent.specialQuery

end SchemeKind

/-- The characters of a URL: without controls and spaces at the ends, and without tabs and
line breaks anywhere. -/
def clean (text : String) : List Char :=
  let outer (char : Char) : Bool := char.toNat ≤ 0x20
  let chars := ((text.toList.dropWhile outer).reverse.dropWhile outer).reverse
  chars.filter fun char => char != '\t' && char != '\n' && char != '\r'

/-- Whether a character may stand in a scheme. -/
def isSchemeChar (char : Char) : Bool :=
  char.isAlphanum || char == '+' || char == '-' || char == '.'

/-- The scheme in small letters and the characters after its colon, if there is a scheme. -/
def splitScheme (chars : List Char) : Option (String × List Char) :=
  let scheme := chars.takeWhile isSchemeChar
  match chars.head?, chars.drop scheme.length with
  | some first, ':' :: rest =>
    if first.isAlpha then some (String.ofList (scheme.map Char.toLower), rest) else none
  | _, _ => none

/-- A segment that stands for the one above. -/
def isDoubleDot (segment : String) : Bool :=
  ["..", "%2e.", ".%2e", "%2e%2e"].contains segment.toLower

/-- A segment that stands for the one it is in. -/
def isSingleDot (segment : String) : Bool := [".", "%2e"].contains segment.toLower

/-- A segment that names a drive. -/
def isDrive (segment : String) : Bool :=
  match segment.toList with
  | [letter, mark] => letter.isAlpha && (mark == ':' || mark == '|')
  | _ => false

/-- Adds segments to a path (last first). A dot segment at the end leaves an empty one. -/
def addSegments (path : List String) : List String → List String
  | [] => path
  | segment :: rest =>
    let path' :=
      if isDoubleDot segment then path.tail
      else if isSingleDot segment then path
      else segment :: path
    if rest.isEmpty && (isDoubleDot segment || isSingleDot segment) then "" :: path'
    else addSegments path' rest

/-- The characters of a path cut at its slashes and encoded. -/
def segments (kind : SchemeKind) (chars : List Char) : List String :=
  let unified := chars.map fun char => if kind.isSlash char then '/' else char
  (splitAtChar '/' unified).map (Percent.encode Percent.path)

/-- A path from its segments (last first). -/
def pathText (path : List String) : String := "/" ++ "/".intercalate path.reverse

/-- The characters before the query or the fragment, and those from there on. -/
def splitPath (chars : List Char) : List Char × List Char :=
  let path := chars.takeWhile fun char => char != '?' && char != '#'
  (path, chars.drop path.length)

/-- The query at the front of what follows a path. -/
def parseQuery (kind : SchemeKind) : List Char → Option String
  | '?' :: rest => some (Percent.encode kind.querySet (rest.takeWhile (· != '#')))
  | _ => none

/-- The path after a host. Outside the well-known schemes it may be missing. -/
def pathAfterHost (kind : SchemeKind) (chars : List Char) : String :=
  match chars with
  | [] => if kind = .general then "" else "/"
  | first :: rest =>
    pathText (addSegments [] (segments kind (if kind.isSlash first then rest else chars)))

/-- Checks a user in front of a host, and gives whether there is one and the characters from
the host on. -/
def skipUser (kind : SchemeKind) (chars : List Char) : Except UrlError (Bool × List Char) :=
  let authority := chars.takeWhile fun char => !kind.endsAuthority char
  if !authority.contains '@' then .ok (false, chars)
  else
    let host := (authority.reverse.takeWhile (· != '@')).reverse
    let user := authority.take (authority.length - host.length - 1)
    let rest := chars.drop (authority.length - host.length)
    if user.isEmpty ∧ (rest.head?.any kind.endsAuthority) then .error .emptyHost
    else .ok (!user.isEmpty && user != [':'], rest)

/-- The characters of a host, which a colon ends unless it is in brackets, and those after
it. -/
def splitHost (kind : SchemeKind) (bracketed : Bool) : List Char → List Char × List Char
  | [] => ([], [])
  | char :: rest =>
    if kind.endsAuthority char || (char == ':' && !bracketed) then ([], char :: rest)
    else
      let bracketed := if char == '[' then true else if char == ']' then false else bracketed
      let (host, after) := splitHost kind bracketed rest
      (char :: host, after)

/-- Passes over a port, which may be empty. -/
def skipPort : List Char → Except UrlError (List Char)
  | ':' :: rest =>
    let digits := rest.takeWhile Char.isDigit
    let after := rest.drop digits.length
    if 65535 < (Number.decimal? digits).getD 0 then .error .invalidPort
    else if after.head?.all fun char => SchemeKind.special.endsAuthority char then .ok after
    else .error .invalidPort
  | chars => .ok chars

/-- The URL whose authority starts with these characters. -/
def parseAuthority (scheme : String) (chars : List Char) : Except UrlError Url := do
  let kind := SchemeKind.ofScheme scheme
  let (hasUser, chars) ← skipUser kind chars
  let (hostChars, rest) := splitHost kind false chars
  if hostChars.isEmpty ∧ (kind = .special ∨ hasUser ∨ rest.head? = some ':') then
    throw .emptyHost
  let host ← if kind = .special then UrlHost.parseSpecial hostChars else UrlHost.parseOpaque hostChars
  let rest ← skipPort rest
  let (path, after) := splitPath rest
  return ⟨scheme, some host, pathAfterHost kind path, parseQuery kind after⟩

/-- Whether a drive comes first in a path after its dot segments have been followed. -/
def reachesDrive (path : List String) : List String → Bool
  | [] => false
  | segment :: rest =>
    if isDoubleDot segment then reachesDrive path.tail rest
    else if isSingleDot segment then reachesDrive path rest
    else (path.isEmpty && isDrive segment) || reachesDrive (segment :: path) rest

/-- The URL of a file, from the characters after its scheme. A drive has no host. -/
def parseFile (chars : List Char) : Except UrlError Url := do
  let kind := SchemeKind.file
  let slashes := (chars.take 2).all kind.isSlash && 1 < chars.length
  let chars := if slashes then chars.drop 2 else chars
  let hostChars := if slashes then chars.takeWhile fun char => !kind.endsAuthority char else []
  let isLocal := hostChars.isEmpty || isDrive (String.ofList hostChars)
  let host ← if isLocal then pure (.name "") else UrlHost.parseSpecial hostChars
  let (path, after) := splitPath (if isLocal then chars else chars.drop hostChars.length)
  let given := segments kind (if path.head?.any kind.isSlash then path.tail else path)
  let named := host ≠ .name "" ∧ host ≠ .name "localhost" ∧ !reachesDrive [] given
  let kept := (addSegments [] given).reverse.dropWhile (· == "")
  return ⟨"file", if named then some host else none, "/" ++ "/".intercalate kept,
    parseQuery kind after⟩

/-- A path that belongs to no host. It may be any text. -/
def pathWithoutHost (chars : List Char) : String :=
  match chars with
  | '/' :: rest => pathText (addSegments [] (segments .general rest))
  | _ => Percent.encode Percent.controls chars

/-- The URL with the given scheme, from the characters after the colon. -/
def parseAfterScheme (scheme : String) (chars : List Char) : Except UrlError Url :=
  match SchemeKind.ofScheme scheme, chars with
  | .special, _ => parseAuthority scheme (chars.dropWhile SchemeKind.special.isSlash)
  | .file, _ => parseFile chars
  | .general, '/' :: '/' :: rest => parseAuthority scheme rest
  | .general, _ =>
    let (path, after) := splitPath chars
    .ok ⟨scheme, none, pathWithoutHost path, parseQuery .general after⟩

/-- The URL that a text stands for by itself. -/
def parse (text : String) : Except UrlError Url :=
  match splitScheme (clean text) with
  | some (scheme, rest) => parseAfterScheme scheme rest
  | none => .error .noScheme

/-- The segments of a path without its last one (last first). -/
def directory (path : String) : List String :=
  ((splitAtChar '/' path.toList).tail.map String.ofList).dropLast.reverse

/-- The URL that a text without a scheme stands for, seen from a base with a host. -/
def resolve (base : Url) (text : String) : Except UrlError Url :=
  let chars := clean text
  let kind := SchemeKind.ofScheme base.scheme
  let slash (char : Char) : Bool := char == '/' || char == '\\'
  match chars with
  | [] => .ok base
  | '#' :: _ => .ok base
  | '?' :: _ => .ok { base with query := parseQuery kind chars }
  | first :: rest =>
    if slash first && rest.head?.any slash then
      match chars with
      | '/' :: '/' :: authority => parseAuthority base.scheme authority
      | _ => parseAuthority base.scheme (chars.dropWhile slash)
    else
      let (start, chars) := if slash first then ([], rest) else (directory base.path, chars)
      let (path, after) := splitPath chars
      .ok { base with
        path := pathText (addSegments start (segments kind path))
        query := parseQuery kind after }

end Url

end CompactHttp
