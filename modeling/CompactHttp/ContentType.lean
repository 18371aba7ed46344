/-! # Content types

A message names the type of its body by a number of four bits, written in decimal in
the `content-type` header. Five of the sixteen numbers have a name.
-/

namespace CompactHttp

/-- The named content types. -/
inductive ContentType where
  | custom
  | textPlain
  | json
  | html
  | octetStream
deriving DecidableEq, Repr

namespace ContentType

/-- The number of a content type. -/
def code : ContentType → Nat
  | custom => 0
  | textPlain => 1
  | json => 2
  | html => 3
  | octetStream => 4

/-- The largest number that may be sent. -/
def maxCode : Nat := 15

/-- Whether a number is one of the sixteen. -/
def isValidCode (code : Nat) : Bool := code ≤ maxCode

/-- The value of a `content-type` header that names this type. -/
def headerValue (type : ContentType) : String := toString type.code

/-- The media type that a content type stands for. -/
def mediaType : ContentType → String
  | custom => "custom"
  | textPlain => "text/plain"
  | json => "application/json"
  | html => "text/html"
  | octetStream => "application/octet-stream"

/-- The value of an `accept` header that lists types, the preferred one first. -/
def acceptHeader (types : List ContentType) : String :=
  ",".intercalate (types.map headerValue)

end ContentType

end CompactHttp
