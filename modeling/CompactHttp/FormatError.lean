import CompactHttp.Varint
import CompactHttp.Text.Quoted

/-! # Why bytes are not a message

Each cause that stops the reading of a message, with its wording. Only
`FormatError.incomplete` may be cured by further bytes.
-/

namespace CompactHttp

/-- The parts of a message that carry a length. -/
inductive MessagePart where
  | host
  | path
  | headers
  | body
  | customHeaderName
  | customHeaderValue
  | headerValue
deriving DecidableEq, Repr

/-- How a part is called in an error text. -/
def MessagePart.label : MessagePart → String
  | host => "host"
  | path => "path"
  | headers => "headers"
  | body => "body"
  | customHeaderName => "custom header name"
  | customHeaderValue => "custom header value"
  | headerValue => "header value"

/-- Why a message cannot be read. -/
inductive FormatError where
  /-- The bytes end inside a length. -/
  | incomplete
  /-- A length does not fit into sixty-four bits. -/
  | lengthOverflow
  /-- A part is declared longer than what follows. -/
  | partTooLong (part : MessagePart)
  /-- There are no bytes at all. -/
  | emptyMessage
  /-- A method code that stands for no method. -/
  | unknownMethod (code : UInt8)
  /-- A request to nobody. -/
  | emptyHost
  /-- A host longer than a name may be. -/
  | hostTooLong (length limit : Nat)
  /-- A header byte that is not in the table. -/
  | unknownHeader (id : UInt8)
  /-- A part that should be text and is not. -/
  | notText (part : MessagePart)
deriving DecidableEq, Repr

namespace FormatError

/-- Whether more bytes may turn this failure into a message. -/
def isIncomplete : FormatError → Bool
  | incomplete => true
  | _ => false

/-- The failure of a message whose length prefix cannot be read. -/
def ofVarint : Varint.Fault → FormatError
  | .incomplete => incomplete
  | .overflow => lengthOverflow

/-- What an error says. -/
def message : FormatError → String
  | incomplete => "incomplete data"
  | lengthOverflow => "varint overflows u64"
  | partTooLong part => part.label ++ " length exceeds buffer"
  | emptyMessage => "empty message"
  | unknownMethod code => "invalid method value: " ++ toString code.toNat
  | emptyHost => "empty host"
  | hostTooLong length limit =>
    "host exceeds maximum length of " ++ toString limit ++ " bytes (got " ++
      toString length ++ ")"
  | unknownHeader id =>
    "unknown header ID 0x" ++ (hexPadded 2 id.toNat).toUpper ++
      " - protocol version mismatch or corrupted message"
  | notText part => part.label ++ " is not valid UTF-8"

end FormatError

end CompactHttp
