import CompactHttp.ContentType
import CompactHttp.Headers.Block
import CompactHttp.Method
import CompactHttp.Status

/-! # Messages

Requests and responses, written and read.

The first byte of a request holds the version in its two highest bits and the method in
the next three; the length-prefixed host, path, header block and body follow. The first
byte of a response holds the version and the compact status; header block and body
follow. Bytes after the body belong to whatever comes next and are given back.
-/

namespace CompactHttp

/-- A request. Only the two low bits of the version are sent. -/
structure Request where
  method : Method
  host : String
  path : String
  version : UInt8
  headers : Headers
  body : Bytes
deriving DecidableEq, Inhabited

/-- A response. Only the two low bits of the version are sent. -/
structure Response where
  version : UInt8
  status : UInt16
  headers : Headers
  body : Bytes
deriving DecidableEq, Inhabited

/-- The length-prefixed part at the front of a byte string, and the bytes after it. -/
def takePart (part : MessagePart) (data : Bytes) : Except FormatError (Bytes × Bytes) :=
  match Varint.decode data with
  | .error fault => .error (.ofVarint fault)
  | .ok (length, rest) =>
    if rest.length < length then .error (.partTooLong part)
    else .ok (rest.take length, rest.drop length)

/-- The length-prefixed text at the front of a byte string, and the bytes after it. -/
def takeText (part : MessagePart) (data : Bytes) : Except FormatError (String × Bytes) := do
  let (bytes, rest) ← takePart part data
  match Utf8.decode bytes with
  | some text => return (text, rest)
  | none => throw (.notText part)

/-- The version in the first byte of a message. -/
def versionBits (first : UInt8) : UInt8 := first >>> 6

namespace Request

/-- The most bytes a host may have. -/
def maxHostSize : Nat := 253

/-- A request without headers and body. -/
def plain (method : Method) (host path : String) : Request :=
  ⟨method, host, path, 0, .empty, []⟩

/-- The first byte of a request. -/
def firstByte (request : Request) : UInt8 :=
  (request.version &&& 3) <<< 6 ||| request.method.code <<< 3

/-- The method code in the first byte of a request. -/
def methodBits (first : UInt8) : UInt8 := (first >>> 3) &&& 7

/-- The bytes of a request. -/
def encode (request : Request) : Bytes :=
  request.firstByte ::
    (lengthPrefixed (Utf8.encode request.host) ++ lengthPrefixed (Utf8.encode request.path) ++
      lengthPrefixed (HeaderBlock.encode .request request.headers) ++
      lengthPrefixed request.body)

/-- The request at the front of a byte string, and the bytes after it. A host is neither
empty nor too long; an empty path is the root. -/
def decodeFront : Bytes → Except FormatError (Request × Bytes)
  | [] => throw .emptyMessage
  | first :: rest => do
    let code := methodBits first
    let some method := Method.ofCode? code | throw (.unknownMethod code)
    let (host, rest) ← takeText .host rest
    if host.isEmpty then throw .emptyHost
    if maxHostSize < host.utf8ByteSize then throw (.hostTooLong host.utf8ByteSize maxHostSize)
    let (path, rest) ← takeText .path rest
    let (block, rest) ← takePart .headers rest
    let headers ← HeaderBlock.decode .request block
    let (body, rest) ← takePart .body rest
    return (⟨method, host, if path.isEmpty then "/" else path, versionBits first, headers, body⟩,
      rest)

/-- The request at the front of a byte string. -/
def decode (data : Bytes) : Except FormatError Request := (decodeFront data).map Prod.fst

/-- The value of a header, whatever the case of its name. -/
def header? (request : Request) (name : String) : Option String := request.headers.find? name

end Request

namespace Response

/-- A response whose `content-length` is that of its body, unless the headers say otherwise. -/
def new (status : UInt16) (body : Bytes) (headers : Headers) : Response :=
  ⟨0, status, (Headers.empty.insert "content-length" (toString body.length)).overlay headers.entries,
    body⟩

/-- A response of some content type. -/
def typed (status : UInt16) (body : String) (type : ContentType) : Response :=
  new status (Utf8.encode body) (Headers.empty.insert "content-type" type.headerValue)

/-- A response in plain text. -/
def text (status : UInt16) (body : String) : Response := typed status body .textPlain

/-- A response in JSON, whose body is already written. -/
def json (status : UInt16) (body : String) : Response := typed status body .json

/-- The first byte of a response. -/
def firstByte (response : Response) : UInt8 :=
  (response.version &&& 3) <<< 6 ||| Status.toCompact response.status

/-- The bytes of a response. -/
def encode (response : Response) : Bytes :=
  response.firstByte ::
    (lengthPrefixed (HeaderBlock.encode .response response.headers) ++
      lengthPrefixed response.body)

/-- The response at the front of a byte string, and the bytes after it. -/
def decodeFront : Bytes → Except FormatError (Response × Bytes)
  | [] => throw .emptyMessage
  | first :: rest => do
    let (block, rest) ← takePart .headers rest
    let headers ← HeaderBlock.decode .response block
    let (body, rest) ← takePart .body rest
    return (⟨versionBits first, Status.ofCompact (first &&& 0x3F), headers, body⟩, rest)

/-- The response at the front of a byte string. -/
def decode (data : Bytes) : Except FormatError Response := (decodeFront data).map Prod.fst

/-- The value of a header, whatever the case of its name. -/
def header? (response : Response) (name : String) : Option String := response.headers.find? name

/-- Whether the response sends the client elsewhere. -/
def isRedirect (response : Response) : Bool := Status.isRedirect response.status

/-- The body as text, whatever it holds. -/
def bodyText (response : Response) : String := Utf8.decodeLossy response.body

end Response

end CompactHttp
