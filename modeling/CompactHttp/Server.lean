import CompactHttp.Compression
import CompactHttp.Config
import CompactHttp.Framing
import CompactHttp.Server.Router

/-! # Servers

A server answers one message at a time (`Server.handle`). Requests that carry a body have
to name its content type by a number, or leave it out; then it is taken for a row of
bytes. Answers are packed if the client takes an encoding that the server offers and the
packed body is shorter (`Server.compress`).
-/

namespace CompactHttp

/-- A server: its settings, what it answers, and what it packs answers with. -/
structure Server where
  config : ServerConfig := {}
  router : Router := .empty
  codec : Codec := .standard

namespace Server

/-- The answer to bytes that are no request. -/
def badRequest : Response := .text 400 "Bad Request"

/-- The answer to a request that is too long. -/
def payloadTooLarge : Response := .text 413 "Payload Too Large"

/-- The answer to a request with a body of no known type. -/
def unsupportedMediaType : Response := .text 415 "Unsupported Media Type"

/-- Whether the value of a `content-type` header is the number of a content type. -/
def namesContentType (value : String) : Bool :=
  match Number.unsignedBelow? (Nat.pow 2 32) value with
  | some code => ContentType.isValidCode code
  | none => false

/-- A request whose body has a known type; without one it is a row of bytes. -/
def typed? (request : Request) : Option Request :=
  let value := (request.headers.get? "content-type").getD ""
  if value.isEmpty then
    some { request with
      headers := request.headers.insert "content-type" ContentType.octetStream.headerValue }
  else if namesContentType value then some request
  else none

/-- The encoding in which an answer might be sent to a client that takes those of an
`accept-encoding` value. Short bodies and rows of bytes are left as they are. -/
def encodingFor (server : Server) (accept : Option String) (response : Response) :
    Option Encoding :=
  if response.body.isEmpty ∨ response.body.length < server.config.minCompressionSize ∨
      response.headers.get? "content-type" = some ContentType.octetStream.headerValue then none
  else
    match accept with
    | some words => Encoding.select (Encoding.parseAccept words) server.config.encodings
    | none => none

/-- A response with its body packed, if that can be done and makes it shorter. -/
def pack (codec : Codec) (encoding : Encoding) (response : Response) : Response :=
  match codec.compress encoding response.body with
  | some packed =>
    if packed.length < response.body.length then
      { response with
        headers := (response.headers.insert "content-encoding" encoding.token).insert
          "content-length" (toString packed.length)
        body := packed }
    else response
  | none => response

/-- A response as it is sent to a client that takes the encodings of an `accept-encoding`
value. -/
def compress (server : Server) (accept : Option String) (response : Response) : Response :=
  match server.encodingFor accept response with
  | some encoding => pack server.codec encoding response
  | none => response

/-- The answer to a request whose body has a known type. -/
def answer (server : Server) (request : Request) : Response :=
  server.compress (request.headers.get? "accept-encoding") (server.router.dispatch request)

/-- The answer to a message. -/
def handle (server : Server) (message : Bytes) : Response :=
  match Request.decode message with
  | .error _ => badRequest
  | .ok request =>
    if request.method.allowsBody then
      match typed? request with
      | some request => server.answer request
      | none => unsupportedMediaType
    else server.answer request

/-- What a server writes in answer to a message. -/
def reply (server : Server) (message : Bytes) : Bytes := (server.handle message).encode

end Server

end CompactHttp
