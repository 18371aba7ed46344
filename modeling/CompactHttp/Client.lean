import CompactHttp.Client.Response
import CompactHttp.Config

/-! # Clients

A client holds at most one link. Each request goes out on a stream of its own; redirects
are followed up to a limit, over a new link if they lead to another host. The number of a
stream is one more than that of the last one, counted over all links in thirty-two bits.

What a client does is an action on its situation: what it holds, and the world around it.
An action that fails leaves behind what it has done so far.
-/

namespace CompactHttp

/-- A client: how it reaches peers and finds hosts, its settings, and what it unpacks bodies
with. -/
structure Client (World Link Stream : Type) where
  transport : Transport World Link Stream
  resolver : Resolver World
  config : ClientConfig := {}
  codec : Codec := .standard

namespace Client

/-- What a client holds, and the world around it. -/
structure Situation (World Link : Type) where
  world : World
  link : Option Link := none
  /-- The address that the last link was dialed to. -/
  remote : Option SocketAddress := none
  /-- The number of the next stream. -/
  nextStream : UInt32 := 0

/-- Something a client does, which may fail. -/
abbrev Action (World Link : Type) := EStateM ClientError (Situation World Link)

/-- Whether the client holds a link. -/
def Situation.isConnected {World Link : Type} (situation : Situation World Link) : Bool :=
  situation.link.isSome

/-- The host and the port of an address text. The host may stand in brackets. -/
def splitAddress (text : String) : Option (String × UInt16) := do
  let (front, port) ← splitAtLast ':' text.toList
  let host :=
    match front with
    | '[' :: inner => if inner.getLast? = some ']' then inner.dropLast else front
    | _ => front
  if host.isEmpty ∨ host.contains '[' ∨ host.contains ']' then none
  let port ← Number.unsignedBelow? (Nat.pow 2 16) (String.ofList port)
  return (String.ofList host, UInt16.ofNat port)

/-- The address text of a host and a port. A host with colons is put in brackets. -/
def addressText (host : String) (port : UInt16) : String :=
  let host := if host.contains ':' then "[" ++ host ++ "]" else host
  host ++ ":" ++ toString port.toNat

variable {World Link Stream : Type}

/-- Changes the world. -/
def change (operation : World → World) : Action World Link Unit :=
  modify fun situation => { situation with world := operation situation.world }

/-- Does something in the world. -/
def inWorld {Result : Type} (operation : World → Result × World) : Action World Link Result := do
  let (result, world) := operation (← get).world
  modify fun situation => { situation with world := world }
  return result

/-- An operation of the transport. -/
def attempt {Result : Type} (operation : World → Except TransportError Result × World) :
    Action World Link Result := do
  let (result, world) := operation (← get).world
  modify fun situation => { situation with world := world }
  match result with
  | .ok result => return result
  | .error fault => throw (.transport fault)

/-- Ends an action with a result that is known. -/
def finish {Result : Type} : Except ClientError Result → Action World Link Result
  | .ok result => return result
  | .error error => throw error

/-- Closes the link, if there is one. The address it led to is kept in mind. -/
def close (client : Client World Link Stream) : Action World Link Unit := do
  if let some link := (← get).link then
    modify fun situation => { situation with link := none }
    change (client.transport.closeLink link)

/-- Makes a link to an address text in place of the one that is held. If that fails the old
one stays. -/
def connect (client : Client World Link Stream) (address : String) : Action World Link Unit := do
  let some (host, port) := splitAddress address | throw (.invalidAddress address)
  let (found, key) ← inWorld (client.resolver.find host)
  match found with
  | .error fault => throw (.unresolved fault)
  | .ok ip =>
    let remote := SocketAddress.new ip port
    let link ← attempt (client.transport.dial remote key)
    client.close
    modify fun situation => { situation with link := some link, remote := some remote }

/-- Makes a link to another host at the port of the last link, which is closed first. -/
def reconnect (client : Client World Link Stream) (host : String) : Action World Link Unit := do
  let some remote := (← get).remote | throw .notConnected
  client.close
  client.connect (addressText host remote.port)

/-- Moves on from one host to another, over a new link unless it is the same one. -/
def moveOn (client : Client World Link Stream) (current host : String) : Action World Link Unit :=
  if host = current then pure () else client.reconnect host

/-- Sends a request on a new stream and takes in the response. -/
def roundTrip (client : Client World Link Stream) (request : Request) :
    Action World Link Response := do
  let situation ← get
  let some link := situation.link | throw .notConnected
  set { situation with nextStream := situation.nextStream + 1 }
  let stream ← attempt (client.transport.openStream link situation.nextStream)
  try attempt (client.transport.write stream request.encode)
  catch error =>
    change (client.transport.release stream)
    throw error
  let (incoming, world) := client.transport.receive stream (← get).world
  modify fun situation => { situation with world := world }
  change (client.transport.release stream)
  finish (takeResponse client.config.maxResponseSize incoming)

/-- The response to a request from which at most `left` more redirects may be followed. -/
def follow (client : Client World Link Stream) : (left : Nat) → Request →
    Action World Link Response
  | left, request => do
    let response ← client.roundTrip request
    if !response.isRedirect then
      finish (unpackWith client.codec client.config.maxResponseSize response)
    else
      match left with
      | 0 => throw (.tooManyRedirects client.config.maxRedirects)
      | left + 1 =>
        match Redirect.target response request.host with
        | .error fault => throw (.redirect fault)
        | .ok target =>
          client.moveOn request.host target.host
          client.follow left (Redirect.followUp request response.status target)

/-- A request that says which encodings the client takes, unless it does already. -/
def withEncodings (client : Client World Link Stream) (request : Request) : Request :=
  if (request.header? "accept-encoding").isSome then request
  else
    { request with
      headers := request.headers.insert "accept-encoding"
        (Encoding.acceptHeader client.config.encodings) }

/-- The response to a request, or to the last of those that redirects make of it. -/
def request (client : Client World Link Stream) (request : Request) :
    Action World Link Response :=
  client.follow client.config.maxRedirects (client.withEncodings request)

/-- A request with a body, if its method allows for one. Its headers say how long the body
is. -/
def compose (method : Method) (host path : String) (headers : Headers) (body : Bytes) :
    Request :=
  if method.allowsBody then
    let headers :=
      if headers.mentions "content-length" then headers
      else headers.insert "content-length" (toString body.length)
    ⟨method, host, path, 0, headers, body⟩
  else
    ⟨method, host, path, 0, headers.keep fun name => !Headers.sameName name "content-length", []⟩

/-- The response to a request that is composed of its parts. -/
def send (client : Client World Link Stream) (method : Method) (host path : String)
    (headers : Headers) (body : Bytes) : Action World Link Response :=
  client.request (compose method host path headers body)

end Client

end CompactHttp
