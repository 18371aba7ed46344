import CompactHttp.Client

/-! # Calls that are under way at the same time

Any number of calls of one client may be under way at the same time. Each is an errand: it does
one thing after the other to the situation that all of them share (`Client.Errand`), and between
two of them others may do what they have to do, in whichever order (`Client.Workload`). What is
done at once is what cannot be divided: to look at the link or to swap it for another, to take the
number of the next stream, each lookup, and each operation of the transport. Of the two lookups
that a connection needs the address is the first.
-/

namespace CompactHttp.Client

/-- Something that is asked of a client. -/
inductive Command where
  | connect (address : String)
  | close
  | request (request : Request)

/-- What is still to be done of a call. -/
inductive Errand (World Link Stream Result : Type) where
  /-- Nothing: the call has ended. -/
  | done (outcome : Except ClientError Result)
  /-- Does something to the situation, and goes on as it found it. -/
  | act (effect : Situation World Link → Situation World Link)
      (onward : Situation World Link → Errand World Link Stream Result)
  /-- Takes the number of the next stream. -/
  | take (onward : UInt32 → Errand World Link Stream Result)
  /-- Opens a stream with a number on a link. -/
  | openStream (link : Link) (number : UInt32)
      (onward : Except TransportError Stream → Errand World Link Stream Result)

variable {World Link Stream : Type}

namespace Errand

variable {First Second Result : Type}

/-- Does one thing after the other, unless the first one fails. -/
protected def bind : Errand World Link Stream First →
    (First → Errand World Link Stream Second) → Errand World Link Stream Second
  | done (.ok result), onward => onward result
  | done (.error error), _ => done (.error error)
  | act effect next, onward => act effect fun situation => (next situation).bind onward
  | take next, onward => take fun number => (next number).bind onward
  | openStream link number next, onward =>
    openStream link number fun opened => (next opened).bind onward

instance : Monad (Errand World Link Stream) where
  pure result := done (.ok result)
  bind := Errand.bind

/-- Ends in an error. -/
def fail (error : ClientError) : Errand World Link Stream Result := done (.error error)

/-- Goes on with what an operation of the transport comes to. -/
def orFail : Except TransportError Result → Errand World Link Stream Result
  | .ok result => return result
  | .error fault => fail (.transport fault)

/-- Looks at the situation. -/
def look (view : Situation World Link → Result) : Errand World Link Stream Result :=
  act id fun situation => done (.ok (view situation))

/-- Does something in the world. -/
def perform (operation : World → Result × World) : Errand World Link Stream Result :=
  act (fun situation => { situation with world := (operation situation.world).2 })
    fun situation => done (.ok (operation situation.world).1)

/-- Changes the world. -/
def alter (operation : World → World) : Errand World Link Stream Unit :=
  perform fun world => ((), operation world)

/-- Puts a link in place of the one that is held, and hands that one out. -/
def swapLink (link : Option Link) : Errand World Link Stream (Option Link) :=
  act (fun situation => { situation with link := link })
    fun situation => done (.ok situation.link)

/-- Remembers the address of a link. -/
def setRemote (remote : SocketAddress) : Errand World Link Stream Unit :=
  act (fun situation => { situation with remote := some remote }) fun _ => done (.ok ())

/-- The action of an errand if nothing else is done meanwhile. -/
def alone (transport : Transport World Link Stream) :
    Errand World Link Stream Result → Action World Link Result
  | done outcome, situation => finish outcome situation
  | act effect onward, situation => (onward situation).alone transport (effect situation)
  | take onward, situation =>
    (onward situation.nextStream).alone transport
      { situation with nextStream := situation.nextStream + 1 }
  | openStream link number onward, situation =>
    let (opened, world) := transport.openStream link number situation.world
    (onward opened).alone transport { situation with world := world }

end Errand

/-! ## What a client does, step by step -/

section Errands

open Errand

/-- Swaps the link for another, and closes it. -/
def swapErrand (client : Client World Link Stream) (link : Option Link) :
    Errand World Link Stream Unit := do
  if let some old ← swapLink link then
    alter (client.transport.closeLink old)

/-- `Client.connect` as an errand. -/
def connectErrand (client : Client World Link Stream) (address : String) :
    Errand World Link Stream Unit :=
  match splitAddress address with
  | none => fail (.invalidAddress address)
  | some (host, port) => do
    let found ← perform (client.resolver.lookup host)
    let texts ← perform (client.resolver.texts (KeyRecord.nameOf host))
    match found with
    | .error fault => fail (.unresolved fault)
    | .ok ip => do
      let remote := SocketAddress.new ip port
      let dialed ← perform (client.transport.dial remote (Resolver.keyIn texts))
      let link ← orFail dialed
      client.swapErrand (some link)
      setRemote remote

/-- `Client.reconnect` as an errand. -/
def reconnectErrand (client : Client World Link Stream) (host : String) :
    Errand World Link Stream Unit := do
  match ← look Situation.remote with
  | none => fail .notConnected
  | some remote =>
    client.swapErrand none
    client.connectErrand (addressText host remote.port)

/-- `Client.moveOn` as an errand. -/
def moveErrand (client : Client World Link Stream) (current host : String) :
    Errand World Link Stream Unit :=
  if host = current then pure () else client.reconnectErrand host

/-- Sends a request on a stream and takes in the response. -/
def exchangeErrand (client : Client World Link Stream) (request : Request) (stream : Stream) :
    Errand World Link Stream Response := do
  match ← perform (client.transport.write stream request.encode) with
  | .error fault =>
    alter (client.transport.release stream)
    fail (.transport fault)
  | .ok () =>
    let incoming ← perform (client.transport.receive stream)
    alter (client.transport.release stream)
    done (takeResponse client.config.maxResponseSize incoming)

/-- `Client.roundTrip` as an errand. -/
def roundTripErrand (client : Client World Link Stream) (request : Request) :
    Errand World Link Stream Response := do
  match ← look Situation.link with
  | none => fail .notConnected
  | some link =>
    take fun number =>
      openStream link number fun opened => do
        let stream ← orFail opened
        client.exchangeErrand request stream

/-- `Client.follow` as an errand. -/
def followErrand (client : Client World Link Stream) : (left : Nat) → Request →
    Errand World Link Stream Response
  | left, request => do
    let response ← client.roundTripErrand request
    if !response.isRedirect then
      done (unpackWith client.codec client.config.maxResponseSize response)
    else
      match left with
      | 0 => fail (.tooManyRedirects client.config.maxRedirects)
      | left + 1 =>
        match Redirect.target response request.host with
        | .error fault => fail (.redirect fault)
        | .ok target =>
          client.moveErrand request.host target.host
          client.followErrand left (Redirect.followUp request response.status target)

/-- What is to be done about a command. Only a request has a result. -/
def errand (client : Client World Link Stream) :
    Command → Errand World Link Stream (Option Response)
  | .connect address => do
    client.connectErrand address
    return none
  | .close => do
    client.swapErrand none
    return none
  | .request request => do
    let response ← client.followErrand client.config.maxRedirects (client.withEncodings request)
    return some response

end Errands

/-! ## Many errands -/

/-- A client's errands, and the situation that they share. -/
structure Workload (World Link Stream : Type) where
  situation : Situation World Link
  errands : List (Errand World Link Stream (Option Response)) := []
  /-- How many numbers of streams have been taken so far. -/
  taken : Nat := 0
  /-- The streams that have been asked for so far: each with its link and its number. -/
  opened : List (Link × UInt32) := []

/-- What happens next. -/
inductive Turn (World : Type) where
  /-- Something is asked of the client. -/
  | begin (command : Command)
  /-- The errand with a number goes on by one step. -/
  | go (number : Nat)
  /-- Something happens elsewhere in the world. -/
  | elsewhere (change : World → World)

namespace Workload

/-- An errand goes on by one step. -/
def proceed (transport : Transport World Link Stream) (workload : Workload World Link Stream)
    (number : Nat) : Errand World Link Stream (Option Response) → Workload World Link Stream
  | .done _ => workload
  | .act effect onward =>
    { workload with
      situation := effect workload.situation
      errands := workload.errands.set number (onward workload.situation) }
  | .take onward =>
    { workload with
      situation :=
        { workload.situation with nextStream := workload.situation.nextStream + 1 }
      errands := workload.errands.set number (onward workload.situation.nextStream)
      taken := workload.taken + 1 }
  | .openStream link id onward =>
    let (opened, world) := transport.openStream link id workload.situation.world
    { workload with
      situation := { workload.situation with world := world }
      errands := workload.errands.set number (onward opened)
      opened := workload.opened ++ [(link, id)] }

end Workload

/-- What becomes of a workload by what happens next. -/
def work (client : Client World Link Stream) (workload : Workload World Link Stream) :
    Turn World → Workload World Link Stream
  | .begin command => { workload with errands := workload.errands ++ [client.errand command] }
  | .go number =>
    match workload.errands[number]? with
    | none => workload
    | some errand => workload.proceed client.transport number errand
  | .elsewhere change =>
    { workload with
      situation := { workload.situation with world := change workload.situation.world } }

/-- What becomes of a workload by all that happens, in order. -/
def workAll (client : Client World Link Stream) (workload : Workload World Link Stream)
    (turns : List (Turn World)) : Workload World Link Stream :=
  turns.foldl client.work workload

end CompactHttp.Client
