import CompactHttp.Client
import CompactHttp.Net.LocalNetwork
import CompactHttp.Server.Phases

/-! # Traffic on a local network

Any number of clients ask any number of servers at the same time. A call of a client and the
service of a stream each do one thing after the other at their end of the stream (`Deed`);
what is written goes out in fragments, each by a deed of its own. Besides, servers begin to
listen, clients come and go, and links are dialed and closed (`Traffic.Step`). Nothing is said
about the order in which things happen, other than that every party keeps to its own. Servers
never stop listening.
-/

namespace CompactHttp

/-- What is done at an end of a stream, and what comes of it. -/
inductive Deed where
  | wrote (data : Bytes)
  | failed (data : Bytes) (fault : TransportError)
  | read (data : Bytes)
  /-- Has found out by reading that nothing more will come. -/
  | sawEnd
  | finished
  | left
deriving DecidableEq, Repr

/-- What becomes of a network by a deed at an end of a stream. -/
inductive LocalNetwork.Does (network : LocalNetwork) (stream : StreamEnd) :
    Deed → LocalNetwork → Prop where
  | wrote {data : Bytes} {after : LocalNetwork} :
      network.write stream data = (.ok (), after) → Does network stream (.wrote data) after
  | failed {data : Bytes} {fault : TransportError} {after : LocalNetwork} :
      network.write stream data = (.error fault, after) →
      Does network stream (.failed data fault) after
  | read {data : Bytes} {after : LocalNetwork} :
      network.read stream = (.fragment data, after) → Does network stream (.read data) after
  | sawEnd {after : LocalNetwork} :
      network.read stream = (.finished, after) → Does network stream .sawEnd after
  | finished : Does network stream .finished (network.finish stream)
  | left : Does network stream .left (network.leave stream)

/-- How far a call has come with a request. -/
inductive Stage where
  | starting (request : Request)
  /-- Has got hold of the link. -/
  | opening (link : LinkId) (request : Request)
  | sending (stream : StreamEnd) (request : Request) (unsent : List Bytes)
  | receiving (stream : StreamEnd) (request : Request) (buffer : Reassembly)
  /-- Knows what has come of the request. -/
  | closing (stream : StreamEnd) (request : Request) (outcome : Except ClientError Response)
  | leaving (stream : StreamEnd) (request : Request) (outcome : Except ClientError Response)
  /-- Waits for a link to another host, to which it has been redirected. -/
  | moving (request : Request)
  | returned (result : Except ClientError Response)

namespace Stage

/-- The end of a stream that a call holds. -/
def stream? : Stage → Option StreamEnd
  | sending stream _ _ | receiving stream _ _ | closing stream _ _ | leaving stream _ _ =>
    some stream
  | _ => none

/-- The end of a stream at which a call does not know yet what comes of its request, and what
it has received there. -/
def awaits? : Stage → Option (StreamEnd × Bytes)
  | sending stream _ _ => some (stream, [])
  | receiving stream _ buffer => some (stream, buffer.held)
  | _ => none

/-- Goes on from what a fragment has come to. -/
def received (stream : StreamEnd) (request : Request) :
    Except ClientError (Response ⊕ Reassembly) → Stage
  | .error error => closing stream request (.error error)
  | .ok (.inl response) => closing stream request (.ok response)
  | .ok (.inr buffer) => receiving stream request buffer

end Stage

/-- A call of a client. -/
structure Call where
  /-- The number of the client. -/
  party : Nat
  config : ClientConfig
  /-- How many more redirects may be followed. -/
  left : Nat
  stage : Stage

namespace Call

/-- Goes on from what has come of a request. -/
def goOn (call : Call) (request : Request) : Except ClientError Response → Call
  | .error error => { call with stage := .returned (.error error) }
  | .ok response =>
    if !response.isRedirect then
      { call with stage := .returned (Client.unpack call.config.maxResponseSize response) }
    else
      match call.left with
      | 0 =>
        { call with stage := .returned (.error (.tooManyRedirects call.config.maxRedirects)) }
      | left + 1 =>
        match Redirect.target response request.host with
        | .error fault => { call with stage := .returned (.error (.redirect fault)) }
        | .ok target =>
          let next := Redirect.followUp request response.status target
          if target.host = request.host then
            { call with left := left, stage := .starting next }
          else { call with left := left, stage := .moving next }

/-- What a call can do at its end of a stream. -/
inductive Acts (call : Call) : StreamEnd → Deed → Call → Prop where
  | sends {stream : StreamEnd} {request : Request} {fragment : Bytes} {unsent : List Bytes} :
      call.stage = .sending stream request (fragment :: unsent) →
      Acts call stream (.wrote fragment) { call with stage := .sending stream request unsent }
  | fails {stream : StreamEnd} {request : Request} {fragment : Bytes} {unsent : List Bytes}
      {fault : TransportError} :
      call.stage = .sending stream request (fragment :: unsent) →
      Acts call stream (.failed fragment fault)
        { call with stage := .leaving stream request (.error (.transport fault)) }
  | receives {stream : StreamEnd} {request : Request} {buffer : Reassembly} {data : Bytes} :
      call.stage = .receiving stream request buffer →
      Acts call stream (.read data)
        { call with stage := .received stream request (Client.takeFragment buffer data) }
  | ends {stream : StreamEnd} {request : Request} {buffer : Reassembly} :
      call.stage = .receiving stream request buffer →
      Acts call stream .sawEnd { call with stage := .closing stream request (.error .noResponse) }
  | finishes {stream : StreamEnd} {request : Request} {outcome : Except ClientError Response} :
      call.stage = .closing stream request outcome →
      Acts call stream .finished { call with stage := .leaving stream request outcome }
  | leaves {stream : StreamEnd} {request : Request} {outcome : Except ClientError Response} :
      call.stage = .leaving stream request outcome →
      Acts call stream .left (call.goOn request outcome)

/-- What a call can do by itself. -/
inductive Proceeds (call : Call) : Call → Prop where
  | sent {stream : StreamEnd} {request : Request} :
      call.stage = .sending stream request [] →
      Proceeds call { call with
        stage := .receiving stream request (.start .response call.config.maxResponseSize) }
  | moved {request : Request} :
      call.stage = .moving request → Proceeds call { call with stage := .starting request }
  | lost {request : Request} (error : ClientError) :
      call.stage = .moving request → Proceeds call { call with stage := .returned (.error error) }

end Call

/-- What a service has to write. -/
def Server.Phase.output (server : Server) : Server.Phase → Bytes
  | answering _ message => server.reply message
  | parting farewell => farewell
  | _ => []

/-- The service of a stream by a server. -/
structure Attendance where
  stream : StreamEnd
  server : Server
  phase : Server.Phase
  /-- The fragments that are left of what it has to write. -/
  unsent : List Bytes

namespace Attendance

/-- A stream has been accepted. -/
def start (server : Server) (stream : StreamEnd) : Attendance :=
  ⟨stream, server, .idle server.config.maxRequestSize, []⟩

/-- Enters a phase, with all that is to be written in it. -/
def enter (attendance : Attendance) (size : Nat) (phase : Server.Phase) : Attendance :=
  { attendance with
    phase := phase
    unsent := fragmentsOf size (phase.output attendance.server) }

/-- What a service can do at its end of the stream. -/
inductive Acts (size : Nat) (attendance : Attendance) : Deed → Attendance → Prop where
  | takes {data : Bytes} {phase : Server.Phase} :
      attendance.phase.Step (.fragment data) phase →
      Acts size attendance (.read data) (attendance.enter size phase)
  | ends {phase : Server.Phase} :
      attendance.phase.Step .silence phase →
      Acts size attendance .sawEnd (attendance.enter size phase)
  | sends {fragment : Bytes} {unsent : List Bytes} :
      attendance.unsent = fragment :: unsent →
      Acts size attendance (.wrote fragment) { attendance with unsent := unsent }
  | fails {fragment : Bytes} {unsent : List Bytes} {fault : TransportError}
      {event : Server.Event} {phase : Server.Phase} :
      attendance.unsent = fragment :: unsent → event.isWrite = true →
      event.succeeded = false → attendance.phase.Step event phase →
      Acts size attendance (.failed fragment fault) (attendance.enter size phase)
  | finishes {phase : Server.Phase} :
      attendance.phase.Step .close phase →
      Acts size attendance .finished (attendance.enter size phase)
  | leaves : attendance.phase = .ended → Acts size attendance .left attendance

/-- What a service can do by itself: when all is written it goes on. -/
inductive Proceeds (size : Nat) (attendance : Attendance) : Attendance → Prop where
  | sent {event : Server.Event} {phase : Server.Phase} :
      attendance.unsent = [] → event.isWrite = true → event.succeeded = true →
      attendance.phase.Step event phase → Proceeds size attendance (attendance.enter size phase)

end Attendance

/-- A client, as far as its calls have it in common. -/
structure Party where
  config : ClientConfig
  link : Option LinkId := none
  /-- The number of the next stream. -/
  nextStream : UInt32 := 0

/-- A network, and all that goes on there. -/
structure Traffic where
  network : LocalNetwork
  /-- The servers, each in the place of its listener. -/
  servers : List Server := []
  parties : List Party := []
  calls : List Call := []
  services : List Attendance := []

namespace Traffic

/-- A network that hands on bytes in fragments of some size, and nothing on it yet. -/
def start (size : Nat) : Traffic := { network := { fragmentSize := size } }

def setCall (world : Traffic) (number : Nat) (call : Call) : Traffic :=
  { world with calls := world.calls.set number call }

def setService (world : Traffic) (number : Nat) (attendance : Attendance) : Traffic :=
  { world with services := world.services.set number attendance }

/-- A client uses the number of a stream. -/
def countStream (world : Traffic) (number : Nat) (party : Party) : Traffic :=
  { world with
    parties := world.parties.set number { party with nextStream := party.nextStream + 1 } }

/-- A call has opened a stream for a request. -/
def opened (world : Traffic) (number : Nat) (call : Call) (party : Party) (request : Request)
    (stream : StreamEnd) (network : LocalNetwork) : Traffic :=
  ({ world with network := network }.countStream call.party party).setCall number
    { call with
      stage := .sending stream request (fragmentsOf world.network.fragmentSize request.encode) }

/-- Something happens. -/
inductive Step : Traffic → Traffic → Prop where
  /-- A server begins to listen. -/
  | listen {world : Traffic} {address : SocketAddress} {listener : ListenerId}
      {network : LocalNetwork} (server : Server) :
      world.network.listen address = (.ok listener, network) →
      Step world { world with network := network, servers := world.servers ++ [server] }
  /-- There is another client. -/
  | join (world : Traffic) (config : ClientConfig) :
      Step world { world with parties := world.parties ++ [{ config := config }] }
  /-- A client has a link to an address, in place of the one it had. -/
  | link {world : Traffic} {number : Nat} {party : Party} {address : SocketAddress}
      {key : Option PeerKey} {link : LinkId} {network : LocalNetwork} :
      world.parties[number]? = some party →
      world.network.dial address key = (.ok link, network) →
      Step world { world with
        network := network
        parties := world.parties.set number { party with link := some link } }
  /-- Nobody listens at the address that was dialed. -/
  | refuse {world : Traffic} {address : SocketAddress} {key : Option PeerKey}
      {fault : TransportError} {network : LocalNetwork} :
      world.network.dial address key = (.error fault, network) →
      Step world { world with network := network }
  /-- A client gives up its link. -/
  | unlink {world : Traffic} {number : Nat} {party : Party} :
      world.parties[number]? = some party →
      Step world { world with parties := world.parties.set number { party with link := none } }
  /-- A link is closed, whether or not it is still held. -/
  | closeLink (world : Traffic) (link : LinkId) :
      Step world { world with network := world.network.closeLink link }
  /-- A call begins, with its request as it is sent. -/
  | issue {world : Traffic} {number : Nat} {party : Party} (request : Request) :
      world.parties[number]? = some party →
      Step world { world with
        calls := world.calls ++
          [⟨number, party.config, party.config.maxRedirects, .starting request⟩] }
  /-- A call gets hold of the link of its client. -/
  | load {world : Traffic} {number : Nat} {call : Call} {party : Party} {request : Request}
      {link : LinkId} :
      world.calls[number]? = some call → call.stage = .starting request →
      world.parties[call.party]? = some party → party.link = some link →
      Step world (world.setCall number { call with stage := .opening link request })
  /-- There is no link. -/
  | unlinked {world : Traffic} {number : Nat} {call : Call} {party : Party} {request : Request} :
      world.calls[number]? = some call → call.stage = .starting request →
      world.parties[call.party]? = some party → party.link = none →
      Step world (world.setCall number { call with stage := .returned (.error .notConnected) })
  /-- A call opens a stream for its request. -/
  | opens {world : Traffic} {number : Nat} {call : Call} {party : Party} {request : Request}
      {link : LinkId} {stream : StreamEnd} {network : LocalNetwork} :
      world.calls[number]? = some call → call.stage = .opening link request →
      world.parties[call.party]? = some party →
      world.network.openStream link party.nextStream = (.ok stream, network) →
      Step world (world.opened number call party request stream network)
  /-- No stream can be opened. -/
  | opensNot {world : Traffic} {number : Nat} {call : Call} {party : Party} {request : Request}
      {link : LinkId} {fault : TransportError} {network : LocalNetwork} :
      world.calls[number]? = some call → call.stage = .opening link request →
      world.parties[call.party]? = some party →
      world.network.openStream link party.nextStream = (.error fault, network) →
      Step world (({ world with network := network }.countStream call.party party).setCall number
        { call with stage := .returned (.error (.transport fault)) })
  /-- A server accepts a stream. -/
  | accepts {world : Traffic} {listener : ListenerId} {server : Server} {stream : StreamEnd}
      {network : LocalNetwork} :
      world.servers[listener.number]? = some server →
      world.network.accept listener = (some stream, network) →
      Step world { world with
        network := network
        services := world.services ++ [.start server stream] }
  | callActs {world : Traffic} {number : Nat} {call after : Call} {stream : StreamEnd}
      {deed : Deed} {network : LocalNetwork} :
      world.calls[number]? = some call → call.Acts stream deed after →
      world.network.Does stream deed network →
      Step world ({ world with network := network }.setCall number after)
  | callProceeds {world : Traffic} {number : Nat} {call after : Call} :
      world.calls[number]? = some call → call.Proceeds after →
      Step world (world.setCall number after)
  | serviceActs {world : Traffic} {number : Nat} {attendance after : Attendance} {deed : Deed}
      {network : LocalNetwork} :
      world.services[number]? = some attendance →
      attendance.Acts world.network.fragmentSize deed after →
      world.network.Does attendance.stream deed network →
      Step world ({ world with network := network }.setService number after)
  | serviceProceeds {world : Traffic} {number : Nat} {attendance after : Attendance} :
      world.services[number]? = some attendance →
      attendance.Proceeds world.network.fragmentSize after →
      Step world (world.setService number after)

end Traffic

end CompactHttp
