import CompactHttp.Client
import CompactHttp.Net.LocalNetwork
import CompactHttp.Server.Serving

/-! # Clients and peers in one process

Peers sit on a local network: servers, and peers that answer from a script whatever they
are asked and write down what that was. Whenever a client has written on a stream, the
peers do all they can before the client reads on (`Simulation.settle`), so that a whole
exchange can be followed without anything happening at the same time.
-/

namespace CompactHttp

/-- What a scripted peer has read on a stream. -/
structure Sighting where
  stream : UInt32
  request : Except FormatError Request

/-- What answers at an address. -/
inductive Peer where
  | server (server : Server)
  /-- Answers each stream with the next reply, and remembers what it has read. -/
  | script (replies : List Bytes) (seen : List Sighting)

/-- A peer and where it listens. -/
structure Site where
  address : SocketAddress
  listener : ListenerId
  peer : Peer

/-- A network with peers on it. -/
structure Simulation where
  network : LocalNetwork
  sites : List Site := []

namespace LocalNetwork

/-- Reads all that is there at an end of a stream, at most `most` fragments, and says whether
it is all there will ever be. -/
def readAll (stream : StreamEnd) : (most : Nat) → LocalNetwork → (List Bytes × Bool) × LocalNetwork
  | 0, network => (([], false), network)
  | most + 1, network =>
    match network.read stream with
    | (.fragment data, network) =>
      let ((fragments, finished), network) := readAll stream most network
      ((data :: fragments, finished), network)
    | (.finished, network) => (([], true), network)
    | (.pending, network) => (([], false), network)

/-- How many fragments are there to be read at an end of a stream. -/
def fragmentsWaiting (network : LocalNetwork) (stream : StreamEnd) : Nat :=
  match network.streams[stream.number]? with
  | some pipes => (pipes.incoming stream.side).waiting.length
  | none => 0

/-- Reads all that is there at an end of a stream. -/
def drain (network : LocalNetwork) (stream : StreamEnd) : (List Bytes × Bool) × LocalNetwork :=
  readAll stream (network.fragmentsWaiting stream + 1) network

end LocalNetwork

namespace Simulation

/-- A network without peers. -/
def empty (fragmentSize : Nat) : Simulation := ⟨{ fragmentSize := fragmentSize }, []⟩

/-- Puts a peer at an address, if it is free. -/
def place (simulation : Simulation) (address : SocketAddress) (peer : Peer) :
    Except TransportError Simulation :=
  match simulation.network.listen address with
  | (.error fault, _) => .error fault
  | (.ok listener, network) => .ok ⟨network, simulation.sites ++ [⟨address, listener, peer⟩]⟩

/-- The peers at an address stop listening. -/
def stop (simulation : Simulation) (address : SocketAddress) : Simulation :=
  let leaving := simulation.sites.filter fun site => site.address == address
  { simulation with
    network := leaving.foldl (fun network site => network.unbind site.listener)
      simulation.network }

/-- What a server writes when fragments come on a stream, and whether it goes on. -/
def answer (server : Server) (buffer : Reassembly) : List Bytes → List Bytes × Bool
  | [] => ([], true)
  | fragment :: rest =>
    let reaction := server.receive buffer fragment
    match reaction.farewell with
    | some farewell => (reaction.replies ++ [farewell], false)
    | none =>
      let (replies, goesOn) := answer server reaction.buffer rest
      (reaction.replies ++ replies, goesOn)

/-- What a scripted peer reads from fragments, of which `held` have come already: the request
in front, as soon as it is there in full. -/
def readRequest (held : Bytes) : List Bytes → Except FormatError Request
  | [] => Request.decode held
  | fragment :: rest =>
    let held := held ++ fragment
    match Request.length? held with
    | .error fault => .error fault
    | .ok none => readRequest held rest
    | .ok (some length) => Request.decode (held.take length)

/-- A peer answers on a stream that it has accepted. -/
def Peer.serve (peer : Peer) (network : LocalNetwork) (stream : StreamEnd) : LocalNetwork × Peer :=
  let ((fragments, finished), network) := network.drain stream
  match peer with
  | .server server =>
    let (replies, goesOn) := answer server server.idle fragments
    let network := replies.foldl (fun network reply => (network.write stream reply).2) network
    (if goesOn && !finished then network else network.leave stream, peer)
  | .script replies seen =>
    let seen := seen ++ [⟨network.streamId stream, readRequest [] fragments⟩]
    let network := match replies with
      | reply :: _ => (network.write stream reply).2
      | [] => network
    (network.leave stream, .script replies.tail seen)

/-- A peer answers on all streams that wait for it, at most `most`. -/
def Site.serve (site : Site) : (most : Nat) → LocalNetwork → LocalNetwork × Site
  | 0, network => (network, site)
  | most + 1, network =>
    match network.accept site.listener with
    | (none, network) => (network, site)
    | (some stream, network) =>
      let (network, peer) := Peer.serve site.peer network stream
      Site.serve { site with peer := peer } most network

/-- All peers do what they can. -/
def settle (simulation : Simulation) : Simulation :=
  let (network, sites) := simulation.sites.foldl
    (fun (network, sites) site =>
      let (network, site) := Site.serve site network.streams.length network
      (network, sites ++ [site])) (simulation.network, [])
  ⟨network, sites⟩

/-- An operation of the network. -/
def lift {Result : Type} (operation : LocalNetwork → Result × LocalNetwork)
    (simulation : Simulation) : Result × Simulation :=
  let (result, network) := operation simulation.network
  (result, { simulation with network := network })

/-- The transport over the network. Writing gives the peers time to answer. -/
def transport : Transport Simulation LinkId StreamEnd where
  dial address key := lift fun network => network.dial address key
  closeLink link simulation :=
    { simulation with network := simulation.network.closeLink link }
  openStream link id := lift fun network => network.openStream link id
  write stream data simulation :=
    let (result, simulation) := lift (fun network => network.write stream data) simulation
    (result, simulation.settle)
  receive stream := lift fun network =>
    let ((fragments, _), network) := network.drain stream
    (⟨fragments, none⟩, network)
  release stream simulation := { simulation with network := simulation.network.leave stream }

/-- What the scripted peers at an address have seen. -/
def seenAt (simulation : Simulation) (address : SocketAddress) : List Sighting :=
  (simulation.sites.filter fun site => site.address == address).flatMap fun site =>
    match site.peer with
    | .script _ seen => seen
    | .server _ => []

end Simulation

end CompactHttp
