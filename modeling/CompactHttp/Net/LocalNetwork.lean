import CompactHttp.Net.Transport

/-! # A network within one process

Listeners are bound to addresses, links lead to listeners, and a stream is a pair of pipes
between the client that opened it and the server that accepts it. Bytes are handed on in
fragments of limited size. Nothing waits here: what would wait says that nothing is there
yet. Whatever is made gets a number, which is never used again.
-/

namespace CompactHttp

/-- One direction of a stream. -/
structure Pipe where
  /-- What has been written and not yet read, in fragments. -/
  waiting : List Bytes := []
  /-- Whether the writer may still write. -/
  isWritable : Bool := true
  /-- Whether there still is a reader. -/
  hasReader : Bool := true
deriving DecidableEq, Repr

/-- What comes of reading. -/
inductive Receipt where
  | fragment (data : Bytes)
  /-- The peer writes no more, and all it wrote has been read. -/
  | finished
  /-- Nothing is there yet. -/
  | pending
deriving DecidableEq, Repr

/-- A byte string cut into fragments of `size` bytes and a last one that may be shorter. A
size of zero counts as one. -/
def fragmentsOf (size : Nat) : Bytes → List Bytes
  | [] => []
  | byte :: rest => (byte :: rest.take (size - 1)) :: fragmentsOf size (rest.drop (size - 1))
termination_by data => data.length
decreasing_by
  simp only [List.length_drop, List.length_cons]
  omega

namespace Pipe

/-- Writes bytes in fragments. Without a reader only nothing can be written. -/
def write (size : Nat) (pipe : Pipe) (data : Bytes) : Except TransportError Unit × Pipe :=
  if !pipe.isWritable then (.error .closed, pipe)
  else if data.isEmpty then (.ok (), pipe)
  else if !pipe.hasReader then (.error .closed, pipe)
  else (.ok (), { pipe with waiting := pipe.waiting ++ fragmentsOf size data })

/-- Reads a fragment. -/
def read (pipe : Pipe) : Receipt × Pipe :=
  match pipe.waiting with
  | fragment :: rest => (.fragment fragment, { pipe with waiting := rest })
  | [] => (if pipe.isWritable then .pending else .finished, pipe)

/-- Nothing more will be written. -/
def finish (pipe : Pipe) : Pipe := { pipe with isWritable := false }

/-- Nobody will read any more. -/
def abandon (pipe : Pipe) : Pipe := { pipe with waiting := [], hasReader := false }

end Pipe

/-- The two ends of a stream. -/
inductive Side where
  | client
  | server
deriving DecidableEq, Repr

/-- A stream: its number on the link, and its two directions. -/
structure StreamPipes where
  id : UInt32
  toServer : Pipe := {}
  toClient : Pipe := {}
deriving DecidableEq, Repr

namespace StreamPipes

/-- The direction that an end writes to. -/
def outgoing (stream : StreamPipes) : Side → Pipe
  | .client => stream.toServer
  | .server => stream.toClient

/-- The direction that an end reads from. -/
def incoming (stream : StreamPipes) : Side → Pipe
  | .client => stream.toClient
  | .server => stream.toServer

/-- The stream with the direction that an end writes to replaced. -/
def setOutgoing (stream : StreamPipes) (pipe : Pipe) : Side → StreamPipes
  | .client => { stream with toServer := pipe }
  | .server => { stream with toClient := pipe }

/-- The stream with the direction that an end reads from replaced. -/
def setIncoming (stream : StreamPipes) (pipe : Pipe) : Side → StreamPipes
  | .client => { stream with toClient := pipe }
  | .server => { stream with toServer := pipe }

/-- An end is gone: it writes and reads no more. -/
def leave (stream : StreamPipes) (side : Side) : StreamPipes :=
  (stream.setOutgoing (stream.outgoing side).finish side).setIncoming
    (stream.incoming side).abandon side

end StreamPipes

/-- The number of a listener. -/
structure ListenerId where
  number : Nat
deriving DecidableEq, Repr

/-- The number of a link. -/
structure LinkId where
  number : Nat
deriving DecidableEq, Repr

/-- An end of a stream with some number. -/
structure StreamEnd where
  number : Nat
  side : Side
deriving DecidableEq, Repr

/-- Somebody who listens, or did. -/
structure ListenerState where
  address : SocketAddress
  isLive : Bool := true
  /-- The streams that have been opened and not yet accepted, in order. -/
  waiting : List Nat := []
deriving DecidableEq, Repr

/-- A link to a listener. -/
structure LinkState where
  listener : ListenerId
  remote : SocketAddress
  isClosed : Bool := false
deriving DecidableEq, Repr

/-- A network. Listeners, links and streams stand in the order of their numbers. -/
structure LocalNetwork where
  fragmentSize : Nat
  listeners : List ListenerState := []
  links : List LinkState := []
  streams : List StreamPipes := []
  /-- The address of each dial, and the key it was made with. -/
  dials : List (SocketAddress × Option PeerKey) := []

namespace LocalNetwork

/-- How many bytes a fragment has unless something else is asked for. -/
def usualFragmentSize : Nat := 1200

/-- The listener that is bound to an address. -/
def boundTo? (network : LocalNetwork) (address : SocketAddress) : Option ListenerId :=
  (network.listeners.findIdx? fun listener => listener.isLive && listener.address == address).map
    ListenerId.mk

/-- Binds a listener to an address that no other is bound to. -/
def listen (network : LocalNetwork) (address : SocketAddress) :
    Except TransportError ListenerId × LocalNetwork :=
  match network.boundTo? address with
  | some _ => (.error (.addressInUse address), network)
  | none =>
    (.ok ⟨network.listeners.length⟩,
      { network with listeners := network.listeners ++ [{ address := address }] })

/-- The keys that links to an address were dialed with, those included that were refused. -/
def keysDialed (network : LocalNetwork) (address : SocketAddress) : List (Option PeerKey) :=
  (network.dials.filter fun dial => dial.1 == address).map Prod.snd

/-- Makes a link to the listener that is bound to an address. -/
def dial (network : LocalNetwork) (address : SocketAddress) (key : Option PeerKey) :
    Except TransportError LinkId × LocalNetwork :=
  let network := { network with dials := network.dials ++ [(address, key)] }
  match network.boundTo? address with
  | none => (.error (.refused address), network)
  | some listener =>
    (.ok ⟨network.links.length⟩,
      { network with links := network.links ++ [{ listener := listener, remote := address }] })

/-- Closes a link. Streams on it live on. -/
def closeLink (network : LocalNetwork) (link : LinkId) : LocalNetwork :=
  { network with
    links := network.links.modify link.number fun state => { state with isClosed := true } }

/-- Opens a stream on a link. The other end waits for the listener that was dialed. -/
def openStream (network : LocalNetwork) (link : LinkId) (id : UInt32) :
    Except TransportError StreamEnd × LocalNetwork :=
  match network.links[link.number]? with
  | none => (.error .closed, network)
  | some state =>
    let isLive := (network.listeners[state.listener.number]?.map (·.isLive)).getD false
    if state.isClosed then (.error .closed, network)
    else if !isLive then (.error (.refused state.remote), network)
    else
      let number := network.streams.length
      (.ok ⟨number, .client⟩,
        { network with
          streams := network.streams ++ [{ id := id }]
          listeners := network.listeners.modify state.listener.number fun listener =>
            { listener with waiting := listener.waiting ++ [number] } })

/-- The next stream that waits for a listener. -/
def accept (network : LocalNetwork) (listener : ListenerId) : Option StreamEnd × LocalNetwork :=
  match (network.listeners[listener.number]?.map (·.waiting)).getD [] with
  | [] => (none, network)
  | number :: rest =>
    (some ⟨number, .server⟩,
      { network with
        listeners := network.listeners.modify listener.number fun state =>
          { state with waiting := rest } })

/-- The number on its link of a stream. -/
def streamId (network : LocalNetwork) (stream : StreamEnd) : UInt32 :=
  (network.streams[stream.number]?.map (·.id)).getD 0

/-- Writes bytes at an end of a stream. -/
def write (network : LocalNetwork) (stream : StreamEnd) (data : Bytes) :
    Except TransportError Unit × LocalNetwork :=
  match network.streams[stream.number]? with
  | none => (.error .closed, network)
  | some pipes =>
    let (result, pipe) := (pipes.outgoing stream.side).write network.fragmentSize data
    (result, { network with
      streams := network.streams.set stream.number (pipes.setOutgoing pipe stream.side) })

/-- Reads a fragment at an end of a stream. -/
def read (network : LocalNetwork) (stream : StreamEnd) : Receipt × LocalNetwork :=
  match network.streams[stream.number]? with
  | none => (.finished, network)
  | some pipes =>
    let (receipt, pipe) := (pipes.incoming stream.side).read
    (receipt, { network with
      streams := network.streams.set stream.number (pipes.setIncoming pipe stream.side) })

/-- An end of a stream writes no more; it may still read. -/
def finish (network : LocalNetwork) (stream : StreamEnd) : LocalNetwork :=
  { network with
    streams := network.streams.modify stream.number fun pipes =>
      pipes.setOutgoing (pipes.outgoing stream.side).finish stream.side }

/-- An end of a stream is gone. -/
def leave (network : LocalNetwork) (stream : StreamEnd) : LocalNetwork :=
  { network with
    streams := network.streams.modify stream.number fun pipes => pipes.leave stream.side }

/-- A listener is gone. Its address is free again, and the streams that waited for it lose
their other end. -/
def unbind (network : LocalNetwork) (listener : ListenerId) : LocalNetwork :=
  let waiting := (network.listeners[listener.number]?.map (·.waiting)).getD []
  let network := waiting.foldl (fun network number => network.leave ⟨number, .server⟩) network
  { network with
    listeners := network.listeners.modify listener.number fun state =>
      { state with isLive := false, waiting := [] } }

end LocalNetwork

end CompactHttp
