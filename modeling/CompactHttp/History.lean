import CompactHttp.Traffic

/-! # The history of a local network

Listeners, links and streams of a local network are used in any order by whoever holds them
(`LocalNetwork.Happens`). What has happened is a history, the last thing first, and from the
history alone it is known who is bound to an address, where a link leads, which streams a
listener is to have, and what has been done at a stream (`History`, `Life`).
-/

namespace CompactHttp

/-- The end that is across from an end. -/
def Side.other : Side → Side
  | .client => .server
  | .server => .client

/-- The end of the same stream that is across from an end. -/
def StreamEnd.peer (stream : StreamEnd) : StreamEnd := ⟨stream.number, stream.side.other⟩

/-- What happens on a local network, and what comes of it. A reading that finds nothing yet is
not told. -/
inductive Happening where
  | listened (address : SocketAddress) (result : Except TransportError ListenerId)
  | unbound (listener : ListenerId)
  | dialed (address : SocketAddress) (key : Option PeerKey)
      (result : Except TransportError LinkId)
  | closed (link : LinkId)
  | opened (link : LinkId) (id : UInt32) (result : Except TransportError StreamEnd)
  | accepted (listener : ListenerId) (result : Option StreamEnd)
  | did (stream : StreamEnd) (deed : Deed)

namespace LocalNetwork

/-- A listener is bound and not gone. -/
def Listens (network : LocalNetwork) (listener : ListenerId) : Prop :=
  ∃ state, network.listeners[listener.number]? = some state ∧ state.isLive = true

/-- What becomes of a network by what happens. Only what there is can be used, and a listener
that is gone no more. -/
inductive Happens (network : LocalNetwork) : Happening → LocalNetwork → Prop where
  | listened {address : SocketAddress} {result : Except TransportError ListenerId}
      {after : LocalNetwork} :
      network.listen address = (result, after) → Happens network (.listened address result) after
  | unbound {listener : ListenerId} :
      network.Listens listener → Happens network (.unbound listener) (network.unbind listener)
  | dialed {address : SocketAddress} {key : Option PeerKey}
      {result : Except TransportError LinkId} {after : LocalNetwork} :
      network.dial address key = (result, after) →
      Happens network (.dialed address key result) after
  | closed {link : LinkId} :
      link.number < network.links.length → Happens network (.closed link) (network.closeLink link)
  | opened {link : LinkId} {id : UInt32} {result : Except TransportError StreamEnd}
      {after : LocalNetwork} :
      link.number < network.links.length → network.openStream link id = (result, after) →
      Happens network (.opened link id result) after
  | accepted {listener : ListenerId} {result : Option StreamEnd} {after : LocalNetwork} :
      network.Listens listener → network.accept listener = (result, after) →
      Happens network (.accepted listener result) after
  | did {stream : StreamEnd} {deed : Deed} {after : LocalNetwork} :
      stream.number < network.streams.length → network.Does stream deed after →
      Happens network (.did stream deed) after

end LocalNetwork

/-- What has happened on a network, the last thing first. -/
abbrev History := List Happening

/-- What a new network with fragments of some size has become by what has happened. -/
inductive LocalNetwork.Reached (size : Nat) : History → LocalNetwork → Prop where
  | start : Reached size [] { fragmentSize := size }
  | step {history : History} {before after : LocalNetwork} {event : Happening} :
      Reached size history before → before.Happens event after →
      Reached size (event :: history) after

/-- What has been done at the ends of a stream, the last thing first. -/
abbrev Life := List (Side × Deed)

namespace Life

/-- All bytes written at an end, in order. -/
def sent (side : Side) : Life → Bytes
  | [] => []
  | (here, .wrote data) :: earlier =>
    if here = side then sent side earlier ++ data else sent side earlier
  | _ :: earlier => sent side earlier

/-- All fragments read at an end, in order. -/
def received (side : Side) : Life → List Bytes
  | [] => []
  | (here, .read data) :: earlier =>
    if here = side then received side earlier ++ [data] else received side earlier
  | _ :: earlier => received side earlier

/-- An end is gone. -/
def HasLeft (life : Life) (side : Side) : Prop := (side, .left) ∈ life

/-- An end writes no more. -/
def HasClosed (life : Life) (side : Side) : Prop := (side, .finished) ∈ life ∨ life.HasLeft side

end Life

namespace History

/-- The listeners that have been bound, each with its address. -/
def bindings (history : History) : List (ListenerId × SocketAddress) :=
  history.filterMap fun event =>
    match event with
    | .listened address (.ok listener) => some (listener, address)
    | _ => none

/-- The listeners that are gone. -/
def gone (history : History) : List ListenerId :=
  history.filterMap fun event =>
    match event with
    | .unbound listener => some listener
    | _ => none

/-- The links that have been closed. -/
def closed (history : History) : List LinkId :=
  history.filterMap fun event =>
    match event with
    | .closed link => some link
    | _ => none

/-- A listener was bound to an address and is not gone. -/
def Live (history : History) (listener : ListenerId) (address : SocketAddress) : Prop :=
  (listener, address) ∈ history.bindings ∧ listener ∉ history.gone

/-- The listener that is bound to an address. -/
def boundTo? (history : History) (address : SocketAddress) : Option ListenerId :=
  (history.bindings.find? fun binding =>
    binding.2 = address ∧ binding.1 ∉ history.gone).map Prod.fst

/-- The listener a link leads to, which was the one bound when the link was dialed, and the
address it was dialed by. -/
def peer? (link : LinkId) : History → Option (ListenerId × SocketAddress)
  | [] => none
  | .dialed address _ (.ok here) :: earlier =>
    if here = link then (boundTo? earlier address).map fun listener => (listener, address)
    else peer? link earlier
  | _ :: earlier => peer? link earlier

/-- The streams that have been opened, in order, each with the listener its link leads to. -/
def openings : History → List (Nat × ListenerId)
  | [] => []
  | .opened link _ (.ok stream) :: earlier =>
    match peer? link earlier with
    | some (listener, _) => openings earlier ++ [(stream.number, listener)]
    | none => openings earlier
  | _ :: earlier => openings earlier

/-- The streams opened on links to a listener, in order. -/
def opened (history : History) (listener : ListenerId) : List Nat :=
  (history.openings.filter fun opening => opening.2 = listener).map Prod.fst

/-- The streams that a listener has accepted, in order. -/
def accepted (listener : ListenerId) : History → List Nat
  | [] => []
  | .accepted here (some stream) :: earlier =>
    if here = listener then accepted listener earlier ++ [stream.number]
    else accepted listener earlier
  | _ :: earlier => accepted listener earlier

/-- The keys of all dials to an address, in order. -/
def keys (address : SocketAddress) : History → List (Option PeerKey)
  | [] => []
  | .dialed here key _ :: earlier =>
    if here = address then keys address earlier ++ [key] else keys address earlier
  | _ :: earlier => keys address earlier

/-- What has been done at the ends of a stream. A listener that goes takes with it the server
ends that it has not accepted. -/
def life (number : Nat) : History → Life
  | [] => []
  | .did stream deed :: earlier =>
    if stream.number = number then (stream.side, deed) :: life number earlier
    else life number earlier
  | .unbound listener :: earlier =>
    if number ∈ opened earlier listener ∧ number ∉ accepted listener earlier then
      (.server, .left) :: life number earlier
    else life number earlier
  | _ :: earlier => life number earlier

section Ends

variable (history : History) (stream : StreamEnd)

/-- All bytes written at an end of a stream, in order. -/
def sent : Bytes := (history.life stream.number).sent stream.side

/-- All fragments read at an end of a stream, in order. -/
def received : List Bytes := (history.life stream.number).received stream.side

/-- An end of a stream is gone. -/
def HasLeft : Prop := (history.life stream.number).HasLeft stream.side

/-- An end of a stream writes no more. -/
def HasClosed : Prop := (history.life stream.number).HasClosed stream.side

end Ends

end History

end CompactHttp
