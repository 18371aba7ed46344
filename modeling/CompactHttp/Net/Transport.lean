import CompactHttp.Net.Address
import CompactHttp.Net.KeyRecord

/-! # Transports

A transport dials links to peers. On a link any number of streams may be opened, each with
a number of its own; a stream carries bytes both ways. A transport is given by what its
operations do to a world, which holds whatever lies between the peers and the peers
themselves.
-/

namespace CompactHttp

/-- Why an operation of a transport fails. -/
inductive TransportError where
  /-- The link or the stream is closed. -/
  | closed
  /-- Nobody listens at the address. -/
  | refused (address : SocketAddress)
  /-- Somebody else listens at the address. -/
  | addressInUse (address : SocketAddress)
  /-- There is no network to reach the peer by. -/
  | unreachable
deriving DecidableEq, Repr

/-- What an error says. -/
def TransportError.message : TransportError → String
  | closed => "stream closed"
  | refused address => "connection refused by " ++ address.text
  | addressInUse address => "address already in use: " ++ address.text
  | unreachable => "transport I/O error: Network is unreachable (os error 101)"

/-- All that will come on a stream: fragments, and then its end or a fault. -/
structure Incoming where
  fragments : List Bytes
  fault : Option TransportError
deriving DecidableEq, Repr

/-- A transport in a world, with what stands for links and for streams. -/
structure Transport (World Link Stream : Type) where
  /-- Makes a link to an address. With the key of the peer it is safe from the start. -/
  dial : SocketAddress → Option PeerKey → World → Except TransportError Link × World
  /-- Closes a link. No more streams can be opened on it. -/
  closeLink : Link → World → World
  /-- Opens a stream with a number of the caller's choice. -/
  openStream : Link → UInt32 → World → Except TransportError Stream × World
  /-- Sends bytes. -/
  write : Stream → Bytes → World → Except TransportError Unit × World
  /-- Waits for all that comes. -/
  receive : Stream → World → Incoming × World
  /-- Gives a stream up. -/
  release : Stream → World → World

/-- The transport of a machine without network. Links can be dialed, as that sends nothing,
but no stream can be opened. -/
def Transport.offline : Transport Unit SocketAddress Empty where
  dial address _ world := (.ok address, world)
  closeLink _ world := world
  openStream _ _ world := (.error .unreachable, world)
  write stream := nomatch stream
  receive stream := nomatch stream
  release stream := nomatch stream

end CompactHttp
