import CompactHttp.Server

/-! # Serving a stream

On one stream requests come in fragments, and each is answered as soon as it is there in
full. Bytes that can begin no request, and more bytes than may be held, are answered once
more and end the service. What the service does with a fragment is `Server.receive`; a
whole run over a stream that is known beforehand is `Server.serve`.
-/

namespace CompactHttp

/-- What comes of reading a stream. -/
inductive Arrival where
  | fragment (data : Bytes)
  /-- The stream is broken, and nothing more can be read. -/
  | broken
deriving DecidableEq, Repr

/-- What a service does next: what it writes in answer to messages, what it writes to end
the service, if it ends, and what it holds. -/
structure Reaction where
  replies : List Bytes
  farewell : Option Bytes
  buffer : Reassembly
deriving DecidableEq, Repr

/-- How a service went. -/
structure Service where
  /-- What was written, in order. -/
  written : List Bytes
  /-- Whether the stream was closed. -/
  closed : Bool
  /-- What was never read. -/
  unread : List Arrival
deriving DecidableEq, Repr

/-- The first writes, as many as are allowed; without a limit all of them. -/
def writable (allowance : Option Nat) (writes : List Bytes) : List Bytes :=
  match allowance with
  | some count => writes.take count
  | none => writes

namespace Server

/-- Nothing has come on the stream. -/
def idle (server : Server) : Reassembly := .start .request server.config.maxRequestSize

/-- What the service does when a fragment comes. -/
def receive (server : Server) (buffer : Reassembly) (data : Bytes) : Reaction :=
  match buffer.push data with
  | (.error _, buffer) => ⟨[], some payloadTooLarge.encode, buffer⟩
  | (.ok (), buffer) =>
    let ((messages, fault), buffer) := buffer.drain
    ⟨messages.map server.reply, fault.map fun _ => badRequest.encode, buffer⟩

/-- Serves a stream of which `allowance` writes succeed, all if there is no limit. The stream
is closed at its end, unless an answer to a message could not be written. -/
def serveFrom (server : Server) (buffer : Reassembly) (allowance : Option Nat) :
    List Arrival → Service
  | [] => ⟨[], true, []⟩
  | .broken :: rest => ⟨[], true, rest⟩
  | .fragment data :: rest =>
    let reaction := server.receive buffer data
    let written := writable allowance reaction.replies
    let allowance := allowance.map (· - written.length)
    if written.length < reaction.replies.length then ⟨written, false, rest⟩
    else
      match reaction.farewell with
      | some farewell => ⟨written ++ writable allowance [farewell], true, rest⟩
      | none =>
        let service := server.serveFrom reaction.buffer allowance rest
        { service with written := written ++ service.written }

/-- Serves a stream from its start. -/
def serve (server : Server) (allowance : Option Nat) (arrivals : List Arrival) : Service :=
  server.serveFrom server.idle allowance arrivals

end Server

end CompactHttp
