import CompactHttp.Client.Error

/-! # Taking in a response

A response is put together from the fragments of a stream and unpacked, both under the
client's limit. What comes after the first whole response is not looked at.
-/

namespace CompactHttp.Client

/-- What a client does with a fragment: it has a response, it waits for more, or it gives
up. -/
def takeFragment (buffer : Reassembly) (fragment : Bytes) :
    Except ClientError (Response ⊕ Reassembly) :=
  match buffer.push fragment with
  | (.error fault, _) => .error (.ofFraming fault)
  | (.ok (), buffer) =>
    match buffer.next with
    | (.error fault, _) => .error (.ofFraming fault)
    | (.ok none, buffer) => .ok (.inr buffer)
    | (.ok (some message), _) =>
      match Response.decode message with
      | .ok response => .ok (.inl response)
      | .error fault => .error (.malformed fault)

/-- The response that comes on a stream, of which `buffer` holds what has come so far. -/
def takeResponseFrom (buffer : Reassembly) (fault : Option TransportError) :
    List Bytes → Except ClientError Response
  | [] =>
    match fault with
    | some fault => .error (.transport fault)
    | none => .error .noResponse
  | fragment :: rest =>
    match takeFragment buffer fragment with
    | .error error => .error error
    | .ok (.inl response) => .ok response
    | .ok (.inr buffer) => takeResponseFrom buffer fault rest

/-- The response that comes on a stream, of at most `limit` bytes. -/
def takeResponse (limit : Nat) (incoming : Incoming) : Except ClientError Response :=
  takeResponseFrom (.start .response limit) incoming.fault incoming.fragments

/-- A response with its body unpacked to at most `limit` bytes by some programs. -/
def unpackWith (codec : Codec) (limit : Nat) (response : Response) :
    Except ClientError Response :=
  match response.headers.get? "content-encoding" with
  | none => .ok response
  | some word =>
    if word.isEmpty then .ok response
    else
      match Encoding.parse word with
      | .error fault => .error (.undecodable fault)
      | .ok encoding =>
        match codec.decompress encoding limit response.body with
        | .error fault => .error (.undecodable fault)
        | .ok body =>
          .ok { response with
            headers := (response.headers.erase "content-encoding").insert "content-length"
              (toString body.length)
            body := body }

/-- A response with its body unpacked to at most `limit` bytes. -/
def unpack (limit : Nat) (response : Response) : Except ClientError Response :=
  unpackWith .standard limit response

end CompactHttp.Client
