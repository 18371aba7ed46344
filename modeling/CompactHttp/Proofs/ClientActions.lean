import CompactHttp.Client
import Mathlib.Tactic.Common

/-! # What a client's actions come to

Each action of a client is worked out once, as a function of its situation: how a request gets
to the peer and what comes back (`Client.answerTo`, `Client.roundTrip_eq`), how links are closed,
made and made anew (`Client.close_eq`, `Client.connect_eq`, `Client.reconnect_eq`), and how a
call goes on from a response (`Client.follow_of_final` and what stands beside it).
-/

namespace CompactHttp

/-- A request that follows goes to the host that the redirect leads to. -/
@[simp]
theorem Redirect.host_followUp (request : Request) (status : UInt16) (target : RedirectTarget) :
    (followUp request status target).host = target.host := by
  unfold followUp
  split <;> rfl

/-- A request that follows asks for the path that the redirect leads to. -/
@[simp]
theorem Redirect.path_followUp (request : Request) (status : UInt16) (target : RedirectTarget) :
    (followUp request status target).path = target.path := by
  unfold followUp
  split <;> rfl

namespace Client

variable {World Link Stream : Type} {client : Client World Link Stream}
  {situation after : Situation World Link} {request : Request} {response : Response}

section Bind

variable {First Second : Type} {action : Action World Link First}

theorem bind_of_ok {result : First} (done : action situation = .ok result after)
    (onward : First → Action World Link Second) :
    (action >>= onward) situation = onward result after := by
  simp only [bind, EStateM.bind, done]

theorem bind_of_error {error : ClientError} (failed : action situation = .error error after)
    (onward : First → Action World Link Second) :
    (action >>= onward) situation = .error error after := by
  simp only [bind, EStateM.bind, failed]

theorem bind_get (onward : Situation World Link → Action World Link Second) :
    (get >>= onward) situation = onward situation situation := rfl

end Bind

section World

variable {Result : Type}

/-- Something that is done in the world changes nothing else. -/
theorem inWorld_eq (operation : World → Result × World) (situation : Situation World Link) :
    inWorld operation situation = .ok (operation situation.world).1
      { situation with world := (operation situation.world).2 } := rfl

end World

section Attempt

variable {Result : Type} {operation : World → Except TransportError Result × World}
  {world : World}

/-- An operation of the world that succeeds changes nothing but the world. -/
theorem attempt_of_ok {result : Result} (done : operation situation.world = (.ok result, world)) :
    attempt operation situation = .ok result { situation with world := world } := by
  rw [attempt, bind_get, done]
  rfl

/-- An operation of the world that fails changes nothing but the world either. -/
theorem attempt_of_error {fault : TransportError}
    (failed : operation situation.world = (.error fault, world)) :
    attempt operation situation = .error (.transport fault) { situation with world := world } := by
  rw [attempt, bind_get, failed]
  rfl

end Attempt

section Finish

variable {Result : Type} {outcome : Except ClientError Result} {result : Result}
  {error : ClientError}

/-- A settled outcome is given where the client stands. -/
theorem finish_eq_ok_iff :
    finish outcome situation = .ok result after ↔ outcome = .ok result ∧ situation = after := by
  constructor
  · intro done
    cases outcome <;> cases done
    exact ⟨rfl, rfl⟩
  · rintro ⟨rfl, rfl⟩
    rfl

/-- A settled failure happens where the client stands. -/
theorem finish_eq_error_iff :
    finish outcome situation = .error error after ↔
      outcome = .error error ∧ situation = after := by
  constructor
  · intro failed
    cases outcome <;> cases failed
    exact ⟨rfl, rfl⟩
  · rintro ⟨rfl, rfl⟩
    rfl

end Finish

/-! ## One request -/

/-- The number of a stream has been used. -/
def Situation.counted (situation : Situation World Link) : Situation World Link :=
  { situation with nextStream := situation.nextStream + 1 }

/-- All that comes in answer to a request, or why it could not be sent, and the situation
after that. -/
def answerTo (client : Client World Link Stream) (request : Request)
    (situation : Situation World Link) : Except ClientError Incoming × Situation World Link :=
  match situation.link with
  | none => (.error .notConnected, situation)
  | some link =>
    match client.transport.openStream link situation.nextStream situation.world with
    | (.error fault, world) => (.error (.transport fault), { situation.counted with world := world })
    | (.ok stream, world) =>
      match client.transport.write stream request.encode world with
      | (.error fault, world) =>
        (.error (.transport fault),
          { situation.counted with world := client.transport.release stream world })
      | (.ok (), world) =>
        let (incoming, world) := client.transport.receive stream world
        (.ok incoming, { situation.counted with world := client.transport.release stream world })

section Linked

variable {link : Link} {stream : Stream} {fault : TransportError} {world later : World}
  (linked : situation.link = some link)
include linked

/-- A stream that cannot be opened is no answer, but its number is used up. -/
theorem answerTo_of_unopened (request : Request)
    (opens : client.transport.openStream link situation.nextStream situation.world =
      (.error fault, world)) :
    client.answerTo request situation =
      (.error (.transport fault), { situation.counted with world := world }) := by
  simp only [answerTo, linked, opens]

/-- A request that cannot be written is no answer, and its number is used up. -/
theorem answerTo_of_unsent
    (opens : client.transport.openStream link situation.nextStream situation.world =
      (.ok stream, world))
    (writes : client.transport.write stream request.encode world = (.error fault, later)) :
    client.answerTo request situation = (.error (.transport fault),
      { situation.counted with world := client.transport.release stream later }) := by
  simp only [answerTo, linked, opens, writes]

/-- A request that has been written is answered with what comes on the stream. -/
theorem answerTo_of_sent
    (opens : client.transport.openStream link situation.nextStream situation.world =
      (.ok stream, world))
    (writes : client.transport.write stream request.encode world = (.ok (), later)) :
    client.answerTo request situation = (.ok (client.transport.receive stream later).1,
      { situation.counted with
        world := client.transport.release stream (client.transport.receive stream later).2 }) := by
  simp only [answerTo, linked, opens, writes]

/-- A request over a link uses the number of a stream, and goes on from there. -/
theorem roundTrip_of_linked (request : Request) :
    client.roundTrip request situation = (attempt (client.transport.openStream link
        situation.nextStream) >>= fun stream =>
      (try attempt (client.transport.write stream request.encode)
        catch error =>
          change (client.transport.release stream)
          throw error) >>= fun _ => do
        let (incoming, world) := client.transport.receive stream (← get).world
        modify fun situation => { situation with world := world }
        change (client.transport.release stream)
        finish (takeResponse client.config.maxResponseSize incoming) : Action World Link Response)
      situation.counted := by
  obtain ⟨world, held, remote, next⟩ := situation
  cases linked
  rfl

/-- A round trip fails with the stream that cannot be opened. -/
theorem roundTrip_of_unopened (request : Request)
    (opens : client.transport.openStream link situation.nextStream situation.world =
      (.error fault, world)) :
    client.roundTrip request situation =
      .error (.transport fault) { situation.counted with world := world } := by
  rw [roundTrip_of_linked linked]
  apply bind_of_error
  exact attempt_of_error opens

/-- A round trip fails with the request that cannot be written. -/
theorem roundTrip_of_unsent
    (opens : client.transport.openStream link situation.nextStream situation.world =
      (.ok stream, world))
    (writes : client.transport.write stream request.encode world = (.error fault, later)) :
    client.roundTrip request situation = .error (.transport fault)
      { situation.counted with world := client.transport.release stream later } := by
  have opened : attempt (client.transport.openStream link situation.nextStream)
      situation.counted = .ok stream { situation.counted with world := world } :=
    attempt_of_ok opens
  rw [roundTrip_of_linked linked, bind_of_ok opened]
  apply bind_of_error
  simp only [tryCatch, tryCatchThe, MonadExceptOf.tryCatch, EStateM.tryCatch]
  rw [attempt_of_error writes]
  rfl

/-- A round trip takes its response from what comes on the stream. -/
theorem roundTrip_of_sent
    (opens : client.transport.openStream link situation.nextStream situation.world =
      (.ok stream, world))
    (writes : client.transport.write stream request.encode world = (.ok (), later)) :
    client.roundTrip request situation =
      finish (takeResponse client.config.maxResponseSize (client.transport.receive stream later).1)
        { situation.counted with
          world := client.transport.release stream (client.transport.receive stream later).2 } := by
  have opened : attempt (client.transport.openStream link situation.nextStream)
      situation.counted = .ok stream { situation.counted with world := world } :=
    attempt_of_ok opens
  have sent : (try attempt (client.transport.write stream request.encode)
      catch error =>
        change (client.transport.release stream)
        throw error : Action World Link Unit) { situation.counted with world := world } =
      .ok () { situation.counted with world := later } := by
    simp only [tryCatch, tryCatchThe, MonadExceptOf.tryCatch, EStateM.tryCatch]
    rw [attempt_of_ok writes]
  rw [roundTrip_of_linked linked, bind_of_ok opened, bind_of_ok sent]
  rfl

end Linked

/-- A round trip sends its request and takes the response out of what comes back. -/
theorem roundTrip_eq (client : Client World Link Stream) (request : Request)
    (situation : Situation World Link) :
    client.roundTrip request situation =
      match client.answerTo request situation with
      | (.error error, after) => .error error after
      | (.ok incoming, after) =>
        finish (takeResponse client.config.maxResponseSize incoming) after := by
  cases linked : situation.link with
  | none =>
    rw [roundTrip, answerTo, bind_get, linked]
    rfl
  | some link =>
    match opens : client.transport.openStream link situation.nextStream situation.world with
    | (.error fault, world) =>
      rw [answerTo_of_unopened linked request opens]
      exact roundTrip_of_unopened linked request opens
    | (.ok stream, world) =>
      match writes : client.transport.write stream request.encode world with
      | (.error fault, later) =>
        rw [answerTo_of_unsent linked opens writes]
        exact roundTrip_of_unsent linked opens writes
      | (.ok (), later) =>
        rw [answerTo_of_sent linked opens writes]
        exact roundTrip_of_sent linked opens writes

/-- A round trip gives the response that is taken from its answer. -/
theorem roundTrip_eq_ok_iff : client.roundTrip request situation = .ok response after ↔
    ∃ incoming, client.answerTo request situation = (.ok incoming, after) ∧
      takeResponse client.config.maxResponseSize incoming = .ok response := by
  rw [roundTrip_eq]
  match client.answerTo request situation with
  | (.error error, later) => simp
  | (.ok incoming, later) => simp [finish_eq_ok_iff, and_comm]

/-- Only a missing link and the transport keep a request from being sent. -/
theorem answerTo_eq_error {error : ClientError}
    (failed : client.answerTo request situation = (.error error, after)) :
    error = .notConnected ∨ ∃ fault, error = .transport fault := by
  unfold answerTo at failed
  split at failed
  · cases failed
    exact .inl rfl
  · split at failed
    · cases failed
      exact .inr ⟨_, rfl⟩
    · split at failed
      · cases failed
        exact .inr ⟨_, rfl⟩
      · cases failed

/-! ## Links -/

/-- No link is held any more. -/
def unlinked (client : Client World Link Stream) (situation : Situation World Link) :
    Situation World Link :=
  match situation.link with
  | none => situation
  | some link =>
    { situation with link := none, world := client.transport.closeLink link situation.world }

/-- Closing never fails, and leaves the client without a link. -/
theorem close_eq (client : Client World Link Stream) (situation : Situation World Link) :
    client.close situation = .ok () (client.unlinked situation) := by
  obtain ⟨world, held, remote, next⟩ := situation
  cases held <;> rfl

/-- A link is made to the address that is found, and closes the one that was held. -/
theorem connect_eq (client : Client World Link Stream) (address : String)
    (situation : Situation World Link) :
    client.connect address situation =
      match splitAddress address with
      | none => .error (.invalidAddress address) situation
      | some (host, port) =>
        match client.resolver.find host situation.world with
        | ((.error fault, _), world) => .error (.unresolved fault) { situation with world := world }
        | ((.ok ip, key), world) =>
          match client.transport.dial (.new ip port) key world with
          | (.error fault, world) => .error (.transport fault) { situation with world := world }
          | (.ok link, world) =>
            .ok () { client.unlinked { situation with world := world } with
              link := some link, remote := some (.new ip port) } := by
  unfold connect
  cases splitAddress address with
  | none => rfl
  | some parts =>
    obtain ⟨host, port⟩ := parts
    dsimp only
    rw [bind_of_ok (inWorld_eq _ _)]
    match client.resolver.find host situation.world with
    | ((.error fault, key), found) => rfl
    | ((.ok ip, key), found) =>
      dsimp only
      split
      · next fault world dials => exact bind_of_error (attempt_of_error dials) _
      · next link world dials =>
        rw [bind_of_ok (attempt_of_ok dials), bind_of_ok (close_eq client _)]
        rfl

/-- A new connection is made at the old port, when the old link is closed already. -/
theorem reconnect_eq (client : Client World Link Stream) (host : String)
    (situation : Situation World Link) :
    client.reconnect host situation =
      match situation.remote with
      | none => .error .notConnected situation
      | some remote =>
        client.connect (addressText host remote.port) (client.unlinked situation) := by
  rw [reconnect, bind_get]
  cases situation.remote with
  | none => rfl
  | some remote => exact bind_of_ok (close_eq client situation) _

/-! ## Responses -/

section Follow

variable (answered : client.roundTrip request situation = .ok response after)
include answered

/-- A response that is no redirect is unpacked. -/
theorem follow_of_final (final : response.isRedirect = false) (left : Nat) :
    client.follow left request situation =
      finish (unpackWith client.codec client.config.maxResponseSize response) after := by
  cases left <;> rw [follow, bind_of_ok answered, final] <;> rfl

/-- A redirect is refused if none is left. -/
theorem follow_of_exhausted (redirects : response.isRedirect = true) :
    client.follow 0 request situation =
      .error (.tooManyRedirects client.config.maxRedirects) after := by
  rw [follow, bind_of_ok answered, redirects]
  rfl

/-- A redirect that leads nowhere ends the chain. -/
theorem follow_of_misled {fault : RedirectError} (redirects : response.isRedirect = true)
    (misled : Redirect.target response request.host = .error fault) (left : Nat) :
    client.follow (left + 1) request situation = .error (.redirect fault) after := by
  rw [follow, bind_of_ok answered, redirects, misled]
  rfl

/-- A redirect is followed to its host with one redirect fewer. -/
theorem follow_of_target {target : RedirectTarget} (redirects : response.isRedirect = true)
    (led : Redirect.target response request.host = .ok target) (left : Nat) :
    client.follow (left + 1) request situation = (client.moveOn request.host target.host >>=
      fun _ => client.follow left (Redirect.followUp request response.status target)) after := by
  rw [follow, bind_of_ok answered, redirects, led]
  rfl

end Follow

/-- A round trip that fails ends the chain. -/
theorem follow_of_unanswered {error : ClientError}
    (failed : client.roundTrip request situation = .error error after) (left : Nat) :
    client.follow left request situation = .error error after := by
  cases left <;> rw [follow, bind_of_error failed]

end Client

end CompactHttp
