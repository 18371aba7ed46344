import CompactHttp.Proofs.ClientActions

/-! # What a client does to the world

How an action of a client ends does not show what was done on the way. A recorded transport and a
recorded resolver do what those that they record do and write down each operation, and a client
over them ends as it does over the others, with a record of what it has done: `Client.sending` for
one request, `Client.connecting` and `Client.reconnecting` for a link, `Client.moving` from one
host to the next.
-/

namespace CompactHttp

/-- Something that a resolver is asked for, or that is done to a transport. -/
inductive Operation (Link Stream : Type) where
  | lookup (host : String)
  | texts (name : String)
  | dial (address : SocketAddress) (key : Option PeerKey)
  | closeLink (link : Link)
  | openStream (link : Link) (number : UInt32)
  | write (stream : Stream) (data : Bytes)
  | receive (stream : Stream)
  | release (stream : Stream)
deriving DecidableEq

variable {World Link Stream : Type}

namespace Operation

/-- What is sent, one byte string for each time that something is written. -/
def sent (operations : List (Operation Link Stream)) : List Bytes :=
  operations.filterMap fun
    | write _ data => some data
    | _ => none

/-- The addresses that are dialed, each with the key of the peer if there is one. -/
def dialed (operations : List (Operation Link Stream)) :
    List (SocketAddress × Option PeerKey) :=
  operations.filterMap fun
    | dial address key => some (address, key)
    | _ => none

variable {first second : List (Operation Link Stream)}

@[simp]
theorem sent_append : sent (first ++ second) = sent first ++ sent second :=
  List.filterMap_append

@[simp]
theorem dialed_append : dialed (first ++ second) = dialed first ++ dialed second :=
  List.filterMap_append

/-- To find a host nothing is dialed. -/
@[simp]
theorem dialed_find (host name : String) :
    dialed (lookup host :: texts name :: second) = dialed second := rfl

/-- To find a host nothing is written. -/
@[simp]
theorem sent_find (host name : String) :
    sent (lookup host :: texts name :: second) = sent second := rfl

@[simp]
theorem dialed_dial (address : SocketAddress) (key : Option PeerKey) :
    dialed (dial address key :: second) = (address, key) :: dialed second := rfl

end Operation

/-- A world, and what has been done there. -/
structure Recorded (World Link Stream : Type) where
  world : World
  operations : List (Operation Link Stream)

/-- What comes of an operation, which is written down. -/
def Recorded.after {Result : Type} (recorded : Recorded World Link Stream)
    (operation : Operation Link Stream) (outcome : Result × World) :
    Result × Recorded World Link Stream :=
  (outcome.1, ⟨outcome.2, recorded.operations ++ [operation]⟩)

/-- A transport of which each operation is written down. -/
def Transport.recorded (transport : Transport World Link Stream) :
    Transport (Recorded World Link Stream) Link Stream where
  dial address key recorded :=
    recorded.after (.dial address key) (transport.dial address key recorded.world)
  closeLink link recorded :=
    ⟨transport.closeLink link recorded.world, recorded.operations ++ [.closeLink link]⟩
  openStream link number recorded :=
    recorded.after (.openStream link number) (transport.openStream link number recorded.world)
  write stream data recorded :=
    recorded.after (.write stream data) (transport.write stream data recorded.world)
  receive stream recorded :=
    recorded.after (.receive stream) (transport.receive stream recorded.world)
  release stream recorded :=
    ⟨transport.release stream recorded.world, recorded.operations ++ [.release stream]⟩

/-- A resolver of which each lookup is written down. -/
def Resolver.recorded (resolver : Resolver World) : Resolver (Recorded World Link Stream) where
  lookup host recorded := recorded.after (.lookup host) (resolver.lookup host recorded.world)
  texts name recorded := recorded.after (.texts name) (resolver.texts name recorded.world)

/-- What a recorded resolver finds is what the resolver finds. It has looked for the address of
the host and for the texts at its record name. -/
theorem Resolver.find_recorded (resolver : Resolver World) (host : String)
    (recorded : Recorded World Link Stream) :
    resolver.recorded.find host recorded = ((resolver.find host recorded.world).1,
      ⟨(resolver.find host recorded.world).2,
        recorded.operations ++ [.lookup host, .texts (KeyRecord.nameOf host)]⟩) := by
  simp [find, Resolver.recorded, Recorded.after]

namespace Client

/-- A client over a recorded transport and a recorded resolver. -/
def recorded (client : Client World Link Stream) :
    Client (Recorded World Link Stream) Link Stream :=
  ⟨client.transport.recorded, client.resolver.recorded, client.config, client.codec⟩

/-- A situation in which some operations have been written down. -/
def Situation.record (operations : List (Operation Link Stream))
    (situation : Situation World Link) : Situation (Recorded World Link Stream) Link :=
  ⟨⟨situation.world, operations⟩, situation.link, situation.remote, situation.nextStream⟩

/-- The end of an action at which some operations have been written down. -/
def withRecord {Result : Type} (operations : List (Operation Link Stream)) :
    EStateM.Result ClientError (Situation World Link) Result →
      EStateM.Result ClientError (Situation (Recorded World Link Stream) Link) Result
  | .ok result after => .ok result (after.record operations)
  | .error error after => .error error (after.record operations)

variable {client : Client World Link Stream} {situation after : Situation World Link}
  {request : Request} {response : Response} {error : ClientError}

@[simp]
theorem record_remote (operations : List (Operation Link Stream)) :
    (situation.record operations).remote = situation.remote := rfl

theorem finish_record {Result : Type} (outcome : Except ClientError Result)
    (operations : List (Operation Link Stream)) (situation : Situation World Link) :
    finish outcome (situation.record operations) =
      withRecord operations (finish outcome situation) := by
  cases outcome <;> rfl

/-! ## One request -/

/-- What is done to send a request and to take in what comes back. -/
def sending (client : Client World Link Stream) (request : Request)
    (situation : Situation World Link) : List (Operation Link Stream) :=
  match situation.link with
  | none => []
  | some link =>
    .openStream link situation.nextStream ::
      match client.transport.openStream link situation.nextStream situation.world with
      | (.error _, _) => []
      | (.ok stream, world) =>
        .write stream request.encode ::
          match client.transport.write stream request.encode world with
          | (.error _, _) => [.release stream]
          | (.ok (), _) => [.receive stream, .release stream]

/-- Recorded or not, a request is answered the same, and what is done for it is recorded. -/
theorem answerTo_recorded (client : Client World Link Stream) (request : Request)
    (situation : Situation World Link) (operations : List (Operation Link Stream)) :
    client.recorded.answerTo request (situation.record operations) =
      ((client.answerTo request situation).1,
        (client.answerTo request situation).2.record
          (operations ++ client.sending request situation)) := by
  cases linked : situation.link with
  | none => simp [answerTo, sending, Situation.record, linked]
  | some link =>
    rcases opens : client.transport.openStream link situation.nextStream situation.world with
      ⟨fault | stream, world⟩
    · simp [answerTo, sending, recorded, Transport.recorded, Recorded.after, Situation.record,
        Situation.counted, linked, opens]
    · rcases writes : client.transport.write stream request.encode world with ⟨fault | done, later⟩
      all_goals simp [answerTo, sending, recorded, Transport.recorded, Recorded.after,
        Situation.record, Situation.counted, linked, opens, writes]

/-- Over a recorded transport a round trip ends as it does without, and its operations are
written down. -/
theorem roundTrip_recorded (client : Client World Link Stream) (request : Request)
    (situation : Situation World Link) (operations : List (Operation Link Stream)) :
    client.recorded.roundTrip request (situation.record operations) =
      withRecord (operations ++ client.sending request situation)
        (client.roundTrip request situation) := by
  rw [roundTrip_eq, roundTrip_eq, answerTo_recorded]
  match client.answerTo request situation with
  | (.error error, after) => rfl
  | (.ok incoming, after) => exact finish_record _ _ _

/-- A request is written once, or the round trip fails. -/
theorem sent_sending (client : Client World Link Stream) (request : Request)
    (situation : Situation World Link) :
    Operation.sent (client.sending request situation) = [request.encode] ∨
      Operation.sent (client.sending request situation) = [] ∧
        ∃ error after, client.roundTrip request situation = .error error after := by
  cases linked : situation.link with
  | none =>
    refine .inr ⟨by rw [sending, linked]; rfl, .notConnected, situation, ?_⟩
    rw [roundTrip_eq, answerTo, linked]
  | some link =>
    rcases opens : client.transport.openStream link situation.nextStream situation.world with
      ⟨fault | stream, world⟩
    · refine .inr ⟨?_, _, _, roundTrip_of_unopened linked request opens⟩
      simp only [sending, linked, opens]
      rfl
    · apply Or.inl
      simp only [sending, linked, opens]
      rcases client.transport.write stream request.encode world with ⟨fault | done, later⟩ <;> rfl

/-- Sending a request dials nobody. -/
theorem dialed_sending (client : Client World Link Stream) (request : Request)
    (situation : Situation World Link) :
    Operation.dialed (client.sending request situation) = [] := by
  unfold sending
  cases situation.link with
  | none => rfl
  | some link =>
    dsimp only
    match client.transport.openStream link situation.nextStream situation.world with
    | (.error fault, world) => rfl
    | (.ok stream, world) =>
      dsimp only
      match client.transport.write stream request.encode world with
      | (.error fault, later) | (.ok (), later) => rfl

/-! ## Links -/

/-- What is done to give up the link that is held. -/
def closing (situation : Situation World Link) : List (Operation Link Stream) :=
  match situation.link with
  | none => []
  | some link => [.closeLink link]

/-- What is done to make a link to an address. -/
def connecting (client : Client World Link Stream) (address : String)
    (situation : Situation World Link) : List (Operation Link Stream) :=
  match splitAddress address with
  | none => []
  | some (host, port) =>
    .lookup host :: .texts (KeyRecord.nameOf host) ::
      match client.resolver.find host situation.world with
      | ((.error _, _), _) => []
      | ((.ok ip, key), world) =>
        .dial (.new ip port) key ::
          match client.transport.dial (.new ip port) key world with
          | (.error _, _) => []
          | (.ok _, _) => closing situation

/-- What is done to make a link to another host. -/
def reconnecting (client : Client World Link Stream) (host : String)
    (situation : Situation World Link) : List (Operation Link Stream) :=
  match situation.remote with
  | none => []
  | some remote =>
    closing situation ++
      client.connecting (addressText host remote.port) (client.unlinked situation)

/-- What is done to move on from one host to another. -/
def moving (client : Client World Link Stream) (current host : String)
    (situation : Situation World Link) : List (Operation Link Stream) :=
  if host = current then [] else client.reconnecting host situation

/-- Recorded or not, a link is closed the same. -/
theorem unlinked_recorded (client : Client World Link Stream) (situation : Situation World Link)
    (operations : List (Operation Link Stream)) :
    client.recorded.unlinked (situation.record operations) =
      (client.unlinked situation).record (operations ++ closing situation) := by
  cases linked : situation.link with
  | none => simp [unlinked, closing, Situation.record, linked]
  | some link => simp [unlinked, closing, recorded, Transport.recorded, Situation.record, linked]

/-- Recorded or not, a client connects the same, and what is done for it is recorded. -/
theorem connect_recorded (client : Client World Link Stream) (address : String)
    (situation : Situation World Link) (operations : List (Operation Link Stream)) :
    client.recorded.connect address (situation.record operations) =
      withRecord (operations ++ client.connecting address situation)
        (client.connect address situation) := by
  rw [connect_eq, connect_eq, connecting]
  cases splitAddress address with
  | none =>
    rw [List.append_nil]
    rfl
  | some parts =>
    obtain ⟨host, port⟩ := parts
    dsimp only [recorded, Situation.record]
    rw [Resolver.find_recorded]
    match client.resolver.find host situation.world with
    | ((.error fault, key), found) => rfl
    | ((.ok ip, key), found) =>
      match dials : client.transport.dial (.new ip port) key found with
      | (.error fault, world) =>
        simp [Transport.recorded, Recorded.after, Situation.record, withRecord, dials]
      | (.ok link, world) =>
        -- The link that is held is given up only when there is another one.
        cases linked : situation.link with
        | none => simp [Transport.recorded, Recorded.after, Situation.record, withRecord,
            unlinked, closing, dials, linked]
        | some old => simp [Transport.recorded, Recorded.after, Situation.record, withRecord,
            unlinked, closing, dials, linked]

/-- Recorded or not, a client moves to a host the same, and what is done for it is recorded. -/
theorem reconnect_recorded (client : Client World Link Stream) (host : String)
    (situation : Situation World Link) (operations : List (Operation Link Stream)) :
    client.recorded.reconnect host (situation.record operations) =
      withRecord (operations ++ client.reconnecting host situation)
        (client.reconnect host situation) := by
  rw [reconnect_eq, reconnect_eq, reconnecting, record_remote]
  cases situation.remote with
  | none =>
    rw [List.append_nil]
    rfl
  | some remote =>
    dsimp only
    rw [unlinked_recorded, connect_recorded, List.append_assoc]

/-- Over a recorded transport a client moves on as it does without, and the operations are
written down. -/
theorem moveOn_recorded (client : Client World Link Stream) (current host : String)
    (situation : Situation World Link) (operations : List (Operation Link Stream)) :
    client.recorded.moveOn current host (situation.record operations) =
      withRecord (operations ++ client.moving current host situation)
        (client.moveOn current host situation) := by
  unfold moveOn moving
  by_cases same : host = current
  · rw [if_pos same, if_pos same, if_pos same, List.append_nil]
    rfl
  · rw [if_neg same, if_neg same, if_neg same]
    exact client.reconnect_recorded host situation operations

/-- Closing a link sends nothing. -/
theorem sent_closing (situation : Situation World Link) :
    Operation.sent (closing situation : List (Operation Link Stream)) = [] := by
  unfold closing
  cases situation.link <;> rfl

/-- Closing a link dials nobody. -/
theorem dialed_closing (situation : Situation World Link) :
    Operation.dialed (closing situation : List (Operation Link Stream)) = [] := by
  unfold closing
  cases situation.link <;> rfl

/-- Connecting sends nothing. -/
theorem sent_connecting (client : Client World Link Stream) (address : String)
    (situation : Situation World Link) :
    Operation.sent (client.connecting address situation) = [] := by
  unfold connecting
  split
  · rfl
  · rw [Operation.sent_find]
    split
    · rfl
    · split
      · rfl
      · exact sent_closing situation

/-- A link that is made has been dialed once, at the address of the host and with its key. -/
theorem dialed_connecting {address : String}
    (connects : client.connect address situation = .ok () after) :
    ∃ host port ip key world, splitAddress address = some (host, port) ∧
      client.resolver.find host situation.world = ((.ok ip, key), world) ∧
      Operation.dialed (client.connecting address situation) = [(.new ip port, key)] := by
  rw [connect_eq] at connects
  match split : splitAddress address with
  | none =>
    rw [split] at connects
    cases connects
  | some (host, port) =>
    rw [split] at connects
    dsimp only at connects
    match found : client.resolver.find host situation.world with
    | ((.error fault, key), there) =>
      rw [found] at connects
      cases connects
    | ((.ok ip, key), there) =>
      rw [found] at connects
      dsimp only at connects
      match dials : client.transport.dial (.new ip port) key there with
      | (.error fault, world) =>
        rw [dials] at connects
        cases connects
      | (.ok link, world) =>
        have made : client.connecting address situation =
            .lookup host :: .texts (KeyRecord.nameOf host) ::
              .dial (.new ip port) key :: closing situation := by
          simp only [connecting, split, found, dials]
        refine ⟨host, port, ip, key, there, rfl, found, ?_⟩
        rw [made, Operation.dialed_find, Operation.dialed_dial, dialed_closing]

/-- Moving to a host sends nothing. -/
theorem sent_reconnecting (client : Client World Link Stream) (host : String)
    (situation : Situation World Link) :
    Operation.sent (client.reconnecting host situation) = [] := by
  unfold reconnecting
  split
  · rfl
  · rw [Operation.sent_append, sent_closing, sent_connecting, List.append_nil]

/-- To move on nothing is written. -/
theorem sent_moving (client : Client World Link Stream) (current host : String)
    (situation : Situation World Link) :
    Operation.sent (client.moving current host situation) = [] := by
  unfold moving
  by_cases same : host = current
  · rw [if_pos same]
    rfl
  · rw [if_neg same]
    exact client.sent_reconnecting host situation

/-- Moving to a host dials once, if it succeeds. -/
theorem dialed_reconnecting {host : String}
    (reconnects : client.reconnect host situation = .ok () after) :
    (Operation.dialed (client.reconnecting host situation)).length = 1 := by
  rw [reconnect_eq] at reconnects
  unfold reconnecting
  cases known : situation.remote with
  | none =>
    rw [known] at reconnects
    cases reconnects
  | some remote =>
    rw [known] at reconnects
    obtain ⟨host, port, ip, key, found, -, -, dialed⟩ := dialed_connecting reconnects
    rw [Operation.dialed_append, dialed_closing, dialed]
    rfl

/-- Whoever has moved on has dialed once if the host is another one, and else not at all. -/
theorem dialed_moving {current host : String}
    (moves : client.moveOn current host situation = .ok () after) :
    (Operation.dialed (client.moving current host situation)).length =
      if host = current then 0 else 1 := by
  unfold moveOn at moves
  unfold moving
  by_cases same : host = current
  · rw [if_pos same, if_pos same]
    rfl
  · rw [if_neg same] at moves ⊢
    rw [if_neg same]
    exact dialed_reconnecting moves

/-! ## A client whose replies are known -/

/-- A transport over which all requests get through, and are answered one after the other with
what is left of some responses. -/
def script : Transport (List Response) SocketAddress Unit where
  dial address _ world := (.ok address, world)
  closeLink _ world := world
  openStream _ _ world := (.ok (), world)
  write _ _ world := (.ok (), world)
  receive _ world := (⟨(world.take 1).map Response.encode, none⟩, world.tail)
  release _ world := world

/-- A client that reaches hosts by their addresses, over such a transport. -/
def scripted : Client (List Response) SocketAddress Unit := ⟨script, .literal, {}, .standard⟩

/-- A client that is connected and will be given some responses. -/
def Situation.scripted (replies : List Response) : Situation (List Response) SocketAddress :=
  ⟨replies, some (.new (.v4 (.ofNat 1)) 80), some (.new (.v4 (.ofNat 1)) 80), 0⟩

end Client

end CompactHttp
