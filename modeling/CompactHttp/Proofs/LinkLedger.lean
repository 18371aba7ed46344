import CompactHttp.Proofs.Redirection

/-! # A ledger of links

What stands for a link need not tell it apart from others, and a situation shows only the link
that is held. Over a numbered transport (`Transport.numbered`) each link that is dialed has a
number of its own, and a ledger is kept of the links that were dialed, of those that were closed
and of the streams that were asked for on them. A client over it does what it does over the
transport itself (`Client.plain_request` and what stands before it).
-/

namespace CompactHttp

variable {World Link Stream : Type}

/-- A world, and what has become of the links there. -/
structure Ledger (World Link : Type) where
  world : World
  /-- The links that have been dialed, each with its address, in the order of their numbers. -/
  dialed : List (SocketAddress × Link) := []
  /-- The numbers of the links that have been closed. -/
  closed : List Nat := []
  /-- The streams that have been asked for: the number of the link, and that of the stream. -/
  opened : List (Nat × UInt32) := []

/-- The outcome of an operation in the world, with what else is written down. -/
def Ledger.after {Result : Type} (ledger : Ledger World Link) (outcome : Result × World) :
    Result × Ledger World Link :=
  (outcome.1, { ledger with world := outcome.2 })

/-- A transport of which a ledger is kept. A link is a number and what stood for it before. -/
def Transport.numbered (transport : Transport World Link Stream) :
    Transport (Ledger World Link) (Nat × Link) Stream where
  dial address key ledger :=
    match transport.dial address key ledger.world with
    | (.error fault, world) => (.error fault, { ledger with world := world })
    | (.ok link, world) =>
      (.ok (ledger.dialed.length, link),
        { ledger with world := world, dialed := ledger.dialed ++ [(address, link)] })
  closeLink link ledger :=
    { ledger with
      world := transport.closeLink link.2 ledger.world
      closed := ledger.closed ++ [link.1] }
  openStream link number ledger :=
    { ledger with opened := ledger.opened ++ [(link.1, number)] }.after
      (transport.openStream link.2 number ledger.world)
  write stream data ledger := ledger.after (transport.write stream data ledger.world)
  receive stream ledger := ledger.after (transport.receive stream ledger.world)
  release stream ledger := { ledger with world := transport.release stream ledger.world }

/-- A resolver in a world of which a ledger is kept. Nothing is written down of what it finds. -/
def Resolver.numbered (resolver : Resolver World) : Resolver (Ledger World Link) where
  lookup host ledger := ledger.after (resolver.lookup host ledger.world)
  texts name ledger := ledger.after (resolver.texts name ledger.world)

/-- What is found in a world of which a ledger is kept is what is found in the world. -/
theorem Resolver.find_numbered (resolver : Resolver World) (host : String)
    (ledger : Ledger World Link) :
    resolver.numbered.find host ledger = ledger.after (resolver.find host ledger.world) := rfl

namespace Client

/-- A client over a numbered transport. -/
def numbered (client : Client World Link Stream) : Client (Ledger World Link) (Nat × Link) Stream :=
  ⟨client.transport.numbered, client.resolver.numbered, client.config, client.codec⟩

/-- A situation without its ledger. -/
def Situation.plain (situation : Situation (Ledger World Link) (Nat × Link)) :
    Situation World Link :=
  ⟨situation.world.world, situation.link.map Prod.snd, situation.remote, situation.nextStream⟩

/-- The situation at the end of an action. -/
def ending {Result : Type} :
    EStateM.Result ClientError (Situation World Link) Result → Situation World Link
  | .ok _ after | .error _ after => after

/-- The end of an action without the ledger. -/
def plainEnd {Result : Type} :
    EStateM.Result ClientError (Situation (Ledger World Link) (Nat × Link)) Result →
      EStateM.Result ClientError (Situation World Link) Result
  | .ok result after => .ok result after.plain
  | .error error after => .error error after.plain

variable {client : Client World Link Stream}
  {situation : Situation (Ledger World Link) (Nat × Link)} {request : Request}

/-- Taking the ledger away from an end takes it away from where things end. -/
theorem ending_plainEnd {Result : Type}
    (done : EStateM.Result ClientError (Situation (Ledger World Link) (Nat × Link)) Result) :
    ending (plainEnd done) = (ending done).plain := by
  cases done <;> rfl

/-! ## With the ledger and without -/

/-- Without the ledger a request is answered the same. -/
theorem plain_answerTo (client : Client World Link Stream) (request : Request)
    (situation : Situation (Ledger World Link) (Nat × Link)) :
    client.answerTo request situation.plain =
      ((client.numbered.answerTo request situation).1,
        (client.numbered.answerTo request situation).2.plain) := by
  cases linked : situation.link with
  | none => simp [answerTo, Situation.plain, linked]
  | some link =>
    rcases opens : client.transport.openStream link.2 situation.nextStream situation.world.world
      with ⟨fault | stream, world⟩
    · simp [answerTo, numbered, Transport.numbered, Ledger.after, Situation.plain,
        Situation.counted, linked, opens]
    · rcases writes : client.transport.write stream request.encode world with ⟨fault | done, later⟩
      all_goals simp [answerTo, numbered, Transport.numbered, Ledger.after, Situation.plain,
        Situation.counted, linked, opens, writes]

/-- Without the ledger a settled outcome is the same. -/
theorem plain_finish {Result : Type} (outcome : Except ClientError Result)
    (situation : Situation (Ledger World Link) (Nat × Link)) :
    finish outcome situation.plain = plainEnd (finish outcome situation) := by
  cases outcome <;> rfl

/-- Without the ledger a round trip is the same. -/
theorem plain_roundTrip (client : Client World Link Stream) (request : Request)
    (situation : Situation (Ledger World Link) (Nat × Link)) :
    client.roundTrip request situation.plain =
      plainEnd (client.numbered.roundTrip request situation) := by
  rw [roundTrip_eq, roundTrip_eq, plain_answerTo]
  match client.numbered.answerTo request situation with
  | (.error error, after) => rfl
  | (.ok incoming, after) => exact plain_finish _ _

/-- Without the ledger a link is closed all the same. -/
theorem plain_unlinked (client : Client World Link Stream)
    (situation : Situation (Ledger World Link) (Nat × Link)) :
    client.unlinked situation.plain = (client.numbered.unlinked situation).plain := by
  cases linked : situation.link <;>
    simp [unlinked, numbered, Transport.numbered, Situation.plain, linked]

/-- Without the ledger a client connects the same. -/
theorem plain_connect (client : Client World Link Stream) (address : String)
    (situation : Situation (Ledger World Link) (Nat × Link)) :
    client.connect address situation.plain =
      plainEnd (client.numbered.connect address situation) := by
  rw [connect_eq, connect_eq]
  cases splitAddress address with
  | none => rfl
  | some parts =>
    obtain ⟨host, port⟩ := parts
    dsimp only [numbered, Situation.plain]
    rw [Resolver.find_numbered]
    rcases client.resolver.find host situation.world.world with ⟨⟨fault | ip, key⟩, found⟩
    · rfl
    · rcases dials : client.transport.dial (.new ip port) key found with ⟨fault | link, world⟩
      · simp [Transport.numbered, Ledger.after, Situation.plain, plainEnd, dials]
      · cases situation.link <;>
          simp [Transport.numbered, Ledger.after, Situation.plain, plainEnd, unlinked, dials]

/-- Without the ledger it moves to a host the same. -/
theorem plain_reconnect (client : Client World Link Stream) (host : String)
    (situation : Situation (Ledger World Link) (Nat × Link)) :
    client.reconnect host situation.plain =
      plainEnd (client.numbered.reconnect host situation) := by
  rw [reconnect_eq, reconnect_eq]
  have sameRemote : situation.plain.remote = situation.remote := rfl
  rw [sameRemote]
  cases situation.remote with
  | none => rfl
  | some remote =>
    dsimp only
    rw [plain_unlinked, plain_connect]

/-- Without the ledger a redirect leads to the same host. -/
theorem plain_moveOn (client : Client World Link Stream) (current host : String)
    (situation : Situation (Ledger World Link) (Nat × Link)) :
    client.moveOn current host situation.plain =
      plainEnd (client.numbered.moveOn current host situation) := by
  unfold moveOn
  by_cases same : host = current
  · rw [if_pos same, if_pos same]
    rfl
  · rw [if_neg same, if_neg same]
    exact client.plain_reconnect host situation

/-- Without the ledger redirects are followed the same. -/
theorem plain_follow (client : Client World Link Stream) (left : Nat) (request : Request)
    (situation : Situation (Ledger World Link) (Nat × Link)) :
    client.follow left request situation.plain =
      plainEnd (client.numbered.follow left request situation) := by
  induction left generalizing request situation with
  | zero =>
    have trip := client.plain_roundTrip request situation
    match answered : client.numbered.roundTrip request situation with
    | .error error after =>
      rw [answered] at trip
      rw [follow_of_unanswered answered, follow_of_unanswered trip]
      rfl
    | .ok response after =>
      rw [answered] at trip
      cases redirects : response.isRedirect with
      | false =>
        rw [follow_of_final answered redirects, follow_of_final trip redirects]
        exact plain_finish _ _
      | true =>
        rw [follow_of_exhausted answered redirects, follow_of_exhausted trip redirects]
        rfl
  | succ left ih =>
    have trip := client.plain_roundTrip request situation
    cases client.numbered.fate ⟨[], request, situation⟩ with
    | unanswered failed =>
      rw [failed] at trip
      rw [follow_of_unanswered failed, follow_of_unanswered trip]
      rfl
    | final answered final =>
      rw [answered] at trip
      rw [follow_of_final answered final, follow_of_final trip final]
      exact plain_finish _ _
    | misled answered redirects misled =>
      rw [answered] at trip
      rw [follow_of_misled answered redirects misled, follow_of_misled trip redirects misled]
      rfl
    | @stranded response after later target error answered redirects led fails =>
      rw [answered] at trip
      have move := client.plain_moveOn request.host target.host after
      rw [fails] at move
      rw [follow_of_target answered redirects led, follow_of_target trip redirects led,
        bind_of_error fails, bind_of_error move]
      rfl
    | @goesOn response after there target answered redirects led moves =>
      rw [answered] at trip
      have move := client.plain_moveOn request.host target.host after
      rw [moves] at move
      rw [follow_of_target answered redirects led, follow_of_target trip redirects led,
        bind_of_ok moves, bind_of_ok move]
      exact ih _ _

/-- A call ends with the ledger as it does without. -/
theorem plain_request (client : Client World Link Stream) (request : Request)
    (situation : Situation (Ledger World Link) (Nat × Link)) :
    client.request request situation.plain =
      plainEnd (client.numbered.request request situation) :=
  client.plain_follow _ _ situation

end Client

end CompactHttp
