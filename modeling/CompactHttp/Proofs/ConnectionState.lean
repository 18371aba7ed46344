import CompactHttp.Errands
import CompactHttp.Proofs.KeyDiscovery
import CompactHttp.Proofs.LinkLedger

/-! # What a client holds

Whatever is asked of a client, one thing after the other, it leaves no link open but the one that
it holds, and remembers the address of that link. This is kept by each thing that a client does
(`Client.Accounted`), also where it fails half way: a link that cannot be made leaves the old
one in place, and a redirect to a host that cannot be reached leaves none.
-/

namespace CompactHttp.Client

variable {World Link Stream : Type}

/-- The situation after a client has done what it was asked for, or failed to. -/
def perform (client : Client World Link Stream) (situation : Situation World Link) :
    Command → Situation World Link
  | .connect address => ending (client.connect address situation)
  | .close => ending (client.close situation)
  | .request request => ending (client.request request situation)

/-- The situation after some commands. -/
def run (client : Client World Link Stream) (situation : Situation World Link)
    (commands : List Command) : Situation World Link :=
  commands.foldl client.perform situation

/-! ## What is kept along a call -/

section Kept

variable {client : Client World Link Stream} {situation : Situation World Link}
  {holds : Situation World Link → Prop}

/-- What is kept by all round trips and all moves is kept by a call. -/
theorem ending_follow_of_kept
    (trip : ∀ request situation, holds situation →
      holds (ending (client.roundTrip request situation)))
    (move : ∀ current host situation, holds situation →
      holds (ending (client.moveOn current host situation)))
    (left : Nat) (request : Request) (here : holds situation) :
    holds (ending (client.follow left request situation)) := by
  induction left generalizing request situation with
  | zero =>
    have tripped := trip request situation here
    match answered : client.roundTrip request situation with
    | .error error after =>
      rw [answered] at tripped
      rw [follow_of_unanswered answered]
      exact tripped
    | .ok response after =>
      rw [answered] at tripped
      cases redirects : response.isRedirect with
      | false =>
        rw [follow_of_final answered redirects]
        cases unpackWith client.codec client.config.maxResponseSize response <;> exact tripped
      | true =>
        rw [follow_of_exhausted answered redirects]
        exact tripped
  | succ left ih =>
    have tripped := trip request situation here
    cases client.fate ⟨[], request, situation⟩ with
    | unanswered failed =>
      rw [failed] at tripped
      rw [follow_of_unanswered failed]
      exact tripped
    | @final response after answered final =>
      rw [answered] at tripped
      rw [follow_of_final answered final]
      cases unpackWith client.codec client.config.maxResponseSize response <;> exact tripped
    | misled answered redirects misled =>
      rw [answered] at tripped
      rw [follow_of_misled answered redirects misled]
      exact tripped
    | @stranded response after later target error answered redirects led fails =>
      rw [answered] at tripped
      have moved := move request.host target.host after tripped
      rw [fails] at moved
      rw [follow_of_target answered redirects led, bind_of_error fails]
      exact moved
    | @goesOn response after there target answered redirects led moves =>
      rw [answered] at tripped
      have moved := move request.host target.host after tripped
      rw [moves] at moved
      rw [follow_of_target answered redirects led, bind_of_ok moves]
      exact ih _ moved

/-- What is kept by all round trips and all moves holds at every hop. -/
theorem before_of_kept {left index : Nat} {hop reached : Hop World Link Stream}
    (trip : ∀ request situation, holds situation →
      holds (ending (client.roundTrip request situation)))
    (move : ∀ current host situation, holds situation →
      holds (ending (client.moveOn current host situation)))
    (start : holds hop.before) (here : (client.hops left hop)[index]? = some reached) :
    holds reached.before := by
  induction index generalizing reached with
  | zero =>
    rw [hops_zero] at here
    cases here
    exact start
  | succ index ih =>
    obtain ⟨earlier, before, follows⟩ := exists_earlier_of_hops here
    obtain ⟨response, after, target, answered, -, -, moves, -, -⟩ := next?_eq_some_iff.mp follows
    have tripped := trip earlier.request earlier.before (ih before)
    rw [answered] at tripped
    have moved := move earlier.request.host target.host after tripped
    rwa [moves] at moved

end Kept

/-! ## Links -/

/-- A situation in which all links are accounted for: those that have been dialed are closed, each
once, save for the one that is held, whose address is remembered. -/
structure Accounted (situation : Situation (Ledger World Link) (Nat × Link)) : Prop where
  closed_lt : ∀ number ∈ situation.world.closed, number < situation.world.dialed.length
  closedOnce : situation.world.closed.Nodup
  open_iff : ∀ number < situation.world.dialed.length,
    (number ∉ situation.world.closed ↔ ∃ link, situation.link = some (number, link))
  held : ∀ number link, situation.link = some (number, link) →
    ∃ address, situation.world.dialed[number]? = some (address, link) ∧
      situation.remote = some address

/-- Situations with the same links. -/
structure SameLinks (situation after : Situation (Ledger World Link) (Nat × Link)) : Prop where
  dialed : after.world.dialed = situation.world.dialed
  closed : after.world.closed = situation.world.closed
  link : after.link = situation.link
  remote : after.remote = situation.remote

variable {client : Client World Link Stream}
  {situation after : Situation (Ledger World Link) (Nat × Link)}

/-- What leaves the links alone leaves the accounts in order. -/
theorem Accounted.of_sameLinks (accounted : Accounted situation)
    (same : SameLinks situation after) : Accounted after := by
  obtain ⟨dialed, closed, link, remote⟩ := same
  constructor
  · rw [dialed, closed]
    exact accounted.closed_lt
  · rw [closed]
    exact accounted.closedOnce
  · rw [dialed, closed, link]
    exact accounted.open_iff
  · rw [dialed, link, remote]
    exact accounted.held

/-- At the start there are no links to account for. -/
theorem accounted_start (world : World) :
    Accounted ({ world := { world := world } } : Situation (Ledger World Link) (Nat × Link)) :=
  ⟨nofun, List.nodup_nil, nofun, nofun⟩

/-- To send a request and to take in the answer changes no link. -/
theorem sameLinks_answerTo (client : Client World Link Stream) (request : Request)
    (situation : Situation (Ledger World Link) (Nat × Link)) :
    SameLinks situation (client.numbered.answerTo request situation).2 := by
  cases linked : situation.link with
  | none =>
    rw [answerTo, linked]
    exact ⟨rfl, rfl, rfl, rfl⟩
  | some link =>
    obtain ⟨outcome, ledger, opens⟩ : ∃ outcome ledger,
        client.numbered.transport.openStream link situation.nextStream situation.world =
          (outcome, ledger) := ⟨_, _, rfl⟩
    have ledgerOpens : ledger.dialed = situation.world.dialed ∧
        ledger.closed = situation.world.closed := by
      cases opens
      exact ⟨rfl, rfl⟩
    cases outcome with
    | error fault =>
      rw [answerTo_of_unopened linked request opens]
      exact ⟨ledgerOpens.1, ledgerOpens.2, rfl, rfl⟩
    | ok stream =>
      obtain ⟨outcome, later, writes⟩ : ∃ outcome later,
          client.numbered.transport.write stream request.encode ledger = (outcome, later) :=
        ⟨_, _, rfl⟩
      have ledgerWrites : later.dialed = ledger.dialed ∧ later.closed = ledger.closed := by
        cases writes
        exact ⟨rfl, rfl⟩
      cases outcome with
      | error fault =>
        rw [answerTo_of_unsent linked opens writes]
        exact ⟨ledgerWrites.1.trans ledgerOpens.1, ledgerWrites.2.trans ledgerOpens.2, rfl, rfl⟩
      | ok done =>
        rw [answerTo_of_sent linked opens writes]
        exact ⟨ledgerWrites.1.trans ledgerOpens.1, ledgerWrites.2.trans ledgerOpens.2, rfl, rfl⟩

/-- A round trip ends where its answer has come in. -/
theorem ending_roundTrip (client : Client World Link Stream) (request : Request)
    (situation : Situation World Link) :
    ending (client.roundTrip request situation) = (client.answerTo request situation).2 := by
  rw [roundTrip_eq]
  match client.answerTo request situation with
  | (.error error, after) => rfl
  | (.ok incoming, after) =>
    dsimp only
    cases takeResponse client.config.maxResponseSize incoming <;> rfl

/-- A round trip opens and closes no link. -/
theorem Accounted.roundTrip (accounted : Accounted situation) (request : Request) :
    Accounted (ending (client.numbered.roundTrip request situation)) := by
  rw [ending_roundTrip]
  exact accounted.of_sameLinks (client.sameLinks_answerTo request situation)

/-- When the link is closed there is none that is open. -/
theorem Accounted.unlinked (accounted : Accounted situation) :
    Accounted (client.numbered.unlinked situation) := by
  unfold Client.unlinked
  match linked : situation.link with
  | none => exact accounted
  | some (number, link) =>
    obtain ⟨address, dialed, -⟩ := accounted.held number link linked
    obtain ⟨inside, -⟩ := List.getElem?_eq_some_iff.mp dialed
    have isOpen := (accounted.open_iff number inside).mpr ⟨link, linked⟩
    constructor
    · intro other member
      obtain old | new := List.mem_append.mp member
      · exact accounted.closed_lt other old
      · exact List.mem_singleton.mp new ▸ inside
    · refine List.nodup_append.mpr ⟨accounted.closedOnce, List.nodup_singleton number, ?_⟩
      intro other member last among same
      rw [same, List.mem_singleton.mp among] at member
      exact isOpen member
    · intro other within
      refine ⟨fun remains => ?_, nofun⟩
      obtain ⟨before, apart⟩ := not_or.mp (mt List.mem_append.mpr remains)
      obtain ⟨same, held⟩ := (accounted.open_iff other within).mp before
      cases linked.symm.trans held
      exact absurd (List.mem_singleton_self number) apart
    · nofun

theorem link_unlinked (client : Client World Link Stream) (situation : Situation World Link) :
    (client.unlinked situation).link = none := by
  unfold Client.unlinked
  cases linked : situation.link with
  | none => exact linked
  | some link => rfl

/-- A link that is dialed when all others are closed is the one that is open. -/
theorem Accounted.dialed (accounted : Accounted situation) (unlinked : situation.link = none)
    (address : SocketAddress) (link : Link) (world : World) :
    Accounted ({ situation with
      world := { situation.world with
        world := world, dialed := situation.world.dialed ++ [(address, link)] }
      link := some (situation.world.dialed.length, link)
      remote := some address } : Situation (Ledger World Link) (Nat × Link)) := by
  constructor
  · intro number member
    rw [List.length_append]
    exact Nat.lt_add_right 1 (accounted.closed_lt number member)
  · exact accounted.closedOnce
  · intro number within
    rw [List.length_append, List.length_singleton] at within
    obtain inside | rfl := Nat.lt_succ_iff_lt_or_eq.mp within
    · constructor
      · intro remains
        obtain ⟨other, held⟩ := (accounted.open_iff number inside).mp remains
        cases unlinked.symm.trans held
      · rintro ⟨other, held⟩
        cases held
        exact absurd inside (Nat.lt_irrefl _)
    · refine ⟨fun _ => ⟨link, rfl⟩, fun _ member => ?_⟩
      exact Nat.lt_irrefl _ (accounted.closed_lt _ member)
  · intro number other held
    cases held
    exact ⟨address, List.getElem?_concat_length, rfl⟩

/-- Links are accounted for when a client has connected, or has failed to. -/
theorem Accounted.connect (accounted : Accounted situation) (address : String) :
    Accounted (ending (client.numbered.connect address situation)) := by
  rw [connect_eq]
  cases splitAddress address with
  | none => exact accounted
  | some parts =>
    obtain ⟨host, port⟩ := parts
    dsimp only [numbered]
    rw [Resolver.find_numbered]
    match client.resolver.find host situation.world.world with
    | ((.error fault, key), found) => exact accounted.of_sameLinks ⟨rfl, rfl, rfl, rfl⟩
    | ((.ok ip, key), found) =>
      dsimp only [Transport.numbered, Ledger.after]
      match client.transport.dial (.new ip port) key found with
      | (.error fault, world) => exact accounted.of_sameLinks ⟨rfl, rfl, rfl, rfl⟩
      | (.ok link, world) =>
        -- The new link is there before the old one is closed, but is held only after that.
        have closed : Accounted (client.numbered.unlinked situation) := accounted.unlinked
        match linked : situation.link with
        | none =>
          have made := closed.dialed (client.numbered.link_unlinked situation) (.new ip port) link
            world
          simpa [ending, Client.unlinked, linked] using made
        | some old =>
          have made := closed.dialed (client.numbered.link_unlinked situation) (.new ip port) link
            (client.transport.closeLink old.2 world)
          simpa [ending, Client.unlinked, linked, numbered, Transport.numbered] using made

/-- Links are accounted for when a client has moved to a host, or has failed to. -/
theorem Accounted.reconnect (accounted : Accounted situation) (host : String) :
    Accounted (ending (client.numbered.reconnect host situation)) := by
  rw [reconnect_eq]
  cases situation.remote with
  | none => exact accounted
  | some remote => exact accounted.unlinked.connect _

/-- Links are accounted for when a redirect has led on, to the same host or another one. -/
theorem Accounted.moveOn (accounted : Accounted situation) (current host : String) :
    Accounted (ending (client.numbered.moveOn current host situation)) := by
  unfold Client.moveOn
  by_cases same : host = current
  · rw [if_pos same]
    exact accounted
  · rw [if_neg same]
    exact accounted.reconnect host

/-- Links are accounted for when a request ends, however it ends. -/
theorem Accounted.request (accounted : Accounted situation) (request : Request) :
    Accounted (ending (client.numbered.request request situation)) :=
  ending_follow_of_kept (fun request _ here => here.roundTrip request)
    (fun current host _ here => here.moveOn current host) _ _ accounted

/-- Links are accounted for after every command. -/
theorem Accounted.perform (accounted : Accounted situation) (command : Command) :
    Accounted (client.numbered.perform situation command) := by
  cases command with
  | connect address => exact accounted.connect address
  | close =>
    rw [Client.perform, close_eq]
    exact accounted.unlinked
  | request request => exact accounted.request request

/-- Links are accounted for after any commands. -/
theorem Accounted.run (accounted : Accounted situation) (commands : List Command) :
    Accounted (client.numbered.run situation commands) := by
  induction commands generalizing situation with
  | nil => exact accounted
  | cons command rest ih => exact ih (accounted.perform command)

/-- Numbering the links changes nothing in a run but the numbers. -/
theorem plain_run (client : Client World Link Stream)
    (situation : Situation (Ledger World Link) (Nat × Link))
    (commands : List Command) :
    (client.numbered.run situation commands).plain = client.run situation.plain commands := by
  induction commands generalizing situation with
  | nil => rfl
  | cons command rest ih =>
    have same : client.perform situation.plain command =
        (client.numbered.perform situation command).plain := by
      cases command with
      | connect address => rw [perform, perform, plain_connect, ending_plainEnd]
      | close =>
        rw [perform, perform, close_eq, close_eq]
        exact plain_unlinked _ _
      | request request => rw [perform, perform, plain_request, ending_plainEnd]
    rw [run, run, List.foldl_cons, List.foldl_cons, same]
    exact ih _

/-! ## Failures -/

/-- A link that cannot be made leaves all links as they were. -/
theorem sameLinks_of_connect {address : String} {error : ClientError}
    (fails : client.numbered.connect address situation = .error error after) :
    SameLinks situation after := by
  rw [connect_eq] at fails
  match split : splitAddress address with
  | none =>
    rw [split] at fails
    cases fails
    exact ⟨rfl, rfl, rfl, rfl⟩
  | some (host, port) =>
    rw [split] at fails
    dsimp only [numbered] at fails
    rw [Resolver.find_numbered] at fails
    match found : client.resolver.find host situation.world.world with
    | ((.error fault, key), there) =>
      rw [found] at fails
      cases fails
      exact ⟨rfl, rfl, rfl, rfl⟩
    | ((.ok ip, key), there) =>
      rw [found] at fails
      dsimp only [Ledger.after, Transport.numbered] at fails
      match dials : client.transport.dial (.new ip port) key there with
      | (.error fault, world) =>
        rw [dials] at fails
        cases fails
        exact ⟨rfl, rfl, rfl, rfl⟩
      | (.ok link, world) =>
        rw [dials] at fails
        cases fails

/-- Without a link there is no request. -/
theorem request_of_unlinked {client : Client World Link Stream} {situation : Situation World Link}
    (unlinked : situation.link = none) (request : Request) :
    client.request request situation = .error .notConnected situation := by
  refine follow_of_unanswered ?_ _
  rw [roundTrip_eq, answerTo, unlinked]

/-- Only a client with a link gets an answer. -/
theorem linked_of_roundTrip {client : Client World Link Stream} {request : Request}
    {response : Response} {situation after : Situation World Link}
    (answered : client.roundTrip request situation = .ok response after) :
    ∃ link, situation.link = some link := by
  cases unlinked : situation.link with
  | some link => exact ⟨link, rfl⟩
  | none =>
    rw [roundTrip_eq, answerTo, unlinked] at answered
    cases answered

/-- After a link to another host could not be made there is none. -/
theorem unlinked_of_reconnect {host : String} {error : ClientError}
    (accounted : Accounted situation) (linked : ∃ link, situation.link = some link)
    (fails : client.numbered.reconnect host situation = .error error after) :
    after.link = none := by
  obtain ⟨⟨number, link⟩, linked⟩ := linked
  obtain ⟨address, -, known⟩ := accounted.held number link linked
  rw [reconnect_eq, known] at fails
  exact (sameLinks_of_connect fails).link.trans (client.numbered.link_unlinked situation)

section Hops

variable {left index : Nat}

/-- From every hop of a chain the rest of it is followed. -/
theorem follow_of_hops {client : Client World Link Stream} {hop reached : Hop World Link Stream}
    (here : (client.hops left hop)[index]? = some reached) :
    client.follow left hop.request hop.before =
      client.follow (left - index) reached.request reached.before := by
  induction left generalizing hop index with
  | zero =>
    cases index with
    | zero =>
      cases here
      rfl
    | succ index => cases here
  | succ left ih =>
    cases index with
    | zero =>
      rw [hops_zero] at here
      cases here
      rfl
    | succ index =>
      cases follows : client.next? hop with
      | none =>
        rw [hops_succ_of_last follows] at here
        cases here
      | some next =>
        rw [hops_succ_of_next? follows] at here
        rw [follow_of_next? follows, Nat.add_sub_add_right]
        exact ih here

variable {hop reached : Hop (Ledger World Link) (Nat × Link) Stream}

/-- Links are accounted for when an answer has come. -/
theorem Accounted.of_roundTrip {request : Request} {response : Response}
    (accounted : Accounted situation)
    (answered : client.numbered.roundTrip request situation = .ok response after) :
    Accounted after := by
  have kept : Accounted (ending (client.numbered.roundTrip request situation)) :=
    accounted.roundTrip request
  rwa [answered] at kept

/-- Links are accounted for at every hop. -/
theorem Accounted.of_hops (accounted : Accounted hop.before)
    (here : (client.numbered.hops left hop)[index]? = some reached) : Accounted reached.before :=
  before_of_kept (fun request _ held => held.roundTrip request)
    (fun current host _ held => held.moveOn current host) accounted here

end Hops

/-- Whatever is asked of a client, one thing after the other, and whatever is found out about hosts
each time that one is looked up, whatever links are made and responses sent: all links that it ever
dialed are closed but the one that it holds, and it remembers the address that this one was dialed
to. If a link cannot be made, what it holds and remembers stays as it was; if it cannot be made in
the course of a call that is redirected to another host, the call fails and nothing is held; and as
long as nothing is held, a call fails and leaves everything as it is. -/
theorem connection_of_any_run (client : Client World Link Stream) (world : World)
    (commands : List Command) :
    let caller := client.numbered
    let after := caller.run { world := { world := world } } commands
    after.plain = client.run { world := world } commands ∧
    (∀ number < after.world.dialed.length,
      (number ∉ after.world.closed ↔ ∃ link, after.link = some (number, link))) ∧
    (∀ number link, after.link = some (number, link) →
      ∃ address, after.world.dialed[number]? = some (address, link) ∧
        after.remote = some address) ∧
    (∀ address error later, caller.connect address after = .error error later →
      SameLinks after later) ∧
    (∀ request index hop answer there target error later,
      (caller.chain request after)[index]? = some hop → index < caller.config.maxRedirects →
      caller.roundTrip hop.request hop.before = .ok answer there →
      answer.isRedirect = true → Redirect.target answer hop.request.host = .ok target →
      target.host ≠ hop.request.host →
      caller.reconnect target.host there = .error error later →
      caller.request request after = .error error later ∧ later.link = none) ∧
    (after.link = none → ∀ request,
      caller.request request after = .error .notConnected after) := by
  intro caller after
  have accounted : Accounted after := (accounted_start world).run commands
  refine ⟨client.plain_run _ commands, accounted.open_iff, accounted.held,
    fun address error later => sameLinks_of_connect, ?_,
    fun unlinked request => request_of_unlinked unlinked request⟩
  intro request index hop answer there target error later here within answered redirects led apart
    fails
  let first : Hop (Ledger World Link) (Nat × Link) Stream :=
    ⟨[], caller.withEncodings request, after⟩
  have start : Accounted first.before := accounted
  have before := start.of_hops here
  constructor
  · obtain ⟨rest, more⟩ := Nat.exists_eq_add_of_lt within
    have comes := follow_of_hops here
    rw [show caller.config.maxRedirects - index = rest + 1 by omega] at comes
    refine comes.trans ((follow_of_target answered redirects led rest).trans ?_)
    refine bind_of_error ?_ _
    rw [moveOn, if_neg apart]
    exact fails
  · obtain ⟨link, linked⟩ := linked_of_roundTrip answered
    have same := client.sameLinks_answerTo hop.request hop.before
    have ends := caller.ending_roundTrip hop.request hop.before
    rw [answered] at ends
    exact unlinked_of_reconnect (before.of_roundTrip answered)
      ⟨link, (congrArg Situation.link ends).trans (same.link.trans linked)⟩ fails

/-- A resolver that finds one host for each response there is, and cannot ask for any more. -/
def lapsing : Resolver (List Response) where
  lookup host world :=
    if world.isEmpty then (.error (.lookup host ⟨"timed out", "TimedOut"⟩), world)
    else (.ok (.v4 (.ofNat 1)), world.tail)
  texts _ world := (.ok [], world)

/-- A client that finds no second host stays connected to the first one. -/
example :
    let after := { scripted with resolver := lapsing }.run { world := [.new 200 [] .empty] }
      [.connect "a.test:80", .connect "b.test:81"]
    after.link = some (.new (.v4 (.ofNat 1)) 80) ∧ after.remote = after.link := by
  decide +kernel

end CompactHttp.Client
