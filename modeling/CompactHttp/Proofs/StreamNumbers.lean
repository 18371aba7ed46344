import CompactHttp.Proofs.Errands
import Mathlib.Algebra.GroupWithZero.Nat

/-! # The numbers of streams

The streams of a client are counted over all its links and all calls that are under way. An errand
takes a number for each request that it sends and opens one stream with it (`Errand.Orderly`), so
however errands come between each other no two streams have the same place in the count
(`Workload.Counted`). What is sent as the number of a stream has thirty-two bits, though: streams
have different numbers as long as not more than two to the thirty-second have been taken
(`stream_numbers_of_any_workload`), and then the first number comes again, also on the same link
(`stream_number_reused`).
-/

namespace CompactHttp.Client

variable {World Link Stream Result First Second : Type}

/-! ## Errands that hold a number -/

namespace Errand

/-- An errand that holds some number of a stream, or none, and keeps to the order of things: it
takes a number if it holds none, opens one stream with it, and ends without any. -/
def Orderly : Option UInt32 → Errand World Link Stream Result → Prop
  | held, done _ => held = none
  | held, act effect onward =>
    (∀ situation, (effect situation).nextStream = situation.nextStream) ∧
      ∀ situation, (onward situation).Orderly held
  | held, take onward => held = none ∧ ∀ number, (onward number).Orderly (some number)
  | held, openStream _ number onward => held = some number ∧ ∀ opened, (onward opened).Orderly none

/-- An errand that ends without a number may be followed by any that begins without. -/
theorem orderly_bind {held : Option UInt32} {errand : Errand World Link Stream First}
    {onward : First → Errand World Link Stream Second} (first : errand.Orderly held)
    (second : ∀ result, (onward result).Orderly none) : (errand >>= onward).Orderly held := by
  induction errand generalizing held with
  | done outcome =>
    cases first
    cases outcome with
    | ok result => exact second result
    | error error => rfl
  | act effect next ih => exact ⟨first.1, fun situation => ih situation (first.2 situation)⟩
  | take next ih => exact ⟨first.1, fun number => ih number (first.2 number)⟩
  | openStream link number next ih => exact ⟨first.1, fun opened => ih opened (first.2 opened)⟩

/-- A result of the transport holds no number. -/
theorem orderly_orFail (outcome : Except TransportError Result) :
    (orFail outcome : Errand World Link Stream Result).Orderly none := by
  cases outcome <;> rfl

/-- A single step that does not count holds no number. -/
theorem orderly_step {effect : Situation World Link → Situation World Link}
    {outcome : Situation World Link → Except ClientError Result}
    (counter : ∀ situation, (effect situation).nextStream = situation.nextStream) :
    (act effect fun situation => done (outcome situation) :
      Errand World Link Stream Result).Orderly none :=
  ⟨counter, fun _ => rfl⟩

end Errand

open Errand

section Orderly

variable (client : Client World Link Stream)

/-- Swapping the link takes no number. -/
theorem orderly_swapErrand (link : Option Link) : (client.swapErrand link).Orderly none := by
  refine orderly_bind (orderly_step fun _ => rfl) fun held => ?_
  cases held with
  | none => rfl
  | some old => exact orderly_step fun _ => rfl

theorem orderly_connectErrand (address : String) : (client.connectErrand address).Orderly none := by
  unfold connectErrand
  cases splitAddress address with
  | none => rfl
  | some parts =>
    obtain ⟨host, port⟩ := parts
    dsimp only
    refine orderly_bind (orderly_step fun _ => rfl) fun found => ?_
    refine orderly_bind (orderly_step fun _ => rfl) fun texts => ?_
    cases found with
    | error fault => rfl
    | ok ip =>
      refine orderly_bind (orderly_step fun _ => rfl) fun dialed => ?_
      refine orderly_bind (orderly_orFail dialed) fun link => ?_
      exact orderly_bind (client.orderly_swapErrand _) fun _ => orderly_step fun _ => rfl

theorem orderly_reconnectErrand (host : String) : (client.reconnectErrand host).Orderly none := by
  refine orderly_bind (orderly_step fun _ => rfl) fun remote => ?_
  cases remote with
  | none => rfl
  | some remote =>
    exact orderly_bind (client.orderly_swapErrand _) fun _ => client.orderly_connectErrand _

theorem orderly_moveErrand (current host : String) :
    (client.moveErrand current host).Orderly none := by
  unfold moveErrand
  split
  · rfl
  · exact client.orderly_reconnectErrand host

/-- What happens on a stream takes no other number. -/
theorem orderly_exchangeErrand (request : Request) (stream : Stream) :
    (client.exchangeErrand request stream).Orderly none := by
  refine orderly_bind (orderly_step fun _ => rfl) fun written => ?_
  cases written with
  | error fault => exact orderly_bind (orderly_step fun _ => rfl) fun _ => rfl
  | ok done =>
    exact orderly_bind (orderly_step fun _ => rfl) fun _ =>
      orderly_bind (orderly_step fun _ => rfl) fun _ => rfl

/-- The number that is taken is the one that the stream is opened with. -/
theorem orderly_roundTripErrand (request : Request) :
    (client.roundTripErrand request).Orderly none := by
  refine orderly_bind (orderly_step fun _ => rfl) fun link => ?_
  cases link with
  | none => rfl
  | some link =>
    refine ⟨rfl, fun number => ⟨rfl, fun opened => ?_⟩⟩
    exact orderly_bind (orderly_orFail opened) fun stream =>
      client.orderly_exchangeErrand request stream

/-- Each round trip takes a number and opens its stream with it. -/
theorem orderly_followErrand (left : Nat) (request : Request) :
    (client.followErrand left request).Orderly none := by
  induction left generalizing request with
  | zero =>
    refine orderly_bind (client.orderly_roundTripErrand request) fun response => ?_
    split <;> rfl
  | succ left ih =>
    refine orderly_bind (client.orderly_roundTripErrand request) fun response => ?_
    split
    · rfl
    · cases Redirect.target response request.host with
      | error fault => rfl
      | ok target => exact orderly_bind (client.orderly_moveErrand _ _) fun _ => ih _

/-- Every command keeps to the order of things. -/
theorem orderly_errand (command : Command) : (client.errand command).Orderly none := by
  cases command with
  | connect address => exact orderly_bind (client.orderly_connectErrand address) fun _ => rfl
  | close => exact orderly_bind (client.orderly_swapErrand none) fun _ => rfl
  | request request => exact orderly_bind (client.orderly_followErrand _ _) fun _ => rfl

end Orderly

/-! ## Places in the count -/

/-- Errands that each hold the number of some place in the count, or none. -/
def AllOrderly (errands : List (Errand World Link Stream Result)) (held : Nat → Option Nat) :
    Prop :=
  ∀ number (errand : Errand World Link Stream Result), errands[number]? = some errand →
    errand.Orderly ((held number).map .ofNat)

section AllOrderly

variable {errands : List (Errand World Link Stream Result)} {held : Nat → Option Nat}
  (orderly : AllOrderly errands held)
include orderly

/-- A new errand holds no number yet. -/
theorem AllOrderly.concat {errand : Errand World Link Stream Result} (fresh : errand.Orderly none) :
    AllOrderly (errands ++ [errand]) (Function.update held errands.length none) := by
  intro number here inside
  rw [Function.update_apply]
  obtain before | rfl | after := Nat.lt_trichotomy number errands.length
  · rw [List.getElem?_append_left before] at inside
    rw [if_neg (Nat.ne_of_lt before)]
    exact orderly number here inside
  · rw [List.getElem?_concat_length] at inside
    cases inside
    rwa [if_pos rfl]
  · have within := (List.getElem?_eq_some_iff.mp inside).1
    rw [List.length_append, List.length_singleton] at within
    omega

/-- An errand that goes on holds what its step leaves it. -/
theorem AllOrderly.set {number : Nat} {place : Option Nat}
    {errand : Errand World Link Stream Result}
    (goesOn : errand.Orderly (place.map .ofNat)) :
    AllOrderly (errands.set number errand) (Function.update held number place) := by
  intro other here inside
  rw [Function.update_apply]
  by_cases same : other = number
  · subst same
    obtain ⟨within, rfl⟩ := List.getElem?_eq_some_iff.mp inside
    rwa [if_pos rfl, List.getElem_set_self]
  · rw [List.getElem?_set_ne (Ne.symm same)] at inside
    rw [if_neg same]
    exact orderly other here inside

end AllOrderly

/-- Places in the count that have been given out so far, to streams and to errands, and none of
them twice. -/
structure Allotted (taken : Nat) (places : List Nat) (held : Nat → Option Nat) : Prop where
  nodup : places.Nodup
  opened_lt : ∀ place ∈ places, place < taken
  held_lt : ∀ number place, held number = some place → place < taken
  unopened : ∀ number place, held number = some place → place ∉ places
  apart : ∀ number other place, held number = some place → held other = some place →
    number = other

namespace Allotted

variable {taken number : Nat} {places : List Nat} {held : Nat → Option Nat}

/-- What gives up its place holds none, and the others hold theirs. -/
theorem update_none_eq_some_iff {other place : Nat} :
    Function.update held number none other = some place ↔
      other ≠ number ∧ held other = some place := by
  rw [Function.update_apply]
  split <;> simp [*]

/-- What is given a place holds it, and the others hold theirs. -/
theorem update_some_eq_some_iff {other place given : Nat} :
    Function.update held number (some given) other = some place ↔
      other = number ∧ place = given ∨ other ≠ number ∧ held other = some place := by
  rw [Function.update_apply]
  split
  · next same => simp [same, eq_comm]
  · next apart => simp [apart]

/-- An errand that holds no place any more. -/
theorem without (allotted : Allotted taken places held) (number : Nat) :
    Allotted taken places (Function.update held number none) := by
  constructor
  · exact allotted.nodup
  · exact allotted.opened_lt
  · intro other place holds
    exact allotted.held_lt other place (update_none_eq_some_iff.mp holds).2
  · intro other place holds
    exact allotted.unopened other place (update_none_eq_some_iff.mp holds).2
  · intro other another place holds too
    exact allotted.apart other another place (update_none_eq_some_iff.mp holds).2
      (update_none_eq_some_iff.mp too).2

/-- An errand takes the next place. -/
theorem take (allotted : Allotted taken places held) (number : Nat) :
    Allotted (taken + 1) places (Function.update held number (some taken)) := by
  constructor
  · exact allotted.nodup
  · exact fun place member => Nat.lt_succ_of_lt (allotted.opened_lt place member)
  · intro other place holds
    obtain ⟨-, rfl⟩ | ⟨-, before⟩ := update_some_eq_some_iff.mp holds
    · exact Nat.lt_succ_self place
    · exact Nat.lt_succ_of_lt (allotted.held_lt other place before)
  · intro other place holds member
    obtain ⟨-, rfl⟩ | ⟨-, before⟩ := update_some_eq_some_iff.mp holds
    · exact Nat.lt_irrefl place (allotted.opened_lt place member)
    · exact allotted.unopened other place before member
  · intro other another place holds too
    obtain ⟨rfl, rfl⟩ | ⟨-, before⟩ := update_some_eq_some_iff.mp holds
    · obtain ⟨rfl, -⟩ | ⟨-, beforeToo⟩ := update_some_eq_some_iff.mp too
      · rfl
      · exact absurd (allotted.held_lt another place beforeToo) (Nat.lt_irrefl place)
    · obtain ⟨-, rfl⟩ | ⟨-, beforeToo⟩ := update_some_eq_some_iff.mp too
      · exact absurd (allotted.held_lt other place before) (Nat.lt_irrefl place)
      · exact allotted.apart other another place before beforeToo

/-- An errand hands its place on to a stream. -/
theorem handOver (allotted : Allotted taken places held) {place : Nat}
    (holds : held number = some place) :
    Allotted taken (places ++ [place]) (Function.update held number none) := by
  constructor
  · refine List.nodup_append.mpr ⟨allotted.nodup, List.nodup_singleton place, ?_⟩
    intro other member last among same
    rw [same, List.mem_singleton.mp among] at member
    exact allotted.unopened number place holds member
  · intro other member
    obtain before | new := List.mem_append.mp member
    · exact allotted.opened_lt other before
    · exact List.mem_singleton.mp new ▸ allotted.held_lt number place holds
  · exact (allotted.without number).held_lt
  · intro other remaining left member
    obtain ⟨apart, before⟩ := update_none_eq_some_iff.mp left
    obtain old | new := List.mem_append.mp member
    · exact allotted.unopened other remaining before old
    · rw [List.mem_singleton.mp new] at before
      exact apart (allotted.apart other number place before holds)
  · exact (allotted.without number).apart

end Allotted

/-- A workload in which each stream that has been asked for has the number of a place in the count,
and so has what an errand holds. -/
structure Workload.Counted (workload : Workload World Link Stream) (places : List Nat)
    (held : Nat → Option Nat) : Prop where
  next : workload.situation.nextStream = .ofNat workload.taken
  opened : workload.opened.map Prod.snd = places.map UInt32.ofNat
  allotted : Allotted workload.taken places held
  orderly : AllOrderly workload.errands held

/-- At the start no place has been taken. -/
theorem counted_start (situation : Situation World Link) (first : situation.nextStream = 0) :
    ({ situation } : Workload World Link Stream).Counted [] fun _ => none :=
  ⟨first, rfl, ⟨List.nodup_nil, nofun, nofun, nofun, nofun⟩, nofun⟩

namespace Workload.Counted

variable {workload : Workload World Link Stream} {places : List Nat} {held : Nat → Option Nat}

/-- Each step of an errand keeps the count. -/
theorem proceed (counted : workload.Counted places held) (transport : Transport World Link Stream)
    {number : Nat} {errand : Errand World Link Stream (Option Response)}
    (here : workload.errands[number]? = some errand) :
    ∃ places held, (workload.proceed transport number errand).Counted places held := by
  have orderly := counted.orderly number errand here
  cases errand with
  | done outcome => exact ⟨places, held, counted⟩
  | act effect onward =>
    obtain ⟨counter, goesOn⟩ := orderly
    exact ⟨places, _, (counter workload.situation).trans counted.next, counted.opened,
      (Function.update_eq_self number held).symm ▸ counted.allotted,
      counted.orderly.set (goesOn workload.situation)⟩
  | take onward =>
    obtain ⟨-, goesOn⟩ := orderly
    have next : workload.situation.nextStream + 1 = .ofNat (workload.taken + 1) := by
      rw [counted.next, UInt32.ofNat_add]
      rfl
    refine ⟨places, _, next, counted.opened, counted.allotted.take number,
      counted.orderly.set ?_⟩
    rw [counted.next]
    exact goesOn _
  | openStream link id onward =>
    -- The stream is asked for by the number that the errand holds, which is that of a place.
    obtain ⟨numbered, goesOn⟩ := orderly
    obtain ⟨place, holds, rfl⟩ := Option.map_eq_some_iff.mp numbered
    refine ⟨_, _, counted.next, ?_, counted.allotted.handOver holds, counted.orderly.set (goesOn _)⟩
    change (workload.opened ++ [_]).map Prod.snd = _
    rw [List.map_append, List.map_append, counted.opened]
    rfl

/-- Whatever happens next keeps the count: only the errand whose turn it is can change what it
holds. -/
theorem work (counted : workload.Counted places held) (client : Client World Link Stream)
    (turn : Turn World) : ∃ places held, (client.work workload turn).Counted places held := by
  cases turn with
  | begin command =>
    exact ⟨places, _, counted.next, counted.opened, counted.allotted.without _,
      counted.orderly.concat (orderly_errand _ command)⟩
  | go number =>
    unfold Client.work
    dsimp only
    split
    · exact ⟨places, held, counted⟩
    · next errand here => exact counted.proceed client.transport here
  | elsewhere change =>
    exact ⟨places, held, counted.next, counted.opened, counted.allotted, counted.orderly⟩

/-- The count is kept through all turns. -/
theorem workAll (counted : workload.Counted places held) (client : Client World Link Stream)
    (turns : List (Turn World)) :
    ∃ places held, (client.workAll workload turns).Counted places held := by
  induction turns generalizing workload places held with
  | nil => exact ⟨places, held, counted⟩
  | cons turn turns ih =>
    obtain ⟨placesNext, heldNext, next⟩ := counted.work client turn
    exact ih next

end Workload.Counted

/-- Numbers of thirty-two bits are different if their places are, up to two to the
thirty-second. -/
theorem nodup_numbers {places : List Nat} (nodup : places.Nodup)
    (below : ∀ place ∈ places, place < 2 ^ 32) : (places.map UInt32.ofNat).Nodup := by
  refine nodup.map_on fun place member other memberToo same => ?_
  have numbers := congrArg UInt32.toNat same
  rwa [UInt32.toNat_ofNat_of_lt' (below place member),
    UInt32.toNat_ofNat_of_lt' (below other memberToo)] at numbers

/-! ## A client that is led in circles -/

section Circling

/-- A transport that numbers its links and remembers what was dialed. Every request has the same
answer. -/
def answering (answer : Response) : Transport (List SocketAddress) Nat Unit where
  dial address _ dialed := (.ok dialed.length, dialed ++ [address])
  closeLink _ dialed := dialed
  openStream _ _ dialed := (.ok (), dialed)
  write _ _ dialed := (.ok (), dialed)
  receive _ dialed := (⟨[answer.encode], none⟩, dialed)
  release _ dialed := dialed

/-- A redirect to the root of the host that was asked. -/
def toRoot : Response := .new 302 [] (.ofList [("location", "/")])

/-- The address of the only host that is known to `circling`. -/
def home : IpAddress := .v4 (.ofNat 0x0A000001)

/-- A client that is redirected by all that it is answered, and follows very often. -/
def circling : Client (List SocketAddress) Nat Unit where
  transport := answering toRoot
  resolver := .ofTable ⟨[("a.test", home)], []⟩
  config := { maxRedirects := 2 ^ 32 }

/-- The client is asked to connect. -/
def connectTurns : List (Turn (List SocketAddress)) :=
  .begin (.connect "a.test:8090") :: .replicate 5 (.go 0)

/-- The client is asked for the root of its host. -/
def requestTurn : Turn (List SocketAddress) :=
  .begin (.request (.plain .get "a.test" "/"))

/-- However the calls of a client come between each other, and whatever happens elsewhere: all
streams that it asks for, on whichever link, have places of their own in the count of those whose
numbers have been taken, and the number that a stream is asked for by is its place modulo two to
the thirty-second. As long as no more numbers than that have been taken, the streams on a link
have different numbers, and even those on different links have. -/
theorem stream_numbers_of_any_workload (client : Client World Link Stream) (world : World)
    (turns : List (Turn World)) :
    let after := client.workAll { situation := { world := world } } turns
    (∃ places : List Nat, places.Nodup ∧ (∀ place ∈ places, place < after.taken) ∧
      after.opened.map Prod.snd = places.map UInt32.ofNat) ∧
    (after.taken ≤ 2 ^ 32 → (after.opened.map Prod.snd).Nodup) := by
  intro after
  obtain ⟨places, held, counted⟩ :=
    (counted_start { world := world } rfl).workAll client turns
  refine ⟨⟨places, counted.allotted.nodup, counted.allotted.opened_lt, counted.opened⟩, ?_⟩
  intro few
  rw [counted.opened]
  exact nodup_numbers counted.allotted.nodup fun place member =>
    Nat.lt_of_lt_of_le (counted.allotted.opened_lt place member) few

/-- Two requests that are sent at the same time. The second one to take a number opens its stream
first. -/
theorem stream_numbers_of_two_requests :
    let turns := connectTurns ++
      [requestTurn, requestTurn, .go 1, .go 2, .go 1, .go 2, .go 2, .go 1]
    let after := circling.workAll { situation := { world := [] } } turns
    after.taken = 2 ∧ after.opened = [(0, 1), (0, 0)] ∧ (after.opened.map Prod.snd).Nodup :=
  ⟨by decide +kernel, by decide +kernel,
    (stream_numbers_of_any_workload circling [] _).2 (by decide +kernel)⟩

/-- The client reads the redirect that it is always sent. -/
theorem takeResponse_toRoot :
    takeResponse circling.config.maxResponseSize ⟨[toRoot.encode], none⟩ = .ok toRoot := by
  decide +kernel

/-- The redirect leads to the root of the same host. -/
theorem target_toRoot : Redirect.target toRoot "a.test" = .ok ⟨"a.test", "/"⟩ := by
  decide +kernel

/-- The client in the course of its request, after a number of streams. -/
def orbit (count left : Nat) (request : Request) : Workload (List SocketAddress) Nat Unit where
  situation :=
    { world := [.new home 8090]
      link := some 0
      remote := some (.new home 8090)
      nextStream := .ofNat count }
  errands :=
    [.done (.ok none), circling.followErrand left request >>= fun response => pure (some response)]
  taken := count
  opened := (List.range count).map fun number => (0, .ofNat number)

/-- Whenever the client looks up its host it finds the same address, and no text records. -/
theorem connectErrand_circling : circling.connectErrand "a.test:8090" = (do
    let found ← Errand.perform fun world => (.ok home, world)
    let texts ← Errand.perform fun world => (.ok [], world)
    match (found : Except ResolveError IpAddress) with
    | .error fault => fail (.unresolved fault)
    | .ok ip => do
      let dialed ← Errand.perform
        (circling.transport.dial (.new ip 8090) (Resolver.keyIn texts))
      let link ← orFail dialed
      circling.swapErrand (some link)
      setRemote (.new ip 8090)) := by
  have parts : splitAddress "a.test:8090" = some ("a.test", 8090) := by decide +kernel
  have found : HostTable.address ⟨[("a.test", home)], []⟩ "a.test" = .ok home := by
    decide +kernel
  have lookup : circling.resolver.lookup "a.test" = fun world => (.ok home, world) :=
    funext fun world => congrArg (·, world) found
  rw [connectErrand, parts]
  dsimp only
  rw [lookup]
  rfl

/-- After it has connected the client is at the beginning of its request, with all redirects left. -/
theorem workAll_connectTurns :
    circling.workAll { situation := { world := [] } } (connectTurns ++ [requestTurn]) =
      orbit 0 (2 ^ 32) (circling.withEncodings (.plain .get "a.test" "/")) := by
  have connecting : circling.errand (.connect "a.test:8090") =
      (circling.connectErrand "a.test:8090" >>= fun _ => pure none) := rfl
  rw [connectErrand_circling] at connecting
  change circling.workAll { situation := { world := [] }
                            errands := [circling.errand (.connect "a.test:8090")] }
    (.replicate 5 (.go 0) ++ [requestTurn]) = _
  rw [connecting]
  rfl

/-- A round trip takes six steps and comes to the answer that all requests have. -/
theorem workAll_roundTrip (first : Errand (List SocketAddress) Nat Unit (Option Response))
    (request : Request) (situation : Situation (List SocketAddress) Nat)
    (linked : situation.link = some 0) (taken : Nat) (opened : List (Nat × UInt32))
    (body : Response → Errand (List SocketAddress) Nat Unit Response)
    (last : Response → Errand (List SocketAddress) Nat Unit (Option Response)) :
    circling.workAll
        { situation := situation
          errands := [first, circling.roundTripErrand request >>= body >>= last]
          taken := taken
          opened := opened }
        (.replicate 6 (.go 1)) =
      { situation := { situation with nextStream := situation.nextStream + 1 }
        errands := [first, body toRoot >>= last]
        taken := taken + 1
        opened := opened ++ [(0, situation.nextStream)] } := by
  obtain ⟨world, link, remote, next⟩ := situation
  cases linked
  rw [← ok_bind toRoot body, ← takeResponse_toRoot]
  rfl

/-- With each six steps the client is where it was, and has used the number of a stream. -/
theorem workAll_orbit (count left : Nat) (request : Request) (host : request.host = "a.test") :
    circling.workAll (orbit count (left + 1) request) (.replicate 6 (.go 1)) =
      orbit (count + 1) left (Redirect.followUp request 302 ⟨"a.test", "/"⟩) := by
  have number : UInt32.ofNat count + 1 = .ofNat (count + 1) := by
    rw [UInt32.ofNat_add]
    rfl
  have redirects : toRoot.isRedirect = true := rfl
  rw [orbit, followErrand, workAll_roundTrip _ _ _ rfl, number, orbit, List.range_succ,
    List.map_append]
  simp only [redirects, Bool.not_true, Bool.false_eq_true, if_false, host, target_toRoot,
    moveErrand, if_true, Errand.pure_bind]
  rfl

/-- The client goes round as often as it is given turns and redirects for it. -/
theorem exists_orbit (count left : Nat) (request : Request) (host : request.host = "a.test") :
    ∃ later : Request, later.host = "a.test" ∧
      circling.workAll (orbit 0 (count + left) request) (.replicate (6 * count) (.go 1)) =
        orbit count left later := by
  induction count generalizing left with
  | zero => exact ⟨request, host, by rw [Nat.zero_add]; rfl⟩
  | succ count ih =>
    obtain ⟨later, hostToo, comes⟩ := ih (left + 1)
    refine ⟨Redirect.followUp later 302 ⟨"a.test", "/"⟩, Redirect.host_followUp .., ?_⟩
    rw [Nat.mul_succ, ← List.replicate_append_replicate, workAll_append, Nat.add_right_comm,
      Nat.add_assoc, comes, workAll_orbit count left later hostToo]

/-- The client connects, sends its request and follows a number of redirects. It has just opened a
stream for the last one. -/
def circled (count : Nat) : Workload (List SocketAddress) Nat Unit :=
  circling.workAll { situation := { world := [] } }
    (connectTurns ++ [requestTurn] ++ .replicate (6 * count) (.go 1) ++ .replicate 3 (.go 1))

/-- All streams are opened on the one link that the client ever dials. -/
theorem opened_circled (count : Nat) (few : count ≤ 2 ^ 32) :
    (circled count).situation.world = [.new home 8090] ∧
      (circled count).opened = (List.range (count + 1)).map fun number => (0, .ofNat number) := by
  obtain ⟨left, exactly⟩ := Nat.exists_eq_add_of_le few
  obtain ⟨later, -, comes⟩ := exists_orbit count left
    (circling.withEncodings (.plain .get "a.test" "/")) (by decide +kernel)
  rw [circled, workAll_append, workAll_append, workAll_connectTurns, exactly, comes,
    List.range_succ, List.map_append]
  cases left <;> exact ⟨rfl, rfl⟩

/-- A client that connects once and then sends one request may use the number of its first stream
again, on the same link. -/
theorem stream_number_reused :
    (circled (2 ^ 32)).situation.world = [.new home 8090] ∧
      (circled (2 ^ 32)).opened[0]? = some (0, 0) ∧
      (circled (2 ^ 32)).opened[2 ^ 32]? = some (0, 0) ∧
      ¬((circled (2 ^ 32)).opened.map Prod.snd).Nodup := by
  obtain ⟨dialed, opened⟩ := opened_circled (2 ^ 32) (Nat.le_refl _)
  generalize circled (2 ^ 32) = after at dialed opened
  have number_at {place : Nat} (within : place < 2 ^ 32 + 1) :
      after.opened[place]? = some (0, .ofNat place) := by
    rw [opened, List.getElem?_map, List.getElem?_range within]
    rfl
  have first : after.opened[0]? = some (0, 0) := number_at (by decide)
  have again : after.opened[2 ^ 32]? = some (0, 0) := number_at (by decide)
  refine ⟨dialed, first, again, fun nodup => ?_⟩
  refine List.nodup_iff_getElem?_ne_getElem?.mp nodup 0 (2 ^ 32) (by decide) ?_ ?_
  · rw [opened, List.length_map, List.length_map, List.length_range]
    decide
  · rw [List.getElem?_map, List.getElem?_map, first, again]

end Circling

end CompactHttp.Client
