import CompactHttp.Proofs.ConnectionState

/-! # Errands of a client

An errand during which nothing else happens does what the client's action does
(`Client.perform_eq_alone`). So what is asked of a client one thing after the other is a workload
like others, in which each errand comes to its end before the next one begins
(`Client.exists_turns_of_run`).
-/

namespace CompactHttp.Client

variable {World Link Stream : Type}

/-! ## An errand without others -/

namespace Errand

variable {First Second : Type} {transport : Transport World Link Stream}
  {situation after : Situation World Link}

theorem ok_bind (result : First) (onward : First → Errand World Link Stream Second) :
    (done (.ok result) >>= onward) = onward result := rfl

theorem pure_bind (result : First) (onward : First → Errand World Link Stream Second) :
    (pure result >>= onward) = onward result := rfl

/-- Steps behind one another are worked alone one after the other. -/
theorem alone_bind (transport : Transport World Link Stream)
    (errand : Errand World Link Stream First)
    (onward : First → Errand World Link Stream Second) :
    (errand >>= onward).alone transport =
      errand.alone transport >>= fun result => (onward result).alone transport := by
  funext situation
  induction errand generalizing situation with
  | done outcome => cases outcome <;> rfl
  | act effect next ih => exact ih _ _
  | take next ih => exact ih _ _
  | openStream link number next ih => exact ih _ _

/-- What is worked alone to its result goes on from where it has ended. -/
theorem alone_bind_of_ok {errand : Errand World Link Stream First} {result : First}
    (ends : errand.alone transport situation = .ok result after)
    (onward : First → Errand World Link Stream Second) :
    (errand >>= onward).alone transport situation = (onward result).alone transport after := by
  rw [alone_bind, bind_of_ok ends]

theorem alone_look (view : Situation World Link → First) (situation : Situation World Link) :
    (look view).alone transport situation = .ok (view situation) situation := rfl

/-- An operation changes nothing but the world. -/
theorem alone_perform {operation : World → First × World} {result : First} {world : World}
    (comes : operation situation.world = (result, world)) :
    (perform operation).alone transport situation =
      .ok result { situation with world := world } := by
  rw [perform, alone, alone, comes]
  rfl

end Errand

open Errand

section Alone

variable (client : Client World Link Stream)

/-- Alone, swapping the link closes the old one and puts the new one in its place. -/
theorem alone_swapErrand (link : Option Link) (situation : Situation World Link) :
    (client.swapErrand link).alone client.transport situation =
      .ok () { client.unlinked situation with link := link } := by
  obtain ⟨world, held, remote, next⟩ := situation
  cases held <;> rfl

/-- Alone, the errand of connecting is connecting. -/
theorem alone_connectErrand (address : String) :
    (client.connectErrand address).alone client.transport = client.connect address := by
  funext situation
  rw [connect_eq, connectErrand]
  cases splitAddress address with
  | none => rfl
  | some parts =>
    obtain ⟨host, port⟩ := parts
    obtain ⟨found, between, looksUp⟩ : ∃ found between,
        client.resolver.lookup host situation.world = (found, between) := ⟨_, _, rfl⟩
    obtain ⟨texts, there, reads⟩ : ∃ texts there,
        client.resolver.texts (KeyRecord.nameOf host) between = (texts, there) := ⟨_, _, rfl⟩
    have finds : client.resolver.find host situation.world =
        ((found, Resolver.keyIn texts), there) := by
      simp only [Resolver.find, looksUp, reads]
    dsimp only
    rw [alone_bind_of_ok (alone_perform looksUp), alone_bind_of_ok (alone_perform reads), finds]
    cases found with
    | error fault => rfl
    | ok ip =>
      dsimp only
      obtain ⟨made, world, dials⟩ : ∃ made world,
          client.transport.dial (.new ip port) (Resolver.keyIn texts) there = (made, world) :=
        ⟨_, _, rfl⟩
      rw [alone_bind_of_ok (alone_perform dials), dials]
      cases made with
      | error fault => rfl
      | ok link =>
        rw [alone_bind_of_ok rfl, alone_bind_of_ok (client.alone_swapErrand _ _)]
        rfl

/-- A client without its link has none to take away. -/
theorem withoutLink_unlinked (situation : Situation World Link) :
    { client.unlinked situation with link := none } = client.unlinked situation := by
  have held := client.link_unlinked situation
  generalize client.unlinked situation = closed at held
  cases closed
  cases held
  rfl

/-- Alone, the errand of moving to a host is moving there. -/
theorem alone_reconnectErrand (host : String) :
    (client.reconnectErrand host).alone client.transport = client.reconnect host := by
  funext situation
  rw [reconnect_eq, reconnectErrand, alone_bind_of_ok (alone_look _ situation)]
  cases situation.remote with
  | none => rfl
  | some remote =>
    dsimp only
    rw [alone_bind_of_ok (client.alone_swapErrand _ _), alone_connectErrand, withoutLink_unlinked]

/-- Alone, the errand of following to a host is following there. -/
theorem alone_moveErrand (current host : String) :
    (client.moveErrand current host).alone client.transport = client.moveOn current host := by
  unfold moveErrand moveOn
  by_cases same : host = current
  · rw [if_pos same, if_pos same]
    rfl
  · rw [if_neg same, if_neg same]
    exact client.alone_reconnectErrand host

/-- Alone, the errand of a round trip is a round trip. -/
theorem alone_roundTripErrand (request : Request) :
    (client.roundTripErrand request).alone client.transport = client.roundTrip request := by
  funext situation
  rw [roundTripErrand, alone_bind_of_ok (alone_look _ situation)]
  cases linked : situation.link with
  | none =>
    rw [roundTrip_eq, answerTo, linked]
    rfl
  | some link =>
    obtain ⟨outcome, world, opens⟩ : ∃ outcome world,
        client.transport.openStream link situation.nextStream situation.world =
          (outcome, world) := ⟨_, _, rfl⟩
    dsimp only
    rw [alone, alone, opens]
    cases outcome with
    | error fault =>
      rw [roundTrip_of_unopened linked request opens]
      rfl
    | ok stream =>
      obtain ⟨outcome, later, writes⟩ : ∃ outcome later,
          client.transport.write stream request.encode world = (outcome, later) := ⟨_, _, rfl⟩
      dsimp only
      rw [alone_bind_of_ok rfl, exchangeErrand, alone_bind_of_ok (alone_perform writes)]
      cases outcome with
      | error fault =>
        rw [roundTrip_of_unsent linked opens writes]
        rfl
      | ok done =>
        rw [roundTrip_of_sent linked opens writes]
        rfl

/-- Alone, the errand of following redirects is following them. -/
theorem alone_followErrand (left : Nat) (request : Request) :
    (client.followErrand left request).alone client.transport = client.follow left request := by
  induction left generalizing request with
  | zero =>
    rw [followErrand, follow, alone_bind, alone_roundTripErrand]
    refine congrArg (client.roundTrip request >>= ·) (funext fun response => ?_)
    cases response.isRedirect <;> rfl
  | succ left ih =>
    rw [followErrand, follow, alone_bind, alone_roundTripErrand]
    refine congrArg (client.roundTrip request >>= ·) (funext fun response => ?_)
    cases response.isRedirect with
    | false => rfl
    | true =>
      cases Redirect.target response request.host with
      | error fault => rfl
      | ok target =>
        have moves := client.alone_moveErrand request.host target.host
        have follows := ih (Redirect.followUp request response.status target)
        exact (alone_bind _ _ _).trans (by rw [moves, follows]; rfl)

/-- A result may be put in another form at the end. -/
theorem ending_alone_bind_pure {First Second : Type} (transport : Transport World Link Stream)
    (errand : Errand World Link Stream First) (form : First → Second)
    (situation : Situation World Link) :
    ending ((errand >>= fun result => pure (form result)).alone transport situation) =
      ending (errand.alone transport situation) := by
  rw [alone_bind]
  match ends : errand.alone transport situation with
  | .ok result after =>
    rw [bind_of_ok ends]
    rfl
  | .error error after =>
    rw [bind_of_error ends]
    rfl

/-- What is done about a command, if nothing else happens meanwhile, is what the client does. -/
theorem perform_eq_alone (situation : Situation World Link) (command : Command) :
    client.perform situation command =
      ending ((client.errand command).alone client.transport situation) := by
  cases command with
  | connect address =>
    rw [errand, ending_alone_bind_pure, alone_connectErrand]
    rfl
  | close =>
    rw [errand, ending_alone_bind_pure, alone_swapErrand, perform, close_eq]
    exact (client.withoutLink_unlinked situation).symm
  | request request =>
    rw [errand, ending_alone_bind_pure, alone_followErrand]
    rfl

end Alone

/-! ## One after the other -/

variable {client : Client World Link Stream}

theorem workAll_cons (workload : Workload World Link Stream) (turn : Turn World)
    (turns : List (Turn World)) :
    client.workAll workload (turn :: turns) = client.workAll (client.work workload turn) turns :=
  rfl

theorem workAll_append (workload : Workload World Link Stream) (first second : List (Turn World)) :
    client.workAll workload (first ++ second) =
      client.workAll (client.workAll workload first) second :=
  List.foldl_append

/-- A turn for an errand is a step of it. -/
theorem work_go {workload : Workload World Link Stream} {number : Nat}
    {errand : Errand World Link Stream (Option Response)}
    (here : workload.errands[number]? = some errand) :
    client.work workload (.go number) = workload.proceed client.transport number errand := by
  rw [work, here]

/-- An errand that has gone on is found in its place. -/
theorem getElem?_errands_set {workload : Workload World Link Stream} {number : Nat}
    {errand : Errand World Link Stream (Option Response)}
    (here : workload.errands[number]? = some errand)
    (onward : Errand World Link Stream (Option Response)) :
    (workload.errands.set number onward)[number]? = some onward :=
  List.getElem?_set_self (List.getElem?_eq_some_iff.mp here).1

/-- An errand comes to its end if only it goes on. -/
theorem exists_turns_of_errand (client : Client World Link Stream)
    {workload : Workload World Link Stream} {number : Nat}
    {errand : Errand World Link Stream (Option Response)}
    (here : workload.errands[number]? = some errand) :
    ∃ count, (client.workAll workload (.replicate count (.go number))).situation =
      ending (errand.alone client.transport workload.situation) := by
  induction errand generalizing workload with
  | done outcome => exact ⟨0, by cases outcome <;> rfl⟩
  | act effect onward ih =>
    have next : (workload.proceed client.transport number (.act effect onward)).errands[number]? =
        some (onward workload.situation) := getElem?_errands_set here _
    obtain ⟨count, ends⟩ := ih _ next
    refine ⟨count + 1, ?_⟩
    rw [List.replicate_succ, workAll_cons, work_go here]
    exact ends
  | take onward ih =>
    have next : (workload.proceed client.transport number (.take onward)).errands[number]? =
        some (onward workload.situation.nextStream) := getElem?_errands_set here _
    obtain ⟨count, ends⟩ := ih _ next
    refine ⟨count + 1, ?_⟩
    rw [List.replicate_succ, workAll_cons, work_go here]
    exact ends
  | openStream link id onward ih =>
    have next :
        (workload.proceed client.transport number (.openStream link id onward)).errands[number]? =
          some (onward (client.transport.openStream link id workload.situation.world).1) :=
      getElem?_errands_set here _
    obtain ⟨count, ends⟩ := ih _ next
    refine ⟨count + 1, ?_⟩
    rw [List.replicate_succ, workAll_cons, work_go here]
    exact ends

/-- What is asked of a client one thing after the other, each when the one before has ended, is
one of the ways in which things may happen. -/
theorem exists_turns_of_run (client : Client World Link Stream)
    (workload : Workload World Link Stream) (commands : List Command) :
    ∃ turns, (client.workAll workload turns).situation =
      client.run workload.situation commands := by
  induction commands generalizing workload with
  | nil => exact ⟨[], rfl⟩
  | cons command rest ih =>
    have here : (client.work workload (.begin command)).errands[workload.errands.length]? =
        some (client.errand command) := List.getElem?_concat_length
    obtain ⟨count, ends⟩ := client.exists_turns_of_errand here
    obtain ⟨turns, follows⟩ := ih (client.workAll (client.work workload (.begin command))
      (.replicate count (.go workload.errands.length)))
    refine ⟨.begin command :: (.replicate count (.go workload.errands.length) ++ turns), ?_⟩
    have first : client.run workload.situation (command :: rest) =
        client.run (client.perform workload.situation command) rest := rfl
    rw [workAll_cons, workAll_append, follows, ends, first, perform_eq_alone]
    rfl

end CompactHttp.Client
