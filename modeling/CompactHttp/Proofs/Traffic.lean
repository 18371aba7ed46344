import CompactHttp.Proofs.Exchange
import CompactHttp.Proofs.Ownership
import Mathlib.Logic.Relation

/-! # Exchanges in traffic

In all the traffic each exchange can be looked at by itself: whatever happens is a step of it
or nothing to it (`Traffic.Shows.step`), since nobody else holds an end of its stream. So from
the moment when a call opens a stream for its request it is known where it has got to
(`Traffic.Follows`): it waits, in an exchange that is underway, or it waits no more.
-/

namespace CompactHttp

open Exchange (Subject Underway Over Answered)

namespace Traffic

/-- A server has accepted the stream of an exchange. -/
def Accepted (world : Traffic) (subject : Subject) (exchange : Exchange) : Prop :=
  ∃ place : Nat, world.services[place]? = some exchange.service ∧
    exchange.service.stream = ⟨subject.number, .server⟩

/-- What of the traffic belongs to an exchange: a call, the pipes of a stream to a listener,
and the service of that stream, which has yet to begin while the stream waits for the
listener. -/
structure Shows (world : Traffic) (index listener : Nat) (subject : Subject)
    (exchange : Exchange) : Prop where
  call : world.calls[index]? = some exchange.call
  pipes : world.network.streams[subject.number]? = some exchange.pipes
  served : world.servers[listener]? = some subject.server
  size : world.network.fragmentSize = subject.size
  service : subject.number ∈ world.network.queue listener ∧
      exchange.service = .start subject.server ⟨subject.number, .server⟩ ∨
    world.Accepted subject exchange

section Shows

variable {world after : Traffic} {index listener : Nat} {subject : Subject}
  {exchange : Exchange}

/-- The call of the exchange has done something at its end of the stream. -/
theorem Shows.callActed (seen : world.Shows index listener subject exchange) (next : Call)
    (pipes : StreamPipes) :
    Shows ({ world with network := { world.network with
        streams := world.network.streams.set subject.number pipes } }.setCall index next)
      index listener subject { exchange with call := next, pipes := pipes } :=
  { seen with
    call := List.getElem?_set_self (List.getElem?_eq_some_iff.mp seen.call).1
    pipes := List.getElem?_set_self (List.getElem?_eq_some_iff.mp seen.pipes).1 }

/-- A call that has gone on by itself is seen to have done so. -/
theorem Shows.callProceeded (seen : world.Shows index listener subject exchange) (next : Call) :
    Shows (world.setCall index next) index listener subject { exchange with call := next } :=
  { seen with call := List.getElem?_set_self (List.getElem?_eq_some_iff.mp seen.call).1 }

/-- A service that has acted on the stream is seen to have done so. -/
theorem Shows.serviceActed {place : Nat} {next : Attendance}
    (seen : world.Shows index listener subject exchange)
    (here : world.services[place]? = some exchange.service)
    (held : next.stream = ⟨subject.number, .server⟩) (pipes : StreamPipes) :
    Shows ({ world with network := { world.network with
        streams := world.network.streams.set subject.number pipes } }.setService place next)
      index listener subject { exchange with service := next, pipes := pipes } :=
  { seen with
    pipes := List.getElem?_set_self (List.getElem?_eq_some_iff.mp seen.pipes).1
    service := .inr ⟨place, List.getElem?_set_self (List.getElem?_eq_some_iff.mp here).1, held⟩ }

/-- A service that has gone on by itself is seen to have done so. -/
theorem Shows.serviceProceeded {place : Nat} {next : Attendance}
    (seen : world.Shows index listener subject exchange)
    (here : world.services[place]? = some exchange.service)
    (held : next.stream = ⟨subject.number, .server⟩) :
    Shows (world.setService place next) index listener subject { exchange with service := next } :=
  { seen with
    service := .inr ⟨place, List.getElem?_set_self (List.getElem?_eq_some_iff.mp here).1, held⟩ }

/-- What another call does is nothing to the exchange. -/
theorem Shows.callActs {number : Nat} {call next : Call} {stream : StreamEnd} {deed : Deed}
    {network : LocalNetwork} (seen : world.Shows index listener subject exchange)
    (orderly : world.Orderly)
    (holds : exchange.call.stage.stream? = some ⟨subject.number, .client⟩)
    (here : world.calls[number]? = some call) (acts : call.Acts stream deed next)
    (does : world.network.Does stream deed network) :
    ∃ changed, Shows ({ world with network := network }.setCall number next) index listener
        subject changed ∧
      (changed = exchange ∨ Exchange.Step subject.size subject.number exchange changed) := by
  have inside := (orderly.called _ _ _ here acts.stream?).2
  by_cases mine : number = index
  · subst mine
    cases here.symm.trans seen.call
    cases acts.stream?.symm.trans holds
    obtain ⟨pipes, changes, rfl⟩ := does.inPipes seen.pipes
    rw [seen.size] at changes
    exact ⟨_, seen.callActed next pipes, .inr (.callActs acts changes)⟩
  · obtain ⟨pipes, -, rfl⟩ := does.inPipes (List.getElem?_eq_getElem inside)
    -- Nobody else holds the client end of the stream.
    have apart : stream.number ≠ subject.number := by
      intro same
      have side := (orderly.called _ _ _ here acts.stream?).1
      have held : stream = ⟨subject.number, .client⟩ := by
        cases stream
        cases side
        cases same
        rfl
      exact mine (orderly.calledOnce _ _ _ _ _ here seen.call (held ▸ acts.stream?) holds)
    refine ⟨exchange, ⟨?_, ?_, seen.served, seen.size, seen.service⟩, .inl rfl⟩
    · exact (List.getElem?_set_ne mine).trans seen.call
    · exact (List.getElem?_set_ne apart).trans seen.pipes

/-- Whichever call goes on by itself, the exchange takes a step or does not change. -/
theorem Shows.callProceeds {number : Nat} {call next : Call}
    (seen : world.Shows index listener subject exchange)
    (here : world.calls[number]? = some call) (proceeds : call.Proceeds next) :
    ∃ changed, Shows (world.setCall number next) index listener subject changed ∧
      (changed = exchange ∨ Exchange.Step subject.size subject.number exchange changed) := by
  by_cases mine : number = index
  · subst mine
    cases here.symm.trans seen.call
    exact ⟨_, seen.callProceeded next, .inr (.callProceeds proceeds)⟩
  · exact ⟨exchange, { seen with call := (List.getElem?_set_ne mine).trans seen.call }, .inl rfl⟩

/-- What another service does is nothing to the exchange. -/
theorem Shows.serviceActs {number : Nat} {service next : Attendance} {deed : Deed}
    {network : LocalNetwork} (seen : world.Shows index listener subject exchange)
    (orderly : world.Orderly) (here : world.services[number]? = some service)
    (acts : service.Acts world.network.fragmentSize deed next)
    (does : world.network.Does service.stream deed network) :
    ∃ changed, Shows ({ world with network := network }.setService number next) index listener
        subject changed ∧
      (changed = exchange ∨ Exchange.Step subject.size subject.number exchange changed) := by
  have inside := (orderly.attended _ _ here).2
  rcases seen.service with ⟨waits, unbegun⟩ | ⟨place, there, held⟩
  · have apart := orderly.unattended _ _ _ _ waits here
    obtain ⟨pipes, -, rfl⟩ := does.inPipes (List.getElem?_eq_getElem inside)
    exact ⟨exchange, { seen with
      pipes := (List.getElem?_set_ne apart).trans seen.pipes
      service := .inl ⟨waits, unbegun⟩ }, .inl rfl⟩
  · by_cases mine : number = place
    · subst mine
      cases here.symm.trans there
      rw [held] at does
      obtain ⟨pipes, changes, rfl⟩ := does.inPipes seen.pipes
      rw [seen.size] at acts changes
      exact ⟨_, seen.serviceActed there (acts.stream.trans held) pipes,
        .inr (.serviceActs acts changes)⟩
    · have apart : service.stream.number ≠ subject.number := by
        intro same
        refine mine (orderly.attendedOnce _ _ _ _ here there ?_)
        rw [same, held]
      obtain ⟨pipes, -, rfl⟩ := does.inPipes (List.getElem?_eq_getElem inside)
      exact ⟨exchange, { seen with
        pipes := (List.getElem?_set_ne apart).trans seen.pipes
        service := .inr ⟨place, (List.getElem?_set_ne mine).trans there, held⟩ }, .inl rfl⟩

/-- Whichever service goes on by itself, the exchange takes a step or does not change. -/
theorem Shows.serviceProceeds {number : Nat} {service next : Attendance}
    (seen : world.Shows index listener subject exchange)
    (here : world.services[number]? = some service)
    (proceeds : service.Proceeds world.network.fragmentSize next) :
    ∃ changed, Shows (world.setService number next) index listener subject changed ∧
      (changed = exchange ∨ Exchange.Step subject.size subject.number exchange changed) := by
  rcases seen.service with ⟨waits, unbegun⟩ | ⟨place, there, held⟩
  · exact ⟨exchange, { seen with service := .inl ⟨waits, unbegun⟩ }, .inl rfl⟩
  · by_cases mine : number = place
    · subst mine
      cases here.symm.trans there
      rw [seen.size] at proceeds
      exact ⟨_, seen.serviceProceeded there (proceeds.stream.trans held),
        .inr (.serviceProceeds proceeds)⟩
    · exact ⟨exchange, { seen with
        service := .inr ⟨place, (List.getElem?_set_ne mine).trans there, held⟩ }, .inl rfl⟩

/-- The exchange goes on waiting for its service, or this begins. -/
theorem Shows.accepts {accepting : ListenerId} {server : Server} {stream : StreamEnd}
    {network : LocalNetwork} (seen : world.Shows index listener subject exchange)
    (serves : world.servers[accepting.number]? = some server)
    (accepts : world.network.accept accepting = (some stream, network)) :
    Shows { world with
      network := network
      services := world.services ++ [.start server stream] } index listener subject exchange := by
  obtain ⟨number, rfl, size, streams, -, mine, others⟩ := LocalNetwork.accept_eq_some accepts
  refine { seen with
    pipes := (congrArg (·[subject.number]?) streams).trans seen.pipes
    size := size.trans seen.size
    service := ?_ }
  rcases seen.service with ⟨waits, unbegun⟩ | ⟨place, there, held⟩
  · by_cases same : accepting.number = listener
    · subst same
      rw [mine] at waits
      rcases List.mem_cons.mp waits with rfl | later
      · cases serves.symm.trans seen.served
        exact .inr ⟨world.services.length, unbegun ▸ List.getElem?_concat_length,
          unbegun ▸ rfl⟩
      · exact .inl ⟨later, unbegun⟩
    · refine .inl ⟨?_, unbegun⟩
      change subject.number ∈ network.queue listener
      rwa [others listener same]
  · refine .inr ⟨place, ?_, held⟩
    rw [List.getElem?_append_left (List.getElem?_eq_some_iff.mp there).1]
    exact there

/-- A stream that another call opens changes nothing in the exchange. -/
theorem Shows.opens {number : Nat} {call : Call} {party : Party} {request : Request}
    {link : LinkId} {id : UInt32} {stream : StreamEnd} {network : LocalNetwork}
    (seen : world.Shows index listener subject exchange) (another : number ≠ index)
    (opens : world.network.openStream link id = (.ok stream, network)) :
    Shows (world.opened number call party request stream network) index listener subject
      exchange := by
  obtain ⟨state, -, rfl, size, streams, -, mine, others⟩ := LocalNetwork.openStream_eq_ok opens
  refine ⟨(List.getElem?_set_ne another).trans seen.call, ?_, seen.served,
    size.trans seen.size, ?_⟩
  · change network.streams[subject.number]? = some exchange.pipes
    rw [streams, List.getElem?_append_left (List.getElem?_eq_some_iff.mp seen.pipes).1]
    exact seen.pipes
  · rcases seen.service with ⟨waits, unbegun⟩ | begun
    · refine .inl ⟨?_, unbegun⟩
      change subject.number ∈ network.queue listener
      by_cases same : state.listener.number = listener
      · subst same
        rw [mine]
        exact List.mem_append_left _ waits
      · rwa [others listener same]
    · exact .inr begun

/-- Whatever happens is nothing to the exchange, or a step of it. -/
theorem Shows.step (seen : world.Shows index listener subject exchange) (orderly : world.Orderly)
    (holds : exchange.call.stage.stream? = some ⟨subject.number, .client⟩)
    (step : Step world after) :
    ∃ changed, Shows after index listener subject changed ∧
      (changed = exchange ∨ Exchange.Step subject.size subject.number exchange changed) := by
  have another {number : Nat} {call : Call} (here : world.calls[number]? = some call)
      (free : call.stage.stream? = none) : number ≠ index := by
    rintro rfl
    cases here.symm.trans seen.call
    cases free.symm.trans holds
  cases step with
  | listen server listens =>
    obtain rfl := LocalNetwork.listen_eq_ok listens
    refine ⟨exchange, { seen with served := ?_, service := ?_ }, .inl rfl⟩
    · rw [List.getElem?_append_left (List.getElem?_eq_some_iff.mp seen.served).1]
      exact seen.served
    · rw [LocalNetwork.queue_append_listener]
      exact seen.service
  | join config => exact ⟨exchange, { seen with }, .inl rfl⟩
  | link here dials =>
    obtain ⟨_, _, rfl⟩ := LocalNetwork.dial_eq dials
    exact ⟨exchange, { seen with }, .inl rfl⟩
  | refuse dials =>
    obtain ⟨_, _, rfl⟩ := LocalNetwork.dial_eq dials
    exact ⟨exchange, { seen with }, .inl rfl⟩
  | unlink here => exact ⟨exchange, { seen with }, .inl rfl⟩
  | closeLink link => exact ⟨exchange, { seen with }, .inl rfl⟩
  | issue request here =>
    refine ⟨exchange, { seen with call := ?_ }, .inl rfl⟩
    rw [List.getElem?_append_left (List.getElem?_eq_some_iff.mp seen.call).1]
    exact seen.call
  | load here staged _ _ =>
    have apart := another here (staged ▸ rfl)
    exact ⟨exchange, { seen with call := (List.getElem?_set_ne apart).trans seen.call }, .inl rfl⟩
  | unlinked here staged _ _ =>
    have apart := another here (staged ▸ rfl)
    exact ⟨exchange, { seen with call := (List.getElem?_set_ne apart).trans seen.call }, .inl rfl⟩
  | opens here staged _ opens =>
    exact ⟨exchange, seen.opens (another here (staged ▸ rfl)) opens, .inl rfl⟩
  | opensNot here staged _ opens =>
    obtain rfl := LocalNetwork.openStream_eq_error opens
    have apart := another here (staged ▸ rfl)
    exact ⟨exchange, { seen with call := (List.getElem?_set_ne apart).trans seen.call }, .inl rfl⟩
  | accepts serves accepts => exact ⟨exchange, seen.accepts serves accepts, .inl rfl⟩
  | callActs here acts does => exact seen.callActs orderly holds here acts does
  | callProceeds here proceeds => exact seen.callProceeds here proceeds
  | serviceActs here acts does => exact seen.serviceActs orderly here acts does
  | serviceProceeds here proceeds => exact seen.serviceProceeds here proceeds

end Shows

section Over

variable {world after : Traffic} {index : Nat} {subject : Subject} {call : Call}

/-- A call that has not got a stream yet has not been answered. -/
theorem over_of_unanswered {next : Call} (past : Over subject call)
    (fresh : ∀ response, ¬Answered subject response call) (same : next.config = call.config)
    (elsewhere : ∀ received, next.stage.awaits? ≠ some (⟨subject.number, .client⟩, received)) :
    Over subject next :=
  ⟨same.trans past.config, elsewhere, fun response within =>
    absurd (past.answered response within) (fresh response)⟩

/-- A call that has yet to start has not been answered. -/
theorem not_answered_of_starting {request : Request} (staged : call.stage = .starting request)
    (response : Response) : ¬Answered subject response call := by
  rintro (same | same | same) <;> cases staged.symm.trans same

theorem not_answered_of_opening {link : LinkId} {request : Request}
    (staged : call.stage = .opening link request) (response : Response) :
    ¬Answered subject response call := by
  rintro (same | same | same) <;> cases staged.symm.trans same

/-- Whatever happens, a call that waits on a stream no more never does again, and if it has been
answered it stays so. -/
theorem over_step (past : Over subject call) (here : world.calls[index]? = some call)
    (made : subject.number < world.network.streams.length) (step : Step world after) :
    ∃ next, after.calls[index]? = some next ∧ Over subject next := by
  have set {number : Nat} {found next : Call} (there : world.calls[number]? = some found)
      (onward : found = call → Over subject next) :
      ∃ changed, (world.calls.set number next)[index]? = some changed ∧ Over subject changed := by
    by_cases same : number = index
    · subst same
      cases there.symm.trans here
      exact ⟨next, List.getElem?_set_self (List.getElem?_eq_some_iff.mp here).1, onward rfl⟩
    · exact ⟨call, (List.getElem?_set_ne same).trans here, past⟩
  cases step with
  | listen | join | link | refuse | unlink | closeLink | accepts | serviceActs
  | serviceProceeds => exact ⟨call, here, past⟩
  | issue request _ =>
    refine ⟨call, ?_, past⟩
    rw [List.getElem?_append_left (List.getElem?_eq_some_iff.mp here).1]
    exact here
  | load there staged _ _ =>
    refine set there ?_
    rintro rfl
    exact over_of_unanswered past (not_answered_of_starting staged) rfl nofun
  | unlinked there staged _ _ =>
    refine set there ?_
    rintro rfl
    exact over_of_unanswered past (not_answered_of_starting staged) rfl nofun
  | opens there staged _ opens =>
    refine set there ?_
    rintro rfl
    -- The call waits on a new stream now.
    obtain ⟨_, _, rfl, _⟩ := LocalNetwork.openStream_eq_ok opens
    refine over_of_unanswered past (not_answered_of_opening staged) rfl ?_
    intro received waits
    injection waits with pair
    injection pair with ends
    injection ends with same
    exact Nat.ne_of_gt made same
  | opensNot there staged _ _ =>
    refine set there ?_
    rintro rfl
    exact over_of_unanswered past (not_answered_of_opening staged) rfl nofun
  | callActs there acts _ =>
    refine set there ?_
    rintro rfl
    exact past.acts acts
  | callProceeds there proceeds =>
    refine set there ?_
    rintro rfl
    exact past.proceeds proceeds

end Over

/-- Where a call that has opened a stream has got to. -/
structure Follows (world : Traffic) (index listener : Nat) (subject : Subject) : Prop where
  orderly : world.Orderly
  made : subject.number < world.network.streams.length
  stands : (∃ exchange events pending unsent received said,
      world.Shows index listener subject exchange ∧
      Underway subject exchange events pending unsent received said) ∨
    ∃ call, world.calls[index]? = some call ∧ Over subject call

section Follows

variable {world after : Traffic} {index listener : Nat} {subject : Subject}

/-- Streams are never taken away. -/
theorem length_streams_le (orderly : world.Orderly) (step : Step world after) :
    world.network.streams.length ≤ after.network.streams.length := by
  cases step with
  | listen _ listens =>
    obtain rfl := LocalNetwork.listen_eq_ok listens
    exact Nat.le_refl _
  | link _ dials | refuse dials =>
    obtain ⟨_, _, rfl⟩ := LocalNetwork.dial_eq dials
    exact Nat.le_refl _
  | opens _ _ _ opens =>
    obtain ⟨_, _, _, _, streams, _⟩ := LocalNetwork.openStream_eq_ok opens
    have grown := congrArg List.length streams
    rw [List.length_append] at grown
    exact Nat.le_trans (Nat.le_add_right _ _) (Nat.le_of_eq grown.symm)
  | opensNot _ _ _ opens =>
    obtain rfl := LocalNetwork.openStream_eq_error opens
    exact Nat.le_refl _
  | accepts _ accepts =>
    obtain ⟨_, _, _, streams, _⟩ := LocalNetwork.accept_eq_some accepts
    exact Nat.le_of_eq (congrArg List.length streams).symm
  | callActs here acts does =>
    have inside := (orderly.called _ _ _ here acts.stream?).2
    obtain ⟨_, _, rfl⟩ := does.inPipes (List.getElem?_eq_getElem inside)
    exact Nat.le_of_eq List.length_set.symm
  | serviceActs here _ does =>
    have inside := (orderly.attended _ _ here).2
    obtain ⟨_, _, rfl⟩ := does.inPipes (List.getElem?_eq_getElem inside)
    exact Nat.le_of_eq List.length_set.symm
  | join | unlink | closeLink | issue | load | unlinked | callProceeds | serviceProceeds =>
    exact Nat.le_refl _

/-- A call is followed through every step of the traffic. -/
theorem Follows.step (follows : world.Follows index listener subject) (step : Step world after) :
    after.Follows index listener subject := by
  refine ⟨follows.orderly.step step,
    Nat.lt_of_lt_of_le follows.made (length_streams_le follows.orderly step), ?_⟩
  rcases follows.stands with ⟨exchange, _, _, _, _, _, seen, underway⟩ | ⟨call, here, past⟩
  · have holds := Call.stream?_of_awaits? underway.waits.awaits?
    obtain ⟨changed, still, rfl | moves⟩ := seen.step follows.orderly holds step
    · exact .inl ⟨_, _, _, _, _, _, still, underway⟩
    · rcases underway.step moves with ⟨_, _, _, _, _, onward⟩ | past
      · exact .inl ⟨_, _, _, _, _, _, still, onward⟩
      · exact .inr ⟨_, still.call, past⟩
  · exact .inr (over_step past here follows.made step)

/-- A call is followed through all the traffic. -/
theorem Follows.run (follows : world.Follows index listener subject)
    (onward : Relation.ReflTransGen Step world after) : after.Follows index listener subject := by
  induction onward with
  | refl => exact follows
  | tail _ step ih => exact ih.step step

/-- All traffic is in order. -/
theorem orderly_run {size : Nat} (reached : Relation.ReflTransGen Step (start size) world) :
    world.Orderly := by
  induction reached with
  | refl => exact orderly_start size
  | tail _ step ih => exact ih.step step

/-- A call opens a stream for its request, on an open link to a server. -/
inductive Opens (world : Traffic) (index : Nat) (config : ClientConfig) (request : Request)
    (server : Server) (stream : StreamEnd) : Traffic → Prop where
  | mk {call : Call} {party : Party} {link : LinkId} {state : LinkState}
      {network : LocalNetwork} :
      world.calls[index]? = some call → call.config = config →
      call.stage = .opening link request → world.parties[call.party]? = some party →
      world.network.links[link.number]? = some state →
      world.servers[state.listener.number]? = some server →
      world.network.openStream link party.nextStream = (.ok stream, network) →
      Opens world index config request server stream
        (world.opened index call party request stream network)

variable {config : ClientConfig} {request : Request} {server : Server} {stream : StreamEnd}

/-- Opening a stream for a request is a step of the traffic. -/
theorem Opens.step (opens : world.Opens index config request server stream after) :
    Step world after := by
  obtain ⟨here, -, staged, held, -, -, opens⟩ := opens
  exact .opens here staged held opens

/-- A call that has just opened a stream has an exchange underway. -/
theorem Opens.follows (orderly : world.Orderly)
    (opens : world.Opens index config request server stream after) :
    stream = ⟨stream.number, .client⟩ ∧ ∃ listener, after.Follows index listener
      ⟨config, request, server, stream.number, world.network.fragmentSize⟩ := by
  have onward := orderly.step opens.step
  obtain @⟨call, party, link, state, network, here, rfl, -, -, linked, served, opens⟩ := opens
  obtain ⟨found, linkedThere, rfl, size, streams, -, mine, -⟩ :=
    LocalNetwork.openStream_eq_ok opens
  cases linked.symm.trans linkedThere
  have grown := congrArg List.length streams
  rw [List.length_append, List.length_singleton] at grown
  refine ⟨rfl, state.listener.number, onward, grown ▸ Nat.lt_succ_self _, .inl ⟨⟨{ call with
      stage := .sending ⟨world.network.streams.length, .client⟩ request
        (fragmentsOf world.network.fragmentSize request.encode) }, { id := party.nextStream },
    .start server ⟨world.network.streams.length, .server⟩⟩,
    [], [], fragmentsOf world.network.fragmentSize request.encode, [], [], ?_, ?_⟩⟩
  · refine ⟨List.getElem?_set_self (List.getElem?_eq_some_iff.mp here).1, ?_, served, size,
      .inl ⟨?_, rfl⟩⟩
    · change network.streams[world.network.streams.length]? = _
      rw [streams, List.getElem?_concat_length]
    · change world.network.streams.length ∈ network.queue state.listener.number
      rw [mine]
      exact List.mem_append_right _ (List.mem_singleton_self _)
  · exact {
      config := rfl
      waits := .sending rfl
      server := rfl
      steps := .nil _
      succeeded := fun _ member => absurd member List.not_mem_nil
      going := List.not_mem_nil
      sent := rfl
      isWritable := rfl
      hasReader := rfl
      inTransit := fun _ => rfl
      attended := fun _ => ⟨rfl, rfl⟩
      writing := rfl
      arrived := rfl }

end Follows

end Traffic

end CompactHttp
