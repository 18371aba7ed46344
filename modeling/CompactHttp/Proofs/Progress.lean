import CompactHttp.Proofs.Traffic

/-! # What comes of a request in traffic

Of any number of requests that are under way at the same time, each is answered as if it were
alone: if it and its reply are within the limits, its call can return with nothing but that
reply. And from everywhere it can return (`Traffic.exists_return`), for while it waits, it or
the service of its stream has a step to take after which less is left to be done
(`Exchange.Underway.exists_step`), and nobody else can stand in the way.
-/

namespace CompactHttp

open Exchange (Subject Underway Over Answered)

/-- A measure of what a call still has to do at its end, for a request of which each fragment
makes for `share` more. -/
def Stage.weight (share : Nat) : Stage → Nat
  | sending _ _ unsent => share * unsent.flatten.length + unsent.length + 1
  | _ => 0

/-- A call that has received its answer has nothing left to do on the stream. -/
theorem Stage.weight_received (share : Nat) (stream : StreamEnd) (request : Request)
    (outcome : Except ClientError (Response ⊕ Reassembly)) :
    (Stage.received stream request outcome).weight share = 0 := by
  unfold received
  split <;> rfl

/-- A measure of what a service still has to do with the messages it has found. -/
def Server.Phase.toAnswer : Server.Phase → Nat
  | answering _ _ => 1
  | _ => 0

namespace Exchange

/-- A measure of what is left to be done until the call has its reply. -/
def weight (share : Nat) (exchange : Exchange) : Nat :=
  exchange.call.stage.weight share + share * exchange.pipes.toServer.waiting.length +
    exchange.service.phase.toAnswer +
    (exchange.service.unsent.flatten.length + exchange.service.unsent.length) +
    exchange.pipes.toClient.waiting.length

section Steps

variable {exchange : Exchange} {size number : Nat} {request : Request} {data : Bytes}
  {rest : List Bytes}

/-- A call with something to send can send it, which brings it nearer to its end. -/
theorem exists_step_of_sending (share : Nat)
    (staged : exchange.call.stage = .sending ⟨number, .client⟩ request (data :: rest))
    (writable : exchange.pipes.toServer.isWritable = true)
    (reader : exchange.pipes.toServer.hasReader = true) :
    ∃ after, Step size number exchange after ∧ after.weight share < exchange.weight share := by
  obtain ⟨pipe, written, longer⟩ := Pipe.exists_write size data writable reader
  refine ⟨_, .callActs (.sends staged) (.wrote written), ?_⟩
  have shared := Nat.mul_le_mul_left share longer
  simp only [weight, staged, Stage.weight, List.flatten_cons, List.length_append, List.length_cons,
    StreamPipes.setOutgoing, Nat.mul_add] at shared ⊢
  omega

/-- A call that has sent everything can begin to receive. -/
theorem exists_step_of_sent (share : Nat)
    (staged : exchange.call.stage = .sending ⟨number, .client⟩ request []) :
    ∃ after, Step size number exchange after ∧ after.weight share < exchange.weight share := by
  refine ⟨_, .callProceeds (.sent staged), ?_⟩
  simp only [weight, staged, Stage.weight]
  omega

/-- A call can receive what waits for it. -/
theorem exists_step_of_receiving {buffer : Reassembly} (share : Nat)
    (staged : exchange.call.stage = .receiving ⟨number, .client⟩ request buffer)
    (waiting : exchange.pipes.toClient.waiting = data :: rest) :
    ∃ after, Step size number exchange after ∧ after.weight share < exchange.weight share := by
  refine ⟨_, .callActs (.receives staged) (.read (Pipe.read_of_waiting waiting)), ?_⟩
  have done := Stage.weight_received share ⟨number, .client⟩ request
    (Client.takeFragment buffer data)
  simp only [weight, done, waiting, List.length_cons, StreamPipes.setIncoming]
  omega

/-- A service with something to send can send it. -/
theorem exists_step_of_replying (share : Nat)
    (unsent : exchange.service.unsent = data :: rest)
    (writable : exchange.pipes.toClient.isWritable = true)
    (reader : exchange.pipes.toClient.hasReader = true) :
    ∃ after, Step size number exchange after ∧ after.weight share < exchange.weight share := by
  obtain ⟨pipe, written, longer⟩ := Pipe.exists_write size data writable reader
  refine ⟨_, .serviceActs (.sends unsent) (.wrote written), ?_⟩
  simp only [weight, unsent, List.flatten_cons, List.length_append, List.length_cons,
    StreamPipes.setOutgoing]
  omega

end Steps

namespace Underway

variable {subject : Subject} {exchange : Exchange} {events : List Server.Event}
  {pending unsent : List Bytes} {received said : Bytes} {response : Response}

/-- What the service has to write is no longer than the reply. -/
theorem length_output_le
    (underway : Underway subject exchange events pending unsent received said)
    (within : subject.Within response) :
    (exchange.service.phase.output exchange.service.server).length ≤
      (subject.server.reply subject.request.encode).length := by
  have begins := ((underway.forOne within).written_prefix_reply subject.server).length_le
  rw [List.length_append] at begins
  rw [underway.server]
  omega

/-- How much a fragment of the request counts, so that it makes up for what the service has to
do when it has taken it in. -/
def share (subject : Subject) : Nat :=
  2 * (subject.server.reply subject.request.encode).length + 2

/-- A service can take in what waits for it. -/
theorem exists_step_of_waiting {data : Bytes} {rest : List Bytes} {buffer : Reassembly}
    (underway : Underway subject exchange events pending unsent received said)
    (within : subject.Within response) (phased : exchange.service.phase = .reading buffer)
    (waiting : exchange.pipes.toServer.waiting = data :: rest) :
    ∃ after, Step subject.size subject.number exchange after ∧
      after.weight (share subject) < exchange.weight (share subject) := by
  have step : exchange.service.phase.Step (.fragment data) (.take buffer data) := by
    rw [phased]
    exact .fragment buffer data
  have reads := Pipe.read_of_waiting waiting
  obtain ⟨left, onward⟩ := underway.take step reads
  refine ⟨_, .serviceActs (.takes step) (.read reads), ?_⟩
  -- What there is to write now was not counted before, but it is part of the reply.
  have short := onward.length_output_le within
  have few := length_fragmentsOf_le subject.size
    ((Server.Phase.take buffer data).output exchange.service.server)
  have one : (Server.Phase.take buffer data).toAnswer ≤ 1 := by
    unfold Server.Phase.toAnswer
    split <;> decide
  simp only [weight, Attendance.enter, flatten_fragmentsOf, waiting, List.length_cons,
    StreamPipes.setIncoming, Nat.mul_add, Nat.mul_one] at short ⊢
  unfold share
  omega

/-- A service that has written its answer can move on. -/
theorem exists_step_of_answering {buffer : Reassembly} {message : Bytes}
    (underway : Underway subject exchange events pending unsent received said)
    (within : subject.Within response)
    (phased : exchange.service.phase = .answering buffer message)
    (nothing : exchange.service.unsent = []) (share : Nat) :
    ∃ after, Step subject.size subject.number exchange after ∧
      after.weight share < exchange.weight share := by
  have step : exchange.service.phase.Step (.answer message true) (.settle buffer) := by
    rw [phased]
    exact .answered buffer message
  have onward := underway.allWritten nothing rfl rfl step
  refine ⟨_, .serviceProceeds (.sent nothing rfl rfl step), ?_⟩
  obtain ⟨left, waits⟩ : ∃ left, Server.Phase.settle buffer = .reading left :=
    (onward.forOne within).of_answer
  simp only [weight, Attendance.enter, waits, Server.Phase.output, fragmentsOf_nil, phased, nothing,
    Server.Phase.toAnswer, List.flatten_nil, List.length_nil]
  omega

/-- When nothing is left on its way the call has received the reply. -/
theorem received_eq_reply {buffer : Reassembly}
    (underway : Underway subject exchange events [] [] received said)
    (within : subject.Within response) (phased : exchange.service.phase = .reading buffer)
    (incoming : exchange.pipes.toClient.waiting = []) :
    received = subject.server.reply subject.request.encode := by
  obtain ⟨read, readable⟩ := within.readable
  have complete : (Server.taken events).flatten = subject.request.encode := by
    have sent := underway.sent
    rw [List.append_nil, List.append_nil] at sent
    rw [sent, flatten_fragmentsOf]
  have said := underway.said_eq_nil (by rw [phased]; rfl)
  have arrived := underway.arrived
  rw [incoming, List.flatten_nil, List.append_nil, said, List.append_nil] at arrived
  rw [arrived]
  exact (underway.forOne within).written_eq_reply complete (Request.length?_encode readable) phased _

/-- While nothing is on its way to a call that waits for the reply, the service has something
to do. -/
theorem exists_step_of_silence
    (underway : Underway subject exchange events pending [] received said)
    (within : subject.Within response)
    (unfinished : MessageKind.response.length? received = .ok none)
    (incoming : exchange.pipes.toClient.waiting = []) :
    ∃ after, Step subject.size subject.number exchange after ∧
      after.weight (share subject) < exchange.weight (share subject) := by
  obtain ⟨reader, writable⟩ := underway.isOpen within
  have told : MessageKind.response.length? (subject.server.reply subject.request.encode) =
      .ok (some (subject.server.reply subject.request.encode).length) :=
    Response.length?_encode within.decoded
  cases left : exchange.service.unsent with
  | cons fragment more => exact exists_step_of_replying _ left writable underway.hasReader
  | nil =>
    rcases (underway.forOne within).reading_or_answering with ⟨buffer, phased⟩ | ⟨buffer, phased⟩
    · cases waiting : exchange.pipes.toServer.waiting with
      | cons data rest => exact underway.exists_step_of_waiting within phased waiting
      | nil =>
        -- All has been taken in and written, and so the call would have all of the reply.
        obtain rfl := (underway.inTransit reader).symm.trans waiting
        have whole := underway.received_eq_reply within phased incoming
        rw [whole, told] at unfinished
        cases unfinished
    · exact underway.exists_step_of_answering within phased left _

/-- While a call waits there always is something to do about it. -/
theorem exists_step
    (underway : Underway subject exchange events pending unsent received said)
    (within : subject.Within response) :
    ∃ after, Step subject.size subject.number exchange after ∧
      after.weight (share subject) < exchange.weight (share subject) := by
  cases underway.waits with
  | sending staged =>
    cases unsent with
    | nil => exact exists_step_of_sent _ staged
    | cons fragment left =>
      exact exists_step_of_sending _ staged underway.isWritable (underway.isOpen within).1
  | receiving staged unfinished =>
    cases incoming : exchange.pipes.toClient.waiting with
    | cons data rest => exact exists_step_of_receiving _ staged incoming
    | nil => exact underway.exists_step_of_silence within unfinished incoming

end Underway

end Exchange

namespace Traffic

open Relation (ReflTransGen)

variable {world : Traffic} {index listener : Nat} {subject : Subject} {exchange : Exchange}
  {response : Response}

/-- What is possible in an exchange is possible in the traffic. -/
theorem Shows.exists_step {changed : Exchange}
    (seen : world.Shows index listener subject exchange)
    (accepted : world.Accepted subject exchange)
    (step : Exchange.Step subject.size subject.number exchange changed) :
    ∃ after, Step world after ∧ after.Shows index listener subject changed ∧
      after.Accepted subject changed := by
  obtain ⟨place, there, held⟩ := accepted
  have again {next : Attendance} :
      (world.services.set place next)[place]? = some next :=
    List.getElem?_set_self (List.getElem?_eq_some_iff.mp there).1
  cases step with
  | callActs acts does =>
    rw [← seen.size] at does
    exact ⟨_, .callActs seen.call acts (.of_pipes seen.pipes does), seen.callActed _ _, place,
      there, held⟩
  | callProceeds proceeds =>
    exact ⟨_, .callProceeds seen.call proceeds, seen.callProceeded _, place, there, held⟩
  | @serviceActs deed service pipes acts does =>
    have stays := acts.stream.trans held
    rw [← seen.size] at acts does
    have acted : world.network.Does exchange.service.stream deed { world.network with
        streams := world.network.streams.set subject.number pipes } := by
      rw [held]
      exact .of_pipes seen.pipes does
    exact ⟨_, .serviceActs there acts acted, seen.serviceActed there stays _, place, again, stays⟩
  | serviceProceeds proceeds =>
    have stays := proceeds.stream.trans held
    rw [← seen.size] at proceeds
    exact ⟨_, .serviceProceeds there proceeds, seen.serviceProceeded there stays, place, again,
      stays⟩

/-- A stream that waits for its listener can be accepted, after those that wait before it. -/
theorem Shows.exists_accepted (seen : world.Shows index listener subject exchange) :
    ∃ after, ReflTransGen Step world after ∧ after.Shows index listener subject exchange ∧
      after.Accepted subject exchange := by
  obtain ⟨queue, queued⟩ : ∃ queue, world.network.queue listener = queue := ⟨_, rfl⟩
  induction queue generalizing world with
  | nil =>
    rcases seen.service with ⟨waits, -⟩ | accepted
    · rw [queued] at waits
      cases waits
    · exact ⟨world, .refl, seen, accepted⟩
  | cons first rest ih =>
    -- Whichever stream is accepted, there is one less to wait for.
    obtain ⟨network, accepts, left⟩ := @LocalNetwork.exists_accept _ ⟨listener⟩ _ _ queued
    have step := Step.accepts seen.served accepts
    obtain ⟨after, onward, still, accepted⟩ := ih (seen.accepts seen.served accepts) left
    exact ⟨after, onward.head step, still, accepted⟩

/-- A call that waits can come to the end of its waiting. -/
theorem exists_over_of_accepted {events : List Server.Event} {pending unsent : List Bytes}
    {received said : Bytes} (seen : world.Shows index listener subject exchange)
    (accepted : world.Accepted subject exchange)
    (underway : Underway subject exchange events pending unsent received said)
    (within : subject.Within response) :
    ∃ after call, ReflTransGen Step world after ∧ after.calls[index]? = some call ∧
      Over subject call := by
  -- On what is left to be done, taking each time a step that lowers it.
  induction weighs : exchange.weight (Underway.share subject) using Nat.strong_induction_on
    generalizing world exchange events pending unsent received said with
  | _ weight ih =>
    obtain ⟨changed, step, lighter⟩ := underway.exists_step within
    obtain ⟨next, taken, still, attended⟩ := seen.exists_step accepted step
    rcases underway.step step with ⟨_, _, _, _, _, going⟩ | past
    · obtain ⟨after, call, onward, here, past⟩ := ih _ (weighs ▸ lighter) still attended going rfl
      exact ⟨after, call, onward.head taken, here, past⟩
    · exact ⟨next, _, .single taken, still.call, past⟩

/-- From everywhere a call can come to its end. -/
theorem Follows.exists_over (follows : world.Follows index listener subject)
    (within : subject.Within response) :
    ∃ after call, ReflTransGen Step world after ∧ after.calls[index]? = some call ∧
      Over subject call := by
  rcases follows.stands with ⟨exchange, _, _, _, _, _, seen, underway⟩ | ⟨call, here, past⟩
  · obtain ⟨next, accepts, still, accepted⟩ := seen.exists_accepted
    obtain ⟨after, call, onward, here, past⟩ :=
      exists_over_of_accepted still accepted underway within
    exact ⟨after, call, accepts.trans onward, here, past⟩
  · exact ⟨world, call, .refl, here, past⟩

/-- A call with its response in hand can return what it unpacks to. -/
theorem exists_return_of_leaving {call : Call} (here : world.calls[index]? = some call)
    (staged : call.stage = .leaving ⟨subject.number, .client⟩ subject.request (.ok response))
    (config : call.config = subject.config) (settled : response.isRedirect = false) :
    ∃ after next, Step world after ∧ after.calls[index]? = some next ∧
      next.stage = .returned (Client.unpack subject.config.maxResponseSize response) := by
  refine ⟨_, _, .callActs here (.leaves staged) .left,
    List.getElem?_set_self (List.getElem?_eq_some_iff.mp here).1, ?_⟩
  rw [Call.goOn, settled, ← config]
  rfl

/-- A call that has been answered can return what its response unpacks to. -/
theorem exists_return_of_answered {call : Call} (here : world.calls[index]? = some call)
    (answered : Answered subject response call) (config : call.config = subject.config)
    (settled : response.isRedirect = false) :
    ∃ after next, ReflTransGen Step world after ∧ after.calls[index]? = some next ∧
      next.stage = .returned (Client.unpack subject.config.maxResponseSize response) := by
  obtain staged | staged | staged := answered
  · obtain ⟨middle, finishes, there⟩ : ∃ middle, Step world middle ∧ middle.calls[index]? =
        some { call with
          stage := .leaving ⟨subject.number, .client⟩ subject.request (.ok response) } :=
      ⟨_, .callActs here (.finishes staged) .finished,
        List.getElem?_set_self (List.getElem?_eq_some_iff.mp here).1⟩
    obtain ⟨after, next, leaves, returned⟩ := exists_return_of_leaving there rfl config settled
    exact ⟨after, next, .tail (.single finishes) leaves, returned⟩
  · obtain ⟨after, next, leaves, returned⟩ := exists_return_of_leaving here staged config settled
    exact ⟨after, next, .single leaves, returned⟩
  · exact ⟨world, call, .refl, here, staged⟩

/-- From everywhere a call whose request and reply are within the limits can return. -/
theorem exists_return {size : Nat} {before opened later : Traffic} {config : ClientConfig}
    {request : Request} {server : Server} {stream : StreamEnd}
    (reached : ReflTransGen Step (start size) before)
    (opens : before.Opens index config request server stream opened)
    (onward : ReflTransGen Step opened later)
    (within : Subject.Within
      ⟨config, request, server, stream.number, before.network.fragmentSize⟩ response) :
    ∃ after call, ReflTransGen Step later after ∧ after.calls[index]? = some call ∧
      call.stage = .returned (Client.unpack config.maxResponseSize response) := by
  obtain ⟨-, listener, follows⟩ := opens.follows (orderly_run reached)
  obtain ⟨middle, call, waits, here, past⟩ := (follows.run onward).exists_over within
  obtain ⟨after, next, ends, there, returned⟩ :=
    exists_return_of_answered here (past.answered response within) past.config within.settled
  exact ⟨after, next, waits.trans ends, there, returned⟩

/-- A call can open a stream, so that there are requests in traffic. -/
theorem exists_opens (size : Nat) (config : ClientConfig) (server : Server) (request : Request) :
    ∃ before after : Traffic, ReflTransGen Step (start size) before ∧
      before.Opens 0 config request server ⟨0, .client⟩ after := by
  let address : SocketAddress := ⟨.v4 (.ofNat 0), 80, 0⟩
  have listening := ReflTransGen.single (@Step.listen (start size) address _ _ server rfl)
  have joined := listening.tail (.join _ config)
  have linked := joined.tail (@Step.link _ 0 _ address none _ _ rfl rfl)
  have issued := linked.tail (@Step.issue _ 0 _ request rfl)
  have loaded := issued.tail (@Step.load _ 0 _ _ _ _ rfl rfl rfl rfl)
  exact ⟨_, _, loaded, @Opens.mk _ 0 config request server _ _ _ _ _ _ rfl rfl rfl rfl rfl rfl rfl⟩

/-- However many requests are under way, and in whatever order things happen: what arrives at a
call is the beginning of what its own server writes in answer to its own request; and if the
request and the reply are within the limits and the reply sends the client nowhere else, the
call can return with nothing but the unpacked reply, and it always can still return. -/
theorem request_in_traffic {size index : Nat} {before opened later : Traffic}
    {config : ClientConfig} {request : Request} {server : Server} {stream : StreamEnd}
    (reached : ReflTransGen Step (start size) before)
    (opens : before.Opens index config request server stream opened)
    (onward : ReflTransGen Step opened later) :
    (∀ (call : Call) (received : Bytes) (pipes : StreamPipes), later.calls[index]? = some call →
      call.stage.awaits? = some (stream, received) →
      later.network.streams[stream.number]? = some pipes →
      received ++ pipes.toClient.waiting.flatten <+:
        (server.serve none ((fragmentsOf before.network.fragmentSize request.encode).map
          .fragment)).written.flatten) ∧
    ∀ (response : Response), Addressable request.encode → 0 < request.host.utf8ByteSize →
      request.host.utf8ByteSize ≤ Request.maxHostSize →
      request.encode.length ≤ server.config.maxRequestSize →
      (server.reply request.encode).length ≤ config.maxResponseSize →
      Response.decode (server.reply request.encode) = .ok response →
      response.isRedirect = false →
      (∀ (call : Call) (result : Except ClientError Response), later.calls[index]? = some call →
        call.stage = .returned result →
        result = Client.unpack config.maxResponseSize response) ∧
      ∃ (after : Traffic) (call : Call), ReflTransGen Step later after ∧
        after.calls[index]? = some call ∧
        call.stage = .returned (Client.unpack config.maxResponseSize response) := by
  obtain ⟨named, listener, follows⟩ := opens.follows (orderly_run reached)
  have stands := (follows.run onward).stands
  constructor
  · intro call received pipes here waits there
    rw [named] at waits
    rcases stands with ⟨exchange, _, _, _, _, _, seen, underway⟩ | ⟨found, foundHere, past⟩
    · cases here.symm.trans seen.call
      cases there.symm.trans seen.pipes
      cases waits.symm.trans underway.waits.awaits?
      exact underway.received_prefix
    · cases here.symm.trans foundHere
      exact absurd waits (past.waitsNot received)
  · intro response addressable named short fits replyFits decoded settled
    have within : Subject.Within
        ⟨config, request, server, stream.number, before.network.fragmentSize⟩ response :=
      ⟨Request.exists_decode_encode addressable named short, fits, replyFits, decoded, settled⟩
    refine ⟨?_, exists_return reached opens onward within⟩
    intro call result here staged
    rcases stands with ⟨exchange, _, _, _, _, _, seen, underway⟩ | ⟨found, foundHere, past⟩
    · cases here.symm.trans seen.call
      have waits := underway.waits.awaits?
      rw [staged] at waits
      cases waits
    · cases here.symm.trans foundHere
      rcases past.answered response within with same | same | same <;>
        cases staged.symm.trans same
      rfl

/-- A request to a server without routes can return its answer, which is that nothing was found. -/
theorem request_in_traffic_sample : ∃ (before opened after : Traffic) (call : Call),
    ReflTransGen Step (start 3) before ∧
    before.Opens 0 {} (.plain .get "h" "/") {} ⟨0, .client⟩ opened ∧
    ReflTransGen Step opened after ∧ after.calls[0]? = some call ∧
    call.stage = .returned (Client.unpack (ClientConfig.maxResponseSize {}) Router.notFound) := by
  obtain ⟨before, opened, reached, opens⟩ := exists_opens 3 {} {} (.plain .get "h" "/")
  have addressable : Addressable (Request.plain .get "h" "/").encode := by
    unfold Addressable
    decide +kernel
  have short : (Request.plain .get "h" "/").encode.length ≤ ServerConfig.maxRequestSize {} := by
    decide +kernel
  have replyShort : (Server.reply {} (Request.plain .get "h" "/").encode).length ≤
      ClientConfig.maxResponseSize {} := by decide +kernel
  have decoded : Response.decode (Server.reply {} (Request.plain .get "h" "/").encode) =
      .ok Router.notFound := by decide +kernel
  obtain ⟨-, after, call, onward, here, returned⟩ :=
    (request_in_traffic reached opens .refl).2 Router.notFound addressable (by decide)
      (by decide) short replyShort decoded rfl
  exact ⟨before, opened, after, call, reached, opens, onward, here, returned⟩

end Traffic

end CompactHttp
