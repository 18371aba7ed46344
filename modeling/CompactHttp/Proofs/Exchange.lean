import CompactHttp.Proofs.Calls
import CompactHttp.Proofs.Deeds
import CompactHttp.Proofs.OneRequest
import CompactHttp.Proofs.Receiving
import CompactHttp.Proofs.RoundTrip

/-! # One exchange

An exchange is a call, the stream it waits on, and the service of that stream. Seen from it,
everything that happens elsewhere is nothing at all; what its own parties do is a step of the
exchange (`Exchange.Step`). As long as the call waits, nothing is lost, doubled or put out of
order between the two (`Exchange.Underway`), so what arrives at the call is the beginning of
what the server writes in answer to its request (`Exchange.Underway.received_prefix`), and
with a request and a reply within the limits the call ends with the reply
(`Exchange.Underway.step`).
-/

namespace CompactHttp

/-- A call, the pipes of a stream, and the service of that stream. -/
structure Exchange where
  call : Call
  pipes : StreamPipes
  service : Attendance

namespace Server.Phase.Step

variable {phase after : Server.Phase} {event : Server.Event}

/-- Nothing happens in a service that has ended. -/
theorem ne_ended (step : phase.Step event after) : phase ≠ .ended := by
  rintro rfl
  cases step

/-- What a service writes in a phase is what it has to write there. -/
theorem of_isWrite (step : phase.Step event after) (isWrite : event.isWrite = true)
    (succeeded : event.succeeded = true) (server : Server) :
    server.written [event] = [phase.output server] ∧ Server.taken [event] = [] ∧
      event ≠ .silence := by
  cases step with
  | answered buffer message => exact ⟨rfl, rfl, nofun⟩
  | parted data ok =>
    obtain rfl : ok = true := succeeded
    exact ⟨rfl, rfl, nofun⟩
  | unanswered buffer message => cases succeeded
  | fragment buffer data => cases isWrite
  | silence buffer => cases isWrite
  | closed => cases isWrite

end Server.Phase.Step

namespace Exchange

/-- One of the parties does something, at its end of stream `number` or by itself. -/
inductive Step (size number : Nat) : Exchange → Exchange → Prop where
  | callActs {exchange : Exchange} {deed : Deed} {call : Call} {pipes : StreamPipes} :
      exchange.call.Acts ⟨number, .client⟩ deed call →
      exchange.pipes.Does size .client deed pipes →
      Step size number exchange { exchange with call := call, pipes := pipes }
  | callProceeds {exchange : Exchange} {call : Call} :
      exchange.call.Proceeds call → Step size number exchange { exchange with call := call }
  | serviceActs {exchange : Exchange} {deed : Deed} {service : Attendance}
      {pipes : StreamPipes} :
      exchange.service.Acts size deed service → exchange.pipes.Does size .server deed pipes →
      Step size number exchange { exchange with service := service, pipes := pipes }
  | serviceProceeds {exchange : Exchange} {service : Attendance} :
      exchange.service.Proceeds size service →
      Step size number exchange { exchange with service := service }

/-- What an exchange is about: the settings of the client, the request, the server that is
asked, and the stream. -/
structure Subject where
  config : ClientConfig
  request : Request
  server : Server
  number : Nat
  /-- The size of fragments. -/
  size : Nat

/-- How far the call has come: what it has not sent yet, and what it has received. -/
inductive Waits (subject : Subject) (call : Call) : (unsent : List Bytes) → (received : Bytes) →
    Prop where
  | sending {unsent : List Bytes} :
      call.stage = .sending ⟨subject.number, .client⟩ subject.request unsent →
      Waits subject call unsent []
  | receiving {received : Bytes} :
      call.stage = .receiving ⟨subject.number, .client⟩ subject.request
        ⟨.response, subject.config.maxResponseSize, received⟩ →
      MessageKind.response.length? received = .ok none → Waits subject call [] received

namespace Waits

variable {subject : Subject} {call : Call} {unsent : List Bytes} {received : Bytes}

/-- A call that waits is on the stream of its request, with what it has received. -/
theorem awaits? (waits : Waits subject call unsent received) :
    call.stage.awaits? = some (⟨subject.number, .client⟩, received) := by
  obtain staged | ⟨staged, -⟩ := waits <;> rw [staged] <;> rfl

/-- A call that waits while it sends has its own request to send. -/
theorem of_sending {stream : StreamEnd} {request : Request} {left : List Bytes}
    (waits : Waits subject call unsent received)
    (staged : call.stage = .sending stream request left) :
    stream = ⟨subject.number, .client⟩ ∧ request = subject.request ∧ left = unsent ∧
      received = [] := by
  obtain same | ⟨same, -⟩ := waits <;> cases staged.symm.trans same
  exact ⟨rfl, rfl, rfl, rfl⟩

/-- A call that waits while it receives has sent its request. -/
theorem of_receiving {stream : StreamEnd} {request : Request} {buffer : Reassembly}
    (waits : Waits subject call unsent received)
    (staged : call.stage = .receiving stream request buffer) :
    stream = ⟨subject.number, .client⟩ ∧ request = subject.request ∧
      buffer = ⟨.response, subject.config.maxResponseSize, received⟩ ∧ unsent = [] := by
  obtain same | ⟨same, -⟩ := waits <;> cases staged.symm.trans same
  exact ⟨rfl, rfl, rfl, rfl⟩

end Waits

/-- An exchange whose call waits. Of the fragments of its request those in `events` have been
taken in, those in `pending` are on their way, and those in `unsent` have not been sent. Of
what the service has to write now, `said` has been written. -/
structure Underway (subject : Subject) (exchange : Exchange) (events : List Server.Event)
    (pending unsent : List Bytes) (received said : Bytes) : Prop where
  config : exchange.call.config = subject.config
  waits : Waits subject exchange.call unsent received
  server : exchange.service.server = subject.server
  steps : Trace Server.Phase.Step (.idle subject.server.config.maxRequestSize) events
    exchange.service.phase
  succeeded : ∀ event ∈ events, event.succeeded = true
  going : .silence ∉ events
  sent : Server.taken events ++ pending ++ unsent =
    fragmentsOf subject.size subject.request.encode
  isWritable : exchange.pipes.toServer.isWritable = true
  hasReader : exchange.pipes.toClient.hasReader = true
  inTransit : exchange.pipes.toServer.hasReader = true →
    exchange.pipes.toServer.waiting = pending
  attended : exchange.service.phase ≠ .ended →
    exchange.pipes.toServer.hasReader = true ∧ exchange.pipes.toClient.isWritable = true
  writing : said ++ exchange.service.unsent.flatten = exchange.service.phase.output subject.server
  arrived : received ++ exchange.pipes.toClient.waiting.flatten =
    (subject.server.written events).flatten ++ said

/-- The request can be read, it and its reply are within the limits, and the reply is a
response that sends the client nowhere else. -/
structure Subject.Within (subject : Subject) (response : Response) : Prop where
  readable : ∃ read, Request.decode subject.request.encode = .ok read
  short : subject.request.encode.length ≤ subject.server.config.maxRequestSize
  replyShort : (subject.server.reply subject.request.encode).length ≤
    subject.config.maxResponseSize
  decoded : Response.decode (subject.server.reply subject.request.encode) = .ok response
  settled : response.isRedirect = false

/-- A call that has got a response and does no more than to return with it. -/
inductive Answered (subject : Subject) (response : Response) (call : Call) : Prop where
  | closing : call.stage = .closing ⟨subject.number, .client⟩ subject.request (.ok response) →
      Answered subject response call
  | leaving : call.stage = .leaving ⟨subject.number, .client⟩ subject.request (.ok response) →
      Answered subject response call
  | returned : call.stage = .returned (Client.unpack subject.config.maxResponseSize response) →
      Answered subject response call

/-- A call that waits on the stream no more. If all is within the limits, it has been
answered. -/
structure Over (subject : Subject) (call : Call) : Prop where
  config : call.config = subject.config
  waitsNot : ∀ received, call.stage.awaits? ≠ some (⟨subject.number, .client⟩, received)
  answered : ∀ response, subject.Within response → Answered subject response call

namespace Underway

variable {subject : Subject} {exchange after : Exchange} {events : List Server.Event}
  {pending unsent : List Bytes} {received said : Bytes}

/-- What has arrived is the beginning of what the service has to say. -/
theorem arrived_prefix
    (underway : Underway subject exchange events pending unsent received said) :
    received ++ exchange.pipes.toClient.waiting.flatten <+:
      (subject.server.written events).flatten ++
        exchange.service.phase.output subject.server := by
  rw [underway.arrived, ← underway.writing]
  exact List.prefix_append_right_inj _ |>.mpr (List.prefix_append ..)

/-- What arrives at a call is the beginning of what the server writes in answer to its
request. -/
theorem received_prefix
    (underway : Underway subject exchange events pending unsent received said) :
    received ++ exchange.pipes.toClient.waiting.flatten <+:
      (subject.server.serve none ((fragmentsOf subject.size subject.request.encode).map
        .fragment)).written.flatten := by
  have whole : (subject.server.written events).flatten ++
        exchange.service.phase.output subject.server <+:
      (subject.server.serve none ((Server.taken events ++ (pending ++ unsent)).map
        .fragment)).written.flatten :=
    Server.Phase.written_prefix_serve underway.steps underway.succeeded underway.going
  rw [← List.append_assoc, underway.sent] at whole
  exact underway.arrived_prefix.trans whole

/-- With a request and a reply within the limits the service does nothing but answer it. -/
theorem forOne {response : Response}
    (underway : Underway subject exchange events pending unsent received said)
    (within : subject.Within response) :
    exchange.service.phase.ForOne subject.request.encode events := by
  obtain ⟨read, readable⟩ := within.readable
  have comes : (Server.taken events).flatten ++ (pending ++ unsent).flatten =
      subject.request.encode := by
    rw [← List.flatten_append, ← List.append_assoc, underway.sent, flatten_fragmentsOf]
  have stands := Server.Phase.stands_of_trace underway.steps underway.succeeded
  exact stands.forOne underway.going comes (Request.length?_encode readable) within.short

/-- While the answer is one that the client takes, both pipes stay open. -/
theorem isOpen {response : Response}
    (underway : Underway subject exchange events pending unsent received said)
    (within : subject.Within response) :
    exchange.pipes.toServer.hasReader = true ∧ exchange.pipes.toClient.isWritable = true :=
  underway.attended (underway.forOne within).ne_ended

/-- With a request and a reply within the limits what arrives at the call is the beginning of
the reply. -/
theorem received_prefix_reply {response : Response}
    (underway : Underway subject exchange events pending unsent received said)
    (within : subject.Within response) :
    received ++ exchange.pipes.toClient.waiting.flatten <+:
      subject.server.reply subject.request.encode :=
  underway.arrived_prefix.trans ((underway.forOne within).written_prefix_reply subject.server)

/-- A fragment of a reply within the limits is one of the response, or its last. -/
theorem receive {response : Response} {stream : StreamEnd} {request : Request}
    {buffer : Reassembly} {data : Bytes} {pipe : Pipe}
    (underway : Underway subject exchange events pending unsent received said)
    (within : subject.Within response)
    (staged : exchange.call.stage = .receiving stream request buffer)
    (taken : exchange.pipes.toClient.read = (.fragment data, pipe)) :
    Client.takeFragment buffer data = .ok (.inl response) ∨
      ∃ more, Client.takeFragment buffer data = .ok (.inr more) := by
  obtain ⟨rfl, rfl, rfl, rfl⟩ := underway.waits.of_receiving staged
  obtain ⟨rest, waiting, -⟩ := Pipe.read_eq_fragment taken
  have begins := underway.received_prefix_reply within
  rw [waiting, List.flatten_cons, ← List.append_assoc] at begins
  exact Client.takeFragment_of_prefix ((List.prefix_append ..).trans begins) within.replyShort
    (Response.length?_encode within.decoded) within.decoded

/-- The next fragment of the request goes on its way. -/
theorem send {stream : StreamEnd} {request : Request} {fragment : Bytes} {left : List Bytes}
    {pipe : Pipe} (underway : Underway subject exchange events pending unsent received said)
    (staged : exchange.call.stage = .sending stream request (fragment :: left))
    (written : exchange.pipes.toServer.write subject.size fragment = (.ok (), pipe)) :
    Underway subject { exchange with
        call := { exchange.call with stage := .sending stream request left }
        pipes := { exchange.pipes with toServer := pipe } }
      events (pending ++ [fragment]) left received said := by
  obtain ⟨rfl, rfl, rfl, rfl⟩ := underway.waits.of_sending staged
  -- A fragment of the request goes out in one piece.
  have member : fragment ∈ fragmentsOf subject.size subject.request.encode := by
    rw [← underway.sent]
    simp
  have single := fragmentsOf_of_mem member
  have sent : Server.taken events ++ (pending ++ [fragment]) ++ left =
      fragmentsOf subject.size subject.request.encode := by
    rw [← underway.sent]
    simp only [List.append_assoc, List.singleton_append]
  obtain ⟨writable, ⟨rfl, -⟩ | ⟨reader, rfl⟩⟩ := Pipe.write_eq_ok written
  · rw [fragmentsOf_nil] at single
    cases single
  · exact {
      config := underway.config
      waits := .sending rfl
      server := underway.server
      steps := underway.steps
      succeeded := underway.succeeded
      going := underway.going
      sent := sent
      isWritable := writable
      hasReader := underway.hasReader
      inTransit := fun _ => by
        rw [underway.inTransit reader, single]
      attended := underway.attended
      writing := underway.writing
      arrived := underway.arrived }

/-- A fragment of the answer joins what has been received. -/
theorem receiveMore {stream : StreamEnd} {request : Request} {buffer more : Reassembly}
    {data : Bytes} {pipe : Pipe}
    (underway : Underway subject exchange events pending unsent received said)
    (staged : exchange.call.stage = .receiving stream request buffer)
    (taken : exchange.pipes.toClient.read = (.fragment data, pipe))
    (goesOn : Client.takeFragment buffer data = .ok (.inr more)) :
    Underway subject { exchange with
        call := { exchange.call with stage := .receiving stream request more }
        pipes := { exchange.pipes with toClient := pipe } }
      events pending unsent (received ++ data) said := by
  obtain ⟨rfl, rfl, rfl, rfl⟩ := underway.waits.of_receiving staged
  obtain ⟨rfl, waits⟩ := Client.takeFragment_eq_more goesOn
  obtain ⟨rest, waiting, rfl⟩ := Pipe.read_eq_fragment taken
  have arrived := underway.arrived
  rw [waiting, List.flatten_cons, ← List.append_assoc] at arrived
  exact {
    config := underway.config
    waits := .receiving rfl waits
    server := underway.server
    steps := underway.steps
    succeeded := underway.succeeded
    going := underway.going
    sent := underway.sent
    isWritable := underway.isWritable
    hasReader := underway.hasReader
    inTransit := underway.inTransit
    attended := underway.attended
    writing := underway.writing
    arrived := arrived }

/-- Whatever the call does on its stream, it waits on or is over. -/
theorem callActs {deed : Deed} {call : Call} {pipes : StreamPipes}
    (underway : Underway subject exchange events pending unsent received said)
    (acts : exchange.call.Acts ⟨subject.number, .client⟩ deed call)
    (does : exchange.pipes.Does subject.size .client deed pipes) :
    (∃ pending unsent received, Underway subject { exchange with call := call, pipes := pipes }
      events pending unsent received said) ∨ Over subject call := by
  cases acts with
  | sends staged =>
    cases does with
    | wrote written => exact .inl ⟨_, _, _, underway.send staged written⟩
  | fails staged =>
    -- The call gives up, but within the limits nothing can have made the write fail.
    refine .inr ⟨underway.config, nofun, fun response within => ?_⟩
    obtain ⟨reader, -⟩ := underway.isOpen within
    cases does with
    | failed failed =>
      rcases Pipe.write_eq_error failed with writable | unread
      · cases underway.isWritable.symm.trans writable
      · cases reader.symm.trans unread
  | @receives request buffer data staged =>
    cases does with
    | read taken =>
      match outcome : Client.takeFragment buffer data with
      | .ok (.inr more) =>
        exact .inl ⟨_, _, _, underway.receiveMore staged taken outcome⟩
      | .ok (.inl found) =>
        refine .inr ⟨underway.config, nofun, fun response within => ?_⟩
        obtain ⟨-, rfl, -, -⟩ := underway.waits.of_receiving staged
        rcases underway.receive within staged taken with whole | ⟨more, waits⟩
        · cases outcome.symm.trans whole
          exact .closing rfl
        · cases outcome.symm.trans waits
      | .error error =>
        refine .inr ⟨underway.config, nofun, fun response within => ?_⟩
        rcases underway.receive within staged taken with whole | ⟨more, waits⟩
        · cases outcome.symm.trans whole
        · cases outcome.symm.trans waits
  | ends staged =>
    refine .inr ⟨underway.config, nofun, fun response within => ?_⟩
    -- Within the limits the service does not finish before the call does.
    obtain ⟨-, writable⟩ := underway.isOpen within
    cases does with
    | sawEnd ended =>
      obtain ⟨-, finished, -⟩ := Pipe.read_eq_finished ended
      cases writable.symm.trans finished
  | finishes staged =>
    have waits := underway.waits.awaits?
    rw [staged] at waits
    cases waits
  | leaves staged =>
    have waits := underway.waits.awaits?
    rw [staged] at waits
    cases waits

/-- Whatever the call does by itself, it waits on. -/
theorem callProceeds {call : Call}
    (underway : Underway subject exchange events pending unsent received said)
    (proceeds : exchange.call.Proceeds call) :
    ∃ unsent received, Underway subject { exchange with call := call } events pending unsent
      received said := by
  cases proceeds with
  | sent staged =>
    obtain ⟨rfl, rfl, rfl, rfl⟩ := underway.waits.of_sending staged
    refine ⟨[], [], { underway with waits := ?_ }⟩
    refine .receiving ?_ (MessageKind.length?_nil _)
    rw [← underway.config]
    rfl
  | moved staged =>
    have waits := underway.waits.awaits?
    rw [staged] at waits
    cases waits
  | lost error staged =>
    have waits := underway.waits.awaits?
    rw [staged] at waits
    cases waits

/-- The service goes on to a phase with nothing of what it has to write there written. -/
theorem enter {event : Server.Event} {phase : Server.Phase} {pending' : List Bytes}
    {pipes : StreamPipes}
    (underway : Underway subject exchange events pending unsent received said)
    (step : exchange.service.phase.Step event phase) (succeeded : event.succeeded = true)
    (audible : event ≠ .silence)
    (sent : Server.taken (events ++ [event]) ++ pending' ++ unsent =
      Server.taken events ++ pending ++ unsent)
    (writable : pipes.toServer.isWritable = true) (reader : pipes.toClient.hasReader = true)
    (inTransit : pipes.toServer.hasReader = true → pipes.toServer.waiting = pending')
    (attended : phase ≠ .ended →
      pipes.toServer.hasReader = true ∧ pipes.toClient.isWritable = true)
    (arrived : received ++ pipes.toClient.waiting.flatten =
      (subject.server.written (events ++ [event])).flatten) :
    Underway subject { exchange with
        service := exchange.service.enter subject.size phase
        pipes := pipes }
      (events ++ [event]) pending' unsent received [] where
  config := underway.config
  waits := underway.waits
  server := underway.server
  steps := underway.steps.snoc step
  succeeded := List.forall_mem_append.mpr
    ⟨underway.succeeded, List.forall_mem_singleton.mpr succeeded⟩
  going := by
    simp only [List.mem_append, List.mem_singleton, not_or]
    exact ⟨underway.going, audible.symm⟩
  sent := sent.trans underway.sent
  isWritable := writable
  hasReader := reader
  inTransit := inTransit
  attended := attended
  writing := by
    rw [← underway.server]
    exact flatten_fragmentsOf ..
  arrived := arrived.trans (List.append_nil _).symm

/-- The next fragment of the answer goes on its way. -/
theorem sendReply {fragment : Bytes} {left : List Bytes} {pipe : Pipe}
    (underway : Underway subject exchange events pending unsent received said)
    (next : exchange.service.unsent = fragment :: left)
    (written : exchange.pipes.toClient.write subject.size fragment = (.ok (), pipe)) :
    Underway subject { exchange with
        service := { exchange.service with unsent := left }
        pipes := { exchange.pipes with toClient := pipe } }
      events pending unsent received (said ++ fragment) := by
  obtain ⟨behind, writable, reader⟩ := Pipe.flatten_write written
  refine { underway with hasReader := ?_, attended := ?_, writing := ?_, arrived := ?_ }
  · exact reader.trans underway.hasReader
  · intro goesOn
    obtain ⟨read, open_⟩ := underway.attended goesOn
    exact ⟨read, writable.trans open_⟩
  · rw [← underway.writing, next, List.flatten_cons, List.append_assoc]
  · rw [behind, ← List.append_assoc, underway.arrived, List.append_assoc]

/-- Where nothing is to be said nothing has been said. -/
theorem said_eq_nil (underway : Underway subject exchange events pending unsent received said)
    (silent : exchange.service.phase.output subject.server = []) : said = [] := by
  have writing := underway.writing
  rw [silent] at writing
  exact (List.append_eq_nil_iff.mp writing).1

/-- A fragment of the request that has arrived is taken in. -/
theorem take {data : Bytes} {phase : Server.Phase} {pipe : Pipe}
    (underway : Underway subject exchange events pending unsent received said)
    (step : exchange.service.phase.Step (.fragment data) phase)
    (taken : exchange.pipes.toServer.read = (.fragment data, pipe)) :
    ∃ rest, Underway subject { exchange with
        service := exchange.service.enter subject.size phase
        pipes := { exchange.pipes with toServer := pipe } }
      (events ++ [.fragment data]) rest unsent received [] := by
  obtain ⟨rest, waiting, rfl⟩ := Pipe.read_eq_fragment taken
  have silent : exchange.service.phase.output subject.server = [] := by
    generalize exchange.service.phase = before at step
    cases step
    rfl
  obtain ⟨reader, writable⟩ := underway.attended step.ne_ended
  have arrived := underway.arrived
  rw [underway.said_eq_nil silent, List.append_nil] at arrived
  refine ⟨rest, underway.enter step rfl nofun ?_ underway.isWritable underway.hasReader
    (fun _ => rfl) (fun _ => ⟨reader, writable⟩) ?_⟩
  · rw [← underway.inTransit reader, waiting, Server.taken_append, List.append_assoc _ _ rest]
    rfl
  · rw [Server.written_append]
    exact arrived.trans (congrArg List.flatten (List.append_nil _).symm)

/-- Whatever the service does on the stream, the call still waits. -/
theorem serviceActs {deed : Deed} {service : Attendance} {pipes : StreamPipes}
    (underway : Underway subject exchange events pending unsent received said)
    (acts : exchange.service.Acts subject.size deed service)
    (does : exchange.pipes.Does subject.size .server deed pipes) :
    ∃ events pending said, Underway subject { exchange with service := service, pipes := pipes }
      events pending unsent received said := by
  cases acts with
  | takes step =>
    cases does with
    | read taken =>
      obtain ⟨rest, onward⟩ := underway.take step taken
      exact ⟨_, _, _, onward⟩
  | ends step =>
    cases does with
    | sawEnd ended =>
      obtain ⟨-, finished, -⟩ := Pipe.read_eq_finished ended
      cases underway.isWritable.symm.trans finished
  | sends next =>
    cases does with
    | wrote written => exact ⟨_, _, _, underway.sendReply next written⟩
  | fails next isWrite unsuccessful step =>
    obtain ⟨-, writable⟩ := underway.attended step.ne_ended
    cases does with
    | failed failed =>
      rcases Pipe.write_eq_error failed with unwritable | unread
      · cases writable.symm.trans unwritable
      · cases underway.hasReader.symm.trans unread
  | finishes step =>
    cases does with
    | finished =>
      have silent : exchange.service.phase.output subject.server = [] := by
        generalize exchange.service.phase = before at step
        cases step
        rfl
      have arrived := underway.arrived
      rw [underway.said_eq_nil silent, List.append_nil] at arrived
      refine ⟨_, _, _, underway.enter step rfl nofun ?_ underway.isWritable underway.hasReader
        underway.inTransit ?_ ?_⟩
      · rw [Server.taken_append]
        exact congrArg (· ++ _ ++ _) (List.append_nil _)
      · intro goesOn
        generalize exchange.service.phase = before at step
        cases step
        exact absurd rfl goesOn
      · rw [Server.written_append]
        exact arrived.trans (congrArg List.flatten (List.append_nil _).symm)
  | leaves past =>
    cases does with
    | left =>
      exact ⟨_, _, _, { underway with
        isWritable := underway.isWritable
        hasReader := underway.hasReader
        inTransit := nofun
        attended := fun goesOn => absurd past goesOn
        arrived := underway.arrived }⟩

/-- When all of a text has been written the service moves on. -/
theorem allWritten {event : Server.Event} {phase : Server.Phase}
    (underway : Underway subject exchange events pending unsent received said)
    (nothing : exchange.service.unsent = []) (isWrite : event.isWrite = true)
    (succeeded : event.succeeded = true) (step : exchange.service.phase.Step event phase) :
    Underway subject { exchange with service := exchange.service.enter subject.size phase }
      (events ++ [event]) pending unsent received [] := by
  obtain ⟨written, untaken, audible⟩ := step.of_isWrite isWrite succeeded subject.server
  have writing := underway.writing
  rw [nothing, List.flatten_nil, List.append_nil] at writing
  refine underway.enter step succeeded audible ?_ underway.isWritable underway.hasReader
    underway.inTransit (fun _ => underway.attended step.ne_ended) ?_
  · rw [Server.taken_append, untaken, List.append_nil]
  · rw [Server.written_append, written, List.flatten_append, List.flatten_singleton, ← writing]
    exact underway.arrived

/-- Whatever the service does by itself, the call still waits. -/
theorem serviceProceeds {service : Attendance}
    (underway : Underway subject exchange events pending unsent received said)
    (proceeds : exchange.service.Proceeds subject.size service) :
    ∃ events said, Underway subject { exchange with service := service } events pending unsent
      received said := by
  cases proceeds with
  | sent nothing isWrite succeeded step =>
    exact ⟨_, _, underway.allWritten nothing isWrite succeeded step⟩

/-- As long as the call waits the exchange is underway, and then it is over. -/
theorem step (underway : Underway subject exchange events pending unsent received said)
    (step : Step subject.size subject.number exchange after) :
    (∃ events pending unsent received said,
      Underway subject after events pending unsent received said) ∨ Over subject after.call := by
  cases step with
  | callActs acts does =>
    rcases underway.callActs acts does with ⟨pending, unsent, received, onward⟩ | past
    · exact .inl ⟨_, _, _, _, _, onward⟩
    · exact .inr past
  | callProceeds proceeds =>
    obtain ⟨unsent, received, onward⟩ := underway.callProceeds proceeds
    exact .inl ⟨_, _, _, _, _, onward⟩
  | serviceActs acts does =>
    obtain ⟨events, pending, said, onward⟩ := underway.serviceActs acts does
    exact .inl ⟨_, _, _, _, _, onward⟩
  | serviceProceeds proceeds =>
    obtain ⟨events, said, onward⟩ := underway.serviceProceeds proceeds
    exact .inl ⟨_, _, _, _, _, onward⟩

end Underway

section Over

variable {subject : Subject} {call after : Call} {stream : StreamEnd} {deed : Deed}

/-- A call that has been answered stays so while it acts. -/
theorem Answered.acts {response : Response} (answered : Answered subject response call)
    (config : call.config = subject.config) (settled : response.isRedirect = false)
    (acts : call.Acts stream deed after) : Answered subject response after := by
  obtain same | same | same := answered
  · cases acts with
    | finishes staged =>
      cases same.symm.trans staged
      exact .leaving rfl
    | sends staged | fails staged | receives staged | ends staged | leaves staged =>
      cases same.symm.trans staged
  · cases acts with
    | leaves staged =>
      cases same.symm.trans staged
      refine .returned ?_
      rw [Call.goOn, settled, ← config]
      rfl
    | sends staged | fails staged | receives staged | ends staged | finishes staged =>
      cases same.symm.trans staged
  · cases acts with
    | sends staged | fails staged | receives staged | ends staged | finishes staged
    | leaves staged => cases same.symm.trans staged

/-- A call that has been answered has nothing left to do by itself. -/
theorem Answered.not_proceeds {response : Response} (answered : Answered subject response call)
    (proceeds : call.Proceeds after) : False := by
  obtain same | same | same := answered <;> cases proceeds with
  | sent staged | moved staged | lost error staged => cases same.symm.trans staged

/-- Once the call waits on the stream no more, it never does again, and if it has been answered
it stays so. -/
theorem Over.acts (past : Over subject call) (acts : call.Acts stream deed after) :
    Over subject after := by
  refine ⟨acts.config.trans past.config, ?_, fun response within =>
    (past.answered response within).acts past.config within.settled acts⟩
  intro received waits
  obtain ⟨before, waited⟩ := acts.awaits? waits
  exact past.waitsNot before waited

/-- A call that is over stays so. -/
theorem Over.proceeds (past : Over subject call) (proceeds : call.Proceeds after) :
    Over subject after := by
  refine ⟨proceeds.config.trans past.config, ?_, fun response within =>
    ((past.answered response within).not_proceeds proceeds).elim⟩
  intro received waits
  obtain ⟨before, waited⟩ := proceeds.awaits? waits
  exact past.waitsNot before waited

end Over

end Exchange

end CompactHttp
