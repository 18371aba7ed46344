import CompactHttp.Proofs.ServiceLog
import CompactHttp.Traffic

/-! # What is written so far

While a stream goes on, what its service has written and what it has to write now is the
beginning of what it writes by a script of all the fragments that come
(`Server.Phase.written_prefix_serve`). If these are one whole request that is not too long,
it is the beginning of the reply to that request, and the service goes on
(`Server.Phase.Stands.forOne`).
-/

namespace CompactHttp

/-- In front of the bytes of one message there is no message, or it is this one. -/
theorem BeginsWith.of_one {kind : MessageKind} {front behind more whole : Bytes}
    {messages : List Bytes} (begins : BeginsWith kind front messages behind)
    (joined : front ++ more = whole) (known : kind.length? whole = .ok (some whole.length)) :
    messages = [] ∨ messages = [whole] := by
  cases messages with
  | nil => exact .inl rfl
  | cons first rest =>
    right
    obtain ⟨firstWhole, others⟩ := List.forall_mem_cons.mp begins.whole
    have parted : first ++ (rest.flatten ++ behind ++ more) = whole := by
      rw [← joined, ← begins.joined, List.flatten_cons, List.append_assoc, List.append_assoc,
        List.append_assoc]
    have sized := MessageKind.length?_append firstWhole (rest.flatten ++ behind ++ more)
    rw [parted, known] at sized
    have long : whole.length = first.length := by injection sized with sized; injection sized
    have nothing : rest.flatten ++ behind ++ more = [] := by
      have := congrArg List.length parted
      rw [List.length_append] at this
      exact List.length_eq_zero_iff.mp (by omega)
    rw [nothing, List.append_nil] at parted
    obtain ⟨flat, -⟩ := List.append_eq_nil_iff.mp (List.append_eq_nil_iff.mp nothing).1
    cases rest with
    | nil => rw [parted]
    | cons second rest =>
      -- A message takes at least one byte, so there is no second one.
      have secondWhole := others second List.mem_cons_self
      obtain ⟨rfl, -⟩ := List.append_eq_nil_iff.mp flat
      exact absurd (MessageKind.length?_bounds secondWhole).1 (Nat.lt_irrefl 0)

namespace Server

variable {server : Server} {limit : Nat} {events : List Event} {phase : Phase}
  {request more : Bytes}

/-- With nothing but one request on a stream nothing calls for a last word. -/
theorem Phase.Stands.not_parting {data : Bytes} (stands : Stands limit events (.parting data))
    (comes : (taken events).flatten ++ more = request)
    (known : MessageKind.request.length? request = .ok (some request.length))
    (short : request.length ≤ limit) : False := by
  cases stands with
  | refusing ongoing accepted split failed =>
    have whole := split.append_of_error failed more
    have alone : SplitsInto .request request [request] [] := by
      have one := splitsInto_flatten (List.forall_mem_singleton.mpr known)
      rwa [List.flatten_singleton] at one
    rw [comes] at whole
    obtain ⟨-, nothing⟩ := whole.unique alone
    obtain ⟨rfl, -⟩ := List.append_eq_nil_iff.mp nothing
    cases failed
  | overflowing ongoing takes accepted split waiting passes =>
    have sized := congrArg List.length comes
    rw [takes, List.flatten_append, ← split.joined, List.flatten_singleton] at sized
    simp only [List.length_append] at sized
    omega

/-- How a service goes on when there is nothing but one request on its stream. -/
inductive Phase.ForOne (request : Bytes) (events : List Event) : Phase → Prop where
  | awaiting {buffer : Reassembly} : Ongoing events →
      SplitsInto .request (taken events).flatten [] buffer.held → handled events = [] →
      ForOne request events (.reading buffer)
  | answering {buffer : Reassembly} : Ongoing events → handled events = [] →
      ForOne request events (.answering buffer request)
  | answered {buffer : Reassembly} : Ongoing events → handled events = [request] →
      ForOne request events (.reading buffer)

/-- With nothing but one request on a stream its service answers this, and goes on. -/
theorem Phase.Stands.forOne (stands : Stands limit events phase) (going : .silence ∉ events)
    (comes : (taken events).flatten ++ more = request)
    (known : MessageKind.request.length? request = .ok (some request.length))
    (short : request.length ≤ limit) : phase.ForOne request events := by
  have unparted {earlier later : List Event} {data : Bytes} (apart : events = earlier ++ later)
      (nothing : taken later = []) (before : Stands limit earlier (.parting data)) : False := by
    rw [apart, taken_append, nothing, List.append_nil] at comes
    exact before.not_parting comes known short
  cases stands with
  | reading ongoing accepted split waiting =>
    rcases split.of_one comes known with none | one
    · exact .awaiting ongoing (none ▸ split) none
    · exact .answered ongoing one
  | answering ongoing accepted front =>
    rcases front.of_one comes known with none | one
    · cases (List.append_eq_nil_iff.mp none).2
    · rw [← List.nil_append [request]] at one
      obtain ⟨earlier, last⟩ := List.append_inj' one rfl
      cases last
      exact .answering ongoing earlier
  | refusing ongoing accepted split failed =>
    exact (unparted (List.append_nil _).symm rfl (.refusing ongoing accepted split failed)).elim
  | overflowing ongoing takes accepted split waiting passes =>
    exact (unparted (List.append_nil _).symm rfl
      (.overflowing ongoing takes accepted split waiting passes)).elim
  | silenced reading => exact absurd (List.mem_append_right _ (List.mem_singleton_self _)) going
  | parted parting => exact (unparted rfl rfl parting).elim
  | closed closing =>
    cases closing with
    | silenced reading => exact absurd (by simp) going
    | parted parting => exact (unparted (List.append_assoc ..) rfl parting).elim

namespace Phase.ForOne

/-- With one request on its stream a service reads, or answers that request. -/
theorem reading_or_answering (one : phase.ForOne request events) :
    (∃ buffer, phase = .reading buffer) ∨ ∃ buffer, phase = .answering buffer request := by
  cases one with
  | awaiting | answered => exact .inl ⟨_, rfl⟩
  | answering => exact .inr ⟨_, rfl⟩

/-- With one request on its stream a service does not end by itself. -/
theorem ne_ended (one : phase.ForOne request events) : phase ≠ .ended := by
  rintro rfl
  cases one

/-- What is written, and what has to be written now, is how the reply begins. -/
theorem written_prefix_reply (one : phase.ForOne request events) (server : Server) :
    (server.written events).flatten ++ phase.output server <+: server.reply request := by
  cases one with
  | awaiting ongoing split unanswered =>
    rw [ongoing.written, unanswered]
    exact List.nil_prefix
  | answering ongoing unanswered =>
    rw [ongoing.written, unanswered]
    exact List.prefix_refl _
  | answered ongoing once =>
    change (server.written events).flatten ++ [] <+: _
    rw [List.append_nil, ongoing.written, once, List.map_singleton, List.flatten_singleton]

/-- When a message has been answered, there is no other to answer. -/
theorem of_answer {message : Bytes} (one : phase.ForOne request (events ++ [.answer message true])) :
    ∃ buffer, phase = .reading buffer := by
  cases one with
  | awaiting | answered => exact ⟨_, rfl⟩
  | answering ongoing unanswered =>
    rw [handled_append] at unanswered
    cases (List.append_eq_nil_iff.mp unanswered).2

/-- A service that waits although all of the request has been taken in has written the reply. -/
theorem written_eq_reply (one : phase.ForOne request events)
    (complete : (taken events).flatten = request)
    (known : MessageKind.request.length? request = .ok (some request.length)) {buffer : Reassembly}
    (waits : phase = .reading buffer) (server : Server) :
    (server.written events).flatten = server.reply request := by
  cases one with
  | awaiting ongoing split unanswered =>
    have whole : SplitsInto .request [request].flatten [request] [] :=
      splitsInto_flatten (List.forall_mem_singleton.mpr known)
    rw [List.flatten_singleton, ← complete] at whole
    cases (split.unique whole).1
  | answering ongoing unanswered => cases waits
  | answered ongoing once =>
    rw [ongoing.written, once, List.map_singleton, List.flatten_singleton]

end Phase.ForOne

namespace Script

/-- Fragments that are taken in while a stream goes on are those of any script that begins with
them. -/
theorem trace_of_taken {rest : List Bytes} (succeeded : ∀ event ∈ events, event.succeeded = true)
    (going : .silence ∉ events) :
    Trace Gives ⟨(taken events ++ rest).map .fragment, none⟩ events ⟨rest.map .fragment, none⟩ := by
  induction events with
  | nil => exact .nil _
  | cons event events ih =>
    obtain ⟨first, others⟩ := List.forall_mem_cons.mp succeeded
    obtain ⟨next, later⟩ := not_or.mp (List.mem_cons.not.mp going)
    have onward := ih others later
    cases event with
    | fragment data => exact .cons (.fragment data _ none) onward
    | silence => exact absurd rfl next
    | answer message ok =>
      obtain rfl : ok = true := first
      exact .cons (.answer ⟨_, none⟩ message) onward
    | farewell data ok =>
      obtain rfl : ok = true := first
      exact .cons (.farewell ⟨_, none⟩ data) onward
    | close => exact .cons (.close _) onward

end Script

/-- What a service has to write is what it writes next. -/
theorem Phase.output_prefix_log (phase : Phase) (arrivals : List Arrival) :
    phase.output server <+: (server.written (phase.log ⟨arrivals, none⟩).1).flatten := by
  cases phase with
  | reading buffer => exact List.nil_prefix
  | closing => exact List.nil_prefix
  | ended => exact List.nil_prefix
  | answering buffer message =>
    have step := step_answering buffer message ⟨arrivals, none⟩
    rw [log_of_step step]
    exact List.prefix_append ..
  | parting farewell =>
    have step : (parting farewell).step ⟨arrivals, none⟩ =
        some (.farewell farewell true, closing, ⟨arrivals, none⟩) := rfl
    rw [log_of_step step]
    exact List.prefix_append ..

/-- What is written, and what has to be written now, is how all that is written by a script
begins. -/
theorem Phase.written_prefix_serve {rest : List Bytes}
    (steps : Trace Step (.idle server.config.maxRequestSize) events phase)
    (succeeded : ∀ event ∈ events, event.succeeded = true) (going : .silence ∉ events) :
    (server.written events).flatten ++ phase.output server <+:
      (server.serve none ((taken events ++ rest).map .fragment)).written.flatten := by
  have given : Trace Script.Gives ⟨(taken events ++ rest).map .fragment, none⟩ events
      ⟨rest.map .fragment, none⟩ := Script.trace_of_taken succeeded going
  have begun := log_of_trace steps given
  have seen : (server.serve none ((taken events ++ rest).map .fragment)).written =
      server.written (events ++ (phase.log ⟨rest.map .fragment, none⟩).1) := by
    rw [serve_eq_log, ← begun]
    rfl
  rw [seen, written_append, List.flatten_append]
  exact List.prefix_append_right_inj _ |>.mpr (phase.output_prefix_log _)

end Server

end CompactHttp
