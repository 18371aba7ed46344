import CompactHttp.Proofs.Splitting
import CompactHttp.Server.Phases

/-! # What a service has done so far

As long as every write succeeds, the phase of a service says what its events have been: which
fragments were taken in, that all messages in front of them have been answered in order, and
what is held of the next one (`Server.Phase.stands_of_trace`).
-/

namespace CompactHttp

/-- Fragments that a service takes in one after the other: with none of them the bytes that
are held for the next message pass the limit, and none comes behind bytes that can begin no
message. -/
inductive TakenIn (limit : Nat) : List Bytes → Prop where
  | nil : TakenIn limit []
  | snoc {fragments messages : List Bytes} {tail fragment : Bytes} :
      TakenIn limit fragments → SplitsInto .request fragments.flatten messages tail →
      MessageKind.request.length? tail = .ok none → tail.length + fragment.length ≤ limit →
      TakenIn limit (fragments ++ [fragment])

namespace Server

/-- The fragments that were taken in. -/
def taken (events : List Event) : List Bytes := events.filterMap Event.taken?

/-- The messages that were handled. -/
def handled (events : List Event) : List Bytes := events.filterMap Event.handled?

/-- What was written. -/
def written (server : Server) (events : List Event) : List Bytes :=
  events.filterMap (Event.written? server)

@[simp] theorem taken_append (events more : List Event) :
    taken (events ++ more) = taken events ++ taken more :=
  List.filterMap_append

@[simp] theorem handled_append (events more : List Event) :
    handled (events ++ more) = handled events ++ handled more :=
  List.filterMap_append

@[simp] theorem written_append (server : Server) (events more : List Event) :
    server.written (events ++ more) = server.written events ++ server.written more :=
  List.filterMap_append

/-- Fragments were taken in and messages answered, and nothing else. -/
def Ongoing (events : List Event) : Prop :=
  ∀ event ∈ events, (∃ data, event = .fragment data) ∨ ∃ message, event = .answer message true

/-- A service goes on with another fragment or another answer. -/
theorem Ongoing.snoc {events : List Event} {event : Event} (ongoing : Ongoing events)
    (next : (∃ data, event = .fragment data) ∨ ∃ message, event = .answer message true) :
    Ongoing (events ++ [event]) := by
  intro other member
  rcases List.mem_append.mp member with earlier | last
  · exact ongoing other earlier
  · rwa [List.mem_singleton.mp last]

/-- While it goes on a service writes its replies, and nothing else. -/
theorem Ongoing.written {events : List Event} (ongoing : Ongoing events) (server : Server) :
    server.written events = (handled events).map server.reply := by
  induction events with
  | nil => rfl
  | cons event events ih =>
    obtain ⟨next, others⟩ := List.forall_mem_cons.mp ongoing
    rcases next with ⟨data, rfl⟩ | ⟨message, rfl⟩
    · exact ih others
    · exact congrArg (server.reply message :: ·) (ih others)

/-- While it goes on a service has not seen the end. -/
theorem Ongoing.silence_notMem {events : List Event} (ongoing : Ongoing events) :
    .silence ∉ events := by
  intro member
  rcases ongoing _ member with ⟨data, impossible⟩ | ⟨message, impossible⟩ <;> cases impossible

/-- While it goes on a service has not closed the stream. -/
theorem Ongoing.count_close {events : List Event} (ongoing : Ongoing events) :
    events.count .close = 0 := by
  refine List.count_eq_zero.mpr fun member => ?_
  rcases ongoing _ member with ⟨data, impossible⟩ | ⟨message, impossible⟩ <;> cases impossible

namespace Phase

/-- What has happened on a stream on which every write has succeeded so far. -/
inductive Stands (limit : Nat) : List Event → Phase → Prop where
  | reading {events : List Event} {tail : Bytes} : Ongoing events →
      TakenIn limit (taken events) →
      SplitsInto .request (taken events).flatten (handled events) tail →
      MessageKind.request.length? tail = .ok none →
      Stands limit events (.reading ⟨.request, limit, tail⟩)
  | answering {events : List Event} {message behind : Bytes} : Ongoing events →
      TakenIn limit (taken events) →
      BeginsWith .request (taken events).flatten (handled events ++ [message]) behind →
      Stands limit events (.answering ⟨.request, limit, behind⟩ message)
  | refusing {events : List Event} {tail : Bytes} {fault : FormatError} : Ongoing events →
      TakenIn limit (taken events) →
      SplitsInto .request (taken events).flatten (handled events) tail →
      MessageKind.request.length? tail = .error fault →
      Stands limit events (.parting badRequest.encode)
  | overflowing {events : List Event} {accepted : List Bytes} {tail fragment : Bytes} :
      Ongoing events → taken events = accepted ++ [fragment] → TakenIn limit accepted →
      SplitsInto .request accepted.flatten (handled events) tail →
      MessageKind.request.length? tail = .ok none → limit < tail.length + fragment.length →
      Stands limit events (.parting payloadTooLarge.encode)
  | silenced {events : List Event} {buffer : Reassembly} :
      Stands limit events (.reading buffer) → Stands limit (events ++ [.silence]) .closing
  | parted {events : List Event} {data : Bytes} :
      Stands limit events (.parting data) →
      Stands limit (events ++ [.farewell data true]) .closing
  | closed {events : List Event} :
      Stands limit events .closing → Stands limit (events ++ [.close]) .ended

variable {limit : Nat} {events : List Event} {phase : Phase}

/-- With all messages answered, what is held decides how the service goes on. -/
theorem stands_settle {behind : Bytes} (ongoing : Ongoing events)
    (accepted : TakenIn limit (taken events))
    (front : BeginsWith .request (taken events).flatten (handled events) behind) :
    Stands limit events (settle ⟨.request, limit, behind⟩) := by
  match known : MessageKind.request.length? behind with
  | .error fault =>
    have fails := @Reassembly.next_of_error ⟨.request, limit, behind⟩ fault known
    have split : SplitsInto .request (taken events).flatten (handled events) behind := by
      refine ⟨front, fun size found => ?_⟩
      rw [known] at found
      cases found
    rw [settle, fails]
    exact .refusing ongoing accepted split known
  | .ok none =>
    have waits := @Reassembly.next_of_none ⟨.request, limit, behind⟩ known
    have split : SplitsInto .request (taken events).flatten (handled events) behind := by
      refine ⟨front, fun size found => ?_⟩
      rw [known] at found
      cases found
    rw [settle, waits]
    exact .reading ongoing accepted split known
  | .ok (some size) =>
    have takes := @Reassembly.next_of_length? ⟨.request, limit, behind⟩ size known
    rw [settle, takes]
    exact .answering ongoing accepted (front.snoc known)

/-- A step leads from where a service stands to where it stands then. -/
theorem Stands.step {event : Event} {after : Phase} (stands : Stands limit events phase)
    (step : Step phase event after) (succeeded : event.succeeded = true) :
    Stands limit (events ++ [event]) after := by
  cases step with
  | fragment buffer data =>
    obtain ⟨ongoing, accepted, split, waiting⟩ := stands
    rename_i tail
    have more : Ongoing (events ++ [.fragment data]) := ongoing.snoc (.inl ⟨data, rfl⟩)
    have takenMore : taken (events ++ [.fragment data]) = taken events ++ [data] :=
      taken_append ..
    have handledSame : handled (events ++ [.fragment data]) = handled events :=
      (handled_append ..).trans (List.append_nil _)
    by_cases fits : tail.length + data.length ≤ limit
    · rw [take, Reassembly.push_of_le fits]
      refine stands_settle more ?_ ?_
      · rw [takenMore]
        exact accepted.snoc split waiting fits
      · rw [takenMore, handledSame, List.flatten_append, List.flatten_singleton]
        exact split.toBeginsWith.append data
    · have passes := Nat.lt_of_not_le fits
      rw [take, Reassembly.push_of_lt passes]
      refine .overflowing more takenMore accepted ?_ waiting passes
      rwa [handledSame]
  | silence buffer => exact .silenced stands
  | answered buffer message =>
    obtain ⟨⟩ | ⟨ongoing, accepted, front⟩ := stands
    have takenSame : taken (events ++ [.answer message true]) = taken events :=
      (taken_append ..).trans (List.append_nil _)
    have handledMore : handled (events ++ [.answer message true]) = handled events ++ [message] :=
      handled_append ..
    refine stands_settle (ongoing.snoc (.inr ⟨message, rfl⟩)) ?_ ?_
    · rwa [takenSame]
    · rwa [takenSame, handledMore]
  | unanswered buffer message => cases succeeded
  | parted data ok =>
    cases succeeded
    exact .parted stands
  | closed => exact .closed stands

/-- From its start on a service always stands somewhere. -/
theorem stands_of_trace (trace : Trace Step (idle limit) events phase)
    (succeeded : ∀ event ∈ events, event.succeeded = true) : Stands limit events phase := by
  have start : Stands limit [] (idle limit) :=
    .reading nofun .nil (.nil fun size known => nomatch known) rfl
  refine trace.invariant (fun done phase =>
    (∀ event ∈ done, event.succeeded = true) → Stands limit done phase)
    (fun _ => start) ?_ succeeded
  intro done event before after soFar step all
  obtain ⟨earlier, last⟩ := List.forall_mem_append.mp all
  exact (soFar earlier).step step (last event List.mem_cons_self)

end Phase

end Server

end CompactHttp
