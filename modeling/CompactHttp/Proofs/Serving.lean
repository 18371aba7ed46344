import CompactHttp.Proofs.ServiceLog

/-! # What a service answers

If every write succeeds, a service answers each message that stands at the front of the
fragments it took in, in order; then it says one last word if what is left can begin no
message or is too much to be held, and it closes the stream. At every point this is
`Server.Phase.stands_of_trace`, and at the end `Server.Serves`. A write that fails cuts it
short.
-/

namespace CompactHttp

namespace Server

variable {limit : Nat} {events before after : List Event} {event : Event}

/-- If every write succeeds, as many texts are written as there are writes. -/
theorem length_written (server : Server) (succeeded : ∀ event ∈ events, event.succeeded = true) :
    (server.written events).length = writes events := by
  induction events with
  | nil => rfl
  | cons event events ih =>
    obtain ⟨first, others⟩ := List.forall_mem_cons.mp succeeded
    have onward := ih others
    cases event with
    | fragment data => exact onward
    | silence => exact onward
    | close => exact onward
    | answer message ok =>
      obtain rfl : ok = true := first
      rw [writes_cons_of_isWrite rfl, ← onward]
      rfl
    | farewell data ok =>
      obtain rfl : ok = true := first
      rw [writes_cons_of_isWrite rfl, ← onward]
      rfl

/-- Each write has its place among the events. -/
theorem exists_split_of_lt_writes {count : Nat} (less : count < writes events) :
    ∃ before event after, events = before ++ event :: after ∧ event.isWrite = true ∧
      writes before = count := by
  induction events generalizing count with
  | nil => cases less
  | cons event events ih =>
    cases isWrite : event.isWrite with
    | false =>
      rw [writes_cons_of_not_isWrite isWrite] at less
      obtain ⟨before, found, after, rfl, is, number⟩ := ih less
      exact ⟨event :: before, found, after, rfl, is,
        (writes_cons_of_not_isWrite isWrite).trans number⟩
    | true =>
      rw [writes_cons_of_isWrite isWrite] at less
      cases count with
      | zero => exact ⟨[], event, events, rfl, isWrite, rfl⟩
      | succ count =>
        obtain ⟨before, found, after, rfl, is, number⟩ := ih (Nat.lt_of_succ_lt_succ less)
        refine ⟨event :: before, found, after, rfl, is, ?_⟩
        rw [writes_cons_of_isWrite isWrite, number]

namespace Phase

/-- How a service comes to its end when every write succeeds. -/
theorem Stands.of_ended (stands : Stands limit events .ended) :
    (∃ front tail, events = front ++ [.silence, .close] ∧
      Stands limit front (.reading ⟨.request, limit, tail⟩)) ∨
    ∃ front data, events = front ++ [.farewell data true, .close] ∧
      Stands limit front (.parting data) := by
  cases stands with
  | closed closing =>
    cases closing with
    | silenced reading =>
      cases reading with
      | reading ongoing accepted split waiting =>
        exact .inl ⟨_, _, List.append_assoc .., .reading ongoing accepted split waiting⟩
    | parted parting => exact .inr ⟨_, _, List.append_assoc .., parting⟩

end Phase

/-- Behind the messages that were answered, what has come decides how a service ends that has
taken in the fragments `accepted` and not those in `later`. -/
inductive Ends (limit : Nat) (accepted later : List Bytes) (tail : Bytes) :
    (taken lastWords : List Bytes) → (sawEnd : Bool) → Prop where
  | refused {fault : FormatError} : MessageKind.request.length? tail = .error fault →
      Ends limit accepted later tail accepted [badRequest.encode] false
  | overflowed {fragment : Bytes} {rest : List Bytes} : later = fragment :: rest →
      MessageKind.request.length? tail = .ok none → limit < tail.length + fragment.length →
      Ends limit accepted later tail (accepted ++ [fragment]) [payloadTooLarge.encode] false
  | finished : later = [] → MessageKind.request.length? tail = .ok none →
      Ends limit accepted later tail accepted [] true

/-- What a service does on which every write succeeds: it takes in some of the fragments that
come, answers the messages at their front, and comes to its end. -/
structure Serves (server : Server) (arrivals : List Arrival) (events : List Event)
    (accepted later messages : List Bytes) (tail : Bytes) (lastWords : List Bytes)
    (sawEnd : Bool) : Prop where
  leading : Arrival.leading arrivals = accepted ++ later
  takenIn : TakenIn server.config.maxRequestSize accepted
  split : SplitsInto .request accepted.flatten messages tail
  ends : Ends server.config.maxRequestSize accepted later tail (taken events) lastWords sawEnd
  handled : handled events = messages
  written : server.written events = messages.map server.reply ++ lastWords
  silent : .silence ∈ events ↔ sawEnd = true
  closedOnce : events.count .close = 1
  closedLast : events.getLast? = some .close

section Serves

variable {server : Server} {arrivals : List Arrival} {rest : Script}

/-- A service that sees the end has answered what had come, and closes. -/
theorem serves_of_silence {tail : Bytes}
    (stands : Phase.Stands server.config.maxRequestSize events
      (.reading ⟨.request, server.config.maxRequestSize, tail⟩))
    (given : Trace Script.Gives ⟨arrivals, none⟩ (events ++ [.silence, .close]) rest) :
    Serves server arrivals (events ++ [.silence, .close]) (taken events) [] (handled events) tail
      [] true := by
  cases stands with
  | reading ongoing accepted split waiting =>
    obtain ⟨middle, begun, _ | ⟨ended, -⟩⟩ := given.of_append
    have takenSame : taken (events ++ [.silence, .close]) = taken events :=
      (taken_append ..).trans (List.append_nil _)
    refine ⟨?_, accepted, split, ?_, ?_, ?_, ?_, ?_, ?_⟩
    · rw [Script.leading_of_trace begun ongoing.silence_notMem, Script.leading_of_silence ended]
    · rw [takenSame]
      exact .finished rfl waiting
    · exact (handled_append ..).trans (List.append_nil _)
    · rw [written_append, ongoing.written]
      rfl
    · simp
    · rw [List.count_append, ongoing.count_close]
      rfl
    · rw [List.getLast?_append]
      rfl

/-- A service that cannot go on has its last word, and closes. -/
theorem serves_of_farewell {data : Bytes}
    (stands : Phase.Stands server.config.maxRequestSize events (.parting data))
    (given : Trace Script.Gives ⟨arrivals, none⟩ (events ++ [.farewell data true, .close]) rest) :
    ∃ accepted later tail, Serves server arrivals (events ++ [.farewell data true, .close])
      accepted later (handled events) tail [data] false := by
  have takenSame : taken (events ++ [.farewell data true, .close]) = taken events :=
    (taken_append ..).trans (List.append_nil _)
  have account {accepted later : List Bytes} {tail : Bytes} (ongoing : Ongoing events)
      (front : Arrival.leading arrivals = accepted ++ later)
      (takenIn : TakenIn server.config.maxRequestSize accepted)
      (split : SplitsInto .request accepted.flatten (handled events) tail)
      (ends : Ends server.config.maxRequestSize accepted later tail (taken events) [data] false) :
      Serves server arrivals (events ++ [.farewell data true, .close]) accepted later
        (handled events) tail [data] false := by
    refine ⟨front, takenIn, split, takenSame.symm ▸ ends, ?_, ?_, ?_, ?_, ?_⟩
    · exact (handled_append ..).trans (List.append_nil _)
    · rw [written_append, ongoing.written]
      rfl
    · simp [ongoing.silence_notMem]
    · rw [List.count_append, ongoing.count_close]
      rfl
    · rw [List.getLast?_append]
      rfl
  have going (ongoing : Ongoing events) : .silence ∉ events ++ [.farewell data true, .close] := by
    simp [ongoing.silence_notMem]
  cases stands with
  | refusing ongoing accepted split failed =>
    have leading := Script.leading_of_trace given (going ongoing)
    rw [takenSame] at leading
    exact ⟨_, _, _, account ongoing leading accepted split (.refused failed)⟩
  | overflowing ongoing takes accepted split waiting passes =>
    have leading := Script.leading_of_trace given (going ongoing)
    rw [takenSame, takes, List.append_assoc] at leading
    refine ⟨_, _, _, account ongoing leading accepted split ?_⟩
    rw [takes]
    exact .overflowed rfl waiting passes

/-- Any service that has ended has done so in one of these ways. -/
theorem serves_of_trace
    (steps : Trace Phase.Step (.idle server.config.maxRequestSize) events .ended)
    (given : Trace Script.Gives ⟨arrivals, none⟩ events rest) :
    ∃ accepted later messages tail lastWords sawEnd,
      Serves server arrivals events accepted later messages tail lastWords sawEnd := by
  have stands := Phase.stands_of_trace steps (Script.succeeded_of_trace given rfl)
  rcases stands.of_ended with ⟨front, tail, rfl, before⟩ | ⟨front, data, rfl, before⟩
  · exact ⟨_, _, _, _, _, _, serves_of_silence before given⟩
  · obtain ⟨accepted, later, tail, serves⟩ := serves_of_farewell before given
    exact ⟨_, _, _, _, _, _, serves⟩

/-- With the write of that number failing, everything before it is done as ever, and nothing
is read or handled after it. The stream is closed only if it was a last word. -/
theorem cutAt_of_serves {accepted later messages : List Bytes} {tail : Bytes}
    {lastWords : List Bytes} {sawEnd : Bool} {count : Nat}
    (serves : Serves server arrivals events accepted later messages tail lastWords sawEnd)
    (succeeded : ∀ event ∈ events, event.succeeded = true) (less : count < writes events) :
    ∃ before event after, events = before ++ event :: after ∧ writes before = count ∧
      cutAt events count = before ++ event.failed :: event.afterFailure ∧
      server.written (cutAt events count) = (server.written events).take count ∧
      ((∃ message, event = .answer message true ∧ (cutAt events count).count .close = 0) ∨
        ∃ data, event = .farewell data true ∧ (cutAt events count).count .close = 1) := by
  obtain ⟨before, event, after, rfl, isWrite, rfl⟩ := exists_split_of_lt_writes less
  obtain ⟨earlier, others⟩ := List.forall_mem_append.mp succeeded
  have wrote : server.written (before ++ event.failed :: event.afterFailure) =
      (server.written (before ++ event :: after)).take (writes before) := by
    rw [written_append, written_append, ← length_written server earlier, List.take_left]
    cases event with
    | answer message ok | farewell data ok => exact List.append_nil _
    | fragment data | silence | close => cases isWrite
  have unclosed : before.count .close = 0 := by
    have last := serves.closedLast
    rw [List.getLast?_append_cons] at last
    have atEnd := List.count_pos_iff.mpr (List.mem_of_getLast? last)
    have once := serves.closedOnce
    rw [List.count_append] at once
    omega
  refine ⟨before, event, after, rfl, rfl, cutAt_append before isWrite, ?_, ?_⟩
  · rw [cutAt_append before isWrite, wrote]
  · rw [cutAt_append before isWrite, List.count_append, unclosed, Nat.zero_add]
    have ok := others event List.mem_cons_self
    cases event with
    | answer message written =>
      obtain rfl : written = true := ok
      exact .inl ⟨message, rfl, rfl⟩
    | farewell data written =>
      obtain rfl : written = true := ok
      exact .inr ⟨data, rfl, rfl⟩
    | fragment data | silence | close => cases isWrite

end Serves

/-- What comes of a service by any script. If every write succeeds, the fragments that come are
taken in up to one that is too much, the messages in them are answered in order, and the
stream is closed once, after one last word if the bytes behind the messages call for it. If
some write fails, everything up to there is the same. -/
theorem serving_of_any_script (server : Server) (arrivals : List Arrival) :
    (∃ accepted later messages tail lastWords sawEnd,
      Serves server arrivals (server.log ⟨arrivals, none⟩).1 accepted later messages tail
        lastWords sawEnd) ∧
    (∀ count, writes (server.log ⟨arrivals, none⟩).1 ≤ count →
      (server.log ⟨arrivals, some count⟩).1 = (server.log ⟨arrivals, none⟩).1) ∧
    (∀ count, count < writes (server.log ⟨arrivals, none⟩).1 →
      ∃ before event after, (server.log ⟨arrivals, none⟩).1 = before ++ event :: after ∧
        writes before = count ∧
        (server.log ⟨arrivals, some count⟩).1 = before ++ event.failed :: event.afterFailure ∧
        server.written (server.log ⟨arrivals, some count⟩).1 =
          (server.written (server.log ⟨arrivals, none⟩).1).take count ∧
        ((∃ message, event = .answer message true ∧
            (server.log ⟨arrivals, some count⟩).1.count .close = 0) ∨
          ∃ data, event = .farewell data true ∧
            (server.log ⟨arrivals, some count⟩).1.count .close = 1)) ∧
    (∀ message fault, Request.decode message = .error fault →
      server.reply message = badRequest.encode) ∧
    ∀ allowance, server.serve allowance arrivals =
      server.summary (server.log ⟨arrivals, allowance⟩) := by
  obtain ⟨steps, given⟩ :=
    Phase.trace_log (.idle server.config.maxRequestSize) ⟨arrivals, none⟩
  obtain ⟨accepted, later, messages, tail, lastWords, sawEnd, serves⟩ :=
    serves_of_trace steps given
  have cut (count : Nat) : (server.log ⟨arrivals, some count⟩).1 =
      cutAt (server.log ⟨arrivals, none⟩).1 count := Phase.log_cutAt _ arrivals count
  refine ⟨⟨accepted, later, messages, tail, lastWords, sawEnd, serves⟩, ?_, ?_, ?_, ?_⟩
  · intro count enough
    rw [cut, cutAt_of_le enough]
  · intro count less
    rw [cut]
    exact cutAt_of_serves serves (Script.succeeded_of_trace given rfl) less
  · intro message fault failed
    rw [reply, handle, failed]
  · exact fun allowance => serve_eq_log allowance arrivals

end Server

end CompactHttp
