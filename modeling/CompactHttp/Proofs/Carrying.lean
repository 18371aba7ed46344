import CompactHttp.Proofs.Registry

/-! # What a stream carries

Each direction of a stream is a pipe that holds what has been written at its one end and not yet
been read at the other (`StreamPipes.Carries`). This is kept by all that is done at the ends, and
on a network nothing else comes to a stream, but that a server end is lost with the listener that
has not accepted it (`LocalNetwork.Living`). So bytes are carried in order and without loss, and
each direction is closed for itself (`LocalNetwork.stream_carries`).
-/

namespace CompactHttp

namespace Side

@[simp] theorem other_other (side : Side) : side.other.other = side := by
  cases side <;> rfl

@[simp] theorem other_ne (side : Side) : side.other ≠ side := by
  cases side <;> nofun

theorem eq_or_eq_other (side writer : Side) : side = writer ∨ side = writer.other := by
  cases side <;> cases writer <;> simp [other]

end Side

namespace StreamPipes

variable {size : Nat} {pipes after : StreamPipes} {side writer : Side} {deed : Deed} {life : Life}

/-- What the pipes of a new stream have become by what has been done at its ends. -/
inductive Lived (size : Nat) : Life → StreamPipes → Prop where
  | start (id : UInt32) : Lived size [] { id := id }
  | step {life : Life} {side : Side} {deed : Deed} {before after : StreamPipes} :
      Lived size life before → before.Does size side deed after →
      Lived size ((side, deed) :: life) after

theorem incoming_eq (pipes : StreamPipes) (side : Side) :
    pipes.incoming side = pipes.outgoing side.other := by
  cases side <;> rfl

theorem setIncoming_eq (pipes : StreamPipes) (pipe : Pipe) (side : Side) :
    pipes.setIncoming pipe side = pipes.setOutgoing pipe side.other := by
  cases side <;> rfl

/-- Changing what goes out on one side leaves the other side alone. -/
theorem outgoing_setOutgoing_of_ne (pipes : StreamPipes) (pipe : Pipe) (apart : writer ≠ side) :
    (pipes.setOutgoing pipe side).outgoing writer = pipes.outgoing writer := by
  cases side <;> cases writer <;> first | rfl | exact absurd rfl apart

/-- A direction has carried what has been written at its one end to its other end. -/
structure Carries (size : Nat) (life : Life) (writer : Side) (pipe : Pipe) : Prop where
  writable : pipe.isWritable = true ↔ ¬life.HasClosed writer
  reader : pipe.hasReader = true ↔ ¬life.HasLeft writer.other
  inOrder : (life.received writer.other ++ pipe.waiting).flatten <+: life.sent writer
  complete : ¬life.HasLeft writer.other →
    (life.received writer.other ++ pipe.waiting).flatten = life.sent writer
  cut : ∀ fragment ∈ life.received writer.other ++ pipe.waiting,
    1 ≤ fragment.length ∧ fragment.length ≤ max size 1

/-- A deed that tells nothing of a direction. -/
def Unseen (writer side : Side) (deed : Deed) : Prop :=
  ∀ life : Life, Life.sent writer ((side, deed) :: life) = life.sent writer ∧
    Life.received writer.other ((side, deed) :: life) = life.received writer.other ∧
    (Life.HasClosed ((side, deed) :: life) writer ↔ life.HasClosed writer) ∧
    (Life.HasLeft ((side, deed) :: life) writer.other ↔ life.HasLeft writer.other)

/-- What a deed at an end of a stream comes to at one of its directions. -/
theorem Does.outgoing_cases (does : pipes.Does size side deed after) (writer : Side) :
    (∃ data, side = writer ∧ deed = .wrote data ∧
        (pipes.outgoing writer).write size data = (.ok (), after.outgoing writer)) ∨
      (∃ data, side = writer.other ∧ deed = .read data ∧
        (pipes.outgoing writer).read = (.fragment data, after.outgoing writer)) ∨
      (side = writer ∧ (deed = .finished ∨ deed = .left) ∧
        after.outgoing writer = (pipes.outgoing writer).finish) ∨
      (side = writer.other ∧ deed = .left ∧
        after.outgoing writer = (pipes.outgoing writer).abandon) ∨
      after.outgoing writer = pipes.outgoing writer ∧ Unseen writer side deed := by
  cases does with
  | @wrote data pipe written =>
    rcases Side.eq_or_eq_other side writer with rfl | rfl
    · left
      exact ⟨data, rfl, rfl, by rw [written, outgoing_setOutgoing]⟩
    · right; right; right; right
      refine ⟨outgoing_setOutgoing_of_ne pipes pipe writer.other_ne.symm, fun life => ?_⟩
      simp [Life.sent, Life.received, Life.HasClosed, Life.HasLeft]
  | @failed data fault pipe failed =>
    right; right; right; right
    obtain rfl := Pipe.eq_of_write_error failed
    rw [setOutgoing_outgoing]
    refine ⟨rfl, fun life => ?_⟩
    simp [Life.sent, Life.received, Life.HasClosed, Life.HasLeft]
  | @read data pipe taken =>
    rw [setIncoming_eq]
    rw [incoming_eq] at taken
    rcases Side.eq_or_eq_other side writer with rfl | rfl
    · right; right; right; right
      refine ⟨outgoing_setOutgoing_of_ne pipes pipe side.other_ne.symm, fun life => ?_⟩
      simp [Life.sent, Life.received, Life.HasClosed, Life.HasLeft, side.other_ne.symm]
    · right; left
      rw [Side.other_other] at taken ⊢
      exact ⟨data, rfl, rfl, by rw [taken, outgoing_setOutgoing]⟩
  | @sawEnd pipe ended =>
    right; right; right; right
    obtain ⟨-, -, rfl⟩ := Pipe.read_eq_finished ended
    rw [setIncoming_eq, incoming_eq, setOutgoing_outgoing]
    refine ⟨rfl, fun life => ?_⟩
    simp [Life.sent, Life.received, Life.HasClosed, Life.HasLeft]
  | finished =>
    rcases Side.eq_or_eq_other side writer with rfl | rfl
    · right; right; left
      exact ⟨rfl, .inl rfl, outgoing_setOutgoing ..⟩
    · right; right; right; right
      refine ⟨outgoing_setOutgoing_of_ne pipes _ writer.other_ne.symm, fun life => ?_⟩
      simp [Life.sent, Life.received, Life.HasClosed, Life.HasLeft, writer.other_ne.symm]
  | left =>
    unfold leave
    rw [setIncoming_eq, incoming_eq]
    rcases Side.eq_or_eq_other side writer with rfl | rfl
    · right; right; left
      refine ⟨rfl, .inr rfl, ?_⟩
      rw [outgoing_setOutgoing_of_ne _ _ side.other_ne.symm, outgoing_setOutgoing]
    · right; right; right; left
      refine ⟨rfl, rfl, ?_⟩
      rw [Side.other_other, outgoing_setOutgoing]

section Steps

variable {pipe next : Pipe} {data : Bytes}

/-- What happens elsewhere does not change what a pipe carries. -/
theorem Carries.of_same {told : Life} (carries : Carries size life writer pipe)
    (sent : told.sent writer = life.sent writer)
    (received : told.received writer.other = life.received writer.other)
    (closed : told.HasClosed writer ↔ life.HasClosed writer)
    (left : told.HasLeft writer.other ↔ life.HasLeft writer.other) :
    Carries size told writer pipe where
  writable := by rw [closed]; exact carries.writable
  reader := by rw [left]; exact carries.reader
  inOrder := by rw [sent, received]; exact carries.inOrder
  complete := by rw [left, sent, received]; exact carries.complete
  cut := by rw [received]; exact carries.cut

/-- A pipe that is written to carries what has been written too. -/
theorem Carries.wrote (carries : Carries size life writer pipe)
    (written : pipe.write size data = (.ok (), next)) :
    Carries size ((writer, .wrote data) :: life) writer next := by
  have sent : Life.sent writer ((writer, .wrote data) :: life) = life.sent writer ++ data :=
    if_pos rfl
  have received : Life.received writer.other ((writer, .wrote data) :: life) =
      life.received writer.other := rfl
  have closed : Life.HasClosed ((writer, .wrote data) :: life) writer ↔ life.HasClosed writer := by
    simp [Life.HasClosed, Life.HasLeft]
  have left : Life.HasLeft ((writer, .wrote data) :: life) writer.other ↔
      life.HasLeft writer.other := by
    simp [Life.HasLeft]
  obtain ⟨-, ⟨rfl, rfl⟩ | ⟨reader, rfl⟩⟩ := Pipe.write_eq_ok written
  · rw [List.append_nil] at sent
    exact carries.of_same sent received closed left
  · have whole : (life.received writer.other ++ (pipe.waiting ++ fragmentsOf size data)).flatten =
        life.sent writer ++ data := by
      rw [← List.append_assoc, List.flatten_append, carries.complete (carries.reader.mp reader),
        flatten_fragmentsOf]
    exact {
      writable := by rw [closed]; exact carries.writable
      reader := by rw [left]; exact carries.reader
      inOrder := by simp only [sent, received, whole, List.prefix_rfl]
      complete := fun _ => by rw [sent, received, whole]
      cut := by
        intro fragment member
        rw [received, ← List.append_assoc] at member
        rcases List.mem_append.mp member with before | new
        · exact carries.cut fragment before
        · exact length_of_mem_fragmentsOf new }

/-- A pipe that is read from carries what has not been read yet. -/
theorem Carries.read (carries : Carries size life writer pipe)
    (taken : pipe.read = (.fragment data, next)) :
    Carries size ((writer.other, .read data) :: life) writer next := by
  obtain ⟨rest, waiting, rfl⟩ := Pipe.read_eq_fragment taken
  have moved : Life.received writer.other ((writer.other, .read data) :: life) ++ rest =
      life.received writer.other ++ pipe.waiting := by
    rw [waiting, List.append_cons]
    exact congrArg (· ++ rest) (if_pos rfl)
  have sent : Life.sent writer ((writer.other, .read data) :: life) = life.sent writer := rfl
  have left : Life.HasLeft ((writer.other, .read data) :: life) writer.other ↔
      life.HasLeft writer.other := by
    simp [Life.HasLeft]
  exact {
    writable := by
      simp only [Life.HasClosed, Life.HasLeft, List.mem_cons, Prod.mk.injEq, reduceCtorEq,
        and_false, false_or]
      exact carries.writable
    reader := by rw [left]; exact carries.reader
    inOrder := by rw [moved, sent]; exact carries.inOrder
    complete := by rw [left, moved, sent]; exact carries.complete
    cut := by rw [moved]; exact carries.cut }

/-- A writer that closes or leaves ends what the pipe carries. -/
theorem Carries.finished {deed : Deed} (carries : Carries size life writer pipe)
    (last : deed = .finished ∨ deed = .left) :
    Carries size ((writer, deed) :: life) writer pipe.finish := by
  have sent : Life.sent writer ((writer, deed) :: life) = life.sent writer := by
    rcases last with rfl | rfl <;> rfl
  have received : Life.received writer.other ((writer, deed) :: life) =
      life.received writer.other := by
    rcases last with rfl | rfl <;> rfl
  have closed : Life.HasClosed ((writer, deed) :: life) writer := by
    rcases last with rfl | rfl <;> simp [Life.HasClosed, Life.HasLeft]
  have left : Life.HasLeft ((writer, deed) :: life) writer.other ↔ life.HasLeft writer.other := by
    simp [Life.HasLeft]
  exact {
    writable := ⟨nofun, absurd closed⟩
    reader := by rw [left]; exact carries.reader
    inOrder := by rw [sent, received]; exact carries.inOrder
    complete := by rw [left, sent, received]; exact carries.complete
    cut := by rw [received]; exact carries.cut }

/-- A reader that leaves ends the writing. -/
theorem Carries.abandoned (carries : Carries size life writer pipe) :
    Carries size ((writer.other, .left) :: life) writer pipe.abandon := by
  have left : Life.HasLeft ((writer.other, .left) :: life) writer.other := List.mem_cons_self
  have inOrder := carries.inOrder
  rw [List.flatten_append] at inOrder
  exact {
    writable := by
      simp only [Life.HasClosed, Life.HasLeft, List.mem_cons, Prod.mk.injEq, reduceCtorEq,
        and_false, false_or, and_true, writer.other_ne.symm]
      exact carries.writable
    reader := ⟨nofun, absurd left⟩
    inOrder := by
      change (life.received writer.other ++ []).flatten <+: life.sent writer
      rw [List.append_nil]
      exact (List.prefix_append _ _).trans inOrder
    complete := absurd left
    cut := by
      intro fragment member
      change fragment ∈ life.received writer.other ++ [] at member
      rw [List.append_nil] at member
      exact carries.cut fragment (List.mem_append_left _ member) }

end Steps

/-- Whatever either side does, the pipe of each writer carries what it should. -/
theorem Carries.step (carries : Carries size life writer (pipes.outgoing writer))
    (does : pipes.Does size side deed after) :
    Carries size ((side, deed) :: life) writer (after.outgoing writer) := by
  rcases does.outgoing_cases writer with ⟨data, rfl, rfl, written⟩ | ⟨data, rfl, rfl, taken⟩ |
    ⟨rfl, last, finished⟩ | ⟨rfl, rfl, abandoned⟩ | ⟨same, unseen⟩
  · exact carries.wrote written
  · exact carries.read taken
  · rw [finished]
    exact carries.finished last
  · rw [abandoned]
    exact carries.abandoned
  · obtain ⟨sent, received, closed, left⟩ := unseen life
    rw [same]
    exact carries.of_same sent received closed left

/-- After any life of a stream its pipes carry what has been written and not been read. -/
theorem Lived.carries (lived : Lived size life pipes) (writer : Side) :
    Carries size life writer (pipes.outgoing writer) := by
  induction lived with
  | start id =>
    have fresh : outgoing { id := id } writer = {} := by
      cases writer <;> rfl
    rw [fresh]
    exact ⟨⟨fun _ => nofun, fun _ => rfl⟩, ⟨fun _ => nofun, fun _ => rfl⟩, List.nil_prefix,
      fun _ => rfl, nofun⟩
  | step _ does ih => exact ih.step does

section Carries

variable {pipe : Pipe} (carries : Carries size life writer pipe)
  (stays : ¬life.HasLeft writer.other)

include carries stays

/-- Fragments are never empty, so that none are left when all bytes have been read. -/
theorem Carries.waiting_eq_nil_iff :
    pipe.waiting = [] ↔ (life.received writer.other).flatten = life.sent writer := by
  have complete := carries.complete stays
  rw [List.flatten_append] at complete
  rw [← complete, List.self_eq_append_right]
  constructor
  · intro nothing
    rw [nothing]
    rfl
  · intro nothing
    match waiting : pipe.waiting with
    | [] => rfl
    | fragment :: rest =>
      have filled := (carries.cut fragment (by simp [waiting])).1
      have empty := List.flatten_eq_nil_iff.mp nothing fragment (by simp [waiting])
      rw [empty] at filled
      contradiction

/-- The end is read if the writer has closed and all that it wrote has been read. -/
theorem Carries.read_eq_finished_iff : pipe.read.1 = .finished ↔
    life.HasClosed writer ∧ (life.received writer.other).flatten = life.sent writer := by
  rw [← carries.waiting_eq_nil_iff stays]
  have writable := carries.writable
  unfold Pipe.read
  cases pipe.waiting with
  | nil =>
    cases unfinished : pipe.isWritable with
    | false =>
      have closed : life.HasClosed writer := by
        by_contra unclosed
        rw [writable.mpr unclosed] at unfinished
        cases unfinished
      exact ⟨fun _ => ⟨closed, rfl⟩, fun _ => rfl⟩
    | true => exact ⟨nofun, fun ended => absurd ended.1 (writable.mp unfinished)⟩
  | cons fragment rest => exact ⟨nofun, fun ended => nomatch ended.2⟩

/-- A fragment is read if something that was written has not been read. -/
theorem Carries.read_eq_fragment_iff : (∃ fragment, pipe.read.1 = .fragment fragment) ↔
    (life.received writer.other).flatten ≠ life.sent writer := by
  rw [ne_eq, ← carries.waiting_eq_nil_iff stays]
  unfold Pipe.read
  cases pipe.waiting with
  | nil =>
    cases pipe.isWritable <;> exact ⟨nofun, absurd rfl⟩
  | cons fragment rest => exact ⟨fun _ => nofun, fun _ => ⟨fragment, rfl⟩⟩

end Carries

end StreamPipes

namespace LocalNetwork

variable {size : Nat} {history : History} {network after : LocalNetwork} {event : Happening}

/-- Nothing that happens changes the size of fragments. -/
theorem Changes.fragmentSize_eq (changes : network.Changes event after) :
    after.fragmentSize = network.fragmentSize := by
  cases changes <;> rfl

/-- A network keeps the size of fragments that it started with. -/
theorem Reached.fragmentSize_eq (reached : Reached size history network) :
    network.fragmentSize = size := by
  induction reached with
  | start => rfl
  | step _ happens ih => rw [happens.changes.fragmentSize_eq, ih]

/-- When servers leave some streams, those and no others are without one. -/
theorem getElem?_withoutServers {numbers : List Nat} (once : numbers.Nodup)
    (streams : List StreamPipes) (number : Nat) : (withoutServers numbers streams)[number]? =
      streams[number]?.map fun pipes =>
        if number ∈ numbers then pipes.leave .server else pipes := by
  induction numbers generalizing streams with
  | nil => simp [withoutServers]
  | cons first rest ih =>
    obtain ⟨apart, onceStill⟩ := List.nodup_cons.mp once
    apply (ih onceStill _).trans
    rw [List.getElem?_modify]
    cases streams[number]? with
    | none => rfl
    | some pipes =>
      by_cases here : first = number
      · subst here
        simp [apart]
      · have elsewhere : number ≠ first := Ne.symm here
        simp [here, elsewhere]

namespace Queued

variable {listener : ListenerId} (queued : Queued history network)

include queued

/-- No stream is opened twice at a listener. -/
theorem nodup_opened (listener : ListenerId) : (history.opened listener).Nodup := by
  have once : (history.openings.map Prod.fst).Nodup := by
    rw [queued.numbered]
    exact List.nodup_range
  exact once.sublist (List.filter_sublist.map _)

/-- A stream that has been opened is there. -/
theorem lt_of_mem_opened {number : Nat} (member : number ∈ history.opened listener) :
    number < network.streams.length := by
  rw [← List.mem_range, ← queued.numbered]
  exact (List.filter_sublist.map _).subset member

/-- No stream waits twice at a listener. -/
theorem nodup_queue (stays : listener ∉ history.gone) :
    (network.queue listener.number).Nodup := by
  have once := queued.nodup_opened listener
  rw [queued.queue listener stays] at once
  exact (List.nodup_append.mp once).2.1

/-- What waits for a listener has been opened for it and not been accepted. -/
theorem mem_queue_iff (stays : listener ∉ history.gone) (number : Nat) :
    number ∈ network.queue listener.number ↔
      number ∈ history.opened listener ∧ number ∉ history.accepted listener := by
  have once := queued.nodup_opened listener
  rw [queued.queue listener stays] at once ⊢
  obtain ⟨-, -, apart⟩ := List.nodup_append.mp once
  rw [List.mem_append]
  constructor
  · intro waits
    exact ⟨.inr waits, fun accepted => apart number accepted number waits rfl⟩
  · rintro ⟨accepted | waits, still⟩
    · exact absurd accepted still
    · exact waits

end Queued

/-- Every stream has lived through what its network's history tells of it. -/
structure Living (size : Nat) (history : History) (network : LocalNetwork) : Prop where
  lived : ∀ (number : Nat) pipes, network.streams[number]? = some pipes →
    StreamPipes.Lived size (history.life number) pipes
  unborn : ∀ number ≥ network.streams.length, history.life number = []

/-- A step of the network is a step in the life of one stream, or leaves all streams as they are. -/
theorem Living.step (living : Living size history network) (sized : network.fragmentSize = size)
    (queued : Queued history network) (bound : Bound history network)
    (changes : network.Changes event after) : Living size (event :: history) after := by
  cases changes with
  | @unbinds listener listens =>
    obtain ⟨address, here⟩ := listens_iff.mp listens
    have stays := (bound.gone listener address true here).mp rfl
    exact {
      lived := fun number pipes there => by
        rw [getElem?_withoutServers (queued.nodup_queue stays)] at there
        obtain ⟨before, was, rfl⟩ := Option.map_eq_some_iff.mp there
        have lived := living.lived number before was
        have told := queued.mem_queue_iff stays number
        rw [History.life]
        by_cases waits : number ∈ network.queue listener.number
        · rw [if_pos waits, if_pos (told.mp waits)]
          exact lived.step .left
        · rw [if_neg waits, if_neg (mt told.mpr waits)]
          exact lived
      unborn := fun number beyond => by
        rw [length_withoutServers] at beyond
        have never : ¬(number ∈ history.opened listener ∧ number ∉ history.accepted listener) :=
          fun waits => Nat.not_lt_of_le beyond (queued.lt_of_mem_opened waits.1)
        rw [History.life, if_neg never]
        exact living.unborn number beyond }
  | @opens link id state =>
    exact {
      lived := fun number pipes there => by
        change StreamPipes.Lived size (history.life number) pipes
        rcases getElem?_concat_eq_some there with before | ⟨rfl, rfl⟩
        · exact living.lived number pipes before
        · rw [living.unborn _ (Nat.le_refl _)]
          exact .start id
      unborn := fun number beyond => by
        rw [List.length_append] at beyond
        exact living.unborn number (Nat.le_trans (Nat.le_add_right ..) beyond) }
  | @does stream deed pipes changed here does =>
    exact {
      lived := fun number found there => by
        rw [History.life]
        rcases getElem?_set_eq_some there with ⟨same, rfl⟩ | ⟨apart, before⟩
        · subst same
          rw [if_pos rfl]
          exact (living.lived _ pipes here).step (sized ▸ does)
        · rw [if_neg apart]
          exact living.lived number found before
      unborn := fun number beyond => by
        rw [List.length_set] at beyond
        have apart : stream.number ≠ number := by
          have inside := (List.getElem?_eq_some_iff.mp here).1
          omega
        rw [History.life, if_neg apart]
        exact living.unborn number beyond }
  | binds | bindsNot | dials | dialsNot | closes | opensNot | accepts | acceptsNot =>
    exact ⟨living.lived, living.unborn⟩

/-- Every stream of a network has lived the life that the history tells. -/
theorem Reached.living (reached : Reached size history network) : Living size history network := by
  induction reached with
  | start => exact ⟨nofun, fun _ _ => rfl⟩
  | step reached happens ih =>
    exact ih.step reached.fragmentSize_eq reached.queued reached.bound happens.changes

section Ends

variable {stream : StreamEnd} {pipes : StreamPipes}
  (here : network.streams[stream.number]? = some pipes)

include here

/-- Reading at an end of a stream is reading the pipe that comes in there. -/
theorem read_eq : (network.read stream).1 = (pipes.incoming stream.side).read.1 := by
  unfold LocalNetwork.read
  rw [here]

/-- Writing at an end of a stream is writing to the pipe that goes out there. -/
theorem write_eq (data : Bytes) : network.write stream data =
    (((pipes.outgoing stream.side).write network.fragmentSize data).1, { network with
      streams := network.streams.set stream.number (pipes.setOutgoing
        ((pipes.outgoing stream.side).write network.fragmentSize data).2 stream.side) }) := by
  unfold write
  rw [here]

/-- Closing an end of a stream finishes the pipe that goes out there. -/
theorem getElem?_finish : (network.finish stream).streams[stream.number]? =
    some (pipes.setOutgoing (pipes.outgoing stream.side).finish stream.side) := by
  unfold finish
  rw [List.getElem?_modify_eq, here]
  rfl

end Ends

/-- In each direction a stream carries the bytes that are written, in order and in fragments
that are not empty and within the size of the network. The end is read when the other end
writes no more and all it has written has been read, and not before. An end that has closed
writes nothing more, while any other writes as long as somebody reads; to close one direction
changes nothing in the other. -/
theorem stream_carries (reached : Reached size history network) (stream : StreamEnd)
    (opened : stream.number < network.streams.length) :
    (history.received stream).flatten <+: history.sent stream.peer ∧
      (∀ fragment ∈ history.received stream,
        1 ≤ fragment.length ∧ fragment.length ≤ max size 1) ∧
      (¬history.HasLeft stream →
        ((network.read stream).1 = .finished ↔ history.HasClosed stream.peer ∧
            (history.received stream).flatten = history.sent stream.peer) ∧
          ((∃ fragment, (network.read stream).1 = .fragment fragment) ↔
            (history.received stream).flatten ≠ history.sent stream.peer)) ∧
      (∀ data, history.HasClosed stream → network.write stream data = (.error .closed, network)) ∧
      (∀ data, (∃ after, network.write stream data = (.ok (), after)) ↔
        ¬history.HasClosed stream ∧ (data = [] ∨ ¬history.HasLeft stream.peer)) ∧
      ((network.finish stream).read stream).1 = (network.read stream).1 ∧
      ∀ data, ((network.finish stream).write stream.peer data).1 =
        (network.write stream.peer data).1 := by
  have here := List.getElem?_eq_getElem opened
  have finished := getElem?_finish here
  have lived := reached.living.lived stream.number _ here
  have outward := lived.carries stream.side
  have inward := lived.carries stream.side.other
  refine ⟨?inOrder, ?cut, ?reads, ?closed, ?writes, ?readsOn, ?writesOn⟩
  case inOrder =>
    have inOrder := inward.inOrder
    rw [Side.other_other, List.flatten_append] at inOrder
    exact (List.prefix_append _ _).trans inOrder
  case cut =>
    intro fragment member
    apply inward.cut
    rw [Side.other_other]
    exact List.mem_append_left _ member
  case reads =>
    intro stays
    have reader : ¬(history.life stream.number).HasLeft stream.side.other.other := by
      rwa [Side.other_other]
    have ended := inward.read_eq_finished_iff reader
    have more := inward.read_eq_fragment_iff reader
    rw [Side.other_other] at ended more
    rw [read_eq here, StreamPipes.incoming_eq]
    exact ⟨ended, more⟩
  case closed =>
    intro data closed
    have shut := Bool.eq_false_iff.mpr fun writable => outward.writable.mp writable closed
    rw [write_eq here, Pipe.write_of_finished shut, StreamPipes.setOutgoing_outgoing,
      List.set_getElem_self]
  case writes =>
    intro data
    have writes := @Pipe.exists_write_iff network.fragmentSize
      (network.streams[stream.number].outgoing stream.side) data
    rw [outward.writable, outward.reader] at writes
    refine Iff.trans ?_ writes
    rw [write_eq here]
    constructor
    · rintro ⟨after, written⟩
      have ok := congrArg Prod.fst written
      exact ⟨_, Prod.ext ok rfl⟩
    · rintro ⟨pipe, written⟩
      rw [written]
      exact ⟨_, rfl⟩
  case readsOn =>
    rw [read_eq finished, read_eq here, StreamPipes.incoming_eq, StreamPipes.incoming_eq,
      StreamPipes.outgoing_setOutgoing_of_ne _ _ stream.side.other_ne]
  case writesOn =>
    intro data
    have peerHere : network.streams[stream.peer.number]? = _ := here
    have peerFinished : (network.finish stream).streams[stream.peer.number]? = _ := finished
    have kept := StreamPipes.outgoing_setOutgoing_of_ne network.streams[stream.number]
      (network.streams[stream.number].outgoing stream.side).finish stream.side.other_ne
    rw [write_eq peerHere, write_eq peerFinished]
    simp only [StreamEnd.peer, kept]
    rfl

/-- A network with one stream, which has been accepted. -/
def oneStream (pipes : StreamPipes) : LocalNetwork where
  fragmentSize := 2
  listeners := [{ address := ownAddress }]
  links := [{ listener := ⟨0⟩, remote := ownAddress }]
  streams := [pipes]
  dials := [(ownAddress, none)]

/-- A stream is opened and accepted. -/
def accepting : History :=
  [.accepted ⟨0⟩ (some ⟨0, .server⟩), .opened ⟨0⟩ 7 (.ok ⟨0, .client⟩),
    .dialed ownAddress none (.ok ⟨0⟩), .listened ownAddress (.ok ⟨0⟩)]

/-- A listener with one client and one accepted stream can be reached. -/
theorem reached_accepting : Reached 2 accepting (oneStream { id := 7 }) := by
  have bound := Reached.step (.start : Reached 2 _ _) (.listened (rfl : listen _ ownAddress = _))
  have dialed := bound.step (.dialed (rfl : dial _ ownAddress none = _))
  have opened := dialed.step (.opened Nat.zero_lt_one (rfl : openStream _ ⟨0⟩ 7 = _))
  exact opened.step (.accepted ⟨_, rfl, rfl⟩ rfl)

/-- What a side does on that stream adds to the history. -/
theorem Reached.did_oneStream {pipes changed : StreamPipes} {side : Side} {deed : Deed}
    (reached : Reached 2 history (oneStream pipes)) (does : pipes.Does 2 side deed changed) :
    Reached 2 (.did ⟨0, side⟩ deed :: history) (oneStream changed) :=
  reached.step (.did Nat.zero_lt_one (Does.of_pipes rfl does))

/-- The client writes and closes; the server reads a fragment and writes one. -/
def halfClosed : History :=
  .did ⟨0, .server⟩ (.wrote [9]) :: .did ⟨0, .server⟩ (.read [0, 1]) ::
    .did ⟨0, .client⟩ .finished :: .did ⟨0, .client⟩ (.wrote [0, 1, 2]) :: accepting

/-- A stream that one side has closed can be reached. -/
theorem exists_reached_halfClosed : ∃ pipes, Reached 2 halfClosed (oneStream pipes) := by
  have sent : ({} : Pipe).write 2 [0, 1, 2] = (.ok (), { waiting := [[0, 1], [2]] }) := by
    simp [Pipe.write, fragmentsOf]
  have wrote := reached_accepting.did_oneStream
    (.wrote sent : StreamPipes.Does 2 { id := 7 } .client _ _)
  have finished := wrote.did_oneStream (.finished : StreamPipes.Does 2 _ .client _ _)
  have read := finished.did_oneStream (.read rfl : StreamPipes.Does 2 _ .server _ _)
  exact ⟨_, read.did_oneStream (.wrote rfl)⟩

/-- On a stream that the client has closed the server can read what is left and write, and the
client cannot write any more. -/
theorem stream_carries_halfClosed : ∃ network, Reached 2 halfClosed network ∧
    (History.received halfClosed ⟨0, .server⟩).flatten <+: [0, 1, 2] ∧
    (∃ fragment, (network.read ⟨0, .server⟩).1 = .fragment fragment) ∧
    (∃ after, network.write ⟨0, .server⟩ [8] = (.ok (), after)) ∧
    network.write ⟨0, .client⟩ [3] = (.error .closed, network) := by
  obtain ⟨pipes, reached⟩ := exists_reached_halfClosed
  obtain ⟨inOrder, -, reads, -, writes, -, -⟩ :=
    stream_carries reached ⟨0, .server⟩ Nat.zero_lt_one
  obtain ⟨-, -, -, closed, -, -, -⟩ := stream_carries reached ⟨0, .client⟩ Nat.zero_lt_one
  have shut : History.HasClosed halfClosed ⟨0, .client⟩ := .inl (by decide)
  have stays : (Side.server, Deed.left) ∉ History.life 0 halfClosed := by decide
  have unfinished : ¬History.HasClosed halfClosed ⟨0, .server⟩ := by
    rintro (finished | left)
    · exact absurd finished (by decide)
    · exact stays left
  have attended : (Side.client, Deed.left) ∉ History.life 0 halfClosed := by decide
  refine ⟨_, reached, inOrder, ?_, ?_, closed [3] shut⟩
  · exact (reads stays).2.mpr (by decide)
  · exact (writes [8]).mpr ⟨unfinished, .inr attended⟩

end LocalNetwork

end CompactHttp
