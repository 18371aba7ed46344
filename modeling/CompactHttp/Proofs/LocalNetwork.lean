import Mathlib.Tactic.Common
import CompactHttp.History
import CompactHttp.Proofs.Deeds

/-! # What the operations of a local network come to

Binding and dialing depend on who is bound to the address, opening a stream on the link and on
the listener it leads to, and accepting on the streams that wait (`LocalNetwork.queue`). Each
operation is given by what it changes, case by case.
-/

namespace CompactHttp

section Positions

variable {α : Type} {list : List α} {index : Nat} {item found : α}

/-- What stands in a list where one item has been changed is that item or stood there before. -/
theorem getElem?_set_eq_some {other : Nat}
    (here : (list.set index item)[other]? = some found) :
    index = other ∧ found = item ∨ index ≠ other ∧ list[other]? = some found := by
  by_cases same : index = other
  · subst same
    have inside := (List.getElem?_eq_some_iff.mp here).1
    rw [List.length_set] at inside
    rw [List.getElem?_set_self inside] at here
    cases here
    exact .inl ⟨rfl, rfl⟩
  · rw [List.getElem?_set_ne same] at here
    exact .inr ⟨same, here⟩

/-- What stands in a list that has become longer stood there before or is the new item. -/
theorem getElem?_concat_eq_some
    (here : (list ++ [item])[index]? = some found) :
    list[index]? = some found ∨ index = list.length ∧ found = item := by
  rcases Nat.lt_trichotomy index list.length with inside | rfl | beyond
  · rw [List.getElem?_append_left inside] at here
    exact .inl here
  · rw [List.getElem?_concat_length] at here
    cases here
    exact .inr ⟨rfl, rfl⟩
  · rw [List.getElem?_eq_none (by rw [List.length_append, List.length_singleton]; omega)] at here
    cases here

end Positions

/-- Different listeners have different numbers. -/
theorem ListenerId.number_ne {first second : ListenerId} (apart : first ≠ second) :
    first.number ≠ second.number := fun same => apart (congrArg ListenerId.mk same)

namespace LocalNetwork

variable {network after : LocalNetwork} {listener : ListenerId} {stream : StreamEnd}
  {address : SocketAddress}

/-- The streams that wait for a listener. -/
def queue (network : LocalNetwork) (listener : Nat) : List Nat :=
  (network.listeners[listener]?.map (·.waiting)).getD []

/-- A listener whose state changes has the queue of its new state. -/
theorem queue_modify_self {number : Nat} (listening : number < network.listeners.length)
    (change : ListenerState → ListenerState) :
    ∃ state, network.queue number = state.waiting ∧
      queue { network with listeners := network.listeners.modify number change } number =
        (change state).waiting := by
  refine ⟨network.listeners[number], ?_, ?_⟩
  · rw [queue, List.getElem?_eq_getElem listening]
    rfl
  · rw [queue, List.getElem?_modify_eq, List.getElem?_eq_getElem listening]
    rfl

/-- The queues of other listeners stay as they are. -/
theorem queue_modify_of_ne {number other : Nat} (apart : number ≠ other)
    (change : ListenerState → ListenerState) :
    queue { network with listeners := network.listeners.modify number change } other =
      network.queue other := by
  rw [queue, List.getElem?_modify_ne _ _ apart]
  rfl

/-- A new listener has an empty queue, and the others keep theirs. -/
theorem queue_append_listener (other : Nat) (address : SocketAddress) :
    queue { network with listeners := network.listeners ++ [{ address := address }] } other =
      network.queue other := by
  unfold queue
  rw [List.getElem?_append]
  split
  · rfl
  · next beyond =>
    rw [List.getElem?_eq_none (Nat.le_of_not_lt beyond)]
    cases other - network.listeners.length <;> rfl

/-- An address with a listener is taken. -/
theorem listen_of_bound (bound : network.boundTo? address = some listener) :
    network.listen address = (.error (.addressInUse address), network) := by
  unfold listen
  rw [bound]

/-- An address without one gets a new listener. -/
theorem listen_of_free (free : network.boundTo? address = none) :
    network.listen address = (.ok ⟨network.listeners.length⟩,
      { network with listeners := network.listeners ++ [{ address := address }] }) := by
  unfold listen
  rw [free]

/-- Nobody answers at an address without a listener; the attempt is noted with its key. -/
theorem dial_of_free {key : Option PeerKey} (free : network.boundTo? address = none) :
    network.dial address key = (.error (.refused address),
      { network with dials := network.dials ++ [(address, key)] }) := by
  unfold dial
  have still : boundTo? { network with dials := network.dials ++ [(address, key)] } address =
      none := free
  simp only [still]

/-- A listener answers at its address with a new link; the attempt is noted with its key. -/
theorem dial_of_bound {key : Option PeerKey} (bound : network.boundTo? address = some listener) :
    network.dial address key = (.ok ⟨network.links.length⟩,
      { network with
        dials := network.dials ++ [(address, key)]
        links := network.links ++ [{ listener := listener, remote := address }] }) := by
  unfold dial
  have still : boundTo? { network with dials := network.dials ++ [(address, key)] } address =
      some listener := bound
  simp only [still]

section Open

variable {link : LinkId} {id : UInt32} {state : LinkState}
  (here : network.links[link.number]? = some state)

include here

/-- A closed link opens no streams. -/
theorem openStream_of_closed (closed : state.isClosed = true) :
    network.openStream link id = (.error .closed, network) := by
  unfold openStream
  simp only [here, closed, ↓reduceIte]

theorem openStream_of_gone (unclosed : state.isClosed = false)
    (gone : ¬network.Listens state.listener) :
    network.openStream link id = (.error (.refused state.remote), network) := by
  have dead : (network.listeners[state.listener.number]?.map (·.isLive)).getD false = false := by
    cases there : network.listeners[state.listener.number]? with
    | none => rfl
    | some peer =>
      cases live : peer.isLive with
      | false => exact live
      | true => exact absurd ⟨peer, there, live⟩ gone
  unfold openStream
  simp only [here, unclosed, dead, Bool.not_false, ↓reduceIte, Bool.false_eq_true]

/-- A stream that is opened waits at the end of the queue of its listener. -/
theorem openStream_of_live (unclosed : state.isClosed = false)
    (live : network.Listens state.listener) :
    network.openStream link id = (.ok ⟨network.streams.length, .client⟩,
      { network with
        streams := network.streams ++ [{ id := id }]
        listeners := network.listeners.modify state.listener.number fun listener =>
          { listener with waiting := listener.waiting ++ [network.streams.length] } }) := by
  obtain ⟨peer, there, alive⟩ := live
  unfold openStream
  simp only [here, there, unclosed, alive, Option.map_some, Option.getD_some, Bool.not_true,
    ↓reduceIte, Bool.false_eq_true]

end Open

/-- A stream is opened under a new number, and waits for the listener the link leads to; or else
nothing changes. -/
theorem openStream_cases {link : LinkId} {id : UInt32} {result : Except TransportError StreamEnd}
    (opens : network.openStream link id = (result, after)) :
    (∃ fault, result = .error fault ∧ after = network) ∨
      ∃ state, network.links[link.number]? = some state ∧ network.Listens state.listener ∧
        result = .ok ⟨network.streams.length, .client⟩ ∧ after = { network with
          streams := network.streams ++ [{ id := id }]
          listeners := network.listeners.modify state.listener.number fun listener =>
            { listener with waiting := listener.waiting ++ [network.streams.length] } } := by
  cases here : network.links[link.number]? with
  | none =>
    unfold openStream at opens
    rw [here] at opens
    cases opens
    exact .inl ⟨_, rfl, rfl⟩
  | some state =>
    by_cases closed : state.isClosed = true
    · rw [openStream_of_closed here closed] at opens
      cases opens
      exact .inl ⟨_, rfl, rfl⟩
    · have unclosed := Bool.eq_false_iff.mpr closed
      by_cases live : network.Listens state.listener
      · rw [openStream_of_live here unclosed live] at opens
        cases opens
        exact .inr ⟨state, rfl, live, rfl, rfl⟩
      · rw [openStream_of_gone here unclosed live] at opens
        cases opens
        exact .inl ⟨_, rfl, rfl⟩

/-- A listener that listens is there. -/
theorem Listens.lt (live : network.Listens listener) :
    listener.number < network.listeners.length := by
  obtain ⟨_, there, -⟩ := live
  exact (List.getElem?_eq_some_iff.mp there).1

/-- Nothing is accepted from an empty queue. -/
theorem accept_of_empty (empty : network.queue listener.number = []) :
    network.accept listener = (none, network) := by
  unfold queue at empty
  unfold accept
  rw [empty]

/-- The stream that is accepted leaves the queue. -/
theorem queue_accepted {number : Nat} {rest : List Nat}
    (queued : network.queue listener.number = number :: rest) :
    queue { network with
      listeners := network.listeners.modify listener.number fun state =>
        { state with waiting := rest } } listener.number = rest := by
  have listening : listener.number < network.listeners.length := by
    by_contra missing
    unfold queue at queued
    rw [List.getElem?_eq_none (Nat.le_of_not_lt missing)] at queued
    cases queued
  obtain ⟨_, -, becomes⟩ := queue_modify_self listening fun state => { state with waiting := rest }
  exact becomes

/-- The stream that has waited longest is accepted. -/
theorem accept_of_queue {number : Nat} {rest : List Nat}
    (queued : network.queue listener.number = number :: rest) :
    network.accept listener = (some ⟨number, .server⟩,
      { network with
        listeners := network.listeners.modify listener.number fun state =>
          { state with waiting := rest } }) := by
  unfold queue at queued
  unfold accept
  rw [queued]

/-- Streams of which the server ends with some numbers have left. -/
def withoutServers (numbers : List Nat) (streams : List StreamPipes) : List StreamPipes :=
  numbers.foldl (fun streams number => streams.modify number fun pipes => pipes.leave .server)
    streams

/-- Streams stay there when their servers leave them. -/
theorem length_withoutServers (numbers : List Nat) (streams : List StreamPipes) :
    (withoutServers numbers streams).length = streams.length := by
  induction numbers generalizing streams with
  | nil => rfl
  | cons number rest ih =>
    apply (ih _).trans
    rw [List.length_modify]

/-- When servers leave streams one after the other, nothing but the streams changes. -/
theorem foldl_leave (numbers : List Nat) (network : LocalNetwork) :
    numbers.foldl (fun network number => network.leave ⟨number, .server⟩) network =
      { network with streams := withoutServers numbers network.streams } := by
  induction numbers generalizing network with
  | nil => rfl
  | cons number rest ih => exact ih (network.leave ⟨number, .server⟩)

/-- A listener that goes drops the streams in its queue and frees its address. -/
theorem unbind_eq (network : LocalNetwork) (listener : ListenerId) : network.unbind listener =
    { network with
      streams := withoutServers (network.queue listener.number) network.streams
      listeners := network.listeners.modify listener.number fun state =>
        { state with isLive := false, waiting := [] } } := by
  unfold unbind queue
  simp only [foldl_leave]

/-- Listening adds a listener, and nothing else. -/
theorem listen_eq_ok (listens : network.listen address = (.ok listener, after)) :
    after = { network with listeners := network.listeners ++ [{ address := address }] } := by
  cases bound : network.boundTo? address with
  | none =>
    rw [listen_of_free bound] at listens
    cases listens
    rfl
  | some other =>
    rw [listen_of_bound bound] at listens
    cases listens

/-- Dialing changes nothing but the links and the attempts that are noted. -/
theorem dial_eq {key : Option PeerKey} {result : Except TransportError LinkId}
    (dials : network.dial address key = (result, after)) :
    ∃ links made, after = { network with links := links, dials := made } := by
  cases bound : network.boundTo? address with
  | none =>
    rw [dial_of_free bound] at dials
    cases dials
    exact ⟨_, _, rfl⟩
  | some listener =>
    rw [dial_of_bound bound] at dials
    cases dials
    exact ⟨_, _, rfl⟩

/-- A stream that cannot be opened changes nothing. -/
theorem openStream_eq_error {link : LinkId} {id : UInt32} {fault : TransportError}
    (opens : network.openStream link id = (.error fault, after)) : after = network := by
  rcases openStream_cases opens with ⟨_, -, rfl⟩ | ⟨_, -, -, failed, -⟩
  · rfl
  · cases failed

/-- A stream is opened under a new number, and waits for the listener that was dialed. -/
theorem openStream_eq_ok {link : LinkId} {id : UInt32}
    (opens : network.openStream link id = (.ok stream, after)) :
    ∃ state, network.links[link.number]? = some state ∧
      stream = ⟨network.streams.length, .client⟩ ∧
      after.fragmentSize = network.fragmentSize ∧
      after.streams = network.streams ++ [{ id := id }] ∧
      after.listeners.length = network.listeners.length ∧
      after.queue state.listener.number =
        network.queue state.listener.number ++ [network.streams.length] ∧
      ∀ other, state.listener.number ≠ other → after.queue other = network.queue other := by
  rcases openStream_cases opens with ⟨_, failed, -⟩ | ⟨state, linked, live, opened, rfl⟩
  · cases failed
  · cases opened
    obtain ⟨_, was, becomes⟩ := queue_modify_self live.lt fun listener =>
      { listener with waiting := listener.waiting ++ [network.streams.length] }
    refine ⟨state, linked, rfl, rfl, rfl, List.length_modify _ _ _, ?_, fun other apart =>
      queue_modify_of_ne apart _⟩
    rw [was]
    exact becomes

/-- The first stream that waits for a listener is accepted. -/
theorem accept_eq_some (accepts : network.accept listener = (some stream, after)) :
    ∃ number, stream = ⟨number, .server⟩ ∧ after.fragmentSize = network.fragmentSize ∧
      after.streams = network.streams ∧ after.listeners.length = network.listeners.length ∧
      network.queue listener.number = number :: after.queue listener.number ∧
      ∀ other, listener.number ≠ other → after.queue other = network.queue other := by
  cases queued : network.queue listener.number with
  | nil =>
    rw [accept_of_empty queued] at accepts
    cases accepts
  | cons number rest =>
    rw [accept_of_queue queued] at accepts
    cases accepts
    refine ⟨number, rfl, rfl, rfl, List.length_modify _ _ _, ?_, fun other apart =>
      queue_modify_of_ne apart _⟩
    rw [queue_accepted queued]

/-- While streams wait, one can be accepted. -/
theorem exists_accept {number : Nat} {rest : List Nat}
    (queued : network.queue listener.number = number :: rest) :
    ∃ after, network.accept listener = (some ⟨number, .server⟩, after) ∧
      after.queue listener.number = rest :=
  ⟨_, accept_of_queue queued, queue_accepted queued⟩

end LocalNetwork

end CompactHttp
