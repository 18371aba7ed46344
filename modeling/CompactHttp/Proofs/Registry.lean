import CompactHttp.Proofs.LocalNetwork

/-! # Who is bound, where links lead and what is delivered

What a network has become agrees with its history in what concerns its listeners
(`LocalNetwork.Bound`), its links (`LocalNetwork.Linked`) and the streams that wait to be accepted
(`LocalNetwork.Queued`). Each agreement is kept by every step, of which there are few kinds
(`LocalNetwork.Changes`). So the history decides what binding, dialing, opening and accepting come
to (`LocalNetwork.registry_of_any_history`).
-/

namespace CompactHttp

namespace History

variable {history : History} {listener : ListenerId} {address : SocketAddress}

/-- A listener that an address is bound to is live there. -/
theorem live_of_boundTo? (bound : history.boundTo? address = some listener) :
    history.Live listener address := by
  unfold boundTo? at bound
  obtain ⟨⟨here, known⟩, found, rfl⟩ := Option.map_eq_some_iff.mp bound
  have test := List.find?_some found
  simp only [decide_eq_true_eq] at test
  obtain ⟨rfl, stays⟩ := test
  exact ⟨List.mem_of_find?_eq_some found, stays⟩

/-- An address with a live listener is bound. -/
theorem boundTo?_of_live (live : history.Live listener address) :
    ∃ found, history.boundTo? address = some found := by
  apply Option.isSome_iff_exists.mp
  unfold boundTo?
  rw [Option.isSome_map, List.find?_isSome]
  exact ⟨_, live.1, by simp [live.2]⟩

/-- A link leads to a listener that was bound once, and may be gone. -/
theorem mem_bindings_of_peer? {link : LinkId}
    (leads : history.peer? link = some (listener, address)) :
    (listener, address) ∈ history.bindings := by
  induction history with
  | nil => cases leads
  | cons event earlier ih =>
    have kept : bindings earlier ⊆ bindings (event :: earlier) :=
      ((List.sublist_cons_self event earlier).filterMap _).subset
    cases event with
    | dialed here key result =>
      cases result with
      | error fault => exact kept (ih leads)
      | ok dialed =>
        rw [peer?] at leads
        split at leads
        · obtain ⟨found, bound, same⟩ := Option.map_eq_some_iff.mp leads
          cases same
          exact kept (live_of_boundTo? bound).1
        · exact kept (ih leads)
    | listened | unbound | closed | opened | accepted | did => exact kept (ih leads)

/-- A stream that is opened is the last one at its listener, and none at the others. -/
theorem opened_concat {told : History} {number : Nat}
    (openings : told.openings = history.openings ++ [(number, listener)]) (other : ListenerId) :
    told.opened other =
      if listener = other then history.opened other ++ [number] else history.opened other := by
  unfold opened
  rw [openings, List.filter_append, List.map_append]
  by_cases same : listener = other
  · simp [same]
  · simp [same]

end History

namespace LocalNetwork

variable {network after : LocalNetwork} {event : Happening} {listener : ListenerId}
  {address : SocketAddress} {history : History} {size : Nat}

/-- The address of each listener, and whether it is bound to it. -/
def bindings (network : LocalNetwork) : List (SocketAddress × Bool) :=
  network.listeners.map fun state => (state.address, state.isLive)

theorem length_bindings : network.bindings.length = network.listeners.length := List.length_map _

/-- A listener listens while its binding is live. -/
theorem listens_iff : network.Listens listener ↔
    ∃ address, network.bindings[listener.number]? = some (address, true) := by
  unfold Listens bindings
  simp only [List.getElem?_map, Option.map_eq_some_iff, Prod.mk.injEq]
  constructor
  · rintro ⟨state, here, live⟩
    exact ⟨state.address, state, here, rfl, live⟩
  · rintro ⟨_, state, here, -, live⟩
    exact ⟨state, here, live⟩

/-- An address is free if no live binding has it. -/
theorem boundTo?_eq_none_iff : network.boundTo? address = none ↔
    ∀ number : Nat, network.bindings[number]? ≠ some (address, true) := by
  unfold boundTo? bindings
  simp only [Option.map_eq_none_iff, List.findIdx?_eq_none_iff, ne_eq, List.getElem?_map,
    Option.map_eq_some_iff, Prod.mk.injEq, not_exists, not_and]
  constructor
  · intro free number state here same live
    have := free state (List.mem_of_getElem? here)
    simp [same, live] at this
  · intro free state member
    obtain ⟨number, inside, here⟩ := List.getElem_of_mem member
    have := free number state (here ▸ List.getElem?_eq_getElem inside)
    by_cases same : state.address = address
    · simp [same, this same]
    · simp [same]

/-- The listener of an address has a live binding for it. -/
theorem bindings_of_boundTo? (bound : network.boundTo? address = some listener) :
    network.bindings[listener.number]? = some (address, true) := by
  unfold boundTo? at bound
  obtain ⟨number, found, rfl⟩ := Option.map_eq_some_iff.mp bound
  obtain ⟨inside, here, -⟩ := List.findIdx?_eq_some_iff_getElem.mp found
  unfold bindings
  rw [List.getElem?_map, List.getElem?_eq_getElem inside]
  simpa [and_comm] using here

/-- Changing a listener changes its binding as far as it can be seen there. -/
theorem bindings_modify (number : Nat) (change : ListenerState → ListenerState)
    (seen : SocketAddress × Bool → SocketAddress × Bool)
    (same : ∀ state : ListenerState, ((change state).address, (change state).isLive) =
      seen (state.address, state.isLive)) :
    bindings { network with listeners := network.listeners.modify number change } =
      network.bindings.modify number seen := by
  unfold bindings
  apply List.ext_getElem?
  intro position
  rw [List.getElem?_map, List.getElem?_modify, List.getElem?_modify, List.getElem?_map]
  cases network.listeners[position]? with
  | none => rfl
  | some state =>
    by_cases here : number = position
    · simp [here, same]
    · simp [here]

/-- Changing anything else of a listener leaves the bindings alone. -/
theorem bindings_modify_of_same (number : Nat) {change : ListenerState → ListenerState}
    (same : ∀ state : ListenerState, ((change state).address, (change state).isLive) =
      (state.address, state.isLive)) :
    bindings { network with listeners := network.listeners.modify number change } =
      network.bindings := by
  rw [bindings_modify number change id same, List.modify_id]

/-- What can become of a network by what happens. -/
inductive Changes (network : LocalNetwork) : Happening → LocalNetwork → Prop where
  | binds {address : SocketAddress} :
      network.boundTo? address = none →
      Changes network (.listened address (.ok ⟨network.listeners.length⟩))
        { network with listeners := network.listeners ++ [{ address := address }] }
  | bindsNot {address : SocketAddress} {fault : TransportError} :
      Changes network (.listened address (.error fault)) network
  | unbinds {listener : ListenerId} :
      network.Listens listener →
      Changes network (.unbound listener) { network with
        streams := withoutServers (network.queue listener.number) network.streams
        listeners := network.listeners.modify listener.number fun state =>
          { state with isLive := false, waiting := [] } }
  | dials {address : SocketAddress} {key : Option PeerKey} {listener : ListenerId} :
      network.boundTo? address = some listener →
      Changes network (.dialed address key (.ok ⟨network.links.length⟩)) { network with
        dials := network.dials ++ [(address, key)]
        links := network.links ++ [{ listener := listener, remote := address }] }
  | dialsNot {address : SocketAddress} {key : Option PeerKey} {fault : TransportError} :
      Changes network (.dialed address key (.error fault))
        { network with dials := network.dials ++ [(address, key)] }
  | closes {link : LinkId} :
      link.number < network.links.length →
      Changes network (.closed link) { network with
        links := network.links.modify link.number fun state => { state with isClosed := true } }
  | opens {link : LinkId} {id : UInt32} {state : LinkState} :
      network.links[link.number]? = some state → network.Listens state.listener →
      Changes network (.opened link id (.ok ⟨network.streams.length, .client⟩)) { network with
        streams := network.streams ++ [{ id := id }]
        listeners := network.listeners.modify state.listener.number fun listener =>
          { listener with waiting := listener.waiting ++ [network.streams.length] } }
  | opensNot {link : LinkId} {id : UInt32} {fault : TransportError} :
      Changes network (.opened link id (.error fault)) network
  | accepts {listener : ListenerId} {number : Nat} {rest : List Nat} :
      network.Listens listener → network.queue listener.number = number :: rest →
      Changes network (.accepted listener (some ⟨number, .server⟩)) { network with
        listeners := network.listeners.modify listener.number fun state =>
          { state with waiting := rest } }
  | acceptsNot {listener : ListenerId} : Changes network (.accepted listener none) network
  | does {stream : StreamEnd} {deed : Deed} {pipes changed : StreamPipes} :
      network.streams[stream.number]? = some pipes →
      pipes.Does network.fragmentSize stream.side deed changed →
      Changes network (.did stream deed)
        { network with streams := network.streams.set stream.number changed }

/-- What happens to a network changes it in one of a few ways. -/
theorem Happens.changes (happens : network.Happens event after) : network.Changes event after := by
  cases happens with
  | @listened address _ _ listens =>
    cases bound : network.boundTo? address with
    | none =>
      rw [listen_of_free bound] at listens
      cases listens
      exact .binds bound
    | some listener =>
      rw [listen_of_bound bound] at listens
      cases listens
      exact .bindsNot
  | @unbound listener live =>
    rw [unbind_eq]
    exact .unbinds live
  | @dialed address _ _ _ dials =>
    cases bound : network.boundTo? address with
    | none =>
      rw [dial_of_free bound] at dials
      cases dials
      exact .dialsNot
    | some listener =>
      rw [dial_of_bound bound] at dials
      cases dials
      exact .dials bound
  | closed inside => exact .closes inside
  | opened inside opens =>
    rcases openStream_cases opens with ⟨_, rfl, rfl⟩ | ⟨_, here, live, rfl, rfl⟩
    · exact .opensNot
    · exact .opens here live
  | @accepted listener _ _ live accepts =>
    cases queued : network.queue listener.number with
    | nil =>
      rw [accept_of_empty queued] at accepts
      cases accepts
      exact .acceptsNot
    | cons number rest =>
      rw [accept_of_queue queued] at accepts
      cases accepts
      exact .accepts live queued
  | did inside does =>
    have here := List.getElem?_eq_getElem inside
    obtain ⟨_, changed, rfl⟩ := does.inPipes here
    exact .does here changed

/-- The listeners of a network are those of which its history tells. -/
structure Bound (history : History) (network : LocalNetwork) : Prop where
  bound : ∀ listener address, (listener, address) ∈ history.bindings ↔
    ∃ isLive, network.bindings[listener.number]? = some (address, isLive)
  gone : ∀ (listener : ListenerId) address isLive,
    network.bindings[listener.number]? = some (address, isLive) →
      (isLive = true ↔ listener ∉ history.gone)
  goneBelow : ∀ listener ∈ history.gone, listener.number < network.bindings.length
  alone : ∀ (first second : Nat) address, network.bindings[first]? = some (address, true) →
    network.bindings[second]? = some (address, true) → first = second

/-- A free address that is bound has a live listener from then on. -/
theorem Bound.listened (known : Bound history network)
    (free : network.boundTo? address = none)
    (grown : after.bindings = network.bindings ++ [(address, true)]) :
    Bound (.listened address (.ok ⟨network.listeners.length⟩) :: history) after where
  bound listener other := by
    change (listener, other) ∈ (⟨network.listeners.length⟩, address) :: history.bindings ↔ _
    rw [← length_bindings, grown, List.mem_cons, known.bound listener other]
    constructor
    · rintro (new | ⟨isLive, here⟩)
      · cases new
        exact ⟨true, List.getElem?_concat_length⟩
      · exact ⟨isLive, List.getElem?_append_left (List.getElem?_eq_some_iff.mp here).1 ▸ here⟩
    · rintro ⟨isLive, here⟩
      rcases getElem?_concat_eq_some here with before | ⟨numbered, new⟩
      · exact .inr ⟨isLive, before⟩
      · cases new
        cases listener
        cases numbered
        exact .inl rfl
  gone listener other isLive here := by
    change _ ↔ listener ∉ history.gone
    rw [grown] at here
    rcases getElem?_concat_eq_some here with before | ⟨numbered, new⟩
    · exact known.gone listener other isLive before
    · cases new
      refine ⟨fun _ gone => ?_, fun _ => rfl⟩
      have below := known.goneBelow listener gone
      omega
  goneBelow listener gone := by
    have below := known.goneBelow listener gone
    rw [grown, List.length_append]
    exact Nat.lt_add_right _ below
  alone first second other here there := by
    rw [grown] at here there
    have free := boundTo?_eq_none_iff.mp free
    rcases getElem?_concat_eq_some here with before | ⟨rfl, new⟩ <;>
      rcases getElem?_concat_eq_some there with too | ⟨rfl, newToo⟩
    · exact known.alone first second other before too
    · cases newToo
      exact absurd before (free first)
    · cases new
      exact absurd too (free second)
    · rfl

/-- A listener that has gone is live no more. -/
theorem Bound.unbound (known : Bound history network)
    (live : network.Listens listener)
    (less : after.bindings = network.bindings.modify listener.number fun binding =>
      (binding.1, false)) : Bound (.unbound listener :: history) after := by
  have seen {number : Nat} {found : SocketAddress × Bool} : after.bindings[number]? = some found ↔
      ∃ binding, network.bindings[number]? = some binding ∧
        (if listener.number = number then (binding.1, false) else binding) = found := by
    rw [less, List.getElem?_modify]
    exact Option.map_eq_some_iff
  exact {
    bound := fun other address => by
      change (other, address) ∈ history.bindings ↔ _
      rw [known.bound]
      simp only [seen]
      constructor
      · rintro ⟨isLive, here⟩
        refine ⟨if listener.number = other.number then false else isLive, _, here, ?_⟩
        split <;> rfl
      · rintro ⟨isLive, ⟨found, wasLive⟩, here, same⟩
        split at same <;> cases same <;> exact ⟨_, here⟩
    gone := fun other address isLive here => by
      change _ ↔ other ∉ listener :: history.gone
      obtain ⟨⟨found, wasLive⟩, before, same⟩ := seen.mp here
      have told := known.gone other found wasLive before
      by_cases this : listener.number = other.number
      · rw [if_pos this] at same
        cases same
        have equal : listener = other := congrArg ListenerId.mk this
        subst equal
        exact ⟨nofun, fun stays => absurd List.mem_cons_self stays⟩
      · rw [if_neg this] at same
        cases same
        have apart : other ≠ listener := fun equal => this (congrArg ListenerId.number equal.symm)
        rw [told, List.mem_cons, not_or]
        exact ⟨fun stays => ⟨apart, stays⟩, And.right⟩
    goneBelow := fun other gone => by
      rw [less, List.length_modify]
      rcases List.mem_cons.mp gone with rfl | before
      · obtain ⟨address, here⟩ := listens_iff.mp live
        exact (List.getElem?_eq_some_iff.mp here).1
      · exact known.goneBelow other before
    alone := fun first second address here there => by
      have stays {number : Nat} (now : after.bindings[number]? = some (address, true)) :
          network.bindings[number]? = some (address, true) := by
        obtain ⟨binding, before, same⟩ := seen.mp now
        split at same
        · cases same
        · rw [before, same]
      exact known.alone first second address (stays here) (stays there) }

/-- What does not touch the bindings leaves what is known of them. -/
theorem Bound.of_same {told : History} (known : Bound history network)
    (bindings : told.bindings = history.bindings) (gone : told.gone = history.gone)
    (same : after.bindings = network.bindings) : Bound told after where
  bound := by rw [bindings, same]; exact known.bound
  gone := by rw [gone, same]; exact known.gone
  goneBelow := by rw [gone, same]; exact known.goneBelow
  alone := by rw [same]; exact known.alone

/-- Whatever happens, the history tells the bindings. -/
theorem Bound.step (known : Bound history network) (changes : network.Changes event after) :
    Bound (event :: history) after := by
  cases changes with
  | binds free => exact known.listened free List.map_append
  | unbinds live => exact known.unbound live (bindings_modify _ _ _ fun _ => rfl)
  | opens => exact known.of_same rfl rfl (bindings_modify_of_same _ fun _ => rfl)
  | accepts => exact known.of_same rfl rfl (bindings_modify_of_same _ fun _ => rfl)
  | bindsNot | dials | dialsNot | closes | opensNot | acceptsNot | does =>
    exact known.of_same rfl rfl rfl

/-- The history of a network tells its bindings. -/
theorem Reached.bound (reached : Reached size history network) : Bound history network := by
  induction reached with
  | start => exact ⟨fun _ _ => ⟨nofun, nofun⟩, nofun, nofun, nofun⟩
  | step _ happens ih => exact ih.step happens.changes

namespace Bound

variable (known : Bound history network)

include known

/-- A live binding is a live listener of the history. -/
theorem live_iff : network.bindings[listener.number]? = some (address, true) ↔
    history.Live listener address := by
  unfold History.Live
  rw [known.bound]
  constructor
  · intro here
    exact ⟨⟨true, here⟩, (known.gone listener address true here).mp rfl⟩
  · rintro ⟨⟨isLive, here⟩, stays⟩
    obtain rfl := (known.gone listener address isLive here).mpr stays
    exact here

/-- An address has at most one live listener. -/
theorem eq_of_live {other : ListenerId} (live : history.Live listener address)
    (too : history.Live other address) : listener = other :=
  congrArg ListenerId.mk
    (known.alone _ _ address (known.live_iff.mpr live) (known.live_iff.mpr too))

/-- An address is bound to its live listener. -/
theorem boundTo?_eq_some_iff :
    history.boundTo? address = some listener ↔ history.Live listener address := by
  constructor
  · exact History.live_of_boundTo?
  · intro live
    obtain ⟨found, bound⟩ := History.boundTo?_of_live live
    rw [bound, known.eq_of_live (History.live_of_boundTo? bound) live]

/-- To whom an address is bound is told by the history. -/
theorem boundTo?_eq : network.boundTo? address = history.boundTo? address := by
  cases bound : network.boundTo? address with
  | some listener =>
    exact (known.boundTo?_eq_some_iff.mpr (known.live_iff.mp (bindings_of_boundTo? bound))).symm
  | none =>
    symm
    apply Option.eq_none_iff_forall_ne_some.mpr
    intro listener too
    exact boundTo?_eq_none_iff.mp bound listener.number
      (known.live_iff.mpr (History.live_of_boundTo? too))

/-- A listener listens until it has gone. -/
theorem listens_iff (member : (listener, address) ∈ history.bindings) :
    network.Listens listener ↔ listener ∉ history.gone := by
  obtain ⟨isLive, here⟩ := (known.bound listener address).mp member
  rw [LocalNetwork.listens_iff, ← known.gone listener address isLive here, here]
  simp

end Bound

/-- The links of a network are those of which its history tells. -/
structure Linked (history : History) (network : LocalNetwork) : Prop where
  peers : ∀ link, history.peer? link =
    (network.links[link.number]?).map fun state => (state.listener, state.remote)
  closed : ∀ (link : LinkId) state, network.links[link.number]? = some state →
    (state.isClosed = true ↔ link ∈ history.closed)
  closedBelow : ∀ link ∈ history.closed, link.number < network.links.length

/-- A new link leads to the listener that was found. -/
theorem Linked.dialed {key : Option PeerKey} (known : Linked history network)
    (bound : history.boundTo? address = some listener)
    (grown : after.links = network.links ++ [{ listener := listener, remote := address }]) :
    Linked (.dialed address key (.ok ⟨network.links.length⟩) :: history) after where
  peers link := by
    rw [grown, List.getElem?_append]
    by_cases new : ⟨network.links.length⟩ = link
    · subst new
      rw [History.peer?, if_pos rfl, bound, if_neg (Nat.lt_irrefl _), Nat.sub_self]
      rfl
    · rw [History.peer?, if_neg new, known.peers]
      split
      · rfl
      · next beyond =>
        have past : link.number ≠ network.links.length := fun same =>
          new (congrArg LinkId.mk same.symm)
        have after : 0 < link.number - network.links.length := by omega
        rw [List.getElem?_eq_none (Nat.le_of_not_lt beyond), List.getElem?_eq_none after]
  closed link state here := by
    change _ ↔ link ∈ history.closed
    rw [grown] at here
    rcases getElem?_concat_eq_some here with before | ⟨numbered, rfl⟩
    · exact known.closed link state before
    · refine ⟨nofun, fun closed => ?_⟩
      have below := known.closedBelow link closed
      omega
  closedBelow link closed := by
    have below := known.closedBelow link closed
    rw [grown, List.length_append]
    exact Nat.lt_add_right _ below

/-- A link that is closed is told to be so, and the others stay as they were. -/
theorem Linked.closes {link : LinkId} (known : Linked history network)
    (inside : link.number < network.links.length)
    (marked : after.links = network.links.modify link.number fun state =>
      { state with isClosed := true }) : Linked (.closed link :: history) after where
  peers other := by
    change history.peer? other = _
    rw [known.peers, marked, List.getElem?_modify]
    cases network.links[other.number]? with
    | none => rfl
    | some state =>
      by_cases this : link.number = other.number
      · simp [this]
      · simp [this]
  closed other state here := by
    change _ ↔ other ∈ link :: history.closed
    rw [marked, List.getElem?_modify] at here
    obtain ⟨before, was, same⟩ := Option.map_eq_some_iff.mp here
    by_cases this : link.number = other.number
    · rw [if_pos this] at same
      subst same
      have equal : link = other := congrArg LinkId.mk this
      subst equal
      exact ⟨fun _ => List.mem_cons_self, fun _ => rfl⟩
    · rw [if_neg this] at same
      subst same
      have apart : other ≠ link := fun equal => this (congrArg LinkId.number equal.symm)
      rw [known.closed other before was, List.mem_cons, or_iff_right apart]
  closedBelow other closed := by
    rw [marked, List.length_modify]
    rcases List.mem_cons.mp closed with rfl | before
    · exact inside
    · exact known.closedBelow other before

/-- What does not touch the links leaves what is known of them. -/
theorem Linked.of_same {told : History} (known : Linked history network)
    (peers : ∀ link, told.peer? link = history.peer? link) (closed : told.closed = history.closed)
    (same : after.links = network.links) : Linked told after where
  peers link := by rw [peers, same]; exact known.peers link
  closed := by rw [closed, same]; exact known.closed
  closedBelow := by rw [closed, same]; exact known.closedBelow

/-- Whatever happens, the history tells the links. -/
theorem Linked.step (known : Linked history network) (bound : Bound history network)
    (changes : network.Changes event after) : Linked (event :: history) after := by
  cases changes with
  | dials found =>
    rw [bound.boundTo?_eq] at found
    exact known.dialed found rfl
  | closes inside => exact known.closes inside rfl
  | binds | bindsNot | unbinds | dialsNot | opens | opensNot | accepts | acceptsNot | does =>
    exact known.of_same (fun _ => rfl) rfl rfl

/-- The history of a network tells its links. -/
theorem Reached.linked (reached : Reached size history network) : Linked history network := by
  induction reached with
  | start => exact ⟨fun _ => rfl, nofun, nofun⟩
  | step reached happens ih => exact ih.step reached.bound happens.changes

/-- A listener that is not gone is still to have, in order, what has been opened for it and
not been accepted. -/
structure Queued (history : History) (network : LocalNetwork) : Prop where
  numbered : history.openings.map Prod.fst = List.range network.streams.length
  queue : ∀ listener ∉ history.gone,
    history.opened listener = history.accepted listener ++ network.queue listener.number
  delivered : ∀ listener, history.accepted listener <+: history.opened listener

/-- What does not touch the queues leaves what is known of them. -/
theorem Queued.of_same {told : History} (known : Queued history network)
    (openings : told.openings = history.openings) (gone : told.gone = history.gone)
    (accepted : ∀ listener, told.accepted listener = history.accepted listener)
    (streams : after.streams.length = network.streams.length)
    (queue : ∀ listener, after.queue listener = network.queue listener) : Queued told after where
  numbered := by rw [openings, streams]; exact known.numbered
  queue listener stays := by
    unfold History.opened
    rw [openings, accepted, queue]
    exact known.queue listener (gone ▸ stays)
  delivered listener := by
    unfold History.opened
    rw [openings, accepted]
    exact known.delivered listener

/-- A stream that is opened waits behind those before it. -/
theorem Queued.opened {link : LinkId} {id : UInt32} {state : LinkState}
    (known : Queued history network)
    (leads : history.peer? link = some (state.listener, state.remote))
    (live : network.Listens state.listener) :
    Queued (.opened link id (.ok ⟨network.streams.length, .client⟩) :: history) { network with
      streams := network.streams ++ [{ id := id }]
      listeners := network.listeners.modify state.listener.number fun listener =>
        { listener with waiting := listener.waiting ++ [network.streams.length] } } := by
  have openings : History.openings
      (.opened link id (.ok ⟨network.streams.length, .client⟩) :: history) =
        history.openings ++ [(network.streams.length, state.listener)] := by
    rw [History.openings, leads]
  exact {
    numbered := by
      rw [openings, List.map_append, known.numbered, List.length_append, List.length_singleton,
        List.range_succ]
      rfl
    queue := fun listener stays => by
      rw [History.opened_concat openings]
      change _ = history.accepted listener ++ _
      by_cases same : state.listener = listener
      · subst same
        obtain ⟨_, was, becomes⟩ := queue_modify_self live.lt fun listener =>
          { listener with waiting := listener.waiting ++ [network.streams.length] }
        rw [if_pos rfl, known.queue _ stays, List.append_assoc, was]
        exact congrArg _ becomes.symm
      · rw [if_neg same, known.queue _ stays]
        exact congrArg _ (queue_modify_of_ne (ListenerId.number_ne same) _).symm
    delivered := fun listener => by
      rw [History.opened_concat openings]
      change history.accepted listener <+: _
      split
      · exact (known.delivered listener).trans (List.prefix_append _ _)
      · exact known.delivered listener }

/-- What has been accepted and what waits are together what has been opened. -/
theorem Queued.accepted {number : Nat} {rest : List Nat} (known : Queued history network)
    (stays : listener ∉ history.gone)
    (queued : network.queue listener.number = number :: rest) :
    Queued (.accepted listener (some ⟨number, .server⟩) :: history) { network with
      listeners := network.listeners.modify listener.number fun state =>
        { state with waiting := rest } } := by
  have accepted (other : ListenerId) :
      History.accepted other (.accepted listener (some ⟨number, .server⟩) :: history) =
        if listener = other then history.accepted other ++ [number]
        else history.accepted other := rfl
  have expected := known.queue listener stays
  rw [queued] at expected
  exact {
    numbered := known.numbered
    queue := fun other otherStays => by
      rw [accepted]
      change history.opened other = _
      by_cases same : listener = other
      · subst same
        rw [if_pos rfl, queue_accepted queued, expected, List.append_assoc]
        rfl
      · rw [if_neg same, queue_modify_of_ne (ListenerId.number_ne same)]
        exact known.queue other otherStays
    delivered := fun other => by
      rw [accepted]
      change _ <+: history.opened other
      split
      · next same =>
        subst same
        rw [expected]
        exact ⟨rest, (List.append_cons ..).symm⟩
      · exact known.delivered other }

/-- A listener that has gone has no queue to tell of. -/
theorem Queued.unbound (known : Queued history network) :
    Queued (.unbound listener :: history) { network with
      streams := withoutServers (network.queue listener.number) network.streams
      listeners := network.listeners.modify listener.number fun state =>
        { state with isLive := false, waiting := [] } } where
  numbered := by
    change history.openings.map Prod.fst = _
    rw [known.numbered, length_withoutServers]
  queue other stays := by
    have others : other ∉ listener :: history.gone := stays
    rw [List.mem_cons, not_or] at others
    apply (known.queue other others.2).trans
    exact congrArg _ (queue_modify_of_ne (ListenerId.number_ne (Ne.symm others.1)) _).symm
  delivered := known.delivered

/-- Whatever happens, the history tells the queues. -/
theorem Queued.step (known : Queued history network) (bound : Bound history network)
    (linked : Linked history network) (changes : network.Changes event after) :
    Queued (event :: history) after := by
  cases changes with
  | binds =>
    exact known.of_same rfl rfl (fun _ => rfl) rfl fun listener => queue_append_listener listener _
  | unbinds => exact known.unbound
  | @opens link _ _ here live =>
    have leads := linked.peers link
    rw [here] at leads
    exact known.opened leads live
  | accepts live queued =>
    obtain ⟨address, here⟩ := listens_iff.mp live
    exact known.accepted ((bound.gone _ address true here).mp rfl) queued
  | does here =>
    exact known.of_same rfl rfl (fun _ => rfl) List.length_set fun _ => rfl
  | bindsNot | dials | dialsNot | closes | opensNot | acceptsNot =>
    exact known.of_same rfl rfl (fun _ => rfl) rfl fun _ => rfl

/-- The history of a network tells its queues. -/
theorem Reached.queued (reached : Reached size history network) : Queued history network := by
  induction reached with
  | start => exact ⟨rfl, fun _ _ => rfl, fun _ => List.nil_prefix⟩
  | step reached happens ih => exact ih.step reached.bound reached.linked happens.changes

/-- The history tells the keys that an address was dialed with. -/
theorem Reached.keysDialed_eq (reached : Reached size history network) :
    network.keysDialed address = history.keys address := by
  induction reached with
  | start => rfl
  | @step history before after event _ happens ih =>
    have dialed (here : SocketAddress) (key : Option PeerKey)
        (result : Except TransportError LinkId) :
        ((before.dials ++ [(here, key)]).filter fun dial => dial.1 == address).map Prod.snd =
          History.keys address (.dialed here key result :: history) := by
      unfold keysDialed at ih
      rw [List.filter_append, List.map_append, ih, History.keys]
      by_cases same : here = address
      · simp [same]
      · simp [same]
    cases happens.changes with
    | dials | dialsNot => exact dialed _ _ _
    | binds | bindsNot | unbinds | closes | opens | opensNot | accepts | acceptsNot | does =>
      exact ih

/-- At any time an address has at most one live listener. A listener is bound if there is none,
and else refused without any change; a link is dialed to the one there is, and refused if there
is none. A stream is refused on a closed link, and else if the listener is gone that was live when
the link was dialed. That listener, and no other, accepts the streams opened on the link, each
once and in order. All keys of dials are kept. -/
theorem registry_of_any_history (reached : Reached size history network) :
    (∀ address first second, history.Live first address → history.Live second address →
        first = second) ∧
      (∀ address listener, history.Live listener address →
        network.listen address = (.error (.addressInUse address), network)) ∧
      (∀ address, (∀ listener, ¬history.Live listener address) →
        ∃ listener after, network.listen address = (.ok listener, after)) ∧
      (∀ address key, (∀ listener, ¬history.Live listener address) →
        (network.dial address key).1 = .error (.refused address)) ∧
      (∀ address key listener, history.Live listener address →
        ∃ link after, network.dial address key = (.ok link, after) ∧
          History.peer? link (.dialed address key (.ok link) :: history) =
            some (listener, address)) ∧
      (∀ link listener address id, history.peer? link = some (listener, address) →
        (link ∈ history.closed → network.openStream link id = (.error .closed, network)) ∧
          (link ∉ history.closed → listener ∈ history.gone →
            network.openStream link id = (.error (.refused address), network)) ∧
          (link ∉ history.closed → listener ∉ history.gone →
            ∃ stream after, network.openStream link id = (.ok stream, after))) ∧
      history.openings.map Prod.fst = List.range network.streams.length ∧
      (∀ listener, history.accepted listener <+: history.opened listener) ∧
      (∀ listener ∉ history.gone, (network.accept listener).1 =
        (history.opened listener)[(history.accepted listener).length]?.map (⟨·, .server⟩)) ∧
      ∀ address, network.keysDialed address = history.keys address := by
  have bound := reached.bound
  have linked := reached.linked
  have queued := reached.queued
  have free {address : SocketAddress} (none : ∀ listener, ¬history.Live listener address) :
      network.boundTo? address = Option.none := by
    rw [bound.boundTo?_eq]
    apply Option.eq_none_iff_forall_ne_some.mpr
    intro listener found
    exact none listener (History.live_of_boundTo? found)
  have taken {address : SocketAddress} {listener : ListenerId}
      (live : history.Live listener address) : network.boundTo? address = some listener := by
    rw [bound.boundTo?_eq]
    exact bound.boundTo?_eq_some_iff.mpr live
  refine ⟨fun _ _ _ => bound.eq_of_live, fun _ _ live => listen_of_bound (taken live),
    fun _ none => ⟨_, _, listen_of_free (free none)⟩, ?refused, ?dialed, ?streams,
    queued.numbered, queued.delivered, ?accepts, fun _ => reached.keysDialed_eq⟩
  case refused =>
    intro address key none
    rw [dial_of_free (free none)]
  case dialed =>
    intro address key listener live
    refine ⟨_, _, dial_of_bound (taken live), ?_⟩
    rw [History.peer?, if_pos rfl, bound.boundTo?_eq_some_iff.mpr live]
    rfl
  case streams =>
    intro link listener address id leads
    have peers := linked.peers link
    rw [leads] at peers
    obtain ⟨state, here, same⟩ := Option.map_eq_some_iff.mp peers.symm
    cases same
    have member := History.mem_bindings_of_peer? leads
    refine ⟨?_, ?_, ?_⟩
    · intro closed
      exact openStream_of_closed here ((linked.closed link state here).mpr closed)
    · intro unclosed gone
      apply openStream_of_gone here
      · exact Bool.eq_false_iff.mpr (mt (linked.closed link state here).mp unclosed)
      · exact fun live => (bound.listens_iff member).mp live gone
    · intro unclosed stays
      refine ⟨_, _, openStream_of_live here ?_ ?_⟩
      · exact Bool.eq_false_iff.mpr (mt (linked.closed link state here).mp unclosed)
      · exact (bound.listens_iff member).mpr stays
  case accepts =>
    intro listener stays
    rw [queued.queue listener stays, List.getElem?_append_right (Nat.le_refl _), Nat.sub_self]
    cases waiting : network.queue listener.number with
    | nil =>
      rw [accept_of_empty waiting]
      rfl
    | cons number rest =>
      rw [accept_of_queue waiting]
      rfl

/-- An address of a machine for itself. -/
def ownAddress : SocketAddress := ⟨.v4 (.ofNat 0x7F000001), 8080, 0⟩

/-- An address is bound and dialed, given up, and bound and dialed again. A stream is opened on
each link, and the later one is accepted. -/
def rebinding : History :=
  [.accepted ⟨1⟩ (some ⟨1, .server⟩), .opened ⟨1⟩ 9 (.ok ⟨1, .client⟩),
    .dialed ownAddress none (.ok ⟨1⟩), .listened ownAddress (.ok ⟨1⟩), .unbound ⟨0⟩,
    .opened ⟨0⟩ 7 (.ok ⟨0, .client⟩), .dialed ownAddress none (.ok ⟨0⟩),
    .listened ownAddress (.ok ⟨0⟩)]

/-- An address can be bound once more. -/
theorem exists_reached_rebinding : ∃ network, Reached 4 rebinding network := by
  have bound := Reached.step (.start : Reached 4 _ _) (.listened (rfl : listen _ ownAddress = _))
  have dialed := bound.step (.dialed (rfl : dial _ ownAddress none = _))
  have opened := dialed.step (.opened Nat.zero_lt_one (rfl : openStream _ ⟨0⟩ 7 = _))
  have unbound := opened.step (.unbound ⟨_, rfl, rfl⟩ : Happens _ (.unbound ⟨0⟩) _)
  have again := unbound.step (.listened (rfl : listen _ ownAddress = _))
  have another := again.step (.dialed (rfl : dial _ ownAddress none = _))
  have openedToo := another.step (.opened (Nat.lt_succ_self 1) (rfl : openStream _ ⟨1⟩ 9 = _))
  exact ⟨_, openedToo.step (.accepted ⟨_, rfl, rfl⟩ rfl)⟩

theorem registry_of_rebinding : ∃ network, Reached 4 rebinding network ∧
    network.listen ownAddress = (.error (.addressInUse ownAddress), network) ∧
    network.openStream ⟨0⟩ 11 = (.error (.refused ownAddress), network) ∧
    (∃ stream after, network.openStream ⟨1⟩ 11 = (.ok stream, after)) ∧
    History.accepted ⟨1⟩ rebinding <+: [1] ∧ History.accepted ⟨0⟩ rebinding <+: [0] ∧
    network.keysDialed ownAddress = [none, none] := by
  obtain ⟨network, reached⟩ := exists_reached_rebinding
  obtain ⟨-, listens, -, -, -, opens, -, delivered, -, keys⟩ := registry_of_any_history reached
  have live : History.Live rebinding ⟨1⟩ ownAddress := ⟨by decide, by decide⟩
  refine ⟨network, reached, listens ownAddress ⟨1⟩ live, ?_, ?_, delivered ⟨1⟩, delivered ⟨0⟩,
    keys ownAddress⟩
  · exact (opens ⟨0⟩ ⟨0⟩ ownAddress 11 (by decide)).2.1 nofun (by decide)
  · exact (opens ⟨1⟩ ⟨1⟩ ownAddress 11 (by decide)).2.2 nofun (by decide)

end LocalNetwork

end CompactHttp
