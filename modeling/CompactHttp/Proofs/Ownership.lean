import CompactHttp.Proofs.Calls
import CompactHttp.Proofs.LocalNetwork

/-! # Who holds which end of a stream

Every end of a stream has one holder at most: the client end a call, and the server end the
queue of a listener or a service (`Traffic.Orderly`). This is so because a stream is opened
under a number that nothing has been called by, and a server end leaves the queue when it is
accepted. Nothing that happens changes it (`Traffic.Orderly.step`).
-/

namespace CompactHttp

namespace Traffic

/-- Every end of a stream is held by one party at most. -/
structure Orderly (world : Traffic) : Prop where
  /-- Each listener has its server. -/
  served : world.servers.length = world.network.listeners.length
  queued : ∀ listener number, number ∈ world.network.queue listener →
    number < world.network.streams.length
  queuedOnce : ∀ listener, (world.network.queue listener).Nodup
  queuedApart : ∀ listener other number, number ∈ world.network.queue listener →
    number ∈ world.network.queue other → listener = other
  attended : ∀ (index : Nat) (service : Attendance), world.services[index]? = some service →
    service.stream.side = .server ∧ service.stream.number < world.network.streams.length
  attendedOnce : ∀ (index other : Nat) (service another : Attendance),
    world.services[index]? = some service → world.services[other]? = some another →
    service.stream.number = another.stream.number → index = other
  unattended : ∀ (listener number index : Nat) (service : Attendance),
    number ∈ world.network.queue listener → world.services[index]? = some service →
    service.stream.number ≠ number
  called : ∀ (index : Nat) (call : Call) (stream : StreamEnd),
    world.calls[index]? = some call → call.stage.stream? = some stream →
    stream.side = .client ∧ stream.number < world.network.streams.length
  calledOnce : ∀ (index other : Nat) (call another : Call) (stream : StreamEnd),
    world.calls[index]? = some call → world.calls[other]? = some another →
    call.stage.stream? = some stream → another.stage.stream? = some stream → index = other

/-- At the start nobody holds anything. -/
theorem orderly_start (size : Nat) : (start size).Orderly where
  served := rfl
  queued _ _ waits := absurd waits List.not_mem_nil
  queuedOnce _ := List.nodup_nil
  queuedApart _ _ _ waits := absurd waits List.not_mem_nil
  attended _ _ here := by cases here
  attendedOnce _ _ _ _ here := by cases here
  unattended _ _ _ _ waits := absurd waits List.not_mem_nil
  called _ _ _ here := by cases here
  calledOnce _ _ _ _ _ here := by cases here

/-- Nobody gets hold of an end of a stream that he did not hold before. -/
structure Keeps (world after : Traffic) : Prop where
  served : after.servers.length = after.network.listeners.length
  queue : ∀ listener, after.network.queue listener = world.network.queue listener
  streams : after.network.streams.length = world.network.streams.length
  services : ∀ (index : Nat) (service : Attendance), after.services[index]? = some service →
    ∃ before : Attendance, world.services[index]? = some before ∧
      before.stream = service.stream
  calls : ∀ (index : Nat) (call : Call) (stream : StreamEnd), after.calls[index]? = some call →
    call.stage.stream? = some stream →
    ∃ before : Call, world.calls[index]? = some before ∧ before.stage.stream? = some stream

/-- Where nobody gets hold of anything, all stays in order. -/
theorem Orderly.of_keeps {world after : Traffic} (orderly : world.Orderly)
    (keeps : Keeps world after) : after.Orderly where
  served := keeps.served
  queued listener number waits := by
    rw [keeps.queue] at waits
    rw [keeps.streams]
    exact orderly.queued listener number waits
  queuedOnce listener := by
    rw [keeps.queue]
    exact orderly.queuedOnce listener
  queuedApart listener other number waits there := by
    rw [keeps.queue] at waits there
    exact orderly.queuedApart listener other number waits there
  attended index service here := by
    obtain ⟨before, was, same⟩ := keeps.services index service here
    rw [keeps.streams, ← same]
    exact orderly.attended index before was
  attendedOnce index other service another here there same := by
    obtain ⟨before, was, stays⟩ := keeps.services index service here
    obtain ⟨first, wasThere, staysThere⟩ := keeps.services other another there
    rw [← stays, ← staysThere] at same
    exact orderly.attendedOnce index other before first was wasThere same
  unattended listener number index service waits here := by
    obtain ⟨before, was, same⟩ := keeps.services index service here
    rw [keeps.queue] at waits
    rw [← same]
    exact orderly.unattended listener number index before waits was
  called index call stream here holds := by
    obtain ⟨before, was, held⟩ := keeps.calls index call stream here holds
    rw [keeps.streams]
    exact orderly.called index before stream was held
  calledOnce index other call another stream here there holds too := by
    obtain ⟨before, was, held⟩ := keeps.calls index call stream here holds
    obtain ⟨first, wasThere, heldThere⟩ := keeps.calls other another stream there too
    exact orderly.calledOnce index other before first stream was wasThere held heldThere

section Keeps

variable {world after : Traffic} {network : LocalNetwork}

theorem keeps_refl (orderly : world.Orderly) : Keeps world world :=
  ⟨orderly.served, fun _ => rfl, rfl, fun _ service here => ⟨service, here, rfl⟩,
    fun _ call _ here holds => ⟨call, here, holds⟩⟩

/-- A call that goes on with its stream, or without it, gets hold of nothing. -/
theorem Keeps.setCall {index : Nat} {call next : Call} (keeps : Keeps world after)
    (same : after.calls = world.calls) (here : world.calls[index]? = some call)
    (holds : ∀ stream, next.stage.stream? = some stream → call.stage.stream? = some stream) :
    Keeps world (after.setCall index next) where
  served := keeps.served
  queue := keeps.queue
  streams := keeps.streams
  services := keeps.services
  calls other found stream there held := by
    change (after.calls.set index next)[other]? = some found at there
    rw [same] at there
    rcases getElem?_set_eq_some there with ⟨rfl, rfl⟩ | ⟨-, there⟩
    · exact ⟨call, here, holds stream held⟩
    · exact ⟨found, there, held⟩

/-- A service that goes on with its stream gets hold of nothing. -/
theorem Keeps.setService {index : Nat} {service next : Attendance} (keeps : Keeps world after)
    (same : after.services = world.services) (here : world.services[index]? = some service)
    (stays : next.stream = service.stream) : Keeps world (after.setService index next) where
  served := keeps.served
  queue := keeps.queue
  streams := keeps.streams
  services other found there := by
    change (after.services.set index next)[other]? = some found at there
    rw [same] at there
    rcases getElem?_set_eq_some there with ⟨rfl, rfl⟩ | ⟨-, there⟩
    · exact ⟨service, here, stays.symm⟩
    · exact ⟨found, there, rfl⟩
  calls := keeps.calls

/-- What is done at an end of a stream does not change who holds it. -/
theorem keeps_does {stream : StreamEnd} {deed : Deed} (orderly : world.Orderly)
    (does : world.network.Does stream deed network)
    (held : stream.number < world.network.streams.length) :
    Keeps world { world with network := network } := by
  obtain ⟨pipes, -, rfl⟩ := does.inPipes (List.getElem?_eq_getElem held)
  exact { keeps_refl orderly with streams := List.length_set }

end Keeps

section Steps

variable {world after : Traffic}

/-- The number of a new stream is held by nobody else. -/
theorem Orderly.opens {number : Nat} {call : Call} {party : Party} {request : Request}
    {link : LinkId} {id : UInt32} {stream : StreamEnd} {network : LocalNetwork}
    (orderly : world.Orderly)
    (opens : world.network.openStream link id = (.ok stream, network)) :
    (world.opened number call party request stream network).Orderly := by
  obtain ⟨state, -, rfl, -, streams, listeners, mine, others⟩ :=
    LocalNetwork.openStream_eq_ok opens
  have grown : network.streams.length = world.network.streams.length + 1 := by
    rw [streams, List.length_append, List.length_singleton]
  -- The new number is in one queue, and the call has the client end; the rest is as it was.
  have waits {other waiting : Nat} (member : waiting ∈ network.queue other) :
      waiting ∈ world.network.queue other ∨
        other = state.listener.number ∧ waiting = world.network.streams.length := by
    by_cases same : state.listener.number = other
    · subst same
      rw [mine] at member
      rcases List.mem_append.mp member with before | new
      · exact .inl before
      · exact .inr ⟨rfl, List.mem_singleton.mp new⟩
    · rw [others other same] at member
      exact .inl member
  have holds {index : Nat} {found : Call} {held : StreamEnd}
      (there : (world.opened number call party request ⟨world.network.streams.length, .client⟩
        network).calls[index]? = some found) (has : found.stage.stream? = some held) :
      number = index ∧ held = ⟨world.network.streams.length, .client⟩ ∨
        number ≠ index ∧ world.calls[index]? = some found := by
    rcases getElem?_set_eq_some there with ⟨same, rfl⟩ | ⟨apart, before⟩
    · cases has
      exact .inl ⟨same, rfl⟩
    · exact .inr ⟨apart, before⟩
  exact {
    served := orderly.served.trans listeners.symm
    queued := fun other waiting member => by
      change waiting < network.streams.length
      rcases waits member with before | ⟨-, rfl⟩
      · have := orderly.queued other waiting before
        omega
      · omega
    queuedOnce := fun other => by
      change (network.queue other).Nodup
      by_cases same : state.listener.number = other
      · subst same
        rw [mine]
        refine List.nodup_append.mpr ⟨orderly.queuedOnce _, List.pairwise_singleton _ _, ?_⟩
        intro waiting before new last equal
        have := orderly.queued _ waiting before
        rw [equal, List.mem_singleton.mp last] at this
        exact Nat.lt_irrefl _ this
      · rw [others other same]
        exact orderly.queuedOnce other
    queuedApart := fun first second waiting here there => by
      rcases waits here with before | ⟨rfl, rfl⟩ <;> rcases waits there with too | ⟨rfl, new⟩
      · exact orderly.queuedApart first second waiting before too
      · have := orderly.queued _ _ before
        omega
      · have := orderly.queued _ _ too
        omega
      · rfl
    attended := fun index service here => by
      obtain ⟨side, bound⟩ := orderly.attended index service here
      refine ⟨side, ?_⟩
      change service.stream.number < network.streams.length
      omega
    attendedOnce := orderly.attendedOnce
    unattended := fun other waiting index service member here => by
      rcases waits member with before | ⟨-, rfl⟩
      · exact orderly.unattended other waiting index service before here
      · exact Nat.ne_of_lt (orderly.attended index service here).2
    called := fun index found held there has => by
      change held.side = .client ∧ held.number < network.streams.length
      rcases holds there has with ⟨-, rfl⟩ | ⟨-, before⟩
      · exact ⟨rfl, grown ▸ Nat.lt_succ_self _⟩
      · obtain ⟨side, bound⟩ := orderly.called index found held before has
        exact ⟨side, by omega⟩
    calledOnce := fun index other found another held here there has too => by
      rcases holds here has with ⟨rfl, rfl⟩ | ⟨-, before⟩ <;>
        rcases holds there too with ⟨same, new⟩ | ⟨-, first⟩
      · exact same
      · have := (orderly.called other another _ first too).2
        exact absurd this (Nat.lt_irrefl _)
      · subst new
        have := (orderly.called index found _ before has).2
        exact absurd this (Nat.lt_irrefl _)
      · exact orderly.calledOnce index other found another held before first has too }

/-- A stream that is accepted passes from the queue to its service. -/
theorem Orderly.accepts {listener : ListenerId} {server : Server} {stream : StreamEnd}
    {network : LocalNetwork} (orderly : world.Orderly)
    (accepts : world.network.accept listener = (some stream, network)) :
    Orderly { world with
      network := network
      services := world.services ++ [.start server stream] } := by
  obtain ⟨number, rfl, -, streams, listeners, mine, others⟩ :=
    LocalNetwork.accept_eq_some accepts
  have was : number ∈ world.network.queue listener.number := by
    rw [mine]
    exact List.mem_cons_self
  have once := orderly.queuedOnce listener.number
  rw [mine] at once
  obtain ⟨gone, onceStill⟩ := List.nodup_cons.mp once
  -- It waited there and nowhere else, so that it waits nowhere any more.
  have waits {other waiting : Nat} (member : waiting ∈ network.queue other) :
      waiting ∈ world.network.queue other ∧ waiting ≠ number := by
    by_cases same : listener.number = other
    · subst same
      refine ⟨mine ▸ List.mem_cons_of_mem number member, ?_⟩
      rintro rfl
      exact gone member
    · rw [others other same] at member
      refine ⟨member, ?_⟩
      rintro rfl
      exact same (orderly.queuedApart _ _ _ was member)
  exact {
    served := orderly.served.trans listeners.symm
    queued := fun other waiting member => by
      change waiting < network.streams.length
      rw [streams]
      exact orderly.queued other waiting (waits member).1
    queuedOnce := fun other => by
      change (network.queue other).Nodup
      by_cases same : listener.number = other
      · exact same ▸ onceStill
      · rw [others other same]
        exact orderly.queuedOnce other
    queuedApart := fun first second waiting here there =>
      orderly.queuedApart first second waiting (waits here).1 (waits there).1
    attended := fun index service here => by
      change _ ∧ service.stream.number < network.streams.length
      rw [streams]
      rcases getElem?_concat_eq_some here with before | ⟨-, rfl⟩
      · exact orderly.attended index service before
      · exact ⟨rfl, orderly.queued _ _ was⟩
    attendedOnce := fun index other service another here there same => by
      rcases getElem?_concat_eq_some here with before | ⟨rfl, rfl⟩ <;>
        rcases getElem?_concat_eq_some there with first | ⟨rfl, rfl⟩
      · exact orderly.attendedOnce index other service another before first same
      · exact absurd same (orderly.unattended _ _ _ _ was before)
      · exact absurd same.symm (orderly.unattended _ _ _ _ was first)
      · rfl
    unattended := fun other waiting index service member here => by
      obtain ⟨before, apart⟩ := waits member
      rcases getElem?_concat_eq_some here with found | ⟨-, rfl⟩
      · exact orderly.unattended other waiting index service before found
      · exact apart.symm
    called := fun index call held here has => by
      change held.side = .client ∧ held.number < network.streams.length
      rw [streams]
      exact orderly.called index call held here has
    calledOnce := orderly.calledOnce }

/-- All stays in order whatever happens. -/
theorem Orderly.step (orderly : world.Orderly) (step : Step world after) : after.Orderly := by
  -- Only by opening and accepting does somebody get hold of an end.
  cases step with
  | listen server listens =>
    obtain rfl := LocalNetwork.listen_eq_ok listens
    refine orderly.of_keeps { keeps_refl orderly with served := ?_, queue := ?_ }
    · simp only [List.length_append, List.length_singleton, orderly.served]
    · exact fun other => LocalNetwork.queue_append_listener other _
  | join config => exact orderly.of_keeps { keeps_refl orderly with }
  | link here dials =>
    obtain ⟨_, _, rfl⟩ := LocalNetwork.dial_eq dials
    exact orderly.of_keeps { keeps_refl orderly with }
  | refuse dials =>
    obtain ⟨_, _, rfl⟩ := LocalNetwork.dial_eq dials
    exact orderly.of_keeps { keeps_refl orderly with }
  | unlink here => exact orderly.of_keeps { keeps_refl orderly with }
  | closeLink link => exact orderly.of_keeps { keeps_refl orderly with }
  | issue request here =>
    refine orderly.of_keeps { keeps_refl orderly with calls := ?_ }
    intro index call stream found holds
    rcases getElem?_concat_eq_some found with found | ⟨-, rfl⟩
    · exact ⟨call, found, holds⟩
    · cases holds
  | load here staged _ _ =>
    exact orderly.of_keeps ((keeps_refl orderly).setCall rfl here nofun)
  | unlinked here staged _ _ =>
    exact orderly.of_keeps ((keeps_refl orderly).setCall rfl here nofun)
  | opens _ _ _ opens => exact orderly.opens opens
  | opensNot here staged _ opens =>
    obtain rfl := LocalNetwork.openStream_eq_error opens
    exact orderly.of_keeps (Keeps.setCall { keeps_refl orderly with } rfl here nofun)
  | accepts _ accepts => exact orderly.accepts accepts
  | callActs here acts does =>
    have held := (orderly.called _ _ _ here acts.stream?).2
    refine orderly.of_keeps ((keeps_does orderly does held).setCall rfl here ?_)
    intro stream holds
    rw [acts.stream?, acts.stream?_after holds]
  | callProceeds here proceeds =>
    exact orderly.of_keeps ((keeps_refl orderly).setCall rfl here fun _ => proceeds.stream?)
  | serviceActs here acts does =>
    have held := (orderly.attended _ _ here).2
    exact orderly.of_keeps ((keeps_does orderly does held).setService rfl here acts.stream)
  | serviceProceeds here proceeds =>
    exact orderly.of_keeps ((keeps_refl orderly).setService rfl here proceeds.stream)

end Steps

end Traffic

end CompactHttp
