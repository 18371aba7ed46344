import CompactHttp.Proofs.MessageLength

/-! # Bytes split into messages

Bytes split into the messages at their front and a tail with no further message in front
(`SplitsInto`), in one way only. How they split does not change when bytes follow: the
messages stay, and the tail is split further together with what follows it. Draining a
buffer is this split, and says why the tail can begin no message if it cannot
(`Reassembly.drain_of_splitsInto`).
-/

namespace CompactHttp

/-- Messages at the front of a byte string, and the bytes behind them. -/
structure BeginsWith (kind : MessageKind) (data : Bytes) (messages : List Bytes) (behind : Bytes) :
    Prop where
  joined : messages.flatten ++ behind = data
  whole : ∀ message ∈ messages, kind.length? message = .ok (some message.length)

/-- The messages at the front of a byte string, and a tail at whose front there is none. -/
structure SplitsInto (kind : MessageKind) (data : Bytes) (messages : List Bytes) (tail : Bytes) :
    Prop extends BeginsWith kind data messages tail where
  last : ∀ size, kind.length? tail ≠ .ok (some size)

namespace BeginsWith

variable {kind : MessageKind} {data behind : Bytes} {messages : List Bytes}

/-- Messages stay in front whatever comes behind. -/
theorem append (front : BeginsWith kind data messages behind) (more : Bytes) :
    BeginsWith kind (data ++ more) messages (behind ++ more) where
  joined := by rw [← List.append_assoc, front.joined]
  whole := front.whole

/-- A message behind others joins them. -/
theorem snoc {size : Nat} (front : BeginsWith kind data messages behind)
    (known : kind.length? behind = .ok (some size)) :
    BeginsWith kind data (messages ++ [behind.take size]) (behind.drop size) where
  joined := by
    rw [List.flatten_append, List.flatten_singleton, List.append_assoc, List.take_append_drop,
      front.joined]
  whole := by
    intro message member
    rcases List.mem_append.mp member with earlier | last
    · exact front.whole message earlier
    · rw [List.mem_singleton.mp last, List.length_take,
        Nat.min_eq_left (MessageKind.length?_bounds known).2]
      exact MessageKind.length?_take known

end BeginsWith

namespace SplitsInto

variable {kind : MessageKind} {data more tail : Bytes} {messages : List Bytes}

/-- Without a whole message in front everything is the tail. -/
theorem nil (last : ∀ size, kind.length? tail ≠ .ok (some size)) :
    SplitsInto kind tail [] tail :=
  ⟨⟨rfl, nofun⟩, last⟩

/-- A whole message in front comes before the others. -/
theorem cons {message : Bytes} (whole : kind.length? message = .ok (some message.length))
    (split : SplitsInto kind data messages tail) :
    SplitsInto kind (message ++ data) (message :: messages) tail where
  joined := by rw [List.flatten_cons, List.append_assoc, split.joined]
  whole := List.forall_mem_cons.mpr ⟨whole, split.whole⟩
  last := split.last

theorem of_cons {message : Bytes} (split : SplitsInto kind data (message :: messages) tail) :
    kind.length? message = .ok (some message.length) ∧
      ∃ behind, data = message ++ behind ∧ SplitsInto kind behind messages tail := by
  obtain ⟨whole, others⟩ := List.forall_mem_cons.mp split.whole
  refine ⟨whole, messages.flatten ++ tail, ?_, ⟨rfl, others⟩, split.last⟩
  rw [← split.joined, List.flatten_cons, List.append_assoc]

/-- The first message is as long as the length of the whole says. -/
theorem length?_cons {message : Bytes} (split : SplitsInto kind data (message :: messages) tail) :
    kind.length? data = .ok (some message.length) := by
  obtain ⟨whole, behind, rfl, -⟩ := split.of_cons
  exact MessageKind.length?_append whole behind

/-- Bytes are split into messages in one way only. -/
theorem unique {others : List Bytes} {rest : Bytes} (split : SplitsInto kind data messages tail)
    (other : SplitsInto kind data others rest) : messages = others ∧ tail = rest := by
  induction messages generalizing data others with
  | nil =>
    have alone : tail = data := split.joined
    cases others with
    | nil => exact ⟨rfl, alone.trans (Eq.symm other.joined)⟩
    | cons message others => exact absurd (alone ▸ other.length?_cons) (split.last _)
  | cons message messages ih =>
    cases others with
    | nil =>
      have alone : rest = data := other.joined
      exact absurd (alone ▸ split.length?_cons) (other.last _)
    | cons first others =>
      have sized := split.length?_cons.symm.trans other.length?_cons
      obtain ⟨-, behind, rfl, later⟩ := split.of_cons
      obtain ⟨-, beyond, joined, otherLater⟩ := other.of_cons
      have same : message = first ∧ behind = beyond :=
        List.append_inj joined (by injection sized with sized; injection sized)
      obtain ⟨rfl, rfl⟩ := same
      obtain ⟨rfl, rfl⟩ := ih later otherLater
      exact ⟨rfl, rfl⟩

/-- All bytes can be split into messages and a tail. -/
theorem exists_splitsInto (kind : MessageKind) (data : Bytes) :
    ∃ messages tail, SplitsInto kind data messages tail := by
  -- On the number of bytes, of which every message takes some.
  induction length : data.length using Nat.strongRecOn generalizing data with
  | ind _ ih =>
    by_cases found : ∃ size, kind.length? data = .ok (some size)
    · obtain ⟨size, known⟩ := found
      obtain ⟨positive, inside⟩ := MessageKind.length?_bounds known
      have shorter : (data.drop size).length < data.length := by
        rw [List.length_drop]
        omega
      obtain ⟨messages, tail, split⟩ := ih _ (length ▸ shorter) _ rfl
      have whole : kind.length? (data.take size) = .ok (some (data.take size).length) := by
        rw [List.length_take, Nat.min_eq_left inside]
        exact MessageKind.length?_take known
      refine ⟨data.take size :: messages, tail, ?_⟩
      have both := split.cons whole
      rwa [List.take_append_drop] at both
    · exact ⟨[], data, nil fun size known => found ⟨size, known⟩⟩

/-- The messages stay when bytes follow, and the tail is split on together with these. -/
theorem append {others : List Bytes} {rest : Bytes} (split : SplitsInto kind data messages tail)
    (onward : SplitsInto kind (tail ++ more) others rest) :
    SplitsInto kind (data ++ more) (messages ++ others) rest where
  joined := by
    rw [List.flatten_append, List.append_assoc, onward.joined, ← List.append_assoc, split.joined]
  whole := fun message member => (List.mem_append.mp member).elim (split.whole message)
    (onward.whole message)
  last := onward.last

/-- Behind a tail that can begin no message no more messages are found. -/
theorem append_of_error {fault : FormatError} (split : SplitsInto kind data messages tail)
    (failed : kind.length? tail = .error fault) (more : Bytes) :
    SplitsInto kind (data ++ more) messages (tail ++ more) := by
  have still : ∀ size, kind.length? (tail ++ more) ≠ .ok (some size) := by
    intro size known
    rw [MessageKind.length?_error_append failed more] at known
    cases known
  have both := split.append (nil still)
  rwa [List.append_nil] at both

end SplitsInto

/-- Messages one behind the other split into themselves. -/
theorem splitsInto_flatten {kind : MessageKind} {messages : List Bytes}
    (whole : ∀ message ∈ messages, kind.length? message = .ok (some message.length)) :
    SplitsInto kind messages.flatten messages [] := by
  refine ⟨⟨List.append_nil _, whole⟩, fun size known => ?_⟩
  rw [MessageKind.length?_nil] at known
  cases known

namespace Reassembly

variable {buffer : Reassembly} {messages : List Bytes} {tail : Bytes}

/-- A fragment that fits is held behind the others. -/
theorem push_of_le {fragment : Bytes}
    (fits : buffer.held.length + fragment.length ≤ buffer.limit) :
    buffer.push fragment = (.ok (), { buffer with held := buffer.held ++ fragment }) := by
  unfold push
  rw [if_neg (Nat.not_lt_of_le fits)]

/-- A fragment that does not fit clears the buffer. -/
theorem push_of_lt {fragment : Bytes}
    (passes : buffer.limit < buffer.held.length + fragment.length) :
    buffer.push fragment = (.error (.tooLarge buffer.limit), buffer.clear) := by
  unfold push
  rw [if_pos passes]

/-- A message whose length is known is taken from the front. -/
theorem next_of_length? {size : Nat} (known : buffer.kind.length? buffer.held = .ok (some size)) :
    buffer.next = (.ok (some (buffer.held.take size)),
      { buffer with held := buffer.held.drop size }) := by
  unfold next
  rw [known]

/-- While the length is not known nothing is taken. -/
theorem next_of_none (unknown : buffer.kind.length? buffer.held = .ok none) :
    buffer.next = (.ok none, buffer) := by
  unfold next
  rw [unknown]

/-- What can have no length clears the buffer. -/
theorem next_of_error {fault : FormatError}
    (failed : buffer.kind.length? buffer.held = .error fault) :
    buffer.next = (.error (.malformed fault), buffer.clear) := by
  unfold next
  rw [failed]

/-- Draining takes one message, and then the others. -/
theorem drain_of_next {after : Reassembly} {message : Bytes}
    (taken : buffer.next = (.ok (some message), after)) :
    buffer.drain = ((message :: after.drain.1.1, after.drain.1.2), after.drain.2) := by
  rw [drain]
  split
  · next found =>
    rw [taken] at found
    cases found
    rfl
  · next found =>
    rw [taken] at found
    cases found
  · next found =>
    rw [taken] at found
    cases found

/-- Draining ends where the length is not known. -/
theorem drain_of_none (unknown : buffer.kind.length? buffer.held = .ok none) :
    buffer.drain = (([], none), buffer) := by
  have waits := next_of_none unknown
  rw [drain]
  split <;> rename_i found <;> rw [waits] at found <;> cases found
  rfl

/-- Draining ends where there can be no length. -/
theorem drain_of_error {fault : FormatError}
    (failed : buffer.kind.length? buffer.held = .error fault) :
    buffer.drain = (([], some (.malformed fault)), buffer.clear) := by
  have fails := next_of_error failed
  rw [drain]
  split <;> rename_i found <;> rw [fails] at found <;> cases found
  rfl

/-- What draining gives: the messages in front, and behind them either a tail that waits for
more or the reason why it can begin no message. -/
theorem drain_of_splitsInto (split : SplitsInto buffer.kind buffer.held messages tail) :
    buffer.drain = match buffer.kind.length? tail with
      | .error fault => ((messages, some (.malformed fault)), buffer.clear)
      | .ok _ => ((messages, none), { buffer with held := tail }) := by
  induction messages generalizing buffer with
  | nil =>
    have alone : tail = buffer.held := split.joined
    subst alone
    match known : buffer.kind.length? buffer.held with
    | .error fault => exact drain_of_error known
    | .ok none => exact drain_of_none known
    | .ok (some size) => exact absurd known (split.last size)
  | cons message messages ih =>
    have taken := next_of_length? split.length?_cons
    obtain ⟨-, behind, joined, later⟩ := split.of_cons
    rw [joined, List.take_left, List.drop_left] at taken
    rw [drain_of_next taken, @ih { buffer with held := behind } later]
    cases buffer.kind.length? tail <;> rfl

end Reassembly

end CompactHttp
