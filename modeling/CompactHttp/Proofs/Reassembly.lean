import CompactHttp.Proofs.Splitting

/-! # Reassembly does not depend on how the bytes were cut

Fragments are taken in one after the other, and after each the messages that are there are
given out (`Reassembly.collect`). Unless the limit is passed, what comes of this is the
split of all bytes together (`Reassembly.collect_of_splitsInto`), so two ways of cutting
the same bytes come to the same. Whatever is done with a buffer, it never holds more than
its limit (`Reassembly.Reached.held_le`).
-/

namespace CompactHttp

/-- What has come of fragments: the messages, why no more were taken in, if so, and what is
held. -/
structure Collected where
  messages : List Bytes
  fault : Option FramingError
  buffer : Reassembly

namespace Reassembly

/-- Takes in fragments and gives out what messages are there after each of them, until
something is wrong. -/
def collect (buffer : Reassembly) : List Bytes → Collected
  | [] => ⟨[], none, buffer⟩
  | fragment :: rest =>
    match buffer.push fragment with
    | (.error fault, after) => ⟨[], some fault, after⟩
    | (.ok (), after) =>
      match after.drain with
      | ((messages, some fault), left) => ⟨messages, some fault, left⟩
      | ((messages, none), left) =>
        let later := left.collect rest
        { later with messages := messages ++ later.messages }

/-- Messages are asked for until there is none or something is wrong. -/
inductive AskedFor : Reassembly → List Bytes → Option FramingError → Reassembly → Prop where
  | waits {buffer after : Reassembly} :
      buffer.next = (.ok none, after) → AskedFor buffer [] none after
  | fails {buffer after : Reassembly} {fault : FramingError} :
      buffer.next = (.error fault, after) → AskedFor buffer [] (some fault) after
  | takes {buffer after left : Reassembly} {message : Bytes} {messages : List Bytes}
      {fault : Option FramingError} :
      buffer.next = (.ok (some message), after) → AskedFor after messages fault left →
      AskedFor buffer (message :: messages) fault left

/-- The states a buffer can come to. -/
inductive Reached (kind : MessageKind) (limit : Nat) : Reassembly → Prop where
  | start : Reached kind limit (start kind limit)
  | push {buffer after : Reassembly} {fragment : Bytes} {result : Except FramingError Unit} :
      Reached kind limit buffer → buffer.push fragment = (result, after) → Reached kind limit after
  | next {buffer after : Reassembly} {result : Except FramingError (Option Bytes)} :
      Reached kind limit buffer → buffer.next = (result, after) → Reached kind limit after
  | clear {buffer : Reassembly} : Reached kind limit buffer → Reached kind limit buffer.clear

variable {kind : MessageKind} {limit : Nat} {buffer : Reassembly}

/-- A buffer keeps its limit, and holds no more. -/
theorem Reached.held_le (reached : Reached kind limit buffer) :
    buffer.limit = limit ∧ buffer.held.length ≤ limit := by
  induction reached with
  | start => exact ⟨rfl, Nat.zero_le limit⟩
  | @push buffer after fragment result _ pushed ih =>
    by_cases fits : buffer.held.length + fragment.length ≤ buffer.limit
    · rw [push_of_le fits] at pushed
      cases pushed
      refine ⟨ih.1, ?_⟩
      rw [← ih.1, List.length_append]
      exact fits
    · rw [push_of_lt (Nat.lt_of_not_le fits)] at pushed
      cases pushed
      exact ⟨ih.1, Nat.zero_le limit⟩
  | @next buffer after result _ taken ih =>
    match known : buffer.kind.length? buffer.held with
    | .error fault =>
      rw [next_of_error known] at taken
      cases taken
      exact ⟨ih.1, Nat.zero_le limit⟩
    | .ok none =>
      rw [next_of_none known] at taken
      cases taken
      exact ih
    | .ok (some size) =>
      rw [next_of_length? known] at taken
      cases taken
      refine ⟨ih.1, Nat.le_trans ?_ ih.2⟩
      rw [List.length_drop]
      exact Nat.sub_le ..
  | clear _ ih => exact ⟨ih.1, Nat.zero_le limit⟩

/-- A message is part of what was held. -/
theorem length_le_of_next {message : Bytes} (taken : buffer.next.1 = .ok (some message)) :
    message.length ≤ buffer.held.length := by
  match known : buffer.kind.length? buffer.held with
  | .error fault =>
    rw [next_of_error known] at taken
    cases taken
  | .ok none =>
    rw [next_of_none known] at taken
    cases taken
  | .ok (some size) =>
    rw [next_of_length? known] at taken
    cases taken
    exact List.length_take_le' size _

/-- Asking for messages comes to an end, with what draining gives, and after no more of
them than there were bytes. -/
theorem askedFor_drain (buffer : Reassembly) :
    AskedFor buffer buffer.drain.1.1 buffer.drain.1.2 buffer.drain.2 ∧
      buffer.drain.1.1.length ≤ buffer.held.length := by
  induction size : buffer.held.length using Nat.strongRecOn generalizing buffer with
  | ind _ ih =>
    match known : buffer.kind.length? buffer.held with
    | .error fault =>
      rw [drain_of_error known]
      exact ⟨.fails (next_of_error known), Nat.zero_le _⟩
    | .ok none =>
      rw [drain_of_none known]
      exact ⟨.waits (next_of_none known), Nat.zero_le _⟩
    | .ok (some length) =>
      have taken := next_of_length? known
      have shorter := next_shortens taken
      obtain ⟨asked, few⟩ := ih _ (size ▸ shorter) _ rfl
      rw [drain_of_next taken]
      exact ⟨.takes taken asked, by rw [List.length_cons]; omega⟩

/-- Asking for messages leads to states that can be reached. -/
theorem Reached.askedFor {after : Reassembly} {messages : List Bytes}
    {fault : Option FramingError} (reached : Reached kind limit buffer)
    (asked : AskedFor buffer messages fault after) : Reached kind limit after := by
  induction asked with
  | waits taken => exact reached.next taken
  | fails taken => exact reached.next taken
  | takes taken _ ih => exact ih (reached.next taken)

theorem Reached.collect (reached : Reached kind limit buffer) (fragments : List Bytes) :
    Reached kind limit (buffer.collect fragments).buffer := by
  induction fragments generalizing buffer with
  | nil => exact reached
  | cons fragment rest ih =>
    unfold Reassembly.collect
    split
    · next fault after pushed => exact reached.push pushed
    · next after pushed =>
      have drained := (reached.push pushed).askedFor (askedFor_drain after).1
      split
      · next drain =>
        rw [drain] at drained
        exact drained
      · next drain =>
        rw [drain] at drained
        exact ih drained

/-- Unless the limit is passed, fragments come to what all bytes together split into. -/
theorem collect_of_splitsInto {fragments messages : List Bytes} {tail : Bytes}
    (waiting : buffer.kind.length? buffer.held = .ok none)
    (fits : ∀ limit, (buffer.collect fragments).fault ≠ some (.tooLarge limit))
    (split : SplitsInto buffer.kind (buffer.held ++ fragments.flatten) messages tail) :
    (buffer.collect fragments).messages = messages ∧
      match buffer.kind.length? tail with
      | .error fault => (buffer.collect fragments).fault = some (.malformed fault)
      | .ok _ =>
        (buffer.collect fragments).fault = none ∧ (buffer.collect fragments).buffer.held = tail := by
  -- Along the fragments: between them what is held begins no whole message.
  induction fragments generalizing buffer messages with
  | nil =>
    rw [List.flatten_nil, List.append_nil] at split
    have alone : SplitsInto buffer.kind buffer.held [] buffer.held := by
      refine .nil fun size known => ?_
      rw [waiting] at known
      cases known
    obtain ⟨rfl, rfl⟩ := alone.unique split
    rw [waiting]
    exact ⟨rfl, rfl, rfl⟩
  | cons fragment rest ih =>
    by_cases room : buffer.held.length + fragment.length ≤ buffer.limit
    · rw [List.flatten_cons, ← List.append_assoc] at split
      obtain ⟨first, left, soFar⟩ :=
        SplitsInto.exists_splitsInto buffer.kind (buffer.held ++ fragment)
      have drained := @drain_of_splitsInto { buffer with held := buffer.held ++ fragment } _ _ soFar
      rw [collect, push_of_le room] at fits ⊢
      match known : buffer.kind.length? left with
      | .error fault =>
        obtain ⟨rfl, rfl⟩ := (soFar.append_of_error known rest.flatten).unique split
        simp only [known] at drained
        simp only [drained, MessageKind.length?_error_append known rest.flatten, and_self]
      | .ok (some size) => exact absurd known (soFar.last size)
      | .ok none =>
        obtain ⟨later, last, onward⟩ :=
          SplitsInto.exists_splitsInto buffer.kind (left ++ rest.flatten)
        obtain ⟨rfl, rfl⟩ := (soFar.append onward).unique split
        simp only [known] at drained
        simp only [drained] at fits ⊢
        obtain ⟨messages, ends⟩ := @ih { buffer with held := left } _ known fits onward
        rw [messages]
        exact ⟨rfl, ends⟩
    · rw [collect, push_of_lt (Nat.lt_of_not_le room)] at fits
      exact absurd rfl (fits buffer.limit)

end Reassembly

open Reassembly in
/-- Two ways of cutting the same bytes come to the same, unless the limit is passed: the same
messages, and then the same fault or the same tail, from which nothing is missing. Asking
for messages always comes to an end, and no more is ever held than the limit allows. -/
theorem reassembly_of_any_cut (kind : MessageKind) (limit : Nat) {fragments others : List Bytes}
    (same : fragments.flatten = others.flatten)
    (fits : ∀ most, ((start kind limit).collect fragments).fault ≠ some (.tooLarge most))
    (otherFits : ∀ most, ((start kind limit).collect others).fault ≠ some (.tooLarge most)) :
    ((start kind limit).collect fragments).messages = ((start kind limit).collect others).messages ∧
    ((∃ fault, ((start kind limit).collect fragments).fault = some (.malformed fault) ∧
        ((start kind limit).collect others).fault = some (.malformed fault)) ∨
      ∃ tail, ((start kind limit).collect fragments).fault = none ∧
        ((start kind limit).collect others).fault = none ∧
        ((start kind limit).collect fragments).buffer.held = tail ∧
        ((start kind limit).collect others).buffer.held = tail ∧
        kind.length? tail = .ok none ∧
        ((start kind limit).collect fragments).messages.flatten ++ tail = fragments.flatten) ∧
    (∀ buffer, ∃ messages fault after,
      AskedFor buffer messages fault after ∧ messages.length ≤ buffer.held.length) ∧
    (∀ buffer, Reached kind limit buffer → buffer.held.length ≤ limit) ∧
    ∀ cut, Reached kind limit ((start kind limit).collect cut).buffer := by
  have waiting := MessageKind.length?_nil kind
  obtain ⟨messages, tail, split⟩ := SplitsInto.exists_splitsInto kind fragments.flatten
  obtain ⟨first, ends⟩ :=
    @collect_of_splitsInto (start kind limit) _ _ _ waiting fits split
  obtain ⟨second, otherEnds⟩ :=
    @collect_of_splitsInto (start kind limit) _ _ _ waiting otherFits (same ▸ split)
  refine ⟨first.trans second.symm, ?_, fun buffer => ⟨_, _, _, askedFor_drain buffer⟩,
    fun buffer reached => reached.held_le.2, Reached.start.collect⟩
  match known : kind.length? tail with
  | .error fault =>
    simp only [start, known] at ends otherEnds
    exact .inl ⟨fault, ends, otherEnds⟩
  | .ok (some size) => exact absurd known (split.last size)
  | .ok none =>
    simp only [start, known] at ends otherEnds
    refine .inr ⟨tail, ends.1, otherEnds.1, ends.2, otherEnds.2, known, ?_⟩
    rw [first, split.joined]

open Reassembly in
/-- Two responses and the start of a third, and a request with two bytes behind, each cut in
different ways. -/
theorem reassembly_of_any_cut_sample :
    ((start .response 8).collect [[0, 0], [0, 0, 0, 0], [0, 0x80]]).messages =
      ((start .response 8).collect [[0, 0, 0, 0, 0, 0, 0, 0x80]]).messages ∧
    ((start .request 9).collect [[0, 1, 104, 0, 0, 0, 0], [0, 0]]).messages =
      ((start .request 9).collect [[0, 1, 104], [0, 0, 0], [0, 0, 0]]).messages := by
  constructor
  · have same : ([[0, 0], [0, 0, 0, 0], [0, 0x80]] : List Bytes).flatten =
        [[0, 0, 0, 0, 0, 0, 0, 0x80]].flatten := rfl
    have ended : ((start .response 8).collect [[0, 0], [0, 0, 0, 0], [0, 0x80]]).fault = none := by
      decide +kernel
    have endedToo : ((start .response 8).collect [[0, 0, 0, 0, 0, 0, 0, 0x80]]).fault = none := by
      decide +kernel
    exact (reassembly_of_any_cut .response 8 same (by rw [ended]; nofun)
      (by rw [endedToo]; nofun)).1
  · have same : ([[0, 1, 104, 0, 0, 0, 0], [0, 0]] : List Bytes).flatten =
        [[0, 1, 104], [0, 0, 0], [0, 0, 0]].flatten := rfl
    have ended : ((start .request 9).collect [[0, 1, 104, 0, 0, 0, 0], [0, 0]]).fault =
        some (.malformed .emptyHost) := by
      decide +kernel
    have endedToo : ((start .request 9).collect [[0, 1, 104], [0, 0, 0], [0, 0, 0]]).fault =
        some (.malformed .emptyHost) := by
      decide +kernel
    exact (reassembly_of_any_cut .request 9 same (by rw [ended]; nofun)
      (by rw [endedToo]; nofun)).1

end CompactHttp
