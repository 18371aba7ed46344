import Mathlib.Data.List.Basic
import CompactHttp.Traffic

/-! # Deeds at one stream

A deed at an end of a stream changes nothing but that stream (`LocalNetwork.Does.inPipes`), and
there it comes to the same deed at the two pipes (`StreamPipes.Does`). What can be read has
been written: a pipe hands on fragments in order, and it refuses them only when it has been
finished or nobody reads it any more. What is written at once goes out the same fragment by
fragment (`LocalNetwork.Does.trace_of_write`).
-/

namespace CompactHttp

section Fragments

variable {size : Nat} {data fragment : Bytes}

/-- Fragments are the bytes that were cut into them. -/
theorem flatten_fragmentsOf (size : Nat) (data : Bytes) : (fragmentsOf size data).flatten = data := by
  fun_induction fragmentsOf size data with
  | case1 => rfl
  | case2 byte rest ih => rw [List.flatten_cons, ih, List.cons_append, List.take_append_drop]

theorem fragmentsOf_nil (size : Nat) : fragmentsOf size [] = [] := by
  rw [fragmentsOf]

/-- Every fragment has a byte at least. -/
theorem length_fragmentsOf_le (size : Nat) (data : Bytes) :
    (fragmentsOf size data).length ≤ data.length := by
  fun_induction fragmentsOf size data with
  | case1 => exact Nat.le_refl _
  | case2 byte rest ih =>
    rw [List.length_drop] at ih
    rw [List.length_cons, List.length_cons]
    omega

/-- A fragment is handed on as it is. -/
theorem fragmentsOf_of_mem (member : fragment ∈ fragmentsOf size data) :
    fragmentsOf size fragment = [fragment] := by
  fun_induction fragmentsOf size data with
  | case1 => cases member
  | case2 byte rest ih =>
    rcases List.mem_cons.mp member with rfl | later
    · rw [fragmentsOf, List.take_take, Nat.min_self, List.drop_take_self, fragmentsOf_nil]
    · exact ih later

/-- No fragment is empty, and none is longer than it may be. -/
theorem length_of_mem_fragmentsOf (member : fragment ∈ fragmentsOf size data) :
    1 ≤ fragment.length ∧ fragment.length ≤ max size 1 := by
  fun_induction fragmentsOf size data with
  | case1 => cases member
  | case2 byte rest ih =>
    rcases List.mem_cons.mp member with rfl | later
    · rw [List.length_cons, List.length_take]
      omega
    · exact ih later

end Fragments

namespace Pipe

variable {size : Nat} {pipe after : Pipe} {data : Bytes} {fault : TransportError}

/-- A write that succeeds leaves its fragments waiting, if there were any. -/
theorem write_eq_ok (written : pipe.write size data = (.ok (), after)) :
    pipe.isWritable = true ∧ (data = [] ∧ after = pipe ∨
      pipe.hasReader = true ∧
        after = { pipe with waiting := pipe.waiting ++ fragmentsOf size data }) := by
  unfold write at written
  split at written
  · cases written
  · next writable =>
    refine ⟨by simpa using writable, ?_⟩
    split at written
    · next nothing =>
      cases written
      exact .inl ⟨List.isEmpty_iff.mp nothing, rfl⟩
    · split at written
      · cases written
      · next reader =>
        cases written
        exact .inr ⟨by simpa using reader, rfl⟩

/-- What is written to a pipe is read from it behind what has been written before. -/
theorem flatten_write (written : pipe.write size data = (.ok (), after)) :
    after.waiting.flatten = pipe.waiting.flatten ++ data ∧
      after.isWritable = pipe.isWritable ∧ after.hasReader = pipe.hasReader := by
  obtain ⟨-, ⟨rfl, rfl⟩ | ⟨-, rfl⟩⟩ := write_eq_ok written
  · exact ⟨(List.append_nil _).symm, rfl, rfl⟩
  · rw [List.flatten_append, flatten_fragmentsOf]
    exact ⟨rfl, rfl, rfl⟩

/-- A pipe with both its ends takes what is written. -/
theorem write_of_open (size : Nat) (data : Bytes) (writable : pipe.isWritable = true)
    (reader : pipe.hasReader = true) : pipe.write size data =
      (.ok (), { pipe with waiting := pipe.waiting ++ fragmentsOf size data }) := by
  unfold write
  rw [writable, reader]
  cases data with
  | nil =>
    rw [fragmentsOf_nil, List.append_nil]
    cases pipe
    cases writable
    cases reader
    rfl
  | cons byte rest => rfl

/-- A write that fails has no writer or no reader. -/
theorem write_eq_error (failed : pipe.write size data = (.error fault, after)) :
    pipe.isWritable = false ∨ pipe.hasReader = false := by
  cases writable : pipe.isWritable with
  | false => exact .inl rfl
  | true =>
    cases reader : pipe.hasReader with
    | false => exact .inr rfl
    | true =>
      rw [write_of_open size data writable reader] at failed
      cases failed

/-- A write that fails leaves the pipe as it was. -/
theorem eq_of_write_error (failed : pipe.write size data = (.error fault, after)) :
    after = pipe := by
  unfold write at failed
  split at failed
  · cases failed
    rfl
  · split at failed
    · cases failed
    · split at failed
      · cases failed
        rfl
      · cases failed

/-- Behind its end nothing is written to a pipe. -/
theorem write_of_finished (finished : pipe.isWritable = false) :
    pipe.write size data = (.error .closed, pipe) := by
  unfold write
  rw [finished]
  rfl

/-- A write succeeds on a pipe with both its ends, and on one without a reader if there is nothing
to write. -/
theorem exists_write_iff :
    (∃ after, pipe.write size data = (.ok (), after)) ↔
      pipe.isWritable = true ∧ (data = [] ∨ pipe.hasReader = true) := by
  constructor
  · rintro ⟨after, written⟩
    obtain ⟨writable, ⟨nothing, -⟩ | ⟨reader, -⟩⟩ := write_eq_ok written
    · exact ⟨writable, .inl nothing⟩
    · exact ⟨writable, .inr reader⟩
  · rintro ⟨writable, rfl | reader⟩
    · refine ⟨pipe, ?_⟩
      unfold write
      rw [writable]
      rfl
    · exact ⟨_, write_of_open size data writable reader⟩

/-- An open pipe takes what is written, as at most so many fragments as there are bytes. -/
theorem exists_write (size : Nat) (data : Bytes) (writable : pipe.isWritable = true)
    (reader : pipe.hasReader = true) : ∃ after, pipe.write size data = (.ok (), after) ∧
      after.waiting.length ≤ pipe.waiting.length + data.length := by
  refine ⟨_, write_of_open size data writable reader, ?_⟩
  rw [List.length_append]
  exact Nat.add_le_add_left (length_fragmentsOf_le ..) _

/-- Fragments that are handed on as they are can be written one by one. -/
theorem trace_write_of_open {fragments : List Bytes}
    (single : ∀ fragment ∈ fragments, fragmentsOf size fragment = [fragment])
    (writable : pipe.isWritable = true) (reader : pipe.hasReader = true) :
    Trace (fun before fragment after => before.write size fragment = (.ok (), after)) pipe
      fragments { pipe with waiting := pipe.waiting ++ fragments } := by
  induction fragments generalizing pipe with
  | nil =>
    rw [List.append_nil]
    exact .nil pipe
  | cons fragment rest ih =>
    obtain ⟨first, others⟩ := List.forall_mem_cons.mp single
    have written := write_of_open size fragment writable reader
    rw [first] at written
    have onward := @ih { pipe with waiting := pipe.waiting ++ [fragment] } others writable reader
    rw [List.append_assoc] at onward
    exact .cons written onward

/-- Writing bytes is writing their fragments one after the other. -/
theorem trace_of_write (written : pipe.write size data = (.ok (), after)) :
    Trace (fun before fragment after => before.write size fragment = (.ok (), after)) pipe
      (fragmentsOf size data) after := by
  obtain ⟨writable, ⟨rfl, rfl⟩ | ⟨reader, rfl⟩⟩ := write_eq_ok written
  · rw [fragmentsOf_nil]
    exact .nil after
  · exact trace_write_of_open (fun _ member => fragmentsOf_of_mem member) writable reader

/-- What has waited longest is read first. -/
theorem read_of_waiting {data : Bytes} {rest : List Bytes} (waiting : pipe.waiting = data :: rest) :
    pipe.read = (.fragment data, { pipe with waiting := rest }) := by
  unfold read
  rw [waiting]

/-- A fragment that is read was the first that waited. -/
theorem read_eq_fragment (taken : pipe.read = (.fragment data, after)) :
    ∃ rest, pipe.waiting = data :: rest ∧ after = { pipe with waiting := rest } := by
  unfold read at taken
  split at taken
  · next fragment rest waiting =>
    cases taken
    exact ⟨rest, waiting, rfl⟩
  · split at taken <;> cases taken

/-- The end is read when nothing waits and nothing will come. -/
theorem read_eq_finished (ended : pipe.read = (.finished, after)) :
    pipe.waiting = [] ∧ pipe.isWritable = false ∧ after = pipe := by
  unfold read at ended
  split at ended
  · cases ended
  · next waiting =>
    split at ended
    · cases ended
    · next writable =>
      cases ended
      exact ⟨waiting, by simpa using writable, rfl⟩

end Pipe

namespace StreamPipes

variable (pipes : StreamPipes) (pipe other : Pipe) (side : Side)

@[simp] theorem outgoing_setOutgoing : (pipes.setOutgoing pipe side).outgoing side = pipe := by
  cases side <;> rfl

@[simp] theorem setOutgoing_outgoing : pipes.setOutgoing (pipes.outgoing side) side = pipes := by
  cases side <;> rfl

@[simp] theorem setOutgoing_setOutgoing :
    (pipes.setOutgoing pipe side).setOutgoing other side = pipes.setOutgoing other side := by
  cases side <;> rfl

end StreamPipes

/-- What becomes of the pipes of a stream by a deed at one of its ends. -/
inductive StreamPipes.Does (size : Nat) (pipes : StreamPipes) (side : Side) :
    Deed → StreamPipes → Prop where
  | wrote {data : Bytes} {pipe : Pipe} :
      (pipes.outgoing side).write size data = (.ok (), pipe) →
      Does size pipes side (.wrote data) (pipes.setOutgoing pipe side)
  | failed {data : Bytes} {fault : TransportError} {pipe : Pipe} :
      (pipes.outgoing side).write size data = (.error fault, pipe) →
      Does size pipes side (.failed data fault) (pipes.setOutgoing pipe side)
  | read {data : Bytes} {pipe : Pipe} :
      (pipes.incoming side).read = (.fragment data, pipe) →
      Does size pipes side (.read data) (pipes.setIncoming pipe side)
  | sawEnd {pipe : Pipe} :
      (pipes.incoming side).read = (.finished, pipe) →
      Does size pipes side .sawEnd (pipes.setIncoming pipe side)
  | finished : Does size pipes side .finished
      (pipes.setOutgoing (pipes.outgoing side).finish side)
  | left : Does size pipes side .left (pipes.leave side)

namespace LocalNetwork.Does

variable {network after : LocalNetwork} {stream : StreamEnd} {deed : Deed} {pipes : StreamPipes}

/-- A deed at a stream changes the pipes of that stream, and nothing else. -/
theorem inPipes (does : network.Does stream deed after)
    (here : network.streams[stream.number]? = some pipes) :
    ∃ changed, pipes.Does network.fragmentSize stream.side deed changed ∧
      after = { network with streams := network.streams.set stream.number changed } := by
  cases does with
  | wrote written =>
    unfold write at written
    simp only [here, Prod.mk.injEq] at written
    obtain ⟨ok, rfl⟩ := written
    exact ⟨_, .wrote (Prod.ext ok rfl), rfl⟩
  | failed failed =>
    unfold write at failed
    simp only [here, Prod.mk.injEq] at failed
    obtain ⟨error, rfl⟩ := failed
    exact ⟨_, .failed (Prod.ext error rfl), rfl⟩
  | read taken =>
    unfold LocalNetwork.read at taken
    simp only [here, Prod.mk.injEq] at taken
    obtain ⟨fragment, rfl⟩ := taken
    exact ⟨_, .read (Prod.ext fragment rfl), rfl⟩
  | sawEnd ended =>
    unfold LocalNetwork.read at ended
    simp only [here, Prod.mk.injEq] at ended
    obtain ⟨past, rfl⟩ := ended
    exact ⟨_, .sawEnd (Prod.ext past rfl), rfl⟩
  | finished =>
    refine ⟨_, .finished, ?_⟩
    unfold finish
    rw [List.modify_eq_set_getElem?, here]
    rfl
  | left =>
    refine ⟨_, .left, ?_⟩
    unfold leave
    rw [List.modify_eq_set_getElem?, here]
    rfl

/-- What can be done at the pipes of a stream can be done on the network. -/
theorem of_pipes {changed : StreamPipes} (here : network.streams[stream.number]? = some pipes)
    (does : pipes.Does network.fragmentSize stream.side deed changed) :
    network.Does stream deed
      { network with streams := network.streams.set stream.number changed } := by
  cases does with
  | wrote written =>
    refine .wrote ?_
    simp only [write, here, written]
  | failed failed =>
    refine .failed ?_
    simp only [write, here, failed]
  | read taken =>
    refine .read ?_
    simp only [LocalNetwork.read, here, taken]
  | sawEnd ended =>
    refine .sawEnd ?_
    simp only [LocalNetwork.read, here, ended]
  | finished =>
    have done := @Does.finished network stream
    unfold finish at done
    rwa [List.modify_eq_set_getElem?, here] at done
  | left =>
    have done := @Does.left network stream
    unfold leave at done
    rwa [List.modify_eq_set_getElem?, here] at done

/-- Fragments that can be written to a pipe can be written at the end of its stream. -/
theorem trace_wrote {size : Nat} {fragments : List Bytes} {pipe last : Pipe}
    (writes : Trace (fun before fragment after => before.write size fragment = (.ok (), after))
      pipe fragments last) (sized : network.fragmentSize = size)
    (here : network.streams[stream.number]? = some pipes)
    (outgoing : pipes.outgoing stream.side = pipe) :
    Trace (fun network deed after => Does network stream deed after) network
      (fragments.map .wrote) { network with
        streams := network.streams.set stream.number (pipes.setOutgoing last stream.side) } := by
  induction writes generalizing network pipes with
  | nil =>
    obtain ⟨inside, rfl⟩ := List.getElem?_eq_some_iff.mp here
    subst outgoing
    rw [StreamPipes.setOutgoing_outgoing, List.set_getElem_self]
    exact .nil network
  | @cons first second last fragment rest written _ ih =>
    subst outgoing sized
    have there : (network.streams.set stream.number
        (pipes.setOutgoing second stream.side))[stream.number]? =
          some (pipes.setOutgoing second stream.side) :=
      List.getElem?_set_self (List.getElem?_eq_some_iff.mp here).1
    have onward := @ih { network with
      streams := network.streams.set stream.number (pipes.setOutgoing second stream.side) } _ rfl
      there (pipes.outgoing_setOutgoing second stream.side)
    rw [StreamPipes.setOutgoing_setOutgoing, List.set_set] at onward
    exact .cons (of_pipes here (.wrote written)) onward

/-- What is written at once goes out the same fragment by fragment. -/
theorem trace_of_write {data : Bytes} (here : network.streams[stream.number]? = some pipes)
    (written : network.write stream data = (.ok (), after)) :
    Trace (fun network deed after => Does network stream deed after) network
      ((fragmentsOf network.fragmentSize data).map .wrote) after := by
  unfold write at written
  simp only [here, Prod.mk.injEq] at written
  obtain ⟨ok, rfl⟩ := written
  exact trace_wrote (Pipe.trace_of_write (Prod.ext ok rfl)) rfl here rfl

end LocalNetwork.Does

end CompactHttp
