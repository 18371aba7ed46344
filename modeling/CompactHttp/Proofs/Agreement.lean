import CompactHttp.Proofs.MessageLength
import CompactHttp.Proofs.Reading

/-! # The length of a message agrees with its reading

The length of a message is found by skipping its parts, its content by reading them, and a
host is checked before it is there in the one case and after in the other. Still what can
be read has a length, what has a length can be read unless its content is at fault, what
can have no length cannot be read, and a reading that lacks bytes has no length yet.
-/

namespace CompactHttp

namespace MessageKind

variable {kind : MessageKind} {data : Bytes} {size : Nat} {fault : FormatError}

/-- What can be read ends where its length says. -/
theorem length?_of_decode {message : kind.Message} (read : kind.decode data = .ok message) :
    ∃ size, kind.length? data = .ok (some size) ∧ size ≤ data.length ∧
      kind.decodeFront data = .ok (message, data.drop size) := by
  rw [decode_eq_map] at read
  obtain ⟨⟨_, rest⟩, front, rfl⟩ := map_eq_ok_iff.mp read
  obtain ⟨first, parts, here⟩ := messageAt_of_decodeFront front
  obtain ⟨own, rfl, -⟩ := here.front
  have known := here.length?
  rw [List.length_append, Nat.add_sub_cancel] at known
  refine ⟨own.length, known, ?_, ?_⟩
  · rw [List.length_append]
    exact Nat.le_add_right ..
  · rwa [List.drop_left]

/-- A message of known length is read from its own bytes, and only its content can be at
fault. -/
theorem decode_of_length? (known : kind.length? data = .ok (some size)) :
    kind.decode data = kind.decode (data.take size) ∧
      ∃ first parts block, MessageAt kind data first parts (data.drop size) ∧
        parts[kind.blockIndex]? = some block ∧
        ∀ fault, kind.decode data = .error fault → ContentFault kind.headerTable block fault := by
  obtain ⟨_, first, parts, here⟩ := length?_eq_some_iff.mp known
  obtain ⟨outcome, block, indexed, reading, faults⟩ := decodeFront_of_messageAt here
  have decoded {bytes rest : Bytes} (there : MessageAt kind bytes first parts rest) :
      kind.decode bytes = outcome := by
    rw [decode_eq_map, reading bytes rest there]
    cases outcome <;> rfl
  refine ⟨(decoded here).trans (decoded (here.take rfl)).symm, first, parts, block, here,
    indexed, ?_⟩
  intro fault failed
  exact faults fault ((decoded here).symm.trans failed)

/-- What begins no message cannot be read, whatever follows. -/
theorem decode_of_length?_error (failed : kind.length? data = .error fault) (more : Bytes) :
    ∃ other, kind.decode (data ++ more) = .error other := by
  match read : kind.decode (data ++ more) with
  | .error other => exact ⟨other, rfl⟩
  | .ok message =>
    obtain ⟨size, known, -⟩ := length?_of_decode read
    rw [length?_error_append failed more] at known
    cases known

/-- A reading that lacks bytes has no length yet. -/
theorem length?_of_decode_incomplete (broken : kind.decode data = .error .incomplete) :
    kind.length? data = .ok none := by
  rw [decode_eq_map] at broken
  obtain ⟨first, tail, rfl, allowed, stopped⟩ :=
    breaksOff_of_decodeFront (map_eq_error_iff.mp broken)
  rw [length?_cons, allowed, stopped.skipParts]
  rfl

/-- The length of a message and its reading agree on every byte string. Only the content of
a message of known length can be at fault: its version always fits, and it neither lacks
bytes nor has no method or host. -/
theorem length?_agrees_decode (kind : MessageKind) (data : Bytes) :
    (∀ message, kind.decode data = .ok message →
      ∃ size, kind.length? data = .ok (some size) ∧ size ≤ data.length ∧
        kind.decodeFront data = .ok (message, data.drop size)) ∧
    (∀ size, kind.length? data = .ok (some size) →
      kind.decode data = kind.decode (data.take size) ∧
      ∃ first parts block, MessageAt kind data first parts (data.drop size) ∧
        parts[kind.blockIndex]? = some block ∧ versionBits first ≤ 3 ∧
        ∀ fault, kind.decode data = .error fault → ContentFault kind.headerTable block fault) ∧
    (∀ fault, kind.length? data = .error fault →
      ∀ more, ∃ other, kind.decode (data ++ more) = .error other) ∧
    (kind.decode data = .error .incomplete → kind.length? data = .ok none) := by
  refine ⟨fun _ => length?_of_decode, fun size known => ?_,
    fun _ => decode_of_length?_error, length?_of_decode_incomplete⟩
  obtain ⟨same, first, parts, block, here, indexed, faults⟩ := decode_of_length? known
  exact ⟨same, first, parts, block, here, indexed, versionBits_le first, faults⟩

/-- A response with a byte behind it, a request with and without one, a request without a host, and
one whose host has not come. -/
theorem length?_agrees_decode_sample :
    (∃ size, MessageKind.response.length? [0, 0, 0, 7] = .ok (some size) ∧
      size ≤ ([0, 0, 0, 7] : Bytes).length ∧
      Response.decodeFront [0, 0, 0, 7] =
        .ok (⟨0, 200, .empty, []⟩, ([0, 0, 0, 7] : Bytes).drop size)) ∧
    Request.decode [0, 1, 104, 0, 0, 0, 7] = Request.decode [0, 1, 104, 0, 0, 0] ∧
    (∃ other, Request.decode ([0, 0] ++ [7]) = .error other) ∧
    MessageKind.request.length? [0, 0x80] = .ok none := by
  have here : MessageAt .response [0, 0, 0, 7] 0 [[], []] [7] :=
    .mk rfl rfl (.cons rfl (.cons rfl (.nil [7])))
  have read : Response.decode [0, 0, 0, 7] = .ok ⟨0, 200, .empty, []⟩ := by
    unfold Response.decode
    rw [Response.decodeFront_of_messageAt here, Response.ofParts, HeaderBlock.decode,
      HeaderBlock.decodeEntries]
    rfl
  refine ⟨?_, ?_, ?_, ?_⟩
  · exact (length?_agrees_decode .response [0, 0, 0, 7]).1 _ read
  · exact ((length?_agrees_decode .request [0, 1, 104, 0, 0, 0, 7]).2.1 6 rfl).1
  · exact (length?_agrees_decode .request [0, 0]).2.2.1 .emptyHost rfl [7]
  · exact (length?_agrees_decode .request [0, 0x80]).2.2.2 rfl

end MessageKind

end CompactHttp
