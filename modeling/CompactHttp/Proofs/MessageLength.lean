import CompactHttp.Proofs.Messages

/-! # What more bytes say about the length of a message

Once the length of a message is known, or it is known that there is none, further bytes do
not change that. Before that the bytes are a proper prefix of a message, unless they
announce a host that no request can go to, so waiting for more is never hopeless.
-/

namespace CompactHttp

namespace Framing

/-- Parts can be ruled out only once the length of the first of them is there. -/
theorem announced_of_skipParts_error {count : Nat} {data : Bytes} {fault : FormatError}
    (failed : skipParts count data = .error fault) :
    Varint.decode data ≠ .error .incomplete := by
  intro broken
  cases count with
  | zero => cases failed
  | succ count =>
    have waiting : skipParts (count + 1) data = .ok none := BreaksOff.skipParts (.here broken)
    rw [waiting] at failed
    cases failed

end Framing

namespace MessageKind

variable {kind : MessageKind} {data : Bytes} {size : Nat} {fault : FormatError}

/-- Of nothing the length is not known. -/
theorem length?_nil (kind : MessageKind) : kind.length? [] = .ok none := by cases kind <;> rfl

/-- A length that is known stays the same whatever comes behind. -/
theorem length?_append (known : kind.length? data = .ok (some size)) (more : Bytes) :
    kind.length? (data ++ more) = .ok (some size) := by
  obtain ⟨inside, first, parts, here⟩ := length?_eq_some_iff.mp known
  have both := (here.append more).length?
  rw [List.length_append, List.length_append, List.length_drop] at both
  rw [both]
  congr 2
  omega

/-- What has no length gets none by what comes behind. -/
theorem length?_error_append (failed : kind.length? data = .error fault) (more : Bytes) :
    kind.length? (data ++ more) = .error fault := by
  match data with
  | [] => cases kind <;> cases failed
  | first :: tail =>
    rw [length?_cons] at failed
    rw [List.cons_append, length?_cons]
    rcases bind_eq_error_iff.mp failed with refused | ⟨⟨⟩, allowed, failed⟩
    · rw [screen_error_append refused more]
      rfl
    · -- Parts are ruled out only behind the length of a host, which is then judged for good.
      have skipped := map_eq_error_iff.mp failed
      have announced := Framing.announced_of_skipParts_error skipped
      rw [screen_append (fun _ => announced), allowed,
        Framing.skipParts_error_append skipped more]
      rfl

/-- The bytes of a message are enough to know how long it is. -/
theorem length?_take (known : kind.length? data = .ok (some size)) :
    kind.length? (data.take size) = .ok (some size) := by
  obtain ⟨inside, first, parts, here⟩ := length?_eq_some_iff.mp known
  have alone := (here.take rfl).length?
  rwa [List.length_nil, Nat.sub_zero, List.length_take, Nat.min_eq_left inside] at alone

/-- A length is known from the bytes that it counts, without those behind. -/
theorem length?_prefix_of_le {front : Bytes} (known : kind.length? data = .ok (some size))
    (begins : front <+: data) (long : size ≤ front.length) :
    kind.length? front = .ok (some size) := by
  have inside : data.take size <+: front := by
    refine List.prefix_of_prefix_length_le (List.take_prefix size data) begins ?_
    exact Nat.le_trans (List.length_take_le size data) long
  obtain ⟨more, rfl⟩ := inside
  exact length?_append (length?_take known) more

/-- Less than the bytes of a message are neither a message nor refused. -/
theorem length?_prefix_of_lt {front : Bytes} (known : kind.length? data = .ok (some size))
    (begins : front <+: data) (short : front.length < size) :
    kind.length? front = .ok none := by
  obtain ⟨more, rfl⟩ := begins
  -- Any other answer would be that of the whole of `data` as well.
  match early : kind.length? front with
  | .ok none => rfl
  | .ok (some sooner) =>
    rw [length?_append early more] at known
    cases known
    have := (length?_bounds early).2
    omega
  | .error fault =>
    rw [length?_error_append early more] at known
    cases known

/-- As long as it is not known how long a message is, it has not been known before. -/
theorem length?_prefix_of_none {front : Bytes} (unknown : kind.length? data = .ok none)
    (begins : front <+: data) : kind.length? front = .ok none := by
  obtain ⟨more, rfl⟩ := begins
  match known : kind.length? front with
  | .error fault => cases (length?_error_append known more).symm.trans unknown
  | .ok (some size) => cases (length?_append known more).symm.trans unknown
  | .ok none => rfl

/-- If the length is not known yet, some bytes can make it known; of a request the length of its
host must have come. -/
theorem length?_completable (unknown : kind.length? data = .ok none)
    (announced : kind = .request → ∃ read, Varint.decodeAt data 1 = .ok read) :
    ∃ more size, kind.length? (data ++ more) = .ok (some size) := by
  match data with
  | [] =>
    cases kind with
    | request =>
      obtain ⟨read, absurdly⟩ := announced rfl
      cases absurdly
    | response =>
      have smallest : MessageAt .response [0, 0, 0] 0 [[], []] [] :=
        .mk rfl rfl (Framing.partsAt_replicate 2)
      exact ⟨[0, 0, 0], 3, smallest.length?⟩
  | first :: tail =>
    rw [length?_cons] at unknown
    obtain ⟨⟨⟩, allowed, unknown⟩ := bind_eq_ok_iff.mp unknown
    obtain ⟨left, skipped, missing⟩ := map_eq_ok_iff.mp unknown
    obtain rfl := Option.map_eq_none_iff.mp missing
    obtain ⟨more, parts, counted, partsHere⟩ := Framing.skipParts_completable skipped
    have stillAllowed : kind.screen first (tail ++ more) = .ok () := by
      rw [screen_append (fun request broken => ?_), allowed]
      obtain ⟨read, hostRead⟩ := announced request
      obtain ⟨found, there, -⟩ := map_eq_ok_iff.mp hostRead
      rw [List.drop_one, List.tail_cons, broken] at there
      cases there
    have whole : MessageAt kind (first :: (tail ++ more)) first parts [] :=
      .mk stillAllowed counted partsHere
    exact ⟨more, _, whole.length?⟩

/-- The length of a message is settled by its own bytes, neither sooner nor later; that bytes
begin no message is settled too; and what is not settled yet can still become a message. -/
theorem length?_settled (kind : MessageKind) (data : Bytes) :
    (∀ size, kind.length? data = .ok (some size) →
      (∀ more, kind.length? (data ++ more) = .ok (some size)) ∧
      ∀ front, front <+: data →
        (size ≤ front.length → kind.length? front = .ok (some size)) ∧
        (front.length < size → kind.length? front = .ok none)) ∧
    (∀ fault, kind.length? data = .error fault →
      ∀ more, kind.length? (data ++ more) = .error fault) ∧
    (kind.length? data = .ok none →
      (kind = .request → ∃ read, Varint.decodeAt data 1 = .ok read) →
      ∃ more size, kind.length? (data ++ more) = .ok (some size)) := by
  refine ⟨fun size known => ⟨length?_append known, fun front begins => ?_⟩,
    fun fault failed => length?_error_append failed, length?_completable⟩
  exact ⟨length?_prefix_of_le known begins, length?_prefix_of_lt known begins⟩

/-- A request with its host in two bytes and two bytes behind it, one whose host has not come, one
without a host, and the beginnings of a request and a response. -/
theorem length?_settled_sample :
    MessageKind.request.length? ([0, 0x81, 0, 104, 0, 0, 0] ++ [7, 7]) = .ok (some 7) ∧
    MessageKind.request.length? [0, 0x81] = .ok none ∧
    MessageKind.request.length? ([0, 0] ++ [7]) = .error .emptyHost ∧
    (∃ more size, MessageKind.request.length? ([0, 1] ++ more) = .ok (some size)) ∧
    ∃ more size, MessageKind.response.length? ([] ++ more) = .ok (some size) := by
  have known : MessageKind.request.length? [0, 0x81, 0, 104, 0, 0, 0] = .ok (some 7) := rfl
  obtain ⟨extended, cut⟩ := (length?_settled .request [0, 0x81, 0, 104, 0, 0, 0]).1 7 known
  refine ⟨extended [7, 7], (cut [0, 0x81] (by decide)).2 (by decide), ?_, ?_, ?_⟩
  · exact (length?_settled .request [0, 0]).2.1 .emptyHost rfl [7]
  · exact (length?_settled .request [0, 1]).2.2 rfl fun _ => ⟨(1, 1), rfl⟩
  · exact (length?_settled .response []).2.2 rfl fun isRequest => nomatch isRequest

end MessageKind

end CompactHttp
