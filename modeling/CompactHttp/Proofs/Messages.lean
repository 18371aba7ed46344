import CompactHttp.Proofs.FirstByte
import CompactHttp.Proofs.HeaderBlocks

/-! # Messages as parts behind a first byte

A message is its first byte and its parts. Where one stands (`MessageAt`) is the same for
the length of a message (`MessageKind.length?_eq_some_iff`) and for its reading
(`Request.decodeFront_of_messageAt`, `Response.decodeFront_of_messageAt`), which then only
interprets the parts: it can fail over a text or over the header block, and over nothing
else.
-/

namespace CompactHttp

namespace MessageKind

/-- How many parts a message of this kind has. -/
def partCount : MessageKind → Nat
  | request => 4
  | response => 2

/-- What the first byte and the length behind it rule out by themselves: a request with no
method, or one to an impossible host. -/
def screen : MessageKind → (first : UInt8) → (tail : Bytes) → Except FormatError Unit
  | request, first, tail =>
    if 6 < Request.methodBits first then .error (.unknownMethod (Request.methodBits first))
    else Framing.checkHost tail
  | response, _, _ => .ok ()

/-- The length of a message is found by skipping its parts, if its first bytes are allowed. -/
theorem length?_cons (kind : MessageKind) (first : UInt8) (tail : Bytes) :
    kind.length? (first :: tail) = kind.screen first tail >>= fun _ =>
      (Framing.skipParts kind.partCount tail).map fun left =>
        left.map fun rest => (first :: tail).length - rest.length := by
  cases kind with
  | request =>
    simp only [length?, Request.length?, screen, partCount]
    by_cases noMethod : 6 < Request.methodBits first
    · simp only [noMethod, ↓reduceIte]
      rfl
    · simp only [noMethod, ↓reduceIte]
      cases Framing.checkHost tail <;> rfl
  | response => rfl

end MessageKind

/-- A message of a kind stands at the front of a byte string: its first byte, its parts, and
`rest` behind them. -/
inductive MessageAt (kind : MessageKind) :
    (data : Bytes) → (first : UInt8) → (parts : List Bytes) → (rest : Bytes) → Prop where
  | mk {first : UInt8} {tail rest : Bytes} {parts : List Bytes} :
      kind.screen first tail = .ok () → parts.length = kind.partCount → PartsAt tail parts rest →
      MessageAt kind (first :: tail) first parts rest

namespace Framing

variable {data part rest : Bytes}

/-- A host that is there is refused for its length only. -/
theorem checkHost_of_partAt (here : PartAt data part rest) :
    checkHost data = if part.length = 0 then .error .emptyHost
      else if Request.maxHostSize < part.length then
        .error (.hostTooLong part.length Request.maxHostSize)
      else .ok () := by
  unfold checkHost
  rw [here]

/-- A host whose length has not come is not refused. -/
theorem checkHost_of_incomplete (broken : Varint.decode data = .error .incomplete) :
    checkHost data = .ok () := by
  unfold checkHost
  rw [broken]

/-- A host whose length is there is judged for good. -/
theorem checkHost_append (announced : Varint.decode data ≠ .error .incomplete) (more : Bytes) :
    checkHost (data ++ more) = checkHost data := by
  unfold checkHost
  match read : Varint.decode data with
  | .error .incomplete => exact absurd read announced
  | .error .overflow => rw [Varint.decode_overflow_append read]
  | .ok (length, behind) => rw [Varint.decode_append read]

end Framing

namespace MessageKind

variable {kind : MessageKind} {first : UInt8} {tail : Bytes} {fault : FormatError}

/-- Whether a message is allowed does not depend on what is behind its parts. -/
theorem screen_of_partsAt {other rest otherRest : Bytes} {parts : List Bytes}
    (counted : parts.length = kind.partCount) (here : PartsAt tail parts rest)
    (there : PartsAt other parts otherRest) :
    kind.screen first tail = kind.screen first other := by
  cases kind with
  | response => rfl
  | request =>
    cases here with
    | nil => cases counted
    | cons firstHere _ =>
      cases there with
      | cons firstThere _ =>
        simp only [screen, Framing.checkHost_of_partAt firstHere,
          Framing.checkHost_of_partAt firstThere]

/-- Once the length of the host has come nothing behind it changes what is allowed. -/
theorem screen_append (announced : kind = .request → Varint.decode tail ≠ .error .incomplete)
    (more : Bytes) : kind.screen first (tail ++ more) = kind.screen first tail := by
  cases kind with
  | response => rfl
  | request => simp only [screen, Framing.checkHost_append (announced rfl)]

/-- Nothing is ruled out before the length of the host is there, except by the first byte. -/
theorem screen_error_append (failed : kind.screen first tail = .error fault) (more : Bytes) :
    kind.screen first (tail ++ more) = .error fault := by
  by_cases announced : Varint.decode tail = .error .incomplete
  · cases kind with
    | response => cases failed
    | request =>
      have waiting := Framing.checkHost_of_incomplete announced
      by_cases noMethod : 6 < Request.methodBits first
      · simp only [screen, noMethod, ↓reduceIte] at failed ⊢
        exact failed
      · simp only [screen, noMethod, ↓reduceIte, waiting, reduceCtorEq] at failed
  · rw [screen_append fun _ => announced, failed]

end MessageKind

namespace MessageAt

variable {kind : MessageKind} {data rest : Bytes} {first : UInt8} {parts : List Bytes}
  (here : MessageAt kind data first parts rest)

include here

/-- The bytes of a message hold it whatever stands behind them. -/
theorem front :
    ∃ front, data = front ++ rest ∧ ∀ more, MessageAt kind (front ++ more) first parts more := by
  obtain ⟨allowed, counted, partsHere⟩ := here
  obtain ⟨front, rfl, again⟩ := partsHere.front
  refine ⟨first :: front, rfl, fun more => .mk ?_ counted (again more)⟩
  exact (MessageKind.screen_of_partsAt counted (again more) partsHere).trans allowed

/-- Where a message stands it stands whatever comes behind it. -/
theorem append (more : Bytes) : MessageAt kind (data ++ more) first parts (rest ++ more) := by
  obtain ⟨front, rfl, again⟩ := here.front
  rw [List.append_assoc]
  exact again (rest ++ more)

/-- The bytes of a message alone hold it. -/
theorem take {size : Nat} (behind : rest = data.drop size) :
    MessageAt kind (data.take size) first parts [] := by
  subst behind
  obtain ⟨front, split, again⟩ := here.front
  have whole := (List.take_append_drop size data).trans split
  obtain rfl := List.append_cancel_right whole
  have alone := again []
  rwa [List.append_nil] at alone

/-- The length of a message that is there is where it ends. -/
theorem length? : kind.length? data = .ok (some (data.length - rest.length)) := by
  obtain ⟨allowed, counted, partsHere⟩ := here
  have skipped := partsHere.skipParts 0
  rw [Nat.add_zero, counted] at skipped
  rw [MessageKind.length?_cons, allowed, skipped]
  rfl

/-- Where a first byte and parts were written, a message takes all of them. -/
theorem length?_of_written {start : UInt8} {written : List Bytes}
    (behind : data = start :: written.flatMap lengthPrefixed)
    (counted : written.length = kind.partCount) : kind.length? data = .ok (some data.length) := by
  have sized := here.length?
  obtain ⟨_, partCount, partsHere⟩ := here
  cases behind
  obtain ⟨-, rfl⟩ := partsHere.of_flatMap (List.append_nil _).symm (partCount.trans counted.symm)
  exact sized

end MessageAt

namespace MessageKind

variable {kind : MessageKind} {data : Bytes} {size : Nat} {fault : FormatError}

/-- A message is as long as what stands before the bytes behind it. -/
theorem length?_eq_some_iff : kind.length? data = .ok (some size) ↔
    size ≤ data.length ∧ ∃ first parts, MessageAt kind data first parts (data.drop size) := by
  constructor
  · intro known
    match data with
    | [] => cases kind <;> cases known
    | first :: tail =>
      rw [length?_cons, bind_eq_ok_iff] at known
      obtain ⟨_, allowed, known⟩ := known
      obtain ⟨left, skipped, sized⟩ := map_eq_ok_iff.mp known
      obtain ⟨rest, rfl, rfl⟩ := Option.map_eq_some_iff.mp sized
      obtain ⟨parts, counted, partsHere⟩ := Framing.skipParts_eq_some_iff.mp skipped
      have here : MessageAt kind (first :: tail) first parts rest :=
        .mk allowed counted partsHere
      obtain ⟨front, split, -⟩ := here.front
      refine ⟨Nat.sub_le .., first, parts, ?_⟩
      have behind : (first :: tail).drop ((first :: tail).length - rest.length) = rest := by
        rw [split, List.length_append, Nat.add_sub_cancel, List.drop_left]
      rwa [behind]
  · rintro ⟨inside, first, parts, here⟩
    rw [here.length?, List.length_drop]
    congr 2
    omega

end MessageKind

/-- The header block and the body at the front of a byte string, and the bytes after them. -/
def takeContent (table : HeaderTable) (data : Bytes) :
    Except FormatError ((Headers × Bytes) × Bytes) := do
  let (block, rest) ← takePart .headers data
  let headers ← HeaderBlock.decode table block
  let (body, rest) ← takePart .body rest
  return ((headers, body), rest)

section Content

variable {table : HeaderTable} {data rest : Bytes}

/-- Headers and body are taken from the two parts that they stand in. -/
theorem takeContent_of_partsAt {block body : Bytes} (here : PartsAt data [block, body] rest) :
    takeContent table data =
      (HeaderBlock.decode table block).map fun headers => ((headers, body), rest) := by
  obtain _ | ⟨blockHere, _ | ⟨bodyHere, ⟨⟩⟩⟩ := here
  unfold takeContent
  rw [blockHere.takePart .headers]
  cases read : HeaderBlock.decode table block with
  | error fault =>
    simp only [bind, Except.bind, read]
    rfl
  | ok headers =>
    simp only [bind, Except.bind, read, bodyHere.takePart .body]
    rfl

/-- Headers and body that are taken stand in two parts. -/
theorem partsAt_of_takeContent {headers : Headers} {body : Bytes}
    (taken : takeContent table data = .ok ((headers, body), rest)) :
    ∃ block, PartsAt data [block, body] rest := by
  unfold takeContent at taken
  obtain ⟨⟨block, behind⟩, blockTaken, taken⟩ := bind_eq_ok_iff.mp taken
  obtain ⟨_, _, taken⟩ := bind_eq_ok_iff.mp taken
  obtain ⟨⟨bytes, left⟩, bodyTaken, taken⟩ := bind_eq_ok_iff.mp taken
  cases taken
  exact ⟨block, .cons ((takePart_eq_ok_iff _).mp blockTaken)
    (.cons ((takePart_eq_ok_iff _).mp bodyTaken) (.nil rest))⟩

/-- Some parts, fewer than `count`, are there, and the length of the next one breaks off. -/
def BreaksOff (count : Nat) (data : Bytes) : Prop :=
  ∃ parts behind, parts.length < count ∧ PartsAt data parts behind ∧
    Varint.decode behind = .error .incomplete

/-- Parts that break off do so behind another one as well. -/
theorem BreaksOff.cons {count : Nat} {part behind : Bytes} (here : PartAt data part behind)
    (broken : BreaksOff count behind) : BreaksOff (count + 1) data := by
  obtain ⟨parts, last, fewer, others, stopped⟩ := broken
  exact ⟨part :: parts, last, Nat.succ_lt_succ fewer, .cons here others, stopped⟩

/-- A length that breaks off is that of the first part that is not there. -/
theorem BreaksOff.here {count : Nat} (stopped : Varint.decode data = .error .incomplete) :
    BreaksOff (count + 1) data :=
  ⟨[], data, Nat.succ_pos count, .nil data, stopped⟩

/-- Headers and body that are incomplete break off in one of two parts. -/
theorem breaksOff_of_takeContent (broken : takeContent table data = .error .incomplete) :
    BreaksOff 2 data := by
  unfold takeContent at broken
  rcases bind_eq_error_iff.mp broken with stopped | ⟨⟨block, behind⟩, blockTaken, broken⟩
  · exact .here (decode_of_takePart_incomplete stopped)
  · refine .cons ((takePart_eq_ok_iff _).mp blockTaken) ?_
    rcases bind_eq_error_iff.mp broken with stopped | ⟨headers, -, broken⟩
    · cases HeaderBlock.fault_of_decode stopped
    · rcases bind_eq_error_iff.mp broken with stopped | ⟨_, -, broken⟩
      · exact .here (decode_of_takePart_incomplete stopped)
      · cases broken

/-- Parts of which one breaks off are not all there. -/
theorem BreaksOff.skipParts {count : Nat} (broken : BreaksOff count data) :
    Framing.skipParts count data = .ok none := by
  obtain ⟨parts, behind, fewer, here, stopped⟩ := broken
  obtain ⟨more, rfl⟩ := Nat.exists_eq_add_of_lt fewer
  have missing : Framing.skipPart behind = .ok none := by
    unfold Framing.skipPart
    rw [stopped]
  rw [Nat.add_assoc, here.skipParts, Framing.skipParts, missing]

end Content

end CompactHttp
