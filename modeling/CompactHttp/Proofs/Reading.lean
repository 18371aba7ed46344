import CompactHttp.Proofs.Messages

/-! # Reading a message and finding its end

Where the end of a message is known, reading it interprets its parts and nothing else
(`MessageKind.decodeFront_of_messageAt`). What has been read stood there as a message
(`MessageKind.messageAt_of_decodeFront`), and a reading that runs out of bytes runs out of
them inside a length of one of the parts (`MessageKind.breaksOff_of_decodeFront`).
-/

namespace CompactHttp

/-- The faults that a message which is all there can still have: a text that is none, a
header byte of no row, or a length in its header block that is broken. -/
inductive ContentFault (table : HeaderTable) (block : Bytes) : FormatError → Prop where
  | notText (part : MessagePart) : ContentFault table block (.notText part)
  | unknownHeader (id : UInt8) : ContentFault table block (.unknownHeader id)
  | lengthOverflow : HeaderBlock.decode table block = .error .lengthOverflow →
      ContentFault table block .lengthOverflow
  | partTooLong {part : MessagePart} :
      HeaderBlock.decode table block = .error (.partTooLong part) →
      ContentFault table block (.partTooLong part)

/-- What is wrong with a header block is wrong with the message. -/
theorem ContentFault.of_decode {table : HeaderTable} {block : Bytes} {fault : FormatError}
    (failed : HeaderBlock.decode table block = .error fault) : ContentFault table block fault := by
  cases HeaderBlock.fault_of_decode failed with
  | lengthOverflow => exact .lengthOverflow failed
  | partTooLong part => exact .partTooLong failed
  | notText part => exact .notText part
  | unknownHeader id => exact .unknownHeader id

namespace Request

/-- Whether a host that has been read is one a request can go to. -/
def checkHostText (host : String) : Except FormatError Unit :=
  if host.isEmpty then .error .emptyHost
  else if maxHostSize < host.utf8ByteSize then
    .error (.hostTooLong host.utf8ByteSize maxHostSize)
  else .ok ()

/-- The request of what has been read. -/
def assemble (method : Method) (first : UInt8) (host path : String) (content : Headers × Bytes) :
    Request :=
  ⟨method, host, if path.isEmpty then "/" else path, versionBits first, content.1, content.2⟩

variable {first : UInt8} {tail : Bytes} {method : Method}

/-- A request with an unknown method is refused before anything else. -/
theorem decodeFront_of_unknownMethod (unknown : Method.ofCode? (methodBits first) = none) :
    decodeFront (first :: tail) = .error (.unknownMethod (methodBits first)) := by
  simp only [decodeFront, unknown]
  rfl

/-- A request with a known method is read part by part. -/
theorem decodeFront_of_method (known : Method.ofCode? (methodBits first) = some method) :
    decodeFront (first :: tail) = (do
      let (host, rest) ← takeText .host tail
      checkHostText host
      let (path, rest) ← takeText .path rest
      let (content, rest) ← takeContent .request rest
      return (assemble method first host path content, rest)) := by
  simp only [decodeFront, known]
  congr 1
  funext taken
  obtain ⟨host, rest⟩ := taken
  unfold checkHostText
  by_cases empty : host.isEmpty
  · simp only [empty, ↓reduceIte]
    rfl
  · by_cases long : maxHostSize < host.utf8ByteSize
    · simp only [empty, long, ↓reduceIte]
      rfl
    · simp only [empty, long, ↓reduceIte, takeContent, bind_assoc, pure_bind]
      rfl

/-- The request of raw parts, whose host is of a possible size. -/
def ofParts (method : Method) (first : UInt8) (host path block body : Bytes) :
    Except FormatError Request :=
  match Utf8.decode host, Utf8.decode path with
  | none, _ => .error (.notText .host)
  | some _, none => .error (.notText .path)
  | some host, some path =>
    (HeaderBlock.decode .request block).map fun headers =>
      assemble method first host path (headers, body)

/-- A host is checked by its text as it is by its length. -/
theorem checkHostText_eq_checkHost {host : String} {data rest : Bytes}
    (here : PartAt data (Utf8.encode host) rest) :
    checkHostText host = Framing.checkHost data := by
  have emptiness : host.isEmpty = true ↔ (Utf8.encode host).length = 0 := by
    rw [Utf8.length_encode, String.isEmpty_iff, String.utf8ByteSize_eq_zero_iff]
  rw [Framing.checkHost_of_partAt here, Utf8.length_encode]
  unfold checkHostText
  by_cases empty : host.isEmpty
  · simp only [empty, ↓reduceIte, ← Utf8.length_encode, emptiness.mp empty]
  · have nonempty : ¬host.utf8ByteSize = 0 := fun zero => empty (emptiness.mpr zero)
    simp only [empty, nonempty, ↓reduceIte, Bool.false_eq_true]

/-- A request that is allowed has a known method, and a host that is allowed. -/
theorem checkHost_of_screen (allowed : MessageKind.request.screen first tail = .ok ()) :
    (∃ method, Method.ofCode? (methodBits first) = some method) ∧
      Framing.checkHost tail = .ok () := by
  unfold MessageKind.screen at allowed
  by_cases noMethod : 6 < methodBits first
  · simp only [noMethod, ↓reduceIte, reduceCtorEq] at allowed
  · simp only [noMethod, ↓reduceIte] at allowed
    refine ⟨Option.ne_none_iff_exists'.mp fun unknown => ?_, allowed⟩
    exact noMethod ((Method.ofCode?_eq_none_iff _).mp unknown)

/-- A request whose method is known is ruled out by its host only. -/
theorem screen_eq_checkHost (known : Method.ofCode? (methodBits first) = some method) :
    MessageKind.request.screen first tail = Framing.checkHost tail := by
  have listed : ¬6 < methodBits first := by
    intro noMethod
    rw [(Method.ofCode?_eq_none_iff _).mpr noMethod] at known
    cases known
  simp only [MessageKind.screen, listed, ↓reduceIte]

/-- A request that is all there is read as what its parts say. -/
theorem decodeFront_of_messageAt {data host path block body rest : Bytes}
    (known : Method.ofCode? (methodBits first) = some method)
    (here : MessageAt .request data first [host, path, block, body] rest) :
    decodeFront data = (ofParts method first host path block body).map (·, rest) := by
  obtain ⟨allowed, -, partsHere⟩ := here
  obtain ⟨-, hostAllowed⟩ := checkHost_of_screen allowed
  obtain _ | ⟨hostHere, others⟩ := partsHere
  obtain _ | ⟨pathHere, contentHere⟩ := others
  rw [decodeFront_of_method known, hostHere.takeText .host]
  unfold ofParts
  match hostRead : Utf8.decode host with
  | none => rfl
  | some hostText =>
    obtain rfl := Utf8.encode_of_decode hostRead
    simp only [bind, Except.bind, checkHostText_eq_checkHost hostHere, hostAllowed,
      pathHere.takeText .path]
    match pathRead : Utf8.decode path with
    | none => rfl
    | some pathText =>
      simp only [takeContent_of_partsAt contentHere]
      cases HeaderBlock.decode .request block <;> rfl

/-- What has been read as a request stood there as one. -/
theorem messageAt_of_decodeFront {data rest : Bytes} {request : Request}
    (read : decodeFront data = .ok (request, rest)) :
    ∃ first parts, MessageAt .request data first parts rest := by
  match data with
  | [] => cases read
  | first :: tail =>
    match known : Method.ofCode? (methodBits first) with
    | none =>
      rw [decodeFront_of_unknownMethod known] at read
      cases read
    | some method =>
      rw [decodeFront_of_method known] at read
      obtain ⟨⟨host, behind⟩, hostTaken, read⟩ := bind_eq_ok_iff.mp read
      obtain ⟨⟨⟩, hostAllowed, read⟩ := bind_eq_ok_iff.mp read
      obtain ⟨⟨path, behindPath⟩, pathTaken, read⟩ := bind_eq_ok_iff.mp read
      obtain ⟨⟨content, left⟩, contentTaken, read⟩ := bind_eq_ok_iff.mp read
      cases read
      have hostHere := takeText_eq_ok_iff.mp hostTaken
      have pathHere := takeText_eq_ok_iff.mp pathTaken
      obtain ⟨block, contentHere⟩ := partsAt_of_takeContent contentTaken
      refine ⟨first, _, .mk ((screen_eq_checkHost known).trans ?_) ?_
        (.cons hostHere (.cons pathHere contentHere))⟩
      · rw [← checkHostText_eq_checkHost hostHere]
        exact hostAllowed
      · rfl

/-- A request that breaks off does so inside a length, behind a possible host. -/
theorem breaksOff_of_decodeFront {data : Bytes}
    (broken : decodeFront data = .error .incomplete) :
    ∃ first tail, data = first :: tail ∧ MessageKind.request.screen first tail = .ok () ∧
      BreaksOff 4 tail := by
  match data with
  | [] => cases broken
  | first :: tail =>
    match known : Method.ofCode? (methodBits first) with
    | none =>
      rw [decodeFront_of_unknownMethod known] at broken
      cases broken
    | some method =>
      rw [decodeFront_of_method known] at broken
      refine ⟨first, tail, rfl, ?_⟩
      rcases bind_eq_error_iff.mp broken with stopped | ⟨⟨host, behind⟩, hostTaken, broken⟩
      · have incomplete := decode_of_takeText_incomplete stopped
        have waiting := Framing.checkHost_of_incomplete incomplete
        exact ⟨(screen_eq_checkHost known).trans waiting, .here incomplete⟩
      · have hostHere := takeText_eq_ok_iff.mp hostTaken
        rcases bind_eq_error_iff.mp broken with refused | ⟨⟨⟩, hostAllowed, broken⟩
        · unfold checkHostText at refused
          split at refused
          · cases refused
          · split at refused <;> cases refused
        · rw [checkHostText_eq_checkHost hostHere] at hostAllowed
          refine ⟨(screen_eq_checkHost known).trans hostAllowed, .cons hostHere ?_⟩
          rcases bind_eq_error_iff.mp broken with stopped | ⟨⟨path, left⟩, pathTaken, broken⟩
          · exact .here (decode_of_takeText_incomplete stopped)
          · refine .cons (takeText_eq_ok_iff.mp pathTaken) ?_
            rcases bind_eq_error_iff.mp broken with stopped | ⟨_, -, broken⟩
            · exact breaksOff_of_takeContent stopped
            · cases broken

end Request

namespace Response

variable {data rest : Bytes} {first : UInt8}

/-- The response of what has been read. -/
def assemble (first : UInt8) (content : Headers × Bytes) : Response :=
  ⟨versionBits first, Status.ofCompact (first &&& 0x3F), content.1, content.2⟩

/-- The response of raw parts. -/
def ofParts (first : UInt8) (block body : Bytes) : Except FormatError Response :=
  (HeaderBlock.decode .response block).map fun headers => assemble first (headers, body)

/-- A response is read from its headers and its body. -/
theorem decodeFront_cons (first : UInt8) (tail : Bytes) : decodeFront (first :: tail) = (do
    let (content, rest) ← takeContent .response tail
    return (assemble first content, rest)) := by
  simp only [decodeFront, takeContent, bind_assoc, pure_bind]
  rfl

/-- A response that is all there is read as what its parts say. -/
theorem decodeFront_of_messageAt {block body : Bytes}
    (here : MessageAt .response data first [block, body] rest) :
    decodeFront data = (ofParts first block body).map (·, rest) := by
  obtain ⟨-, -, contentHere⟩ := here
  rw [decodeFront_cons, takeContent_of_partsAt contentHere]
  unfold ofParts
  cases HeaderBlock.decode .response block <;> rfl

/-- A response that is read stands there. -/
theorem messageAt_of_decodeFront {response : Response}
    (read : decodeFront data = .ok (response, rest)) :
    ∃ first parts, MessageAt .response data first parts rest := by
  match data with
  | [] => cases read
  | first :: tail =>
    rw [decodeFront_cons] at read
    obtain ⟨⟨content, left⟩, contentTaken, read⟩ := bind_eq_ok_iff.mp read
    cases read
    obtain ⟨block, contentHere⟩ := partsAt_of_takeContent contentTaken
    exact ⟨first, _, .mk rfl rfl contentHere⟩

/-- A response that is incomplete breaks off in one of its parts. -/
theorem breaksOff_of_decodeFront (broken : decodeFront data = .error .incomplete) :
    ∃ first tail, data = first :: tail ∧ BreaksOff 2 tail := by
  match data with
  | [] => cases broken
  | first :: tail =>
    rw [decodeFront_cons] at broken
    rcases bind_eq_error_iff.mp broken with stopped | ⟨_, -, broken⟩
    · exact ⟨first, tail, rfl, breaksOff_of_takeContent stopped⟩
    · cases broken

end Response

namespace MessageKind

/-- The messages of a kind. -/
abbrev Message : MessageKind → Type
  | request => Request
  | response => Response

/-- The message at the front of a byte string, and the bytes after it. -/
def decodeFront : (kind : MessageKind) → Bytes → Except FormatError (kind.Message × Bytes)
  | request => Request.decodeFront
  | response => Response.decodeFront

/-- The message at the front of a byte string. -/
def decode : (kind : MessageKind) → Bytes → Except FormatError kind.Message
  | request => Request.decode
  | response => Response.decode

/-- Reading a message is reading it and leaving out what is behind. -/
theorem decode_eq_map (kind : MessageKind) (data : Bytes) :
    kind.decode data = (kind.decodeFront data).map Prod.fst := by
  cases kind <;> rfl

/-- Which of the parts of a message is its header block. -/
def blockIndex : MessageKind → Nat
  | request => 2
  | response => 0

variable {kind : MessageKind} {data rest : Bytes} {first : UInt8} {parts : List Bytes}

/-- What a message is read as depends on its own bytes only, and it can fail over its
content only. -/
theorem decodeFront_of_messageAt (here : MessageAt kind data first parts rest) :
    ∃ (outcome : Except FormatError kind.Message) (block : Bytes),
      parts[kind.blockIndex]? = some block ∧
      (∀ data rest, MessageAt kind data first parts rest →
        kind.decodeFront data = outcome.map (·, rest)) ∧
      ∀ fault, outcome = .error fault → ContentFault kind.headerTable block fault := by
  cases here with
  | mk allowed counted partsHere =>
    cases kind with
    | request =>
      obtain ⟨⟨method, known⟩, -⟩ := Request.checkHost_of_screen allowed
      obtain ⟨host, path, block, body, rfl⟩ := List.length_eq_four.mp counted
      refine ⟨Request.ofParts method first host path block body, block, rfl,
        fun _ _ => Request.decodeFront_of_messageAt known, fun fault failed => ?_⟩
      unfold Request.ofParts at failed
      split at failed
      · cases failed
        exact .notText .host
      · cases failed
        exact .notText .path
      · exact .of_decode (map_eq_error_iff.mp failed)
    | response =>
      obtain ⟨block, body, rfl⟩ := List.length_eq_two.mp counted
      exact ⟨Response.ofParts first block body, block, rfl,
        fun _ _ => Response.decodeFront_of_messageAt,
        fun fault failed => .of_decode (map_eq_error_iff.mp failed)⟩

/-- A message that is read stands there. -/
theorem messageAt_of_decodeFront {message : kind.Message}
    (read : kind.decodeFront data = .ok (message, rest)) :
    ∃ first parts, MessageAt kind data first parts rest := by
  cases kind with
  | request => exact Request.messageAt_of_decodeFront read
  | response => exact Response.messageAt_of_decodeFront read

/-- A message that is incomplete breaks off in one of its parts, and is allowed so far. -/
theorem breaksOff_of_decodeFront (broken : kind.decodeFront data = .error .incomplete) :
    ∃ first tail, data = first :: tail ∧ kind.screen first tail = .ok () ∧
      BreaksOff kind.partCount tail := by
  cases kind with
  | request => exact Request.breaksOff_of_decodeFront broken
  | response =>
    obtain ⟨first, tail, split, stopped⟩ := Response.breaksOff_of_decodeFront broken
    exact ⟨first, tail, split, rfl, stopped⟩

end MessageKind

end CompactHttp
