import CompactHttp.Proofs.HeaderMaps
import CompactHttp.Proofs.Reading

/-! # Messages survive writing and reading

A message is written with its headers in whatever order they are gone through and is read
back from the front of whatever it has become part of. Its version arrives modulo four, an
empty path as the root, a status without a compact form as 500, and its headers with their
names in small letters. A request is refused only for its host.
-/

namespace CompactHttp

/-- The headers that are read from a block are those that were written to it, if their names
still differ in small letters. -/
theorem Headers.entries_ofList_lowerEntries {order headers : Headers}
    (reordered : order.Reordering headers) (distinct : headers.DistinctLowered) :
    (ofList order.lowerEntries).entries.Perm headers.lowerEntries := by
  rw [entries_ofList (reordered.distinctLowered distinct)]
  exact reordered.lowerEntries

namespace Request

/-- The bytes of a request whose headers are gone through in some order. -/
def encodeIn (request : Request) (order : Headers) : Bytes :=
  { request with headers := order }.encode

/-- The parts that are written behind the first byte. -/
def parts (request : Request) : List Bytes :=
  [Utf8.encode request.host, Utf8.encode request.path,
    HeaderBlock.encode .request request.headers, request.body]

variable {request : Request}

/-- A request is written as its first byte and its parts. -/
theorem encode_eq (request : Request) :
    request.encode = request.firstByte :: request.parts.flatMap lengthPrefixed := by
  simp only [encode, parts, List.flatMap_cons, List.flatMap_nil, List.append_nil,
    List.append_assoc]

/-- The parts of a request stand where they are written. -/
theorem partsAt_encode (addressable : Addressable request.encode) (more : Bytes) :
    PartsAt (request.parts.flatMap lengthPrefixed ++ more) request.parts more := by
  rw [encode_eq] at addressable
  exact partsAt_flatMap request.parts addressable.of_cons more

/-- The method is read from the first byte. -/
theorem ofCode?_methodBits_firstByte (request : Request) :
    Method.ofCode? (methodBits request.firstByte) = some request.method := by
  rw [methodBits_firstByte, Method.ofCode?_code]

/-- What the length of the host says about the request. -/
theorem checkHost_encode (addressable : Addressable request.encode) (more : Bytes) :
    Framing.checkHost (request.parts.flatMap lengthPrefixed ++ more) =
      if request.host.utf8ByteSize = 0 then .error .emptyHost
      else if maxHostSize < request.host.utf8ByteSize then
        .error (.hostTooLong request.host.utf8ByteSize maxHostSize)
      else .ok () := by
  obtain _ | ⟨hostHere, -⟩ := partsAt_encode addressable more
  rw [Framing.checkHost_of_partAt hostHere, Utf8.length_encode]

/-- A request with a host that is allowed stands where it is written. -/
theorem messageAt_encode (addressable : Addressable request.encode)
    (named : 0 < request.host.utf8ByteSize) (short : request.host.utf8ByteSize ≤ maxHostSize)
    (more : Bytes) :
    MessageAt .request (request.encode ++ more) request.firstByte request.parts more := by
  have allowed := checkHost_encode addressable more
  rw [if_neg (Nat.ne_of_gt named), if_neg (Nat.not_lt_of_le short)] at allowed
  rw [encode_eq, List.cons_append]
  exact .mk ((screen_eq_checkHost (ofCode?_methodBits_firstByte request)).trans allowed) rfl
    (partsAt_encode addressable more)

/-- A request to a possible host is read back, whatever follows it. -/
theorem decode_encode_append (addressable : Addressable request.encode)
    (named : 0 < request.host.utf8ByteSize) (short : request.host.utf8ByteSize ≤ maxHostSize)
    (more : Bytes) : decode (request.encode ++ more) = .ok { request with
      version := request.version % 4
      path := if request.path.isEmpty then "/" else request.path
      headers := Headers.ofList request.headers.lowerEntries } := by
  have here := messageAt_encode addressable named short more
  have block : Addressable (HeaderBlock.encode .request request.headers) := by
    rw [encode_eq] at addressable
    exact addressable.of_cons.of_mem (by simp only [parts, List.mem_cons, true_or, or_true])
  unfold decode
  rw [decodeFront_of_messageAt (ofCode?_methodBits_firstByte request) here]
  simp only [ofParts, Utf8.decode_encode,
    HeaderBlock.decode_encode HeaderTable.request_wellFormed block, assemble,
    versionBits_firstByte, Except.map]

/-- A request to a possible host can be read. -/
theorem exists_decode_encode (addressable : Addressable request.encode)
    (named : 0 < request.host.utf8ByteSize) (short : request.host.utf8ByteSize ≤ maxHostSize) :
    ∃ read, decode request.encode = .ok read := by
  have read := decode_encode_append addressable named short []
  rw [List.append_nil] at read
  exact ⟨_, read⟩

/-- A request that can be read takes all the bytes that were written for it. -/
theorem length?_encode {read : Request} (readable : decode request.encode = .ok read) :
    MessageKind.request.length? request.encode = .ok (some request.encode.length) := by
  obtain ⟨⟨_, rest⟩, front, -⟩ := map_eq_ok_iff.mp readable
  obtain ⟨first, parts, here⟩ := messageAt_of_decodeFront front
  exact here.length?_of_written (encode_eq request) rfl

/-- A request to an impossible host is refused, whatever follows it. -/
theorem refused_of_checkHost {fault : FormatError} (addressable : Addressable request.encode)
    {more : Bytes}
    (refused : Framing.checkHost (request.parts.flatMap lengthPrefixed ++ more) = .error fault) :
    length? (request.encode ++ more) = .error fault ∧
      decode (request.encode ++ more) = .error fault := by
  have known := ofCode?_methodBits_firstByte request
  obtain _ | ⟨hostHere, -⟩ := partsAt_encode addressable more
  rw [encode_eq, List.cons_append]
  constructor
  · have counted := MessageKind.length?_cons .request request.firstByte
      (request.parts.flatMap lengthPrefixed ++ more)
    rw [screen_eq_checkHost known, refused] at counted
    exact counted
  · unfold decode
    rw [decodeFront_of_method known, hostHere.takeText .host, Utf8.decode_encode]
    simp only [bind, Except.bind, checkHostText_eq_checkHost hostHere, refused]
    rfl

end Request

/-- A request is read back with the length it was written with, in whatever order its headers
were gone through and whatever follows it, unless it has no host or too long a one. -/
theorem request_roundTrip (request : Request) {order : Headers}
    (reordered : order.Reordering request.headers)
    (addressable : Addressable (request.encodeIn order)) (more : Bytes) :
    (0 < request.host.utf8ByteSize → request.host.utf8ByteSize ≤ Request.maxHostSize →
      Request.length? (request.encodeIn order ++ more) =
        .ok (some (request.encodeIn order).length) ∧
      ∃ headers : Headers,
        Request.decode (request.encodeIn order ++ more) = .ok { request with
          version := request.version % 4
          path := if request.path.isEmpty then "/" else request.path
          headers := headers } ∧
        (request.headers.DistinctLowered →
          headers.entries.Perm request.headers.lowerEntries)) ∧
    (request.host = "" →
      Request.length? (request.encodeIn order ++ more) = .error .emptyHost ∧
      Request.decode (request.encodeIn order ++ more) = .error .emptyHost) ∧
    (Request.maxHostSize < request.host.utf8ByteSize →
      Request.length? (request.encodeIn order ++ more) =
        .error (.hostTooLong request.host.utf8ByteSize Request.maxHostSize) ∧
      Request.decode (request.encodeIn order ++ more) =
        .error (.hostTooLong request.host.utf8ByteSize Request.maxHostSize)) := by
  unfold Request.encodeIn at *
  have judged := Request.checkHost_encode addressable more
  refine ⟨fun named short => ⟨?_, _, Request.decode_encode_append addressable named short more,
    Headers.entries_ofList_lowerEntries reordered⟩, fun nobody => ?_, fun long => ?_⟩
  · have known := (Request.messageAt_encode addressable named short more).length?
    rwa [List.length_append, Nat.add_sub_cancel] at known
  · refine Request.refused_of_checkHost addressable (judged.trans (if_pos ?_))
    rw [nobody, String.utf8ByteSize_empty]
  · have named : ¬request.host.utf8ByteSize = 0 := Nat.ne_of_gt (Nat.zero_lt_of_lt long)
    refine Request.refused_of_checkHost addressable (judged.trans ?_)
    rw [if_neg named, if_pos long]

/-- A version of more than two bits, an empty path, headers in another order and a byte behind; and
two hosts that are refused. -/
theorem request_roundTrip_sample :
    (∃ headers : Headers,
      Request.decode (Request.encodeIn
          ⟨.get, "h", "", 7, .ofList [("Accept", "b"), ("X", "c")], [1]⟩
          (.ofList [("X", "c"), ("Accept", "b")]) ++ [9]) =
        .ok ⟨.get, "h", "/", 3, headers, [1]⟩ ∧
      headers.entries.Perm [("accept", "b"), ("x", "c")]) ∧
    Request.decode (Request.encodeIn (.plain .get "" "/") .empty ++ []) = .error .emptyHost ∧
    Request.decode (Request.encodeIn (.plain .get (String.ofList (.replicate 254 'a')) "/") .empty
      ++ []) = .error (.hostTooLong 254 253) := by
  refine ⟨?_, ?_, ?_⟩
  · have swapped : Headers.Reordering (.ofList [("X", "c"), ("Accept", "b")])
        (.ofList [("Accept", "b"), ("X", "c")]) := by
      unfold Headers.Reordering
      decide +kernel
    obtain ⟨-, headers, read, same⟩ := (request_roundTrip
      ⟨.get, "h", "", 7, .ofList [("Accept", "b"), ("X", "c")], [1]⟩ swapped
      (by unfold Addressable; decide +kernel) [9]).1 (by decide) (by decide)
    have lowered : Headers.lowerEntries (.ofList [("Accept", "b"), ("X", "c")]) =
        [("accept", "b"), ("x", "c")] := by
      decide +kernel
    exact ⟨headers, read, lowered ▸ same (by decide +kernel)⟩
  · exact ((request_roundTrip (.plain .get "" "/") (.refl _)
      (by unfold Addressable; decide +kernel) []).2.1 rfl).2
  · have size : (Request.plain .get (String.ofList (.replicate 254 'a')) "/").host.utf8ByteSize =
        254 := by
      decide +kernel
    obtain ⟨-, -, refused⟩ := request_roundTrip
      (.plain .get (String.ofList (.replicate 254 'a')) "/") (.refl _)
      (by unfold Addressable; decide +kernel) []
    rw [size] at refused
    exact (refused (by decide)).2

namespace Response

/-- The bytes of a response whose headers are gone through in some order. -/
def encodeIn (response : Response) (order : Headers) : Bytes :=
  { response with headers := order }.encode

variable {response : Response}

/-- A response is written as its first byte, its headers and its body. -/
theorem encode_eq (response : Response) : response.encode = response.firstByte ::
    [HeaderBlock.encode .response response.headers, response.body].flatMap lengthPrefixed := by
  simp only [encode, List.flatMap_cons, List.flatMap_nil, List.append_nil]

/-- A response stands where it is written. -/
theorem messageAt_encode (addressable : Addressable response.encode) (more : Bytes) :
    MessageAt .response (response.encode ++ more) response.firstByte
      [HeaderBlock.encode .response response.headers, response.body] more := by
  rw [encode_eq] at addressable ⊢
  exact .mk rfl rfl (partsAt_flatMap _ addressable.of_cons more)

/-- A response is read back, whatever follows it. -/
theorem decode_encode_append (addressable : Addressable response.encode) (more : Bytes) :
    decode (response.encode ++ more) = .ok { response with
      version := response.version % 4
      status := if Status.isCompact response.status then response.status else Status.fallback
      headers := Headers.ofList response.headers.lowerEntries } := by
  have block : Addressable (HeaderBlock.encode .response response.headers) :=
    addressable.of_cons.left.of_lengthPrefixed
  unfold decode
  rw [decodeFront_of_messageAt (messageAt_encode addressable more)]
  simp only [ofParts, HeaderBlock.decode_encode HeaderTable.response_wellFormed block, assemble,
    versionBits_firstByte, ofCompact_firstByte, Except.map]

/-- A response that can be read takes all the bytes that were written for it. -/
theorem length?_encode {read : Response} (readable : decode response.encode = .ok read) :
    MessageKind.response.length? response.encode = .ok (some response.encode.length) := by
  obtain ⟨⟨_, rest⟩, front, -⟩ := map_eq_ok_iff.mp readable
  obtain ⟨first, parts, here⟩ := messageAt_of_decodeFront front
  exact here.length?_of_written (encode_eq response) rfl

end Response

/-- Every response is read back with the length it was written with, in whatever order its
headers were gone through and whatever follows it. -/
theorem response_roundTrip (response : Response) {order : Headers}
    (reordered : order.Reordering response.headers)
    (addressable : Addressable (response.encodeIn order)) (more : Bytes) :
    Response.length? (response.encodeIn order ++ more) =
      .ok (some (response.encodeIn order).length) ∧
    ∃ headers : Headers,
      Response.decode (response.encodeIn order ++ more) = .ok { response with
        version := response.version % 4
        status := if Status.isCompact response.status then response.status else 500
        headers := headers } ∧
      (response.headers.DistinctLowered →
        headers.entries.Perm response.headers.lowerEntries) := by
  unfold Response.encodeIn at *
  refine ⟨?_, _, Response.decode_encode_append addressable more,
    Headers.entries_ofList_lowerEntries reordered⟩
  have known := (Response.messageAt_encode addressable more).length?
  rwa [List.length_append, Nat.add_sub_cancel] at known

/-- A version of more than two bits, a status of no table, headers in another order and a byte
behind. -/
theorem response_roundTrip_sample : ∃ headers : Headers,
    Response.decode (Response.encodeIn ⟨6, 418, .ofList [("Server", "b"), ("X", "c")], [1]⟩
      (.ofList [("X", "c"), ("Server", "b")]) ++ [9]) = .ok ⟨2, 500, headers, [1]⟩ ∧
    headers.entries.Perm [("server", "b"), ("x", "c")] := by
  have swapped : Headers.Reordering (.ofList [("X", "c"), ("Server", "b")])
      (.ofList [("Server", "b"), ("X", "c")]) := by
    unfold Headers.Reordering
    decide +kernel
  obtain ⟨-, headers, read, same⟩ := response_roundTrip
    ⟨6, 418, .ofList [("Server", "b"), ("X", "c")], [1]⟩ swapped
    (by unfold Addressable; decide +kernel) [9]
  have lowered : Headers.lowerEntries (.ofList [("Server", "b"), ("X", "c")]) =
      [("server", "b"), ("x", "c")] := by
    decide +kernel
  exact ⟨headers, read, lowered ▸ same (by decide +kernel)⟩

end CompactHttp
