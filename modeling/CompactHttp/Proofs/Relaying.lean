import CompactHttp.Proofs.EncodedSize

/-! # What has been read can be sent on

Many byte strings are read as the same message: lengths may be padded, well-known headers
written out, names repeated or in capitals, and bits set that mean nothing. What is read is
in a normal form (`Request.Normal`, `Response.Normal`), and a message in normal form is read
back as it is, in whatever order its headers are written (`Request.Normal.decode_encodeIn`,
`Response.Normal.decode_encodeIn`). It takes at most twice the bytes it was read from, so it
can be written whenever these lay in half of all addresses, as what a machine holds does.
-/

namespace CompactHttp

/-- A version that fits two bits is kept. -/
theorem version_mod_four {version : UInt8} (small : version ≤ 3) : version % 4 = version := by
  revert version
  decide +kernel

/-- Twice the bytes of half the addresses can still be addressed. -/
theorem Addressable.of_le_twice {data written : Bytes} (half : data.length < 2 ^ 63)
    (bounded : written.length ≤ 2 * data.length) : Addressable written := by
  unfold Addressable
  omega

namespace Request

variable {data : Bytes} {request : Request} {order : Headers}

/-- A request as it may have been read. -/
structure Normal (request : Request) : Prop where
  named : 0 < request.host.utf8ByteSize
  short : request.host.utf8ByteSize ≤ maxHostSize
  path : request.path ≠ ""
  version : request.version ≤ 3
  headers : request.headers.SmallNames

/-- A request is read from the parts of a message. -/
theorem exists_of_decode (read : decode data = .ok request) :
    ∃ first path block rest,
      MessageAt .request data first
        [Utf8.encode request.host, Utf8.encode path, block, request.body] rest ∧
      request.path = (if path.isEmpty then "/" else path) ∧
      request.version = versionBits first ∧
      HeaderBlock.decode .request block = .ok request.headers := by
  obtain ⟨⟨message, rest⟩, front, rfl⟩ := map_eq_ok_iff.mp read
  obtain ⟨first, parts, here⟩ := messageAt_of_decodeFront front
  obtain ⟨allowed, counted, -⟩ := id here
  obtain ⟨⟨method, known⟩, -⟩ := checkHost_of_screen allowed
  obtain ⟨host, path, block, body, rfl⟩ := List.length_eq_four.mp counted
  rw [decodeFront_of_messageAt known here] at front
  obtain ⟨found, made, equal⟩ := map_eq_ok_iff.mp front
  cases equal
  unfold ofParts at made
  split at made
  · cases made
  · cases made
  · next hostText pathText hostRead pathRead =>
    obtain ⟨headers, blockRead, rfl⟩ := map_eq_ok_iff.mp made
    obtain rfl := Utf8.encode_of_decode hostRead
    obtain rfl := Utf8.encode_of_decode pathRead
    exact ⟨first, pathText, block, rest, here, rfl, rfl, blockRead⟩

/-- What is read is in normal form. -/
theorem normal_of_decode (read : decode data = .ok request) : request.Normal := by
  obtain ⟨first, path, block, rest, ⟨allowed, -, partsHere⟩, pathRead, version, blockRead⟩ :=
    exists_of_decode read
  obtain ⟨-, hostAllowed⟩ := checkHost_of_screen allowed
  obtain _ | ⟨hostHere, -⟩ := partsHere
  rw [Framing.checkHost_of_partAt hostHere, Utf8.length_encode] at hostAllowed
  split at hostAllowed
  · cases hostAllowed
  · next named =>
    split at hostAllowed
    · cases hostAllowed
    · next short =>
      exact {
        named := Nat.pos_of_ne_zero named
        short := Nat.le_of_not_lt short
        path := by
          rw [pathRead]
          by_cases empty : path.isEmpty
          · simp [empty]
          · rw [if_neg empty]
            exact fun absent => empty (String.isEmpty_iff.mpr absent)
        version := version ▸ versionBits_le first
        headers := HeaderBlock.smallNames_of_decode HeaderTable.lowercase_request blockRead }

/-- A request in normal form is read as it was written. -/
theorem Normal.decode_encodeIn (normal : request.Normal)
    (reordered : order.Reordering request.headers)
    (addressable : Addressable (request.encodeIn order)) :
    decode (request.encodeIn order) = .ok { request with headers := order } := by
  have read := decode_encode_append addressable normal.named normal.short []
  have small := normal.headers.of_reordering reordered
  have somewhere : ¬request.path.isEmpty := fun empty =>
    normal.path (String.isEmpty_iff.mp empty)
  rw [List.append_nil] at read
  simp only [version_mod_four normal.version, somewhere, small.ofList_lowerEntries] at read
  exact read

/-- A request that is sent on takes at most twice the bytes it was read from. -/
theorem length_encodeIn_le (read : decode data = .ok request)
    (reordered : order.Reordering request.headers) :
    (request.encodeIn order).length ≤ 2 * data.length := by
  obtain ⟨first, path, block, rest, ⟨-, -, partsHere⟩, pathRead, -, blockRead⟩ :=
    exists_of_decode read
  have written := partsHere.length_le
  have blockSize : (lengthPrefixed (HeaderBlock.encode .request order)).length ≤
      2 * (lengthPrefixed block).length :=
    length_lengthPrefixed_le
      (HeaderBlock.length_encode_le HeaderTable.lowercase_request blockRead reordered)
  have pathSize : (lengthPrefixed (Utf8.encode request.path)).length ≤
      2 * (lengthPrefixed (Utf8.encode path)).length := by
    by_cases empty : path.isEmpty
    · rw [pathRead, if_pos empty, String.isEmpty_iff.mp empty]
      decide +kernel
    · rw [pathRead, if_neg empty]
      omega
  have sized := congrArg List.length (encode_eq { request with headers := order })
  simp only [parts, List.flatMap_cons, List.flatMap_nil, List.append_nil, List.length_append,
    List.length_cons] at sized written ⊢
  unfold encodeIn
  omega

end Request

namespace Status

/-- Every status that is read is in the table. -/
theorem isCompact_ofCompact (compact : UInt8) : isCompact (ofCompact compact) = true := by
  revert compact
  decide +kernel

end Status

namespace Response

variable {data : Bytes} {response : Response} {order : Headers}

/-- A response as it may have been read. -/
structure Normal (response : Response) : Prop where
  version : response.version ≤ 3
  status : Status.isCompact response.status = true
  headers : response.headers.SmallNames

/-- A response is read from the parts of a message. -/
theorem exists_parts_of_decode (read : decode data = .ok response) :
    ∃ first block rest, MessageAt .response data first [block, response.body] rest ∧
      response.version = versionBits first ∧
      response.status = Status.ofCompact (first &&& 0x3F) ∧
      HeaderBlock.decode .response block = .ok response.headers := by
  obtain ⟨⟨message, rest⟩, front, rfl⟩ := map_eq_ok_iff.mp read
  obtain ⟨first, parts, here⟩ := messageAt_of_decodeFront front
  obtain ⟨-, counted, -⟩ := id here
  obtain ⟨block, body, rfl⟩ := List.length_eq_two.mp counted
  rw [decodeFront_of_messageAt here] at front
  obtain ⟨found, made, equal⟩ := map_eq_ok_iff.mp front
  cases equal
  obtain ⟨headers, blockRead, rfl⟩ := map_eq_ok_iff.mp made
  exact ⟨first, block, rest, here, rfl, rfl, blockRead⟩

/-- What is read is in normal form. -/
theorem normal_of_decode (read : decode data = .ok response) : response.Normal := by
  obtain ⟨first, block, rest, -, version, status, -⟩ := exists_parts_of_decode read
  exact {
    version := version ▸ versionBits_le first
    status := status ▸ Status.isCompact_ofCompact _
    headers := smallNames_of_decode read }

/-- A response in normal form is read as it was written. -/
theorem Normal.decode_encodeIn (normal : response.Normal)
    (reordered : order.Reordering response.headers)
    (addressable : Addressable (response.encodeIn order)) :
    decode (response.encodeIn order) = .ok { response with headers := order } := by
  have read := decode_encode_append addressable []
  have small := normal.headers.of_reordering reordered
  rw [List.append_nil] at read
  simp only [version_mod_four normal.version, normal.status, ↓reduceIte,
    small.ofList_lowerEntries] at read
  exact read

/-- A response that is sent on takes at most twice the bytes it was read from. -/
theorem length_encodeIn_le (read : decode data = .ok response)
    (reordered : order.Reordering response.headers) :
    (response.encodeIn order).length ≤ 2 * data.length := by
  obtain ⟨first, block, rest, ⟨-, -, partsHere⟩, -, -, blockRead⟩ := exists_parts_of_decode read
  have written := partsHere.length_le
  have blockSize : (lengthPrefixed (HeaderBlock.encode .response order)).length ≤
      2 * (lengthPrefixed block).length :=
    length_lengthPrefixed_le
      (HeaderBlock.length_encode_le HeaderTable.lowercase_response blockRead reordered)
  have sized := congrArg List.length (encode_eq { response with headers := order })
  simp only [List.flatMap_cons, List.flatMap_nil, List.append_nil, List.length_append,
    List.length_cons] at sized written ⊢
  unfold encodeIn
  omega

end Response

/-- Whatever bytes a message was read from, it is in a form that does not change any more: it
is read again as it is when it is written with its headers in any order. (Bytes held in memory
take up less than half of the addresses there are.) -/
theorem reading_is_stable (data : Bytes) (half : data.length < 2 ^ 63) :
    (∀ request, Request.decode data = .ok request →
      (1 ≤ request.host.utf8ByteSize ∧ request.host.utf8ByteSize ≤ 253) ∧
      request.path ≠ "" ∧ request.version ≤ 3 ∧
      (∀ name ∈ request.headers.entries.map Prod.fst, lowercase name = name) ∧
      ∀ order, order.Reordering request.headers →
        Request.decode (request.encodeIn order) = .ok { request with headers := order }) ∧
    ∀ response, Response.decode data = .ok response →
      Status.isCompact response.status = true ∧ response.version ≤ 3 ∧
      (∀ name ∈ response.headers.entries.map Prod.fst, lowercase name = name) ∧
      ∀ order, order.Reordering response.headers →
        Response.decode (response.encodeIn order) = .ok { response with headers := order } := by
  constructor
  · intro request read
    have normal := Request.normal_of_decode read
    refine ⟨⟨normal.named, normal.short⟩, normal.path, normal.version, normal.headers, ?_⟩
    intro order reordered
    apply normal.decode_encodeIn reordered
    exact .of_le_twice half (Request.length_encodeIn_le read reordered)
  · intro response read
    have normal := Response.normal_of_decode read
    refine ⟨normal.status, normal.version, normal.headers, ?_⟩
    intro order reordered
    apply normal.decode_encodeIn reordered
    exact .of_le_twice half (Response.length_encodeIn_le read reordered)

/-- A request that is spelled at length, and a response, are read the same when they are written
again. -/
theorem reading_is_stable_sample :
    -- A padded length, a header written out twice in capitals, set bits that mean nothing, and a
    -- byte behind.
    Request.decode [0x4F, 0x81, 0, 104, 0, 18, 0, 6, 65, 67, 67, 69, 80, 84, 1, 97, 0, 1, 88, 1, 98,
        1, 1, 99, 1, 5, 9] =
      .ok ⟨.post, "h", "/", 1, .ofList [("accept", "c"), ("x", "b")], [5]⟩ ∧
    Request.decode (Request.encodeIn
        ⟨.post, "h", "/", 1, .ofList [("accept", "c"), ("x", "b")], [5]⟩
        (.ofList [("x", "b"), ("accept", "c")])) =
      .ok ⟨.post, "h", "/", 1, .ofList [("x", "b"), ("accept", "c")], [5]⟩ ∧
    -- A status that has no meaning.
    Response.decode [0xBF, 1, 0x42, 0, 7] =
      .ok ⟨2, 500, .ofList [("content-encoding", "zstd")], []⟩ ∧
    Response.decode (Response.encodeIn ⟨2, 500, .ofList [("content-encoding", "zstd")], []⟩
        (.ofList [("content-encoding", "zstd")])) =
      .ok ⟨2, 500, .ofList [("content-encoding", "zstd")], []⟩ := by
  have request : Request.decode [0x4F, 0x81, 0, 104, 0, 18, 0, 6, 65, 67, 67, 69, 80, 84, 1, 97, 0,
      1, 88, 1, 98, 1, 1, 99, 1, 5, 9] =
        .ok ⟨.post, "h", "/", 1, .ofList [("accept", "c"), ("x", "b")], [5]⟩ := by
    decide +kernel
  have response : Response.decode [0xBF, 1, 0x42, 0, 7] =
      .ok ⟨2, 500, .ofList [("content-encoding", "zstd")], []⟩ := by
    decide +kernel
  have swapped : Headers.Reordering (.ofList [("x", "b"), ("accept", "c")])
      (.ofList [("accept", "c"), ("x", "b")]) := by
    unfold Headers.Reordering
    decide +kernel
  have requests := (reading_is_stable _ (by decide)).1 _ request
  have responses := (reading_is_stable _ (by decide)).2 _ response
  exact ⟨request, requests.2.2.2.2 _ swapped, response, responses.2.2.2 _ (.refl _)⟩

end CompactHttp
