import CompactHttp.Proofs.SmallNames
import CompactHttp.Proofs.Unpacking
import CompactHttp.Server

/-! # Packing is not seen

What a server packs a client unpacks: the client gets what it would have got of the response as
it was (`Server.packing_unseen`), if the programs that unpack undo what those that pack have done
(`Codec.Restores`). This is so for responses that name no encoding. Of one that has been packed
by its handler the server may make a response that is packed twice, of which the client unpacks
only the outer layer (`Server.handler_packing`).
-/

namespace CompactHttp

/-- Whether data that are packed with an encoding are there again when they are unpacked. They
do not become nothing in between. -/
def Codec.Restores (codec : Codec) (encoding : Encoding) (data : Bytes) : Prop :=
  match codec.encode encoding data with
  | none => True
  | some packed => packed ≠ [] ∧ (codec.decode encoding packed).bytes = data ∧
      (codec.decode encoding packed).ending = none

instance (codec : Codec) (encoding : Encoding) (data : Bytes) :
    Decidable (codec.Restores encoding data) := by
  unfold Codec.Restores
  split <;> infer_instance

/-- Data are unpacked again under any limit that they keep. -/
theorem Codec.Restores.decompress {codec : Codec} {encoding : Encoding} {data packed : Bytes}
    {limit : Nat} (restores : codec.Restores encoding data)
    (packs : codec.encode encoding data = some packed) (fits : data.length ≤ limit)
    (counted : limit + 1 < Nat.pow 2 64) :
    codec.decompress encoding limit packed = .ok data := by
  rw [Restores, packs] at restores
  obtain ⟨something, bytes, ending⟩ := restores
  rw [decompress_eq encoding something counted, bytes, ending, if_neg (Nat.not_lt.mpr fits)]

/-- The status of a response as it is read. -/
def Response.readStatus (response : Response) : UInt16 :=
  if Status.isCompact response.status then response.status else Status.fallback

/-- A response with headers in small letters is read with all their values, in whatever order
they were gone through. -/
theorem Response.exists_decode_encodeIn {response : Response} {order : Headers}
    (small : response.headers.SmallNames) (reordered : order.Reordering response.headers)
    (addressable : Addressable (response.encodeIn order)) :
    ∃ arrived, Response.decode (response.encodeIn order) = .ok arrived ∧
      arrived.version = response.version % 4 ∧ arrived.status = response.readStatus ∧
      arrived.body = response.body ∧
      ∀ name, arrived.headers.get? name = response.headers.get? name := by
  have read := Response.decode_encode_append addressable []
  rw [List.append_nil] at read
  refine ⟨_, read, rfl, rfl, rfl, ?_⟩
  intro name
  rw [(small.of_reordering reordered).ofList_lowerEntries,
    Headers.reordering_iff_get?.mp reordered]

/-- A response that was expected, but that the header which says how long the body is may have
been set. -/
structure Response.Matches (received expected : Response) : Prop where
  version : received.version = expected.version
  status : received.status = expected.status
  body : received.body = expected.body
  headers : ∀ name, name ≠ "content-length" →
    received.headers.get? name = expected.headers.get? name
  length : received.headers.get? "content-length" = expected.headers.get? "content-length" ∨
    received.headers.get? "content-length" = some (toString expected.body.length)

namespace Server

/-- A response whose body has been packed. -/
def packedAs (response : Response) (encoding : Encoding) (packed : Bytes) : Response :=
  { response with
    headers := (response.headers.insert "content-encoding" encoding.token).insert
      "content-length" (toString packed.length)
    body := packed }

variable {server : Server} {accept : Option String} {response : Response}

/-- What is packed is long enough and no row of bytes. -/
theorem worth_of_encodingFor {encoding : Encoding}
    (chosen : server.encodingFor accept response = some encoding) :
    max 1 server.config.minCompressionSize ≤ response.body.length ∧
      response.headers.get? "content-type" ≠ some "4" ∧
      encoding ∈ server.config.encodings := by
  unfold encodingFor at chosen
  split at chosen
  · cases chosen
  · next worth =>
    rw [not_or, not_or] at worth
    obtain ⟨something, long, notBytes⟩ := worth
    rw [List.isEmpty_iff, ← List.length_eq_zero_iff] at something
    refine ⟨by omega, notBytes, ?_⟩
    split at chosen
    · have offered := List.find?_some chosen
      exact List.contains_iff_mem.mp offered
    · cases chosen

/-- A response is left as it is, or it is packed and becomes shorter. -/
theorem compress_cases (server : Server) (accept : Option String) (response : Response) :
    server.compress accept response = response ∨
      ∃ encoding packed, server.encodingFor accept response = some encoding ∧
        server.codec.encode encoding response.body = some packed ∧
        packed.length < response.body.length ∧
        server.compress accept response = packedAs response encoding packed := by
  unfold compress
  cases chosen : server.encodingFor accept response with
  | none => exact .inl rfl
  | some encoding =>
    dsimp only
    -- The programs are not asked to pack an empty body.
    have something : response.body.isEmpty = false := by
      have worth := (worth_of_encodingFor chosen).1
      rw [List.isEmpty_eq_false_iff, ← List.length_pos_iff]
      omega
    rw [pack, Codec.compress, something, if_neg Bool.false_ne_true]
    cases packs : server.codec.encode encoding response.body with
    | none => exact .inl rfl
    | some packed =>
      by_cases shorter : packed.length < response.body.length
      · refine .inr ⟨encoding, packed, rfl, packs, shorter, ?_⟩
        dsimp only
        rw [if_pos shorter, packedAs]
      · refine .inl ?_
        dsimp only
        rw [if_neg shorter]

/-- A response that is packed has its new length and its encoding in the headers, and the others as
before. -/
theorem get?_packedAs (response : Response) (encoding : Encoding) (packed : Bytes)
    (name : String) :
    (packedAs response encoding packed).headers.get? name =
      if name = "content-length" then some (toString packed.length)
      else if name = "content-encoding" then some encoding.token
      else response.headers.get? name := by
  simp [packedAs]

/-- Packing adds names in small letters only. -/
theorem smallNames_packedAs (small : response.headers.SmallNames) (encoding : Encoding)
    (packed : Bytes) : (packedAs response encoding packed).headers.SmallNames :=
  (small.insert (lowercase_of_plain (by decide))).insert (lowercase_of_plain (by decide))

/-- What is packed arrives packed, and a client unpacks it. -/
theorem unpackWith_packedAs {codec : Codec} {encoding : Encoding} {packed body : Bytes}
    {limit : Nat} {order : Headers} (small : response.headers.SmallNames)
    (reordered : order.Reordering (packedAs response encoding packed).headers)
    (addressable : Addressable ((packedAs response encoding packed).encodeIn order))
    (unpacks : codec.decompress encoding limit packed = .ok body) :
    ∃ arrived received,
      Response.decode ((packedAs response encoding packed).encodeIn order) = .ok arrived ∧
      Client.unpackWith codec limit arrived = .ok received ∧
      received.version = response.version % 4 ∧ received.status = response.readStatus ∧
      received.body = body ∧
      ∀ name, received.headers.get? name =
        if name = "content-length" then some (toString body.length)
        else if name = "content-encoding" then none
        else response.headers.get? name := by
  obtain ⟨arrived, arrives, version, status, contents, values⟩ := Response.exists_decode_encodeIn
    (smallNames_packedAs small encoding packed) reordered addressable
  have named : arrived.headers.get? "content-encoding" = some encoding.token := by
    rw [values, get?_packedAs]
    rfl
  refine ⟨arrived, Client.unpacked arrived body, arrives, ?_, version, status, rfl, ?_⟩
  · have packs : arrived.body = packed := contents
    rw [Client.unpackWith_of_word named encoding.parse_token, packs, unpacks]
  · intro name
    rw [Client.unpacked, Headers.get?_insert, Headers.get?_erase, values, get?_packedAs]
    by_cases length : name = "content-length"
    · rw [if_pos length, if_pos length]
    · rw [if_neg length, if_neg length, if_neg length]
      by_cases coded : name = "content-encoding"
      · rw [if_pos coded, if_pos coded]
      · rw [if_neg coded, if_neg coded, if_neg coded]

/-- What a server packs a client unpacks, and gets of it what it would have got of the response
as it was. -/
theorem packing_unseen (server : Server) (accept : Option String) (response : Response)
    {limit : Nat} (small : response.headers.SmallNames)
    (plain : response.headers.get? "content-encoding" = none)
    (fits : response.body.length ≤ limit) (counted : limit + 1 < Nat.pow 2 64)
    (restores : ∀ encoding ∈ server.config.encodings,
      server.codec.Restores encoding response.body)
    {plainOrder order : Headers} (plainReordered : plainOrder.Reordering response.headers)
    (reordered : order.Reordering (server.compress accept response).headers)
    (plainAddressable : Addressable (response.encodeIn plainOrder))
    (addressable : Addressable ((server.compress accept response).encodeIn order)) :
    let sent := server.compress accept response
    (∃ expected arrived received,
      Response.decode (response.encodeIn plainOrder) = .ok expected ∧
      Response.decode (sent.encodeIn order) = .ok arrived ∧
      Client.unpackWith server.codec limit arrived = .ok received ∧
      received.Matches expected) ∧
    (sent = response ∨
      sent.status = response.status ∧ sent.version = response.version ∧
      (∀ name, name ≠ "content-encoding" → name ≠ "content-length" →
        sent.headers.get? name = response.headers.get? name) ∧
      sent.body.length < response.body.length ∧
      sent.headers.get? "content-length" = some (toString sent.body.length) ∧
      max 1 server.config.minCompressionSize ≤ response.body.length ∧
      response.headers.get? "content-type" ≠ some "4") := by
  intro sent
  obtain ⟨expected, expects, version, status, body, values⟩ :=
    Response.exists_decode_encodeIn small plainReordered plainAddressable
  obtain same | ⟨encoding, packed, chosen, packs, shorter, same⟩ :=
    server.compress_cases accept response
  · have sentSame : sent = response := same
    rw [same] at reordered addressable
    rw [sentSame]
    obtain ⟨arrived, arrives, arrivedVersion, arrivedStatus, arrivedBody, arrivedValues⟩ :=
      Response.exists_decode_encodeIn small reordered addressable
    have unnamed : arrived.headers.get? "content-encoding" = none :=
      (arrivedValues _).trans plain
    refine ⟨⟨expected, arrived, arrived, expects, arrives, Client.unpackWith_of_plain unnamed,
      ?_⟩, .inl rfl⟩
    exact ⟨arrivedVersion.trans version.symm, arrivedStatus.trans status.symm,
      arrivedBody.trans body.symm, fun name _ => (arrivedValues name).trans (values name).symm,
      .inl ((arrivedValues _).trans (values _).symm)⟩
  · have sentSame : sent = packedAs response encoding packed := same
    rw [same] at reordered addressable
    rw [sentSame]
    obtain ⟨long, notBytes, offered⟩ := worth_of_encodingFor chosen
    have unpacks := (restores encoding offered).decompress packs fits counted
    obtain ⟨arrived, received, arrives, gets, receivedVersion, receivedStatus, receivedBody,
      receivedValues⟩ := unpackWith_packedAs small reordered addressable unpacks
    refine ⟨⟨expected, arrived, received, expects, arrives, gets, ?_⟩,
      .inr ⟨rfl, rfl, ?_, shorter, ?_, long, notBytes⟩⟩
    · refine ⟨receivedVersion.trans version.symm, receivedStatus.trans status.symm,
        receivedBody.trans body.symm, ?_, ?_⟩
      · intro name other
        rw [receivedValues, if_neg other, values]
        by_cases coded : name = "content-encoding"
        · rw [if_pos coded, coded, plain]
        · rw [if_neg coded]
      · rw [receivedValues, if_pos rfl, body]
        exact .inr rfl
    · intro name notCoding notLength
      rw [get?_packedAs, if_neg notLength, if_neg notCoding]
    · rw [get?_packedAs, if_pos rfl]
      rfl

/-- Forty letters are packed and come out as they went in. -/
theorem packing_unseen_sample :
    let server : Server := { config := { minCompressionSize := 16, encodings := [.zstd] } }
    let response : Response := ⟨0, 200, .ofList [("server", "b")], List.replicate 40 97⟩
    server.compress (some "br, zstd") response ≠ response ∧
    ∃ expected arrived received,
      Response.decode (response.encodeIn response.headers) = .ok expected ∧
      Response.decode ((server.compress (some "br, zstd") response).encodeIn
        (server.compress (some "br, zstd") response).headers) = .ok arrived ∧
      Client.unpackWith server.codec 40 arrived = .ok received ∧ received.Matches expected := by
  intro server response
  refine ⟨by decide +kernel, ?_⟩
  exact (packing_unseen server (some "br, zstd") response (by decide +kernel) (by decide +kernel)
    (by decide) (by decide) (by decide +kernel) (.refl _) (.refl _)
    (by unfold Addressable; decide +kernel) (by unfold Addressable; decide +kernel)).1

/-- A response whose handler has packed its body is unpacked by the client if the server leaves
it as it is. If the server packs it once more, the client is left with what the handler has
packed. -/
theorem handler_packing (server : Server) (accept : Option String) (response : Response)
    {limit : Nat} {word : String} {encoding : Encoding} {body : Bytes}
    (small : response.headers.SmallNames)
    (named : response.headers.get? "content-encoding" = some word)
    (names : Encoding.parse word = .ok encoding)
    (unpacks : server.codec.decompress encoding limit response.body = .ok body)
    (fits : response.body.length ≤ limit) (counted : limit + 1 < Nat.pow 2 64)
    (restores : ∀ encoding ∈ server.config.encodings,
      server.codec.Restores encoding response.body)
    {order : Headers}
    (reordered : order.Reordering (server.compress accept response).headers)
    (addressable : Addressable ((server.compress accept response).encodeIn order)) :
    ∃ arrived received,
      Response.decode ((server.compress accept response).encodeIn order) = .ok arrived ∧
      Client.unpackWith server.codec limit arrived = .ok received ∧
      received.headers.get? "content-encoding" = none ∧
      received.body =
        if server.compress accept response = response then body else response.body := by
  obtain same | ⟨again, packed, chosen, packs, shorter, same⟩ :=
    server.compress_cases accept response
  · rw [same] at reordered addressable ⊢
    obtain ⟨arrived, arrives, -, -, contents, values⟩ :=
      Response.exists_decode_encodeIn small reordered addressable
    refine ⟨arrived, Client.unpacked arrived body, arrives, ?_, ?_, ?_⟩
    · rw [Client.unpackWith_of_word ((values _).trans named) names, contents, unpacks]
    · simp [Client.unpacked]
    · rw [if_pos rfl]
      rfl
  · have other : ¬server.compress accept response = response := by
      intro unchanged
      rw [← unchanged, same] at shorter
      exact Nat.lt_irrefl _ shorter
    rw [if_neg other]
    rw [same] at reordered addressable ⊢
    obtain ⟨-, -, offered⟩ := worth_of_encodingFor chosen
    obtain ⟨arrived, received, arrives, gets, -, -, contents, values⟩ := unpackWith_packedAs small
      reordered addressable ((restores again offered).decompress packs fits counted)
    refine ⟨arrived, received, arrives, gets, ?_, contents⟩
    rw [values]
    rfl

/-- A body that the handler has packed is left alone for a client that asks for nothing on offer,
and unpacked there. -/
theorem handler_packing_sample :
    let server : Server := { config := { minCompressionSize := 16, encodings := [.zstd] } }
    let response : Response := ⟨0, 200, .ofList [("content-encoding", "zstd")],
      [0x28, 0xb5, 0x2f, 0xfd, 0x20, 40, 0x41, 0x01, 0x00] ++ List.replicate 40 97⟩
    ∃ arrived received,
      Response.decode ((server.compress (some "gzip") response).encodeIn
        (server.compress (some "gzip") response).headers) = .ok arrived ∧
      Client.unpackWith server.codec 64 arrived = .ok received ∧
      received.body = List.replicate 40 97 := by
  intro server response
  have named : response.headers.get? "content-encoding" = some "zstd" := by decide +kernel
  have unpacks : server.codec.decompress .zstd 64 response.body = .ok (List.replicate 40 97) := by
    decide +kernel
  obtain ⟨arrived, received, arrives, gets, -, contents⟩ := handler_packing server (some "gzip")
    response (by decide +kernel) named (by decide +kernel) unpacks (by decide) (by decide)
    (by decide +kernel) (.refl _) (by unfold Addressable; decide +kernel)
  rw [if_pos (by decide +kernel)] at contents
  exact ⟨arrived, received, arrives, gets, contents⟩

/-- A server packs once more what a handler has packed loosely, and the client is left with what
the handler made instead of what it started from. -/
theorem handler_packing_lost :
    let server : Server := { config := { minCompressionSize := 16 } }
    let body : Bytes := List.replicate 100 97
    let response : Response := ⟨0, 200, .ofList [("content-encoding", "zstd")],
      [0x28, 0xb5, 0x2f, 0xfd, 0x20, 100, 0x21, 0x03, 0x00] ++ body⟩
    server.codec.decompress .zstd 1000 response.body = .ok body ∧
    ((Response.decode (server.compress (some "zstd, br, gzip") response).encode).toOption.bind
      fun arrived => (Client.unpackWith server.codec 1000 arrived).toOption).map
        (fun received => received.body) = some response.body ∧
    response.body ≠ body := by
  decide +kernel

end Server

end CompactHttp
