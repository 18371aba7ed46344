import CompactHttp.Client
import CompactHttp.Proofs.Answering
import CompactHttp.Proofs.SmallNames
import CompactHttp.Proofs.TextParts
import Mathlib.Data.List.Forall2

/-! # Which encoding peers agree on

Of the words of an `accept-encoding` value the first one counts that names an encoding which the
server has (`Encoding.select_parseAccept_eq_some_iff`). A client names its encodings in its own
order, which is the order in which they are read (`Encoding.parseAccept_acceptHeader`), and what
it has named arrives (`Client.get?_accept_of_withEncodings`). So it is the client's order that
decides (`Server.negotiation`).
-/

namespace CompactHttp

namespace Encoding

/-- The words of a text: what stands between its commas. -/
def AreWords (text : String) (words : List String) : Prop :=
  words ≠ [] ∧ (∀ word ∈ words, ',' ∉ word.toList) ∧ text = ",".intercalate words

/-- Whether a word is the one for an encoding, but for the white space around it. -/
def IsNamedBy (encoding : Encoding) (word : String) : Prop :=
  ∃ left right, word.toList = left ++ encoding.token.toList ++ right ∧
    ∀ char ∈ left ++ right, Blank.isBlank char = true

variable {encoding : Encoding} {text word : String} {words : List String}
  {offered : List Encoding}

/-- A text is split at its commas into its words. -/
theorem AreWords.splitAtChar_eq (are : AreWords text words) :
    splitAtChar ',' text.toList = words.map String.toList := by
  obtain ⟨some, free, rfl⟩ := are
  rw [String.toList_intercalate]
  refine splitAtChar_intercalate (mt List.map_eq_nil_iff.mp some) fun part among => ?_
  obtain ⟨word, member, rfl⟩ := List.mem_map.mp among
  exact free word member

/-- Every text has words. -/
theorem exists_areWords (text : String) : ∃ words, AreWords text words := by
  refine ⟨(splitAtChar ',' text.toList).map String.ofList,
    mt List.map_eq_nil_iff.mp (splitAtChar_ne_nil ',' text.toList), fun word among => ?_, ?_⟩
  · obtain ⟨part, member, rfl⟩ := List.mem_map.mp among
    rw [String.toList_ofList]
    exact fun comma => (of_mem_splitAtChar member comma).2 rfl
  · apply String.toList_injective
    rw [String.toList_intercalate, map_toList_map_ofList]
    exact (intercalate_splitAtChar ',' text.toList).symm

/-- An encoding is known by its own token only. -/
theorem ofToken?_eq_some_iff : ofToken? word = some encoding ↔ word = encoding.token := by
  constructor
  · intro found
    have same := List.find?_some found
    exact (beq_iff_eq.mp same).symm
  · rintro rfl
    cases encoding <;> decide

/-- A word names an encoding by its token, with white space around it. -/
theorem isNamedBy_iff :
    encoding.IsNamedBy word ↔
      ofToken? (String.ofList (Blank.trimChars word.toList)) = some encoding := by
  rw [ofToken?_eq_some_iff, ← String.toList_inj, String.toList_ofList]
  constructor
  · rintro ⟨left, right, split, blank⟩
    rw [split, Blank.trimChars_of_blank blank]
    cases encoding <;> decide
  · intro trimmed
    obtain ⟨left, right, split, blank⟩ := Blank.exists_blank_trimChars word.toList
    rw [trimmed] at split
    exact ⟨left, right, split, blank⟩

/-- A word names no two encodings. -/
theorem IsNamedBy.unique {other : Encoding} (names : encoding.IsNamedBy word)
    (named : other.IsNamedBy word) : encoding = other :=
  Option.some.inj ((isNamedBy_iff.mp names).symm.trans (isNamedBy_iff.mp named))

/-- The encodings that a text names, word by word. -/
theorem parseAccept_eq (are : AreWords text words) :
    parseAccept text = words.filterMap fun word =>
      ofToken? (String.ofList (Blank.trimChars word.toList)) := by
  rw [parseAccept, are.splitAtChar_eq, List.filterMap_map]
  rfl

/-- The first word counts that names an encoding which is offered. -/
theorem select_parseAccept_eq_some_iff (are : AreWords text words) :
    select (parseAccept text) offered = some encoding ↔
      ∃ before word after, words = before ++ word :: after ∧ encoding.IsNamedBy word ∧
        encoding ∈ offered ∧ ∀ earlier ∈ before, ∀ other ∈ offered, ¬other.IsNamedBy earlier := by
  rw [select, parseAccept_eq are, List.find?_filterMap, Option.bind_eq_some_iff]
  simp only [List.find?_eq_some_iff_append, Option.any_eq_true, Bool.not_eq_true',
    Option.any_eq_false, ← isNamedBy_iff, List.contains_eq_mem, decide_eq_true_eq,
    decide_eq_false_iff_not]
  constructor
  · rintro ⟨word, ⟨⟨other, named, has⟩, before, after, split, passed⟩, names⟩
    obtain rfl := names.unique named
    exact ⟨before, word, after, split, names, has, fun earlier member other offers called =>
      passed earlier member other called offers⟩
  · rintro ⟨before, word, after, split, names, has, passed⟩
    exact ⟨word, ⟨⟨encoding, names, has⟩, before, after, split,
      fun earlier member other called offers => passed earlier member other offers called⟩, names⟩

/-- Nothing is selected if no word names an encoding that is offered. -/
theorem select_parseAccept_eq_none_iff (are : AreWords text words) :
    select (parseAccept text) offered = none ↔
      ∀ word ∈ words, ∀ encoding ∈ offered, ¬encoding.IsNamedBy word := by
  rw [select, parseAccept_eq are, List.find?_eq_none]
  simp only [List.mem_filterMap, ← isNamedBy_iff, List.contains_iff_mem]
  constructor
  · intro nothing word member encoding has names
    exact nothing encoding ⟨word, member, names⟩ has
  · rintro nothing encoding ⟨word, member, names⟩ has
    exact nothing word member encoding has names

/-- Words that name one encoding each are read as these encodings. -/
theorem parseAccept_of_forall₂ {encodings : List Encoding} (are : AreWords text words)
    (name : List.Forall₂ IsNamedBy encodings words) : parseAccept text = encodings := by
  rw [parseAccept_eq are]
  clear are
  induction name with
  | nil => rfl
  | cons here _ ih => simp only [List.filterMap_cons, isNamedBy_iff.mp here, ih]

/-- The words of the value in which a client names its encodings. -/
theorem areWords_acceptHeader (first : Encoding) (rest : List Encoding) :
    AreWords (acceptHeader (first :: rest))
      (first.token :: rest.map fun encoding => " " ++ encoding.token) := by
  have commaFree : ∀ encoding : Encoding,
      ',' ∉ encoding.token.toList ∧ ',' ∉ (" " ++ encoding.token).toList := by
    rintro (_ | _ | _) <;> decide
  refine ⟨List.cons_ne_nil _ _, fun word member => ?_, ?_⟩
  · rw [List.mem_cons, List.mem_map] at member
    obtain rfl | ⟨encoding, -, rfl⟩ := member
    · exact (commaFree first).1
    · exact (commaFree encoding).2
  · apply String.toList_injective
    have spaced : (String.toList ∘ fun encoding => " " ++ token encoding) =
        (' ' :: ·) ∘ String.toList ∘ token :=
      funext fun encoding => String.toList_append
    have moved := intercalate_append_singleton [','] ' ' first.token.toList
      (rest.map (String.toList ∘ token))
    rw [List.map_map] at moved
    simp only [acceptHeader, String.toList_intercalate, List.map_cons, List.map_map, spaced]
    exact moved

/-- The encodings of a client are read in its own order. -/
theorem parseAccept_acceptHeader (encodings : List Encoding) :
    parseAccept (acceptHeader encodings) = encodings := by
  cases encodings with
  | nil => decide
  | cons first rest =>
    refine parseAccept_of_forall₂ (areWords_acceptHeader first rest) (.cons ?_ ?_)
    · exact ⟨[], [], by rw [List.append_nil]; rfl, nofun⟩
    · refine List.forall₂_map_right_iff.mpr (List.forall₂_same.mpr fun encoding _ => ?_)
      exact ⟨[' '], [], by rw [List.append_nil, String.toList_append]; rfl,
        forall_mem_of_all (by decide)⟩

/-- Of a list of encodings the first one is selected that is offered. -/
theorem select_of_first {before after encodings : List Encoding}
    (split : encodings = before ++ encoding :: after) (has : encoding ∈ offered)
    (passed : ∀ other ∈ before, other ∉ offered) : select encodings offered = some encoding := by
  rw [select, List.find?_eq_some_iff_append]
  refine ⟨List.contains_iff_mem.mpr has, before, after, split, fun other member => ?_⟩
  rw [Bool.not_eq_true', ← Bool.not_eq_true, List.contains_iff_mem]
  exact passed other member

/-- Nothing is selected if nothing that is asked for is offered. -/
theorem select_of_disjoint {encodings : List Encoding}
    (nothing : ∀ encoding ∈ encodings, encoding ∉ offered) : select encodings offered = none := by
  rw [select, List.find?_eq_none]
  intro encoding member
  rw [List.contains_iff_mem]
  exact nothing encoding member

end Encoding

namespace Client

variable {World Link Stream : Type} {client : Client World Link Stream} {request : Request}
  {order : Headers}

/-- A request that accepts no encodings is given those of the client. -/
theorem withEncodings_of_missing (missing : request.header? "accept-encoding" = none) :
    client.withEncodings request = { request with
      headers := request.headers.insert "accept-encoding"
        (Encoding.acceptHeader client.config.encodings) } := by
  rw [withEncodings, missing]
  rfl

/-- No other header of a request becomes the one that the client has added. -/
theorem eq_of_lowercase (missing : request.header? "accept-encoding" = none)
    (reordered : order.Reordering (client.withEncodings request).headers) :
    ∀ entry ∈ order.entries, lowercase entry.1 = "accept-encoding" →
      entry.1 = "accept-encoding" := by
  intro entry member lowered
  have silent : request.headers.mentions "accept-encoding" = false := by
    rw [← Headers.isSome_find?, ← Request.header?, missing]
    rfl
  rw [withEncodings_of_missing missing] at reordered
  exact Headers.eq_of_sameName_insert silent (reordered.mem_iff.mp member)
    (Headers.sameName_of_lowercase lowered (forall_mem_of_all (by decide)))

/-- The encodings of a client arrive as it has written them down. -/
theorem get?_accept_of_withEncodings (missing : request.header? "accept-encoding" = none)
    (reordered : order.Reordering (client.withEncodings request).headers) :
    (Headers.ofList order.lowerEntries).get? "accept-encoding" =
      some (Encoding.acceptHeader client.config.encodings) := by
  have added : (client.withEncodings request).headers.get? "accept-encoding" =
      some (Encoding.acceptHeader client.config.encodings) := by
    rw [withEncodings_of_missing missing, Headers.get?_insert, if_pos rfl]
  rw [← Headers.reordering_iff_get?.mp reordered] at added
  exact Headers.get?_ofList_lowerEntries added (lowercase_of_plain (by decide))
    (eq_of_lowercase missing reordered)

/-- A request to a possible host is read with the encodings of the client among its headers. -/
theorem exists_decode_withEncodings (missing : request.header? "accept-encoding" = none)
    (reordered : order.Reordering (client.withEncodings request).headers)
    (addressable : Addressable ((client.withEncodings request).encodeIn order))
    (named : 0 < request.host.utf8ByteSize)
    (short : request.host.utf8ByteSize ≤ Request.maxHostSize) :
    ∃ read, Request.decode ((client.withEncodings request).encodeIn order) = .ok read ∧
      read.headers.get? "accept-encoding" =
        some (Encoding.acceptHeader client.config.encodings) := by
  have host : (client.withEncodings request).host = request.host := by
    rw [withEncodings_of_missing missing]
  rw [← host] at named short
  have read := Request.decode_encode_append addressable named short []
  rw [List.append_nil] at read
  exact ⟨_, read, get?_accept_of_withEncodings missing reordered⟩

end Client

namespace Server

variable {server : Server} {response : Response} {encodings : List Encoding}

/-- Whether it is worth to pack a response: it has a body that is neither short nor a row of
bytes. -/
def IsWorthPacking (server : Server) (response : Response) : Prop :=
  response.body ≠ [] ∧ server.config.minCompressionSize ≤ response.body.length ∧
    response.headers.get? "content-type" ≠ some "4"

instance : Decidable (server.IsWorthPacking response) :=
  inferInstanceAs (Decidable (_ ∧ _ ∧ _))

/-- A response is packed unless it is empty, small, or just bytes. -/
theorem isWorthPacking_iff : server.IsWorthPacking response ↔
    ¬(response.body.isEmpty ∨ response.body.length < server.config.minCompressionSize ∨
      response.headers.get? "content-type" = some ContentType.octetStream.headerValue) := by
  rw [not_or, not_or, List.isEmpty_iff, Nat.not_lt]
  rfl

/-- The encoding is the first of those asked for that is offered, if packing is worth it. -/
theorem encodingFor_acceptHeader :
    server.encodingFor (some (Encoding.acceptHeader encodings)) response =
      if server.IsWorthPacking response then
        Encoding.select encodings server.config.encodings
      else none := by
  unfold encodingFor
  by_cases worth : server.IsWorthPacking response
  · rw [if_pos worth, if_neg (isWorthPacking_iff.mp worth)]
    dsimp only
    rw [Encoding.parseAccept_acceptHeader]
  · rw [if_neg worth, if_pos (not_not.mp (mt isWorthPacking_iff.mpr worth))]

/-- A response is packed with the first encoding of the client that the server has. -/
theorem compress_of_first {before after : List Encoding} {encoding : Encoding}
    (split : encodings = before ++ encoding :: after) (has : encoding ∈ server.config.encodings)
    (passed : ∀ other ∈ before, other ∉ server.config.encodings) :
    server.compress (some (Encoding.acceptHeader encodings)) response =
      if server.IsWorthPacking response then pack server.codec encoding response
      else response := by
  rw [compress, encodingFor_acceptHeader, Encoding.select_of_first split has passed]
  by_cases worth : server.IsWorthPacking response
  · simp only [if_pos worth]
  · simp only [if_neg worth]

/-- A response is left as it is if the server has none of the encodings of the client. -/
theorem compress_of_disjoint
    (nothing : ∀ encoding ∈ encodings, encoding ∉ server.config.encodings) :
    server.compress (some (Encoding.acceptHeader encodings)) response = response := by
  rw [compress, encodingFor_acceptHeader, Encoding.select_of_disjoint nothing, ite_self]

/-- The answer to a request that names the encodings of a client is made ready for that client. -/
theorem handle_of_acceptHeader {message : Bytes} {request : Request}
    (read : Request.decode message = .ok request)
    (named : request.headers.get? "accept-encoding" = some (Encoding.acceptHeader encodings))
    (right : ¬(request.CarriesBody ∧ request.Mistyped)) :
    server.handle message = server.compress (some (Encoding.acceptHeader encodings))
      (server.router.dispatch request.passedOn) := by
  rw [handle_of_passedOn server read right, answer, Request.get?_passedOn (by decide), named]

/-- The client decides. Of any text the first word counts that names an encoding which is
offered. What a client writes is read as the list of its encodings, in its order. So the answer
to a request to which the client has added that list is packed with the first of its encodings
that the server has, if it is worth packing, and is not packed if the server has none of them. -/
theorem negotiation :
    (∀ (text : String) (offered : List Encoding), ∃ words, Encoding.AreWords text words ∧
      (∀ encoding, Encoding.select (Encoding.parseAccept text) offered = some encoding ↔
        ∃ before word after, words = before ++ word :: after ∧ encoding.IsNamedBy word ∧
          encoding ∈ offered ∧
          ∀ earlier ∈ before, ∀ other ∈ offered, ¬other.IsNamedBy earlier) ∧
      (Encoding.select (Encoding.parseAccept text) offered = none ↔
        ∀ word ∈ words, ∀ encoding ∈ offered, ¬encoding.IsNamedBy word)) ∧
    (∀ encodings, Encoding.parseAccept (Encoding.acceptHeader encodings) = encodings) ∧
    ∀ {World Link Stream : Type} (client : Client World Link Stream) (request : Request)
      (order : Headers), request.header? "accept-encoding" = none →
      order.Reordering (client.withEncodings request).headers →
      let message := (client.withEncodings request).encodeIn order
      Addressable message → 0 < request.host.utf8ByteSize →
      request.host.utf8ByteSize ≤ Request.maxHostSize →
      ∃ read, Request.decode message = .ok read ∧
        read.headers.get? "accept-encoding" =
          some (Encoding.acceptHeader client.config.encodings) ∧
        ∀ server : Server,
          let response := server.router.dispatch read.passedOn
          (read.CarriesBody ∧ read.Mistyped →
            server.handle message = .text 415 "Unsupported Media Type") ∧
          (¬(read.CarriesBody ∧ read.Mistyped) →
            (∀ before encoding after,
              client.config.encodings = before ++ encoding :: after →
              encoding ∈ server.config.encodings →
              (∀ other ∈ before, other ∉ server.config.encodings) →
              server.handle message =
                if server.IsWorthPacking response then pack server.codec encoding response
                else response) ∧
            ((∀ encoding ∈ client.config.encodings, encoding ∉ server.config.encodings) →
              server.handle message = response)) := by
  refine ⟨fun text offered => ?_, Encoding.parseAccept_acceptHeader, ?_⟩
  · obtain ⟨words, are⟩ := Encoding.exists_areWords text
    exact ⟨words, are, fun _ => Encoding.select_parseAccept_eq_some_iff are,
      Encoding.select_parseAccept_eq_none_iff are⟩
  · intro World Link Stream client request order missing reordered message addressable named short
    obtain ⟨read, decoded, arrived⟩ :=
      Client.exists_decode_withEncodings missing reordered addressable named short
    refine ⟨read, decoded, arrived, fun server => ⟨fun wrong => ?_, fun right => ⟨?_, ?_⟩⟩⟩
    · exact handle_of_mistyped server decoded wrong.1 wrong.2
    · intro before encoding after split has passed
      rw [handle_of_acceptHeader decoded arrived right, compress_of_first split has passed]
    · intro nothing
      rw [handle_of_acceptHeader decoded arrived right, compress_of_disjoint nothing]

/-- The client asks for gzip first, which one server offers, and the other does not. -/
theorem negotiation_sample :
    let client : Client Unit SocketAddress Empty :=
      { transport := .offline, resolver := .literal, config := { encodings := [.gzip, .zstd] } }
    let sent := client.withEncodings (.plain .get "h" "/")
    let response := Response.new 200 [97, 97, 97] .empty
    let server (offered : List Encoding) : Server :=
      { config := { minCompressionSize := 0, encodings := offered }
        router := .ofRegistrations [(⟨"/", .get⟩, fun _ => response)] }
    (server [.zstd, .gzip]).handle (sent.encodeIn sent.headers) =
        pack .standard .gzip response ∧
      (server [.brotli]).handle (sent.encodeIn sent.headers) = response := by
  intro client sent response server
  obtain ⟨read, decoded, -, answers⟩ := negotiation.2.2 client (.plain .get "h" "/") sent.headers
    (by decide +kernel) (.refl _) (by unfold Addressable; decide +kernel) (by decide) (by decide)
  have arrived : Request.decode (sent.encodeIn sent.headers) =
      .ok ⟨.get, "h", "/", 0, .ofList [("accept-encoding", "gzip, zstd")], []⟩ := by
    decide +kernel
  rw [arrived] at decoded
  cases decoded
  have worth : (server [.zstd, .gzip]).IsWorthPacking response :=
    ⟨by decide, Nat.zero_le _, by decide +kernel⟩
  constructor
  · have answered := ((answers (server [.zstd, .gzip])).2 fun both => nomatch both.1).1
      [] .gzip [.zstd] rfl (by decide) nofun
    exact answered.trans (if_pos worth)
  · exact ((answers (server [.brotli])).2 fun both => nomatch both.1).2 (by decide)

end Server

end CompactHttp
