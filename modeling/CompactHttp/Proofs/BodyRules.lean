import CompactHttp.Proofs.Answering
import CompactHttp.Proofs.Redirection
import CompactHttp.Proofs.SmallNames
import CompactHttp.Proofs.TextParts
import CompactHttp.Text.Number

/-! # Bodies and their lengths along a call

A call that is composed of its parts follows the rules for bodies in every request that it sends
(`Request.ObeysBodyRules`): a request that carries a body says how long it is, and one that carries
none has no body and says nothing of it, in whatever letters. The rules hold when the call is
composed, and a redirect repeats a request or makes a GET without a body of it; so they hold for
every hop, and as names arrive in small letters, they hold for what the peer reads
(`Client.body_rules_of_send`). Where the length is added by the client, it is that of the body.
-/

namespace CompactHttp

namespace Request

variable {request first : Request}

/-- The rules for bodies: a request that carries a body says how long it is, in some letters, and
any other one has no body and says nothing of its length, in whatever letters. -/
def ObeysBodyRules (request : Request) : Prop :=
  request.CarriesBody ∧ request.headers.mentions "content-length" = true ∨
    ¬request.CarriesBody ∧ request.body = [] ∧ request.headers.mentions "content-length" = false

/-- The same rules with the name in small letters. -/
def ArrivesByBodyRules (request : Request) : Prop :=
  request.CarriesBody ∧ (request.headers.get? "content-length").isSome = true ∨
    ¬request.CarriesBody ∧ request.body = [] ∧ request.headers.get? "content-length" = none

/-- If the request carries a body, the length that it gives is that of its body, and it gives no
other one in other letters. -/
def GivesLength (request : Request) : Prop :=
  request.CarriesBody →
    request.headers.get? "content-length" = some (toString request.body.length) ∧
      ∀ entry ∈ request.headers.entries, Headers.sameName entry.1 "content-length" = true →
        entry.1 = "content-length"

/-- The name of the length is in small letters. -/
theorem contentLength_isPlain :
    ∀ char ∈ "content-length".toList, Lowercase.isPlain char = true :=
  List.all_eq_true.mp (by decide)

/-- The name of the length is in ASCII, without the letter that has a relative beyond it. -/
theorem contentLength_ascii :
    ∀ char ∈ "content-length".toList, char.toNat < 128 ∧ char ≠ 'k' :=
  forall_mem_of_all (by decide)

/-! ## Redirects -/

/-- Whether a request carries a body depends on its method only. -/
theorem carriesBody_of_method (same : request.method = first.method) :
    request.CarriesBody ↔ first.CarriesBody := by
  unfold CarriesBody
  rw [same]

/-- A `GET` carries no body. -/
theorem not_carriesBody_of_get (get : request.method = .get) : ¬request.CarriesBody := by
  unfold CarriesBody
  rw [get]
  decide

/-- A request that is sent again obeys the rules as it did before. -/
theorem ObeysBodyRules.of_repeats (rules : first.ObeysBodyRules)
    (repeated : Client.Repeats first request) : request.ObeysBodyRules := by
  obtain ⟨method, headers, body⟩ := repeated
  rw [ObeysBodyRules, carriesBody_of_method method, headers, body]
  exact rules

/-- A GET without a body and without its length follows the rules, whatever it was before. -/
theorem obeysBodyRules_of_downgrades (downgraded : Client.Downgrades first request) :
    request.ObeysBodyRules := by
  obtain ⟨get, noBody, headers⟩ := downgraded
  refine .inr ⟨not_carriesBody_of_get get, noBody, ?_⟩
  rw [headers]
  exact Headers.mentions_keep_other _ _

/-- A request that is sent again gives the length of its body as it did before. -/
theorem GivesLength.of_repeats (gives : first.GivesLength)
    (repeated : Client.Repeats first request) : request.GivesLength := by
  obtain ⟨method, headers, body⟩ := repeated
  rw [GivesLength, carriesBody_of_method method, headers, body]
  exact gives

/-- A request that has become a `GET` has no length to give. -/
theorem givesLength_of_downgrades (downgraded : Client.Downgrades first request) :
    request.GivesLength :=
  fun carries => absurd carries (not_carriesBody_of_get downgraded.1)

/-! ## What the peer reads -/

variable {order : Headers} {read : Request}

/-- What can be read of a request is the request with its names in small letters. -/
theorem eq_of_decode_encodeIn (addressable : Addressable (request.encodeIn order)) {more : Bytes}
    (reads : decode (request.encodeIn order ++ more) = .ok read) : read = { request with
      version := request.version % 4
      path := if request.path.isEmpty then "/" else request.path
      headers := Headers.ofList order.lowerEntries } := by
  have judged := checkHost_encode addressable more
  unfold encodeIn at *
  split at judged
  · obtain ⟨-, refused⟩ := refused_of_checkHost addressable judged
    cases refused.symm.trans reads
  · next named =>
    split at judged
    · obtain ⟨-, refused⟩ := refused_of_checkHost addressable judged
      cases refused.symm.trans reads
    · next short =>
      have whole := decode_encode_append addressable (Nat.pos_of_ne_zero named)
        (Nat.not_lt.mp short) more
      exact Except.ok.inj (reads.symm.trans whole)

/-- A request that obeys the rules arrives by them, in whatever order its headers were sent. -/
theorem ObeysBodyRules.arrives (rules : request.ObeysBodyRules)
    (reordered : order.Reordering request.headers) (method : read.method = request.method)
    (body : read.body = request.body) (headers : read.headers = .ofList order.lowerEntries) :
    read.ArrivesByBodyRules := by
  have arrived := Headers.isSome_get?_ofList_lowerEntries reordered contentLength_isPlain
    contentLength_ascii
  rw [ArrivesByBodyRules, carriesBody_of_method method, body, headers]
  obtain ⟨carries, mentioned⟩ | ⟨bodiless, noBody, silent⟩ := rules
  · exact .inl ⟨carries, arrived.trans mentioned⟩
  · exact .inr ⟨bodiless, noBody,
      Option.isNone_iff_eq_none.mp (Option.isSome_eq_false_iff.mp (arrived.trans silent))⟩

/-- The length that a request gives is found where it arrives. -/
theorem GivesLength.arrives (gives : request.GivesLength)
    (reordered : order.Reordering request.headers) (method : read.method = request.method)
    (body : read.body = request.body) (headers : read.headers = .ofList order.lowerEntries)
    (carries : read.CarriesBody) :
    read.headers.get? "content-length" = some (toString read.body.length) := by
  obtain ⟨given, alone⟩ := gives ((carriesBody_of_method method).mp carries)
  rw [headers, body]
  rw [← Headers.reordering_iff_get?.mp reordered] at given
  refine Headers.get?_ofList_lowerEntries given (lowercase_of_plain (by decide))
    fun entry member lowered => ?_
  exact alone entry (reordered.mem_iff.mp member)
    (Headers.sameName_of_lowercase lowered contentLength_ascii)

end Request

namespace Client

open Request

variable {World Link Stream : Type} {client : Client World Link Stream} {request : Request}

/-! ## Calls -/

section Compose

variable {method : Method} {host path : String} {headers : Headers} {body : Bytes}

@[simp]
theorem method_compose : (compose method host path headers body).method = method := by
  unfold compose
  split <;> rfl

/-- A request obeys the rules from the start. -/
theorem obeysBodyRules_compose : (compose method host path headers body).ObeysBodyRules := by
  have carries := (compose method host path headers body).allowsBody_iff
  rw [method_compose] at carries
  rw [ObeysBodyRules, ← carries]
  cases allowed : method.allowsBody with
  | true =>
    refine .inl ⟨rfl, ?_⟩
    rw [compose, if_pos allowed]
    dsimp only
    split
    · assumption
    · rw [Headers.mentions_insert, Headers.sameName, beq_self_eq_true, Bool.true_or]
  | false =>
    rw [compose, if_neg (by simp [allowed])]
    exact .inr ⟨Bool.false_ne_true, rfl, Headers.mentions_keep_other _ _⟩

/-- The length that is added to a call is that of its body. -/
theorem givesLength_compose (silent : headers.mentions "content-length" = false) :
    (compose method host path headers body).GivesLength := by
  intro carries
  have allowed := (compose method host path headers body).allowsBody_iff.mpr carries
  rw [method_compose] at allowed
  rw [compose, if_pos allowed, silent, if_neg Bool.false_ne_true]
  exact ⟨by rw [Headers.get?_insert, if_pos rfl],
    fun entry member same => Headers.eq_of_sameName_insert silent member same⟩

end Compose

/-- The client adds no length when it says which encodings it takes. -/
theorem withEncodings_cases (client : Client World Link Stream) (request : Request) :
    client.withEncodings request = request ∨ ∃ value, client.withEncodings request =
      { request with headers := request.headers.insert "accept-encoding" value } := by
  unfold withEncodings
  split
  · exact .inl rfl
  · exact .inr ⟨_, rfl⟩

theorem encodings_apart : Headers.sameName "accept-encoding" "content-length" = false := by
  decide +kernel

/-- A request that tells the accepted encodings obeys the rules as it did before. -/
theorem obeysBodyRules_withEncodings (rules : request.ObeysBodyRules) :
    (client.withEncodings request).ObeysBodyRules := by
  obtain same | ⟨value, added⟩ := client.withEncodings_cases request
  · rw [same]
    exact rules
  · have mentions : (request.headers.insert "accept-encoding" value).mentions "content-length" =
        request.headers.mentions "content-length" := by
      rw [Headers.mentions_insert, encodings_apart, Bool.false_or]
    rw [added, ObeysBodyRules, mentions]
    exact rules

/-- A request that tells the accepted encodings gives its length as it did before. -/
theorem givesLength_withEncodings (gives : request.GivesLength) :
    (client.withEncodings request).GivesLength := by
  obtain same | ⟨value, added⟩ := client.withEncodings_cases request
  · rw [same]
    exact gives
  · rw [added]
    intro carries
    obtain ⟨given, alone⟩ := gives carries
    refine ⟨?_, fun entry member same => ?_⟩
    · rw [Headers.get?_insert, if_neg (by decide)]
      exact given
    · by_cases isEncodings : entry.1 = "accept-encoding"
      · rw [isEncodings, encodings_apart] at same
        cases same
      · exact alone entry (Headers.mem_of_mem_insert member isEncodings) same

/-! ## Chains -/

section Hops

variable {hop reached : Hop World Link Stream} {left index : Nat}

/-- Along a chain the rules for bodies are kept. -/
theorem obeysBodyRules_of_hops (rules : hop.request.ObeysBodyRules)
    (here : (client.hops left hop)[index]? = some reached) : reached.request.ObeysBodyRules := by
  have made := request_of_hops here
  split at made
  · exact rules.of_repeats made
  · exact obeysBodyRules_of_downgrades made

/-- If the first request of a chain gives the length of its body, all of them do. -/
theorem givesLength_of_hops (gives : hop.request.GivesLength)
    (here : (client.hops left hop)[index]? = some reached) : reached.request.GivesLength := by
  have made := request_of_hops here
  split at made
  · exact gives.of_repeats made
  · exact givesLength_of_downgrades made

end Hops

/-- What a call writes is the hops of its chain. -/
theorem exists_hop_of_sent (client : Client World Link Stream) (request : Request)
    (situation : Situation World Link) (before : List (Operation Link Stream)) :
    ∃ operations, client.recorded.request request (situation.record before) =
        withRecord (before ++ operations) (client.request request situation) ∧
      ∀ data ∈ Operation.sent operations,
        ∃ hop ∈ client.chain request situation, data = hop.request.encode := by
  obtain ⟨trail, silent, same⟩ := client.follow_recorded client.config.maxRedirects
    ⟨[], client.withEncodings request, situation⟩ before
  rw [List.append_nil, List.append_assoc] at same
  refine ⟨_, same, fun data member => ?_⟩
  rw [Operation.sent_append, silent, List.append_nil, Operation.sent,
    List.filterMap_flatMap, List.mem_flatMap] at member
  obtain ⟨hop, among, inside⟩ := member
  obtain ⟨index, here⟩ := List.getElem?_of_mem among
  obtain written | ⟨nothing, -⟩ := sent_operations here rfl
  · refine ⟨hop, among, ?_⟩
    rw [Operation.sent] at written
    rw [written] at inside
    exact List.mem_singleton.mp inside
  · rw [Operation.sent] at nothing
    rw [nothing] at inside
    cases inside

/-- Whatever a call is composed of, and however it is answered: all that it writes are requests
that follow the rules for bodies. In whatever order the headers of such a request are gone through,
what can be read of it has the same method and body and follows the rules with the name in small
letters, and it can be read if its host is possible. If the call was given no length, a request
that carries a body is sent with the length of that body, and arrives with it. -/
theorem body_rules_of_send (client : Client World Link Stream) (method : Method)
    (host path : String) (headers : Headers) (body : Bytes) (situation : Situation World Link)
    (before : List (Operation Link Stream)) :
    let chain := client.chain (compose method host path headers body) situation
    (∃ operations, client.recorded.send method host path headers body (situation.record before) =
        withRecord (before ++ operations) (client.send method host path headers body situation) ∧
      ∀ data ∈ Operation.sent operations, ∃ hop ∈ chain, data = hop.request.encode) ∧
    ∀ hop ∈ chain,
      hop.request.ObeysBodyRules ∧
      (headers.mentions "content-length" = false → hop.request.CarriesBody →
        hop.request.headers.get? "content-length" = some (toString hop.request.body.length)) ∧
      ∀ order : Headers, order.Reordering hop.request.headers →
        Addressable (hop.request.encodeIn order) → ∀ more,
        (0 < hop.request.host.utf8ByteSize → hop.request.host.utf8ByteSize ≤ 253 →
          ∃ read, Request.decode (hop.request.encodeIn order ++ more) = .ok read) ∧
        ∀ read, Request.decode (hop.request.encodeIn order ++ more) = .ok read →
          read.method = hop.request.method ∧ read.body = hop.request.body ∧
          read.ArrivesByBodyRules ∧
          (headers.mentions "content-length" = false → read.CarriesBody →
            read.headers.get? "content-length" = some (toString read.body.length)) := by
  intro chain
  refine ⟨client.exists_hop_of_sent _ situation before, fun hop member => ?_⟩
  obtain ⟨index, here⟩ := List.getElem?_of_mem member
  have rules : hop.request.ObeysBodyRules :=
    obeysBodyRules_of_hops (obeysBodyRules_withEncodings obeysBodyRules_compose) here
  have gives (silent : headers.mentions "content-length" = false) : hop.request.GivesLength :=
    givesLength_of_hops (givesLength_withEncodings (givesLength_compose silent)) here
  refine ⟨rules, fun silent carries => (gives silent carries).1, ?_⟩
  intro order reordered addressable more
  refine ⟨fun named short => ?_, fun read reads => ?_⟩
  · exact ⟨_, Request.decode_encode_append addressable named short more⟩
  · obtain rfl := eq_of_decode_encodeIn addressable reads
    exact ⟨rfl, rfl, rules.arrives reordered rfl rfl rfl,
      fun silent carries => (gives silent).arrives reordered rfl rfl rfl carries⟩

/-- A POST without a length is repeated once and then becomes a GET. The length that was added is
sent and arrives with the second request. -/
theorem body_rules_of_send_sample :
    let headers := Headers.ofList [("accept-encoding", "br"), ("X", "y")]
    let moved (status : UInt16) := Response.new status [] (.ofList [("location", "/far")])
    let chain := scripted.chain (compose .post "a" "/" headers [1, 2])
      (.scripted [moved 307, moved 302, moved 308, .new 200 [] .empty])
    chain.map (fun hop => hop.request.method) = [.post, .post, .get, .get] ∧
      headers.mentions "content-length" = false ∧
      ∃ hop ∈ chain, hop.request.path = "/far" ∧ hop.request.CarriesBody ∧
        hop.request.headers.get? "content-length" = some "2" ∧
        ∃ read, Request.decode (hop.request.encodeIn hop.request.headers ++ [9]) = .ok read ∧
          read.headers.get? "content-length" = some "2" := by
  intro headers moved chain
  let repeated : Request := ⟨.post, "a", "/far", 0, headers.insert "content-length" "2", [1, 2]⟩
  have requests : (chain.map fun hop => hop.request)[1]? = some repeated := by decide +kernel
  have silent : headers.mentions "content-length" = false := by decide +kernel
  have methods : chain.map (fun hop => hop.request.method) = [.post, .post, .get, .get] := by
    decide +kernel
  obtain ⟨hop, member, same⟩ := List.mem_map.mp (List.mem_of_getElem? requests)
  have carries : hop.request.CarriesBody := by
    rw [same]
    decide
  have addressable : Addressable (hop.request.encodeIn hop.request.headers) := by
    rw [same]
    unfold Addressable
    decide +kernel
  obtain ⟨-, every⟩ := body_rules_of_send scripted .post "a" "/" headers [1, 2]
    (.scripted [moved 307, moved 302, moved 308, .new 200 [] .empty]) []
  obtain ⟨-, given, arrives⟩ := every hop member
  obtain ⟨readable, every⟩ := arrives _ (.refl _) addressable [9]
  obtain ⟨read, reads⟩ := readable (by rw [same]; decide) (by rw [same]; decide)
  obtain ⟨method, body, -, length⟩ := every read reads
  have sent : hop.request.body = [1, 2] := congrArg Request.body same
  have readCarries : read.CarriesBody := (carriesBody_of_method method).mpr carries
  refine ⟨methods, silent, hop, member, congrArg Request.path same, carries, ?_, read, reads, ?_⟩
  · rw [given silent carries, sent]
    rfl
  · rw [length silent readCarries, body, sent]
    rfl

end Client

end CompactHttp
