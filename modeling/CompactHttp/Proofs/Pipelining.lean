import CompactHttp.Proofs.RoundTrip
import CompactHttp.Proofs.Serving

/-! # Requests sent one behind the other

The limit of a server is on what it holds of a stream, and a fragment is held before any
message is split off. So each of several requests is answered exactly if nowhere a fragment
passes the limit together with what is there of the request that is not complete. That each
request alone is within the limit does not suffice.
-/

namespace CompactHttp

/-- Wherever a fragment of messages begins, it and what is there of a message that is not
complete are together within a limit. -/
def InRoom (limit : Nat) (messages fragments : List Bytes) : Prop :=
  ∀ before fragment after complete waiting begun,
    fragments = before ++ fragment :: after → messages = complete ++ waiting →
    before.flatten = complete.flatten ++ begun →
    (∀ next ∈ waiting.head?, begun.length < next.length) → begun.length + fragment.length ≤ limit

/-- What arrives in fragments alone begins with all of them. -/
theorem Arrival.leading_map_fragment (fragments : List Bytes) :
    leading (fragments.map .fragment) = fragments := by
  induction fragments with
  | nil => rfl
  | cons fragment rest ih => exact congrArg (fragment :: ·) ih

/-- A fragment is taken in if it fits behind what is left of those before it. -/
theorem TakenIn.of_append {limit : Nat} {before after : List Bytes} {fragment : Bytes}
    (accepted : TakenIn limit (before ++ fragment :: after)) :
    ∃ messages tail, SplitsInto .request before.flatten messages tail ∧
      tail.length + fragment.length ≤ limit := by
  generalize named : before ++ fragment :: after = fragments at accepted
  induction accepted generalizing after with
  | nil => cases before <;> cases named
  | @snoc fragments messages tail last accepted split waiting fits ih =>
    rcases List.eq_nil_or_concat after with rfl | ⟨after, final, rfl⟩
    · obtain ⟨rfl, rest⟩ := List.append_inj' named rfl
      cases rest
      exact ⟨messages, tail, split, fits⟩
    · rw [List.concat_eq_append, ← List.cons_append, ← List.append_assoc] at named
      exact ih (List.append_inj' named rfl).1

section InRoom

variable {limit : Nat} {messages fragments : List Bytes}
  (whole : ∀ message ∈ messages,
    MessageKind.request.length? message = .ok (some message.length))
  (cut : fragments.flatten = messages.flatten)

include whole

/-- What is there of a message that is not complete has no message in front. -/
theorem splitsInto_of_begun {complete waiting : List Bytes} {begun more : Bytes}
    (counted : messages = complete ++ waiting) (begins : begun ++ more = waiting.flatten)
    (short : ∀ next ∈ waiting.head?, begun.length < next.length) :
    SplitsInto .request (complete.flatten ++ begun) complete begun := by
  subst counted
  obtain ⟨front, back⟩ := List.forall_mem_append.mp whole
  refine ⟨⟨rfl, front⟩, fun size known => ?_⟩
  cases waiting with
  | nil =>
    obtain ⟨rfl, -⟩ := List.append_eq_nil_iff.mp begins
    rw [MessageKind.length?_nil] at known
    cases known
  | cons next others =>
    obtain ⟨nextWhole, -⟩ := List.forall_mem_cons.mp back
    have among : begun <+: (next :: others).flatten := ⟨more, begins⟩
    have inside : begun <+: next := List.prefix_of_prefix_length_le among
      ⟨others.flatten, rfl⟩ (Nat.le_of_lt (short next rfl))
    rw [MessageKind.length?_prefix_of_lt nextWhole inside (short next rfl)] at known
    cases known

include cut

/-- Fragments that are taken in leave room for each of the messages. -/
theorem inRoom_of_takenIn (accepted : TakenIn limit fragments) :
    InRoom limit messages fragments := by
  rintro before fragment after complete waiting begun rfl counted begins short
  obtain ⟨found, tail, split, fits⟩ := accepted.of_append
  have joined : begun ++ (fragment :: after).flatten = waiting.flatten := by
    rw [List.flatten_append, begins, List.append_assoc, counted, List.flatten_append] at cut
    exact List.append_cancel_left cut
  have here := splitsInto_of_begun whole counted joined short
  rw [begins] at split
  obtain ⟨-, rfl⟩ := split.unique here
  exact fits

/-- A service of all fragments answers all messages, or it comes to a fragment for which there
is no room. -/
theorem Server.Serves.of_messages {server : Server} {events : List Server.Event}
    {accepted later found : List Bytes} {tail : Bytes} {lastWords : List Bytes} {sawEnd : Bool}
    (serves : server.Serves (fragments.map .fragment) events accepted later found tail lastWords
      sawEnd) :
    (found = messages ∧ lastWords = [] ∧ InRoom server.config.maxRequestSize messages fragments) ∨
    ∃ fragment after waiting, fragments = accepted ++ fragment :: after ∧
      messages = found ++ waiting ∧ accepted.flatten = found.flatten ++ tail ∧
      (∀ next ∈ waiting.head?, tail.length < next.length) ∧
      server.config.maxRequestSize < tail.length + fragment.length ∧
      lastWords = [payloadTooLarge.encode] := by
  have parted := (Arrival.leading_map_fragment fragments).symm.trans serves.leading
  have all : accepted.flatten ++ later.flatten = messages.flatten := by
    rw [← List.flatten_append, ← parted, cut]
  have ends := serves.ends
  generalize Server.taken events = taken at ends
  cases ends with
  | refused failed =>
    -- The tail could begin no message, whatever comes behind it; but all bytes are messages.
    have stuck := serves.split.append_of_error failed later.flatten
    rw [all] at stuck
    obtain ⟨-, nothing⟩ := stuck.unique (splitsInto_flatten whole)
    obtain ⟨rfl, -⟩ := List.append_eq_nil_iff.mp nothing
    rw [MessageKind.length?_nil] at failed
    cases failed
  | finished done waits =>
    subst done
    rw [List.append_nil] at parted
    subst parted
    have split := serves.split
    rw [cut] at split
    obtain ⟨rfl, -⟩ := split.unique (splitsInto_flatten whole)
    exact .inl ⟨rfl, rfl, inRoom_of_takenIn whole cut serves.takenIn⟩
  | @overflowed fragment rest more waits passes =>
    right
    subst more
    obtain ⟨others, behind, onward⟩ :=
      SplitsInto.exists_splitsInto .request (tail ++ (fragment :: rest).flatten)
    have both := serves.split.append onward
    rw [all] at both
    obtain ⟨rfl, rfl⟩ := (splitsInto_flatten whole).unique both
    refine ⟨fragment, rest, others, parted, rfl, serves.split.joined.symm, ?_, passes, rfl⟩
    intro next first
    obtain ⟨rest, rfl⟩ := List.head?_eq_some_iff.mp first
    by_contra long
    rw [MessageKind.length?_prefix_of_le onward.length?_cons ⟨_, rfl⟩
      (Nat.le_of_not_lt long)] at waits
    cases waits

end InRoom

/-- Requests one behind the other are answered in order as long as there is room for the
fragments in which they come, however these are cut. At the first fragment for which there is
no room, the requests before it have been answered, and the service ends. -/
theorem Server.serve_pipelined (server : Server) {requests : List Request}
    {fragments : List Bytes}
    (readable : ∀ request ∈ requests, ∃ read, Request.decode request.encode = .ok read)
    (cut : fragments.flatten = (requests.map Request.encode).flatten) :
    (InRoom server.config.maxRequestSize (requests.map Request.encode) fragments →
      (server.serve none (fragments.map .fragment)).written =
        requests.map fun request => server.reply request.encode) ∧
    (¬InRoom server.config.maxRequestSize (requests.map Request.encode) fragments →
      ∃ answered waiting begun before fragment after, requests = answered ++ waiting ∧
        fragments = before ++ fragment :: after ∧ TakenIn server.config.maxRequestSize before ∧
        before.flatten = (answered.map Request.encode).flatten ++ begun ∧
        (∀ next ∈ waiting.head?, begun.length < next.encode.length) ∧
        server.config.maxRequestSize < begun.length + fragment.length ∧
        (server.serve none (fragments.map .fragment)).written =
          (answered.map fun request => server.reply request.encode) ++
            [payloadTooLarge.encode]) ∧
    (server.serve none (fragments.map .fragment)).closed = true := by
  have whole : ∀ message ∈ requests.map Request.encode,
      MessageKind.request.length? message = .ok (some message.length) := by
    intro message member
    obtain ⟨request, present, rfl⟩ := List.mem_map.mp member
    obtain ⟨read, decoded⟩ := readable request present
    exact Request.length?_encode decoded
  obtain ⟨steps, given⟩ :=
    Phase.trace_log (.idle server.config.maxRequestSize) ⟨fragments.map .fragment, none⟩
  obtain ⟨accepted, later, found, tail, lastWords, sawEnd, serves⟩ := serves_of_trace steps given
  have written : (server.serve none (fragments.map .fragment)).written =
      found.map server.reply ++ lastWords := by
    rw [serve_eq_log]
    exact serves.written
  refine ⟨fun room => ?_, fun crowded => ?_, ?_⟩
  · rcases serves.of_messages whole cut with ⟨rfl, rfl, -⟩ | stopped
    · rw [written, List.append_nil, List.map_map]
      rfl
    · obtain ⟨fragment, after, waiting, split, counted, begins, short, passes, -⟩ := stopped
      exact absurd (room _ _ _ _ _ _ split counted begins short) (Nat.not_le_of_lt passes)
  · rcases serves.of_messages whole cut with ⟨-, -, room⟩ | stopped
    · exact absurd room crowded
    · obtain ⟨fragment, after, waiting, split, counted, begins, short, passes, rfl⟩ := stopped
      obtain ⟨answered, others, rfl, rfl, rfl⟩ := List.map_eq_append_iff.mp counted
      refine ⟨answered, others, tail, accepted, fragment, after, rfl, split, serves.takenIn, begins,
        ?_, passes, ?_⟩
      · intro next first
        exact short _ (by rw [List.head?_map, first]; rfl)
      · rw [written, List.map_map]
        rfl
  · rw [serve_eq_log]
    exact decide_eq_true (List.mem_of_getLast? serves.closedLast)

/-- Two requests that fit one after the other are both answered. -/
theorem Server.serve_pipelined_sample :
    (serve { config := { maxRequestSize := 7 } } none
        ([[0, 1, 104, 1, 47, 0, 0], [0, 1, 104, 1, 47, 0, 0]].map .fragment)).written =
      [Request.plain .get "h" "/", .plain .get "h" "/"].map fun request =>
        reply { config := { maxRequestSize := 7 } } request.encode := by
  let request := Request.plain .get "h" "/"
  have written : request.encode = [0, 1, 104, 1, 47, 0, 0] := by decide +kernel
  have readable : ∃ read, Request.decode request.encode = .ok read :=
    Request.exists_decode_encode (by unfold Addressable; decide +kernel) (by decide) (by decide)
  have all : ∀ other ∈ [request, request], ∃ read, Request.decode other.encode = .ok read :=
    List.forall_mem_cons.mpr ⟨readable, List.forall_mem_singleton.mpr readable⟩
  have whole : ∀ message ∈ [request.encode, request.encode],
      MessageKind.request.length? message = .ok (some message.length) := by
    obtain ⟨read, decoded⟩ := readable
    exact List.forall_mem_cons.mpr ⟨Request.length?_encode decoded,
      List.forall_mem_singleton.mpr (Request.length?_encode decoded)⟩
  have first : TakenIn 7 ([] ++ [request.encode]) :=
    .snoc .nil (splitsInto_flatten (List.forall_mem_nil _)) (MessageKind.length?_nil _)
      (by rw [written]; decide)
  have accepted : TakenIn 7 [request.encode, request.encode] := by
    have front : SplitsInto .request ([] ++ [request.encode]).flatten [request.encode] [] :=
      splitsInto_flatten (List.forall_mem_cons.mp whole).2
    exact first.snoc front (MessageKind.length?_nil _) (by rw [written]; decide)
  have room := inRoom_of_takenIn whole rfl accepted
  have answers := (serve_pipelined { config := { maxRequestSize := 7 } } all rfl).1 room
  have same : [request, request].map Request.encode =
      [[0, 1, 104, 1, 47, 0, 0], [0, 1, 104, 1, 47, 0, 0]] := by
    rw [List.map_cons, List.map_singleton, written]
  rwa [same] at answers

/-- That every request alone is within the limit is not enough: two of them in one fragment are
refused together. -/
theorem Server.pipelined_requests_refused :
    ¬∀ (server : Server) (requests : List Request) (fragments : List Bytes),
      (∀ request ∈ requests, (∃ read, Request.decode request.encode = .ok read) ∧
        request.encode.length ≤ server.config.maxRequestSize) →
      (∀ fragment ∈ fragments, fragment ≠ []) →
      fragments.flatten = (requests.map Request.encode).flatten →
      (server.serve none (fragments.map .fragment)).written =
        requests.map fun request => server.reply request.encode := by
  intro claim
  let request := Request.plain .get "h" "/"
  have fits : (∃ read, Request.decode request.encode = .ok read) ∧ request.encode.length ≤ 7 :=
    ⟨Request.exists_decode_encode (by unfold Addressable; decide +kernel) (by decide) (by decide),
      by decide +kernel⟩
  have filled : ∀ fragment ∈ [request.encode ++ request.encode], fragment ≠ [] :=
    List.forall_mem_singleton.mpr nofun
  have joined : [request.encode ++ request.encode].flatten =
      ([request, request].map Request.encode).flatten := by
    simp only [List.flatten_cons, List.flatten_nil, List.map_cons, List.map_nil, List.append_nil]
  have replies := claim { config := { maxRequestSize := 7 } } [request, request]
    [request.encode ++ request.encode]
    (List.forall_mem_cons.mpr ⟨fits, List.forall_mem_singleton.mpr fits⟩) filled joined
  have refused : (serve { config := { maxRequestSize := 7 } } none
      [.fragment (request.encode ++ request.encode)]).written = [payloadTooLarge.encode] := by
    decide +kernel
  rw [List.map_singleton, refused] at replies
  cases congrArg List.length replies

end CompactHttp
