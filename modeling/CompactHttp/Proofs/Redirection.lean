import CompactHttp.Proofs.HeaderMaps
import CompactHttp.Proofs.Recording

/-! # Chains of redirects

The requests that a call makes are its hops (`Client.chain`). From one hop the next follows
(`Client.next?`) when it was answered with a redirect that leads somewhere and the client could
move there; then the budget is one less. What holds from one hop to the next holds along the
chain by induction on the position: that the method, the body and the headers stay what they are
as long as all redirects preserve them, and that a request once turned into a GET stays one.
-/

namespace CompactHttp

/-- A request of a chain: what was done to get to its host, and the situation in which it goes
out. -/
structure Hop (World Link Stream : Type) where
  arrival : List (Operation Link Stream)
  request : Request
  before : Client.Situation World Link

namespace Client

variable {World Link Stream : Type}

/-- How a hop is answered, and the situation then. -/
def answered? (client : Client World Link Stream) (hop : Hop World Link Stream) :
    Option (Response × Situation World Link) :=
  match client.roundTrip hop.request hop.before with
  | .ok response after => some (response, after)
  | .error _ _ => none

/-- The status with which a hop is answered. -/
def status? (client : Client World Link Stream) (hop : Hop World Link Stream) : Option UInt16 :=
  (client.answered? hop).map fun answer => answer.1.status

/-- The hop that follows from another one, if it is answered with a redirect that can be
followed. -/
def next? (client : Client World Link Stream) (hop : Hop World Link Stream) :
    Option (Hop World Link Stream) :=
  match client.answered? hop with
  | none => none
  | some (response, after) =>
    if response.isRedirect then
      match Redirect.target response hop.request.host with
      | .error _ => none
      | .ok target =>
        match client.moveOn hop.request.host target.host after with
        | .error _ _ => none
        | .ok () there => some ⟨client.moving hop.request.host target.host after,
            Redirect.followUp hop.request response.status target, there⟩
    else none

/-- A hop and those that follow from it, of which there may be `left`. -/
def hops (client : Client World Link Stream) : (left : Nat) → Hop World Link Stream →
    List (Hop World Link Stream)
  | 0, hop => [hop]
  | left + 1, hop =>
    hop ::
      match client.next? hop with
      | none => []
      | some next => client.hops left next

/-- The hops of a call. -/
def chain (client : Client World Link Stream) (request : Request)
    (situation : Situation World Link) : List (Hop World Link Stream) :=
  client.hops client.config.maxRedirects ⟨[], client.withEncodings request, situation⟩

/-- What is done for a hop. -/
def operations (client : Client World Link Stream) (hop : Hop World Link Stream) :
    List (Operation Link Stream) :=
  hop.arrival ++ client.sending hop.request hop.before

variable {client : Client World Link Stream} {hop next : Hop World Link Stream}
  {response : Response} {after : Situation World Link} {left index : Nat}

/-- What can become of a hop. -/
inductive Fate (client : Client World Link Stream) (hop : Hop World Link Stream) : Prop where
  | unanswered {error : ClientError} {after : Situation World Link}
    (failed : client.roundTrip hop.request hop.before = .error error after)
  | final {response : Response} {after : Situation World Link}
    (answered : client.roundTrip hop.request hop.before = .ok response after)
    (final : response.isRedirect = false)
  | misled {response : Response} {after : Situation World Link} {fault : RedirectError}
    (answered : client.roundTrip hop.request hop.before = .ok response after)
    (redirects : response.isRedirect = true)
    (misled : Redirect.target response hop.request.host = .error fault)
  | stranded {response : Response} {after later : Situation World Link}
    {target : RedirectTarget} {error : ClientError}
    (answered : client.roundTrip hop.request hop.before = .ok response after)
    (redirects : response.isRedirect = true)
    (led : Redirect.target response hop.request.host = .ok target)
    (fails : client.moveOn hop.request.host target.host after = .error error later)
  | goesOn {response : Response} {after there : Situation World Link} {target : RedirectTarget}
    (answered : client.roundTrip hop.request hop.before = .ok response after)
    (redirects : response.isRedirect = true)
    (led : Redirect.target response hop.request.host = .ok target)
    (moves : client.moveOn hop.request.host target.host after = .ok () there)

/-- Every hop has a fate. -/
theorem fate (client : Client World Link Stream) (hop : Hop World Link Stream) :
    client.Fate hop := by
  match answered : client.roundTrip hop.request hop.before with
  | .error error after => exact .unanswered answered
  | .ok response after =>
    cases redirects : response.isRedirect with
    | false => exact .final answered redirects
    | true =>
      cases led : Redirect.target response hop.request.host with
      | error fault => exact .misled answered redirects led
      | ok target =>
        match moves : client.moveOn hop.request.host target.host after with
        | .error error later => exact .stranded answered redirects led moves
        | .ok () there => exact .goesOn answered redirects led moves

/-- A redirect that can be followed leads to the next hop. -/
theorem next?_of_moves {target : RedirectTarget} {there : Situation World Link}
    (answered : client.roundTrip hop.request hop.before = .ok response after)
    (redirects : response.isRedirect = true)
    (led : Redirect.target response hop.request.host = .ok target)
    (moves : client.moveOn hop.request.host target.host after = .ok () there) :
    client.next? hop = some ⟨client.moving hop.request.host target.host after,
      Redirect.followUp hop.request response.status target, there⟩ := by
  simp only [next?, answered?, answered, redirects, led, moves, ↓reduceIte]

/-- All there is to know of a hop that follows from another one. -/
theorem next?_eq_some_iff : client.next? hop = some next ↔
    ∃ response after target, client.roundTrip hop.request hop.before = .ok response after ∧
      response.isRedirect = true ∧ Redirect.target response hop.request.host = .ok target ∧
      client.moveOn hop.request.host target.host after = .ok () next.before ∧
      next.arrival = client.moving hop.request.host target.host after ∧
      next.request = Redirect.followUp hop.request response.status target := by
  constructor
  · intro follows
    cases client.fate hop with
    | unanswered failed => simp [next?, answered?, failed] at follows
    | final answered final => simp [next?, answered?, answered, final] at follows
    | misled answered redirects misled =>
      simp [next?, answered?, answered, redirects, misled] at follows
    | stranded answered redirects led fails =>
      simp [next?, answered?, answered, redirects, led, fails] at follows
    | goesOn answered redirects led moves =>
      rw [next?_of_moves answered redirects led moves] at follows
      cases follows
      exact ⟨_, _, _, answered, redirects, led, moves, rfl, rfl⟩
  · obtain ⟨arrival, request, before⟩ := next
    rintro ⟨response, after, target, answered, redirects, led, moves, rfl, rfl⟩
    exact next?_of_moves answered redirects led moves

/-- The status of a hop is that of its answer. -/
theorem status?_of_answered
    (answered : client.roundTrip hop.request hop.before = .ok response after) :
    client.status? hop = some response.status := by
  rw [status?, answered?, answered, Option.map_some]

theorem status?_of_unanswered {error : ClientError}
    (failed : client.roundTrip hop.request hop.before = .error error after) :
    client.status? hop = none := by
  rw [status?, answered?, failed, Option.map_none]

/-- A hop from which another one follows has a redirecting status. -/
theorem status?_of_next? (follows : client.next? hop = some next) :
    ∃ status, client.status? hop = some status ∧ Status.isRedirect status = true := by
  obtain ⟨response, after, -, answered, redirects, -⟩ := next?_eq_some_iff.mp follows
  exact ⟨response.status, status?_of_answered answered, redirects⟩

/-! ## Positions in a chain -/

/-- A chain begins with its first hop. -/
theorem hops_zero (client : Client World Link Stream) (left : Nat)
    (hop : Hop World Link Stream) : (client.hops left hop)[0]? = some hop := by
  cases left <;> rfl

/-- A hop that leads on is followed by the chain of the next one. -/
theorem hops_succ_of_next? (follows : client.next? hop = some next) (left : Nat) :
    client.hops (left + 1) hop = hop :: client.hops left next := by
  rw [hops, follows]

theorem hops_succ_of_last (last : client.next? hop = none) (left : Nat) :
    client.hops (left + 1) hop = [hop] := by
  rw [hops, last]

/-- A chain has at most one hop more than there are redirects left. -/
theorem length_hops_le (client : Client World Link Stream) (left : Nat)
    (hop : Hop World Link Stream) : (client.hops left hop).length ≤ left + 1 := by
  induction left generalizing hop with
  | zero => exact Nat.le_refl 1
  | succ left ih =>
    cases follows : client.next? hop with
    | none =>
      rw [hops_succ_of_last follows, List.length_singleton]
      omega
    | some next =>
      rw [hops_succ_of_next? follows, List.length_cons]
      exact Nat.succ_le_succ (ih next)

/-- Each hop of a chain but the first follows from the one before. -/
theorem next?_of_hops {earlier later : Hop World Link Stream}
    (here : (client.hops left hop)[index]? = some earlier)
    (there : (client.hops left hop)[index + 1]? = some later) :
    client.next? earlier = some later := by
  induction left generalizing hop index with
  | zero => cases there
  | succ left ih =>
    cases follows : client.next? hop with
    | none =>
      rw [hops_succ_of_last follows] at there
      cases there
    | some next =>
      rw [hops_succ_of_next? follows] at here there
      cases index with
      | zero =>
        cases here
        rw [List.getElem?_cons_succ, hops_zero] at there
        exact follows.trans there
      | succ index => exact ih here there

/-- Before each hop of a chain but the first there is the one that it follows from. -/
theorem exists_earlier_of_hops {later : Hop World Link Stream}
    (there : (client.hops left hop)[index + 1]? = some later) :
    ∃ earlier, (client.hops left hop)[index]? = some earlier ∧
      client.next? earlier = some later := by
  obtain ⟨inside, -⟩ := List.getElem?_eq_some_iff.mp there
  have here : (client.hops left hop)[index]? = some (client.hops left hop)[index] :=
    List.getElem?_eq_getElem (by omega)
  exact ⟨_, here, next?_of_hops here there⟩

/-! ## What redirects make of a request -/

/-- A request as it is repeated: only where it goes may be another place. -/
def Repeats (first request : Request) : Prop :=
  request.method = first.method ∧ request.headers = first.headers ∧ request.body = first.body

/-- A request that has become a GET. -/
def Downgrades (first request : Request) : Prop :=
  request.method = .get ∧ request.body = [] ∧
    request.headers =
      first.headers.keep fun name => !Headers.sameName name Redirect.contentLength

section FollowUp

variable {first request : Request} {status : UInt16} {target : RedirectTarget}

/-- A redirect that preserves the method repeats the request. -/
theorem repeats_followUp (request : Request) (target : RedirectTarget)
    (preserves : Status.preservesMethod status = true) :
    Repeats request (Redirect.followUp request status target) := by
  rw [Redirect.followUp, if_pos preserves]
  exact ⟨rfl, rfl, rfl⟩

/-- Any other redirect makes it a `GET` without a body. -/
theorem downgrades_followUp (request : Request) (target : RedirectTarget)
    (preserves : Status.preservesMethod status = false) :
    Downgrades request (Redirect.followUp request status target) := by
  rw [Redirect.followUp, if_neg (by simp [preserves])]
  exact ⟨rfl, rfl, rfl⟩

/-- What repeats a repetition repeats the first request. -/
theorem Repeats.trans {later : Request} (here : Repeats first request)
    (there : Repeats request later) : Repeats first later :=
  ⟨there.1.trans here.1, there.2.1.trans here.2.1, there.2.2.trans here.2.2⟩

/-- What becomes of a repetition becomes of the first request. -/
theorem Repeats.downgrades {later : Request} (here : Repeats first request)
    (there : Downgrades request later) : Downgrades first later :=
  ⟨there.1, there.2.1, here.2.1 ▸ there.2.2⟩

/-- Whatever the status, a GET without body remains one. -/
theorem Downgrades.followUp (here : Downgrades first request) :
    Downgrades first (Redirect.followUp request status target) := by
  obtain ⟨method, body, headers⟩ := here
  cases preserves : Status.preservesMethod status with
  | true =>
    obtain ⟨sameMethod, sameHeaders, sameBody⟩ :=
      repeats_followUp request target preserves
    exact ⟨sameMethod.trans method, sameBody.trans body, sameHeaders.trans headers⟩
  | false =>
    obtain ⟨isGet, noBody, kept⟩ :=
      downgrades_followUp request target preserves
    refine ⟨isGet, noBody, ?_⟩
    rw [kept, headers, Headers.keep_keep]

end FollowUp

/-- A hop that is answered with a status which preserves the request. -/
def preserves (client : Client World Link Stream) (hop : Hop World Link Stream) : Bool :=
  (client.status? hop).any Status.preservesMethod

/-- Along a chain a request is repeated as long as all redirects preserve it, and is a GET from
the first one on that does not. -/
theorem request_of_hops {reached : Hop World Link Stream}
    (here : (client.hops left hop)[index]? = some reached) :
    if ((client.hops left hop).take index).all client.preserves then
      Repeats hop.request reached.request
    else Downgrades hop.request reached.request := by
  -- On the position: what has become a GET stays one, so that only the first loss counts.
  induction index generalizing reached with
  | zero =>
    rw [hops_zero] at here
    cases here
    exact ⟨rfl, rfl, rfl⟩
  | succ index ih =>
    obtain ⟨earlier, before, follows⟩ := exists_earlier_of_hops here
    obtain ⟨response, after, target, answered, -, -, -, -, made⟩ :=
      next?_eq_some_iff.mp follows
    have status := status?_of_answered answered
    specialize ih before
    rw [List.take_add_one, before, Option.toList_some, List.all_append, made]
    have kept : client.preserves earlier = Status.preservesMethod response.status := by
      rw [preserves, status, Option.any_some]
    by_cases repeated : ((client.hops left hop).take index).all client.preserves = true
    · rw [if_pos repeated] at ih
      cases stays : Status.preservesMethod response.status with
      | true =>
        rw [if_pos (by simp [repeated, kept, stays])]
        exact ih.trans (repeats_followUp _ _ stays)
      | false =>
        rw [if_neg (by simp [kept, stays])]
        exact ih.downgrades (downgrades_followUp _ _ stays)
    · rw [if_neg repeated] at ih
      rw [if_neg (by simp [repeated])]
      exact ih.followUp

/-! ## The budget -/

section Budget

variable {limit : Nat} {situation : Situation World Link} {request : Request}

/-- Taking in a fragment never runs out of redirects. -/
theorem takeFragment_ne_exhausted (buffer : Reassembly) (fragment : Bytes) (limit : Nat) :
    takeFragment buffer fragment ≠ .error (.tooManyRedirects limit) := by
  unfold takeFragment ClientError.ofFraming
  intro same
  split at same
  · split at same <;> cases same
  · split at same
    · split at same <;> cases same
    · cases same
    · split at same <;> cases same

theorem takeResponseFrom_ne_exhausted (buffer : Reassembly) (fault : Option TransportError)
    (fragments : List Bytes) (limit : Nat) :
    takeResponseFrom buffer fault fragments ≠ .error (.tooManyRedirects limit) := by
  induction fragments generalizing buffer with
  | nil => cases fault <;> nofun
  | cons fragment rest ih =>
    rw [takeResponseFrom]
    have taken := takeFragment_ne_exhausted buffer fragment limit
    match outcome : takeFragment buffer fragment with
    | .error error =>
      rw [outcome] at taken
      intro same
      cases same
      exact taken rfl
    | .ok (.inl response) => nofun
    | .ok (.inr more) => exact ih more

theorem roundTrip_ne_exhausted : client.roundTrip request situation ≠
    .error (.tooManyRedirects limit) after := by
  rw [roundTrip_eq]
  match reply : client.answerTo request situation with
  | (.error error, later) =>
    intro same
    cases same
    exact absurd (answerTo_eq_error reply) (by simp)
  | (.ok incoming, later) =>
    intro same
    exact takeResponseFrom_ne_exhausted _ _ _ limit (finish_eq_error_iff.mp same).1

theorem connect_ne_exhausted {address : String} : client.connect address situation ≠
    .error (.tooManyRedirects limit) after := by
  rw [connect_eq]
  intro same
  split at same
  · cases same
  · split at same
    · cases same
    · split at same <;> cases same

theorem moveOn_ne_exhausted {current host : String} : client.moveOn current host situation ≠
    .error (.tooManyRedirects limit) after := by
  unfold moveOn
  split
  · nofun
  · rw [reconnect_eq]
    split
    · nofun
    · exact connect_ne_exhausted

theorem unpackWith_ne_exhausted (codec : Codec) (size : Nat) (response : Response) :
    unpackWith codec size response ≠ .error (.tooManyRedirects limit) := by
  unfold unpackWith
  intro same
  split at same
  · cases same
  · split at same
    · cases same
    · split at same
      · cases same
      · split at same <;> cases same

end Budget

/-- From a hop that another one follows the call goes on there. -/
theorem follow_of_next? (follows : client.next? hop = some next) (left : Nat) :
    client.follow (left + 1) hop.request hop.before =
      client.follow left next.request next.before := by
  obtain ⟨response, after, target, answered, redirects, led, moves, -, made⟩ :=
    next?_eq_some_iff.mp follows
  rw [follow_of_target answered redirects led, bind_of_ok moves, made]

/-- A call comes to each of its hops, and goes on from there. -/
theorem follow_of_mem {reached : Hop World Link Stream} (member : reached ∈ client.hops left hop) :
    ∃ rest, client.follow left hop.request hop.before =
      client.follow rest reached.request reached.before := by
  induction left generalizing hop with
  | zero =>
    obtain rfl := List.mem_singleton.mp member
    exact ⟨0, rfl⟩
  | succ left ih =>
    cases follows : client.next? hop with
    | none =>
      rw [hops_succ_of_last follows] at member
      obtain rfl := List.mem_singleton.mp member
      exact ⟨left + 1, rfl⟩
    | some next =>
      rw [hops_succ_of_next? follows] at member
      obtain rfl | later := List.mem_cons.mp member
      · exact ⟨left + 1, rfl⟩
      · rw [follow_of_next? follows]
        exact ih later

/-- What a call returns is what comes of the answer to one of its hops. -/
theorem exists_hop_of_follow
    (returns : client.follow left hop.request hop.before = .ok response after) :
    ∃ reached ∈ client.hops left hop, ∃ answer,
      client.roundTrip reached.request reached.before = .ok answer after ∧
      unpackWith client.codec client.config.maxResponseSize answer = .ok response := by
  induction left generalizing hop with
  | zero =>
    have here : hop ∈ client.hops 0 hop := List.mem_singleton_self hop
    cases client.fate hop with
    | unanswered failed =>
      rw [follow_of_unanswered failed] at returns
      cases returns
    | final answered final =>
      rw [follow_of_final answered final] at returns
      obtain ⟨unpacks, rfl⟩ := finish_eq_ok_iff.mp returns
      exact ⟨hop, here, _, answered, unpacks⟩
    | misled answered redirects | stranded answered redirects | goesOn answered redirects =>
      rw [follow_of_exhausted answered redirects] at returns
      cases returns
  | succ left ih =>
    have here : hop ∈ client.hops (left + 1) hop := List.mem_of_getElem? (hops_zero _ _ _)
    cases client.fate hop with
    | unanswered failed =>
      rw [follow_of_unanswered failed] at returns
      cases returns
    | final answered final =>
      rw [follow_of_final answered final] at returns
      obtain ⟨unpacks, rfl⟩ := finish_eq_ok_iff.mp returns
      exact ⟨hop, here, _, answered, unpacks⟩
    | misled answered redirects misled =>
      rw [follow_of_misled answered redirects misled] at returns
      cases returns
    | stranded answered redirects led fails =>
      rw [follow_of_target answered redirects led, bind_of_error fails] at returns
      cases returns
    | goesOn answered redirects led moves =>
      have follows := next?_of_moves answered redirects led moves
      rw [follow_of_next? follows] at returns
      obtain ⟨reached, member, found⟩ := ih returns
      refine ⟨reached, ?_, found⟩
      rw [hops_succ_of_next? follows]
      exact List.mem_cons_of_mem hop member

/-- A request ends as it would from any hop of its chain. -/
theorem request_of_mem {request : Request} {situation : Situation World Link}
    {reached : Hop World Link Stream} (member : reached ∈ client.chain request situation) :
    ∃ rest, client.request request situation =
      client.follow rest reached.request reached.before :=
  follow_of_mem member

/-- What a request returns is unpacked from the answer to one of its hops. -/
theorem exists_hop_of_request {request : Request} {situation : Situation World Link}
    (returns : client.request request situation = .ok response after) :
    ∃ reached ∈ client.chain request situation, ∃ answer,
      client.roundTrip reached.request reached.before = .ok answer after ∧
      unpackWith client.codec client.config.maxResponseSize answer = .ok response :=
  @exists_hop_of_follow _ _ _ client ⟨[], client.withEncodings request, situation⟩ _ _ _ returns

/-- At a hop that no other one follows the call ends, but not because it was redirected too
often. -/
theorem follow_ne_exhausted (last : client.next? hop = none) (left limit : Nat)
    (after : Situation World Link) : client.follow (left + 1) hop.request hop.before ≠
      .error (.tooManyRedirects limit) after := by
  intro same
  cases client.fate hop with
  | unanswered failed =>
    rw [follow_of_unanswered failed] at same
    cases same
    exact roundTrip_ne_exhausted failed
  | final answered final =>
    rw [follow_of_final answered final] at same
    exact unpackWith_ne_exhausted _ _ _ (finish_eq_error_iff.mp same).1
  | misled answered redirects misled =>
    rw [follow_of_misled answered redirects misled] at same
    cases same
  | stranded answered redirects led fails =>
    rw [follow_of_target answered redirects led, bind_of_error fails] at same
    cases same
    exact moveOn_ne_exhausted fails
  | goesOn answered redirects led moves =>
    cases last.symm.trans (next?_of_moves answered redirects led moves)

/-- A call ends for too many redirects exactly if it has made all requests that it may and every
one was redirected. -/
theorem follow_eq_exhausted_iff {limit : Nat} :
    (∃ after, client.follow left hop.request hop.before =
        .error (.tooManyRedirects limit) after) ↔
      limit = client.config.maxRedirects ∧ (client.hops left hop).length = left + 1 ∧
        ∀ reached ∈ client.hops left hop, ∃ status, client.status? reached = some status ∧
          Status.isRedirect status = true := by
  induction left generalizing hop with
  | zero =>
    simp only [hops, List.length_singleton, List.mem_singleton, forall_eq]
    match answered : client.roundTrip hop.request hop.before with
    | .error error there =>
      rw [follow_of_unanswered answered, status?_of_unanswered answered]
      constructor
      · rintro ⟨after, same⟩
        cases same
        exact absurd answered roundTrip_ne_exhausted
      · rintro ⟨-, -, status, none, -⟩
        cases none
    | .ok response there =>
      rw [status?_of_answered answered]
      cases redirects : response.isRedirect with
      | false =>
        rw [follow_of_final answered redirects]
        constructor
        · rintro ⟨after, same⟩
          exact absurd (finish_eq_error_iff.mp same).1 (unpackWith_ne_exhausted _ _ _)
        · rintro ⟨-, -, status, same, redirecting⟩
          cases same
          cases redirects.symm.trans redirecting
      | true =>
        -- The budget is looked at before the target is.
        rw [follow_of_exhausted answered redirects]
        constructor
        · rintro ⟨after, same⟩
          cases same
          exact ⟨rfl, trivial, response.status, rfl, redirects⟩
        · rintro ⟨rfl, -⟩
          exact ⟨there, rfl⟩
  | succ left ih =>
    cases follows : client.next? hop with
    | none =>
      rw [hops_succ_of_last follows, List.length_singleton]
      constructor
      · rintro ⟨after, same⟩
        exact absurd same (follow_ne_exhausted follows left limit after)
      · rintro ⟨-, short, -⟩
        omega
    | some next =>
      rw [hops_succ_of_next? follows, follow_of_next? follows, ih, List.length_cons,
        List.forall_mem_cons]
      have redirected := status?_of_next? follows
      constructor
      · rintro ⟨same, full, others⟩
        exact ⟨same, congrArg (· + 1) full, redirected, others⟩
      · rintro ⟨same, full, -, others⟩
        exact ⟨same, Nat.succ.inj full, others⟩

/-! ## What is done in the course of a call -/

/-- Over a recorded transport a call comes to the next hop with what has been done for this one and
to move on. -/
theorem follow_recorded_of_next? (follows : client.next? hop = some next) (left : Nat)
    (operations : List (Operation Link Stream)) :
    client.recorded.follow (left + 1) hop.request (hop.before.record operations) =
      client.recorded.follow left next.request (next.before.record
        (operations ++ client.sending hop.request hop.before ++ next.arrival)) := by
  obtain ⟨response, after, target, answered, redirects, led, moves, arrives, made⟩ :=
    next?_eq_some_iff.mp follows
  have trip := client.roundTrip_recorded hop.request hop.before operations
  rw [answered] at trip
  have move := client.moveOn_recorded hop.request.host target.host after
    (operations ++ client.sending hop.request hop.before)
  rw [moves] at move
  rw [follow_of_target trip redirects led, bind_of_ok move, made, arrives]

/-- Over a recorded transport a call ends as it does without. What is written down is what is
done for its hops, and then what is done for a move that fails, if it ends with one. -/
theorem follow_recorded (client : Client World Link Stream) (left : Nat)
    (hop : Hop World Link Stream) (before : List (Operation Link Stream)) :
    ∃ trail, Operation.sent trail = [] ∧
      client.recorded.follow left hop.request (hop.before.record (before ++ hop.arrival)) =
        withRecord (before ++ (client.hops left hop).flatMap client.operations ++ trail)
          (client.follow left hop.request hop.before) := by
  -- On the budget, with what has been written down before the hop generalized.
  induction left generalizing hop before with
  | zero =>
    refine ⟨[], rfl, ?_⟩
    have trip := client.roundTrip_recorded hop.request hop.before (before ++ hop.arrival)
    rw [List.append_nil, hops, List.flatMap_singleton, operations, ← List.append_assoc]
    match answered : client.roundTrip hop.request hop.before with
    | .error error there =>
      rw [answered] at trip
      rw [follow_of_unanswered trip, follow_of_unanswered answered]
      rfl
    | .ok response there =>
      rw [answered] at trip
      cases redirects : response.isRedirect with
      | false =>
        rw [follow_of_final trip redirects, follow_of_final answered redirects]
        exact finish_record _ _ _
      | true =>
        rw [follow_of_exhausted trip redirects, follow_of_exhausted answered redirects]
        rfl
  | succ left ih =>
    have trip := client.roundTrip_recorded hop.request hop.before (before ++ hop.arrival)
    have once (last : client.next? hop = none) (trail : List (Operation Link Stream)) :
        before ++ (client.hops (left + 1) hop).flatMap client.operations ++ trail =
          before ++ hop.arrival ++ client.sending hop.request hop.before ++ trail := by
      rw [hops_succ_of_last last, List.flatMap_singleton, operations]
      simp only [List.append_assoc]
    cases client.fate hop with
    | unanswered failed =>
      rw [failed] at trip
      refine ⟨[], rfl, ?_⟩
      rw [once (by simp [next?, answered?, failed]), List.append_nil,
        follow_of_unanswered trip, follow_of_unanswered failed]
      rfl
    | final answered final =>
      rw [answered] at trip
      refine ⟨[], rfl, ?_⟩
      rw [once (by simp [next?, answered?, answered, final]), List.append_nil,
        follow_of_final trip final, follow_of_final answered final]
      exact finish_record _ _ _
    | misled answered redirects misled =>
      rw [answered] at trip
      refine ⟨[], rfl, ?_⟩
      rw [once (by simp [next?, answered?, answered, redirects, misled]), List.append_nil,
        follow_of_misled trip redirects misled, follow_of_misled answered redirects misled]
      rfl
    | @stranded response after later target error answered redirects led fails =>
      rw [answered] at trip
      have move := client.moveOn_recorded hop.request.host target.host after
        (before ++ hop.arrival ++ client.sending hop.request hop.before)
      rw [fails] at move
      refine ⟨client.moving hop.request.host target.host after, sent_moving _ _ _ _, ?_⟩
      rw [once (by simp [next?, answered?, answered, redirects, led, fails]),
        follow_of_target trip redirects led, follow_of_target answered redirects led,
        bind_of_error move, bind_of_error fails]
      rfl
    | @goesOn response after there target answered redirects led moves =>
      have follows := next?_of_moves answered redirects led moves
      obtain ⟨trail, silent, same⟩ := ih ⟨client.moving hop.request.host target.host after,
        Redirect.followUp hop.request response.status target, there⟩
        (before ++ hop.arrival ++ client.sending hop.request hop.before)
      refine ⟨trail, silent, ?_⟩
      rw [follow_recorded_of_next? follows, follow_of_next? follows, same,
        hops_succ_of_next? follows, List.flatMap_cons, operations]
      simp only [List.append_assoc]

/-- A hop sends its request once, or it is not answered. -/
theorem sent_operations {index : Nat}
    (here : (client.hops left hop)[index]? = some next) (begins : hop.arrival = []) :
    Operation.sent (client.operations next) = [next.request.encode] ∨
      Operation.sent (client.operations next) = [] ∧ client.status? next = none := by
  have arrival : Operation.sent next.arrival = [] := by
    cases index with
    | zero =>
      rw [hops_zero] at here
      cases here
      rw [begins]
      rfl
    | succ index =>
      obtain ⟨earlier, -, follows⟩ := exists_earlier_of_hops here
      obtain ⟨-, after, target, -, -, -, -, arrives, -⟩ := next?_eq_some_iff.mp follows
      rw [arrives, sent_moving]
  rw [operations, Operation.sent_append, arrival, List.nil_append]
  obtain written | ⟨silent, error, after, failed⟩ :=
    client.sent_sending next.request next.before
  · exact .inl written
  · exact .inr ⟨silent, status?_of_unanswered failed⟩

/-- A hop goes where the response before it leads, over a new link if that is another host. -/
theorem leads_of_next? (follows : client.next? hop = some next) :
    ∃ response after target,
      client.roundTrip hop.request hop.before = .ok response after ∧
      Redirect.target response hop.request.host = .ok target ∧
      next.request.host = target.host ∧ next.request.path = target.path ∧
      (next.request.host = hop.request.host → next.arrival = [] ∧ next.before = after) ∧
      (next.request.host ≠ hop.request.host →
        client.reconnect next.request.host after = .ok () next.before ∧
        next.arrival = client.reconnecting next.request.host after) ∧
      (Operation.dialed (client.operations next)).length =
        if next.request.host = hop.request.host then 0 else 1 := by
  obtain ⟨response, after, target, answered, -, led, moves, arrives, made⟩ :=
    next?_eq_some_iff.mp follows
  have host : next.request.host = target.host := by rw [made, Redirect.host_followUp]
  have path : next.request.path = target.path := by rw [made, Redirect.path_followUp]
  rw [← host] at moves arrives
  refine ⟨response, after, target, answered, led, host, path, ?_, ?_, ?_⟩
  · intro same
    rw [moveOn, if_pos same] at moves
    cases moves
    rw [arrives, moving, if_pos same]
    exact ⟨rfl, rfl⟩
  · intro apart
    rw [moveOn, if_neg apart] at moves
    rw [moving, if_neg apart] at arrives
    exact ⟨moves, arrives⟩
  · rw [operations, Operation.dialed_append, dialed_sending, List.append_nil, arrives]
    exact dialed_moving moves

/-- The hops of a call are the requests that it sends, one after the other. There are at most
as many as there may be redirects and one more, and a call ends for too many redirects exactly
if it has sent so many and each was answered with a redirect. A request is repeated as it was
as long as all redirects preserve it; from the first on that does not, all that follow are GETs
without a body and without the header that says how long it is. Each hop goes to the target of
the response before it, over a new link exactly if that is another host. -/
theorem redirect_chain (client : Client World Link Stream) (request : Request)
    (situation : Situation World Link) (before : List (Operation Link Stream)) :
    let first := client.withEncodings request
    let hops := client.chain request situation
    (∃ trail, Operation.sent trail = [] ∧
      client.recorded.request request (situation.record before) =
        withRecord (before ++ hops.flatMap client.operations ++ trail)
          (client.request request situation)) ∧
    (∀ hop ∈ hops, Operation.sent (client.operations hop) = [hop.request.encode] ∨
      Operation.sent (client.operations hop) = [] ∧ client.status? hop = none) ∧
    hops[0]? = some ⟨[], first, situation⟩ ∧
    first = (if request.headers.mentions "accept-encoding" then request
      else
        { request with
          headers := request.headers.insert "accept-encoding"
            (Encoding.acceptHeader client.config.encodings) }) ∧
    hops.length ≤ client.config.maxRedirects + 1 ∧
    (∀ limit,
      (∃ after, client.request request situation =
        .error (.tooManyRedirects limit) after) ↔
      limit = client.config.maxRedirects ∧ hops.length = client.config.maxRedirects + 1 ∧
        ∀ hop ∈ hops, ∃ status, client.status? hop = some status ∧
          status ∈ [300, 301, 302, 307, 308]) ∧
    (∀ index hop, hops[index]? = some hop →
      (∀ earlier ∈ hops.take index, ∃ status, client.status? earlier = some status ∧
        status ∈ [307, 308]) →
      hop.request.method = first.method ∧ hop.request.headers = first.headers ∧
        hop.request.body = first.body) ∧
    (∀ index hop, hops[index]? = some hop →
      (∃ earlier ∈ hops.take index, ∃ status, client.status? earlier = some status ∧
        status ∈ [300, 301, 302]) →
      hop.request.method = .get ∧ hop.request.body = [] ∧
        hop.request.headers.mentions "content-length" = false ∧
        ∀ name, Headers.sameName name "content-length" = false →
          hop.request.headers.get? name = first.headers.get? name) ∧
    ∀ index hop next, hops[index]? = some hop → hops[index + 1]? = some next →
      ∃ response after target,
        client.roundTrip hop.request hop.before = .ok response after ∧
        Redirect.target response hop.request.host = .ok target ∧
        next.request.host = target.host ∧ next.request.path = target.path ∧
        (next.request.host = hop.request.host → next.arrival = [] ∧ next.before = after) ∧
        (next.request.host ≠ hop.request.host →
          client.reconnect next.request.host after = .ok () next.before ∧
          next.arrival = client.reconnecting next.request.host after) ∧
        (Operation.dialed (client.operations next)).length =
          if next.request.host = hop.request.host then 0 else 1 := by
  intro first hops
  have redirects (status : UInt16) :
      Status.isRedirect status = true ↔ status ∈ [300, 301, 302, 307, 308] := by
    simp [Status.isRedirect, or_assoc]
  refine ⟨?_, ?_, client.hops_zero _ _, ?_, client.length_hops_le _ _, ?_, ?_, ?_, ?_⟩
  · obtain ⟨trail, silent, same⟩ :=
      client.follow_recorded client.config.maxRedirects ⟨[], first, situation⟩ before
    rw [List.append_nil] at same
    exact ⟨trail, silent, same⟩
  · intro hop member
    obtain ⟨index, here⟩ := List.getElem?_of_mem member
    exact sent_operations here rfl
  · show client.withEncodings request = _
    rw [withEncodings, Request.header?, Headers.isSome_find?]
  · intro limit
    simp only [← redirects]
    exact @follow_eq_exhausted_iff _ _ _ client ⟨[], first, situation⟩ _ limit
  · intro index hop here preserved
    have made := request_of_hops here
    rw [if_pos] at made
    · exact made
    · rw [List.all_eq_true]
      intro earlier member
      obtain ⟨status, known, preserving⟩ := preserved earlier member
      rw [preserves, known, Option.any_some]
      simpa [Status.preservesMethod] using preserving
  · rintro index hop here ⟨earlier, member, status, known, losing⟩
    have made := request_of_hops here
    rw [if_neg] at made
    · obtain ⟨method, body, headers⟩ := made
      refine ⟨method, body, ?_, ?_⟩
      · rw [headers]
        exact Headers.mentions_keep_other _ _
      · intro name other
        have kept : (!Headers.sameName name Redirect.contentLength) = true := by
          rw [Bool.not_eq_true']
          exact other
        rw [headers, Headers.get?_keep, if_pos kept]
    · intro all
      have preserving := List.all_eq_true.mp all earlier member
      rw [preserves, known, Option.any_some] at preserving
      revert preserving
      simp only [List.mem_cons, List.not_mem_nil, or_false] at losing
      obtain rfl | rfl | rfl := losing <;> decide
  · intro index hop next here there
    exact leads_of_next? (next?_of_hops here there)

/-- A POST that is sent on twice as it is. -/
example :
    ((scripted.chain ⟨.post, "a", "/", 0, .ofList [("accept-encoding", "br")], [1, 2]⟩
        (.scripted [.new 307 [] (.ofList [("location", "/near")]),
          .new 308 [] (.ofList [("host", "a"), ("path", "/far")]), .new 200 [] .empty])).map
      fun hop => hop.request) =
      ["/", "/near", "/far"].map fun path =>
        ⟨.post, "a", path, 0, .ofList [("accept-encoding", "br")], [1, 2]⟩ := by
  decide +kernel

end Client

end CompactHttp
