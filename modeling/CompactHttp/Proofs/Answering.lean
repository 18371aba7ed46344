import CompactHttp.Proofs.Decimals
import CompactHttp.Proofs.HeaderMaps
import CompactHttp.Proofs.TextParts
import CompactHttp.Server

/-! # Who answers a request

Of the handlers that have been registered one after the other, the last one for a path and a
method answers the requests to them (`Router.dispatch_of_registered`). Before that a server
looks at the message: what is no request and what has a body of no known type is refused,
whatever has been registered, and a body without a type is taken for a row of bytes
(`Server.handle_decided`).
-/

namespace CompactHttp

namespace Router

/-- The router in which handlers have been registered one after the other. -/
def ofRegistrations (registrations : List (Endpoint × Handler)) : Router :=
  registrations.foldl (fun router route => router.register route.1 route.2) empty

variable {registrations : List (Endpoint × Handler)} {request : Request}

/-- Taking the routes of one endpoint out does not touch those of another. -/
theorem lookup_filter_ne {endpoint other : Endpoint} (different : other ≠ endpoint)
    (routes : List (Endpoint × Handler)) :
    (routes.filter fun route => route.1 != endpoint).lookup other = routes.lookup other := by
  induction routes with
  | nil => rfl
  | cons route rest ih =>
    by_cases here : route.1 = endpoint
    · have skipped : (other == route.1) = false := beq_false_of_ne (here ▸ different)
      rw [List.filter_cons_of_neg (by simp [here]), List.lookup_cons, skipped, ih]
    · rw [List.filter_cons_of_pos (by simp [here]), List.lookup_cons, List.lookup_cons, ih]

/-- What is registered is found, and every other endpoint keeps its handler. -/
@[simp]
theorem lookup_register (router : Router) (endpoint other : Endpoint) (handler : Handler) :
    (router.register endpoint handler).lookup other =
      if other = endpoint then some handler else router.lookup other := by
  unfold register lookup
  by_cases same : other = endpoint
  · rw [if_pos same, List.lookup_cons, same, beq_self_eq_true]
  · rw [if_neg same, List.lookup_cons, beq_false_of_ne same]
    exact lookup_filter_ne same router.routes

/-- Of several registrations of one endpoint the last counts, before what the router had. -/
theorem lookup_foldl_register (router : Router) (endpoint : Endpoint) :
    (registrations.foldl (fun router route => router.register route.1 route.2) router).lookup
        endpoint =
      (registrations.reverse.lookup endpoint).or (router.lookup endpoint) := by
  induction registrations generalizing router with
  | nil => rfl
  | cons route rest ih =>
    rw [List.foldl_cons, ih, lookup_register, List.reverse_cons, List.lookup_append,
      Option.or_assoc, List.lookup_cons]
    by_cases same : endpoint = route.1
    · rw [if_pos same, same, beq_self_eq_true]
      rfl
    · rw [if_neg same, beq_false_of_ne same]
      rfl

/-- The handler for an endpoint is the first one that is met from the last registration on. -/
theorem lookup_ofRegistrations (registrations : List (Endpoint × Handler)) (endpoint : Endpoint) :
    (ofRegistrations registrations).lookup endpoint = registrations.reverse.lookup endpoint := by
  rw [ofRegistrations, lookup_foldl_register]
  exact Option.or_none

/-- A request is answered by the handler that was registered last for its path and method. -/
theorem dispatch_of_registered {before after : List (Endpoint × Handler)} {handler : Handler}
    (split : registrations = before ++ (request.endpoint, handler) :: after)
    (last : ∀ route ∈ after, route.1 ≠ request.endpoint) :
    (ofRegistrations registrations).dispatch request = handler request := by
  have found : registrations.reverse.lookup request.endpoint = some handler := by
    rw [List.lookup_eq_some_iff]
    refine ⟨after.reverse, before.reverse, ?_, fun route member => ?_⟩
    · rw [split, List.reverse_append, List.reverse_cons, List.append_assoc]
      rfl
    · exact bne_iff_ne.mpr (last route (List.mem_reverse.mp member)).symm
  rw [dispatch, lookup_ofRegistrations, found]

/-- A request is not found if no handler was registered for its path and method. -/
theorem dispatch_of_unregistered
    (nobody : ∀ route ∈ registrations, route.1 ≠ request.endpoint) :
    (ofRegistrations registrations).dispatch request = notFound := by
  have missing : registrations.reverse.lookup request.endpoint = none := by
    rw [List.lookup_eq_none_iff]
    intro route member
    exact bne_iff_ne.mpr (nobody route (List.mem_reverse.mp member)).symm
  rw [dispatch, lookup_ofRegistrations, missing]

end Router

namespace Request

variable (request : Request)

/-- The requests that carry a body. -/
def CarriesBody : Prop :=
  request.method = .post ∨ request.method = .put ∨ request.method = .patch

instance : Decidable request.CarriesBody := inferInstanceAs (Decidable (_ ∨ _))

/-- The requests that do not say what type their body has. -/
def Untyped : Prop :=
  request.headers.get? "content-type" = none ∨ request.headers.get? "content-type" = some ""

instance : Decidable request.Untyped := inferInstanceAs (Decidable (_ ∨ _))

/-- The requests that say something of the type of their body that is no number of a type. -/
def Mistyped : Prop :=
  ∃ value, request.headers.get? "content-type" = some value ∧ value ≠ "" ∧
    ∀ code ≤ 15, ¬Number.Spells value code

/-- A request as it is passed on: the type of a body that has none is that of a row of bytes. -/
def passedOn : Request :=
  if request.CarriesBody ∧ request.Untyped then
    { request with headers := request.headers.insert "content-type" "4" }
  else request

/-- Nothing but the type of the body is set. -/
theorem get?_passedOn {request : Request} {name : String} (other : name ≠ "content-type") :
    request.passedOn.headers.get? name = request.headers.get? name := by
  unfold passedOn
  split
  · rw [Headers.get?_insert, if_neg other]
  · rfl

/-- The methods that allow a body are those whose requests carry one. -/
theorem allowsBody_iff : request.method.allowsBody = true ↔ request.CarriesBody := by
  unfold CarriesBody
  cases request.method <;> decide

end Request

namespace Server

variable {request : Request}

/-- The values that name a content type are the numbers up to fifteen. -/
theorem namesContentType_iff {value : String} :
    namesContentType value = true ↔ ∃ code ≤ 15, Number.Spells value code := by
  unfold namesContentType
  match read : Number.unsignedBelow? (Nat.pow 2 32) value with
  | some number =>
    obtain ⟨spelled, -⟩ := Number.unsignedBelow?_eq_some_iff.mp read
    constructor
    · intro small
      exact ⟨number, of_decide_eq_true small, spelled⟩
    · rintro ⟨code, small, again⟩
      have below : code < Nat.pow 2 32 := Nat.lt_of_le_of_lt small (by decide)
      have same := Number.unsignedBelow?_eq_some_iff.mpr ⟨again, below⟩
      rw [read] at same
      cases same
      exact decide_eq_true small
  | none =>
    refine ⟨nofun, fun ⟨code, small, spelled⟩ => ?_⟩
    have below : code < Nat.pow 2 32 := Nat.lt_of_le_of_lt small (by decide)
    have found := Number.unsignedBelow?_eq_some_iff.mpr ⟨spelled, below⟩
    rw [read] at found
    cases found

/-- A body with a wrong type is refused. -/
theorem typed?_of_mistyped (wrong : request.Mistyped) : typed? request = none := by
  obtain ⟨value, found, something, noNumber⟩ := wrong
  have named : namesContentType value = false := Bool.eq_false_iff.mpr fun names => by
    obtain ⟨code, small, spelled⟩ := namesContentType_iff.mp names
    exact noNumber code small spelled
  have full : value.isEmpty = false := String.isEmpty_eq_false_iff.mpr something
  simp only [typed?, found, Option.getD_some, full, named, Bool.false_eq_true, ↓reduceIte]

/-- All other bodies have a type when they are passed on. -/
theorem typed?_of_not_mistyped (carries : request.CarriesBody) (right : ¬request.Mistyped) :
    typed? request = some request.passedOn := by
  unfold Request.passedOn
  by_cases untyped : request.Untyped
  · rw [if_pos ⟨carries, untyped⟩]
    have empty : ((request.headers.get? "content-type").getD "").isEmpty = true := by
      obtain missing | empty := untyped
      · rw [missing]
        rfl
      · rw [empty]
        rfl
    simp only [typed?, empty, ↓reduceIte]
    rfl
  · rw [if_neg fun both => untyped both.2]
    match found : request.headers.get? "content-type" with
    | none => exact absurd (.inl found) untyped
    | some value =>
      have something : value ≠ "" := fun empty => untyped (.inr (empty ▸ found))
      have named : namesContentType value = true := by
        by_contra nothing
        refine right ⟨value, found, something, fun code small spelled => nothing ?_⟩
        exact namesContentType_iff.mpr ⟨code, small, spelled⟩
      have full : value.isEmpty = false := String.isEmpty_eq_false_iff.mpr something
      simp only [typed?, found, Option.getD_some, full, named, Bool.false_eq_true, ↓reduceIte]

variable {message : Bytes}

/-- A body of a type that is not accepted is answered for that reason. -/
theorem handle_of_mistyped (server : Server) (read : Request.decode message = .ok request)
    (carries : request.CarriesBody) (wrong : request.Mistyped) :
    server.handle message = unsupportedMediaType := by
  simp only [handle, read, request.allowsBody_iff.mpr carries, ↓reduceIte,
    typed?_of_mistyped wrong]

/-- All other requests are answered as they are passed on to the router. -/
theorem handle_of_passedOn (server : Server) (read : Request.decode message = .ok request)
    (right : ¬(request.CarriesBody ∧ request.Mistyped)) :
    server.handle message = server.answer request.passedOn := by
  by_cases carries : request.CarriesBody
  · have typed := typed?_of_not_mistyped carries fun wrong => right ⟨carries, wrong⟩
    simp only [handle, read, request.allowsBody_iff.mpr carries, ↓reduceIte, typed]
  · have bodiless : request.method.allowsBody = false :=
      Bool.eq_false_iff.mpr fun allows => carries (request.allowsBody_iff.mp allows)
    have same : request.passedOn = request := if_neg fun both => carries both.1
    simp only [handle, read, bodiless, Bool.false_eq_true, ↓reduceIte, same]

/-- How a server answers a message. What is no request, and a request whose body has a wrong
type, get the same answer whatever handlers have been registered. Every other request is passed
on to the handler that was registered last for exactly its path and method, and its answer is
packed if the request allows for it; without such a handler the request is not found. -/
theorem handle_decided (config : ServerConfig) (codec : Codec) (message : Bytes) :
    let server (registrations : List (Endpoint × Handler)) : Server :=
      { config := config, router := .ofRegistrations registrations, codec := codec }
    (∀ fault, Request.decode message = .error fault → ∀ registrations,
      (server registrations).handle message = .text 400 "Bad Request") ∧
    ∀ request, Request.decode message = .ok request →
      (request.CarriesBody ∧ request.Mistyped → ∀ registrations,
        (server registrations).handle message = .text 415 "Unsupported Media Type") ∧
      (¬(request.CarriesBody ∧ request.Mistyped) → ∀ registrations,
        let passed := request.passedOn
        let accept := passed.headers.get? "accept-encoding"
        (∀ before handler after,
          registrations = before ++ (⟨passed.path, passed.method⟩, handler) :: after →
          (∀ route ∈ after, route.1 ≠ ⟨passed.path, passed.method⟩) →
          (server registrations).handle message =
            (server registrations).compress accept (handler passed)) ∧
        ((∀ route ∈ registrations, route.1 ≠ ⟨passed.path, passed.method⟩) →
          (server registrations).handle message =
            (server registrations).compress accept (.text 404 "Not Found"))) := by
  intro server
  refine ⟨fun fault failed registrations => ?_, fun request read => ⟨fun wrong registrations => ?_,
    fun right registrations => ⟨fun before handler after split last => ?_, fun nobody => ?_⟩⟩⟩
  · simp only [handle, failed]
    rfl
  · exact handle_of_mistyped _ read wrong.1 wrong.2
  · rw [handle_of_passedOn _ read right, answer, Router.dispatch_of_registered split last]
  · rw [handle_of_passedOn _ read right, answer, Router.dispatch_of_unregistered nobody]
    rfl

/-- Bytes that are no request, a type that is not accepted, and one that is written with a plus sign
and zeros: the handler that was registered last answers it. -/
theorem handle_decided_sample :
    let answering (word : String) : Handler := fun _ => .text 200 word
    let registrations : List (Endpoint × Handler) := [(⟨"/", .post⟩, answering "first"),
      (⟨"/", .post⟩, answering "last"), (⟨"/", .get⟩, answering "other")]
    let server : Server := { router := .ofRegistrations registrations }
    let typed (value : String) : Request :=
      ⟨.post, "h", "/", 0, .ofList [("content-type", value)], []⟩
    server.handle [] = .text 400 "Bad Request" ∧
      server.handle (typed "16").encode = .text 415 "Unsupported Media Type" ∧
      server.handle (typed "+0015").encode = .text 200 "last" := by
  intro answering registrations server typed
  have decided := handle_decided {} .standard
  have arrives : ∀ value ∈ ["16", "+0015"],
      Request.decode (typed value).encode = .ok (typed value) := by
    decide +kernel
  refine ⟨(decided []).1 .emptyMessage rfl registrations, ?_, ?_⟩
  · have wrong : (typed "16").Mistyped := by
      refine ⟨"16", by decide +kernel, by decide, fun code small spelled => ?_⟩
      have names := namesContentType_iff.mpr ⟨code, small, spelled⟩
      revert names
      decide
    exact ((decided _).2 _ (arrives "16" (by decide))).1 ⟨by decide, wrong⟩ registrations
  · have right : ¬(typed "+0015").Mistyped := by
      rintro ⟨value, found, -, noNumber⟩
      have here : (typed "+0015").headers.get? "content-type" = some "+0015" := by decide +kernel
      obtain rfl := Option.some.inj (here.symm.trans found)
      exact noNumber 15 (by decide)
        ⟨['+'], ['0', '0', '1', '5'], rfl, .inr rfl, by decide, forall_mem_of_all (by decide),
          by decide⟩
    have kept : (typed "+0015").passedOn = typed "+0015" := if_neg (by decide +kernel)
    have answered := (((decided _).2 _ (arrives "+0015" (by decide))).2
      (fun both => right both.2) registrations).1
    rw [kept] at answered
    exact answered [(⟨"/", .post⟩, answering "first")] (answering "last")
      [(⟨"/", .get⟩, answering "other")] rfl (by decide)

end Server

end CompactHttp
