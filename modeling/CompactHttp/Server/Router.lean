import CompactHttp.Message

/-! # Routing

A request is answered by what was registered last for exactly its path and method, and
with `Not Found` if nothing was.
-/

namespace CompactHttp

/-- Something that answers requests. -/
abbrev Handler := Request → Response

/-- What a handler is registered for. -/
structure Endpoint where
  path : String
  method : Method
deriving DecidableEq, Repr

/-- The endpoint that a request is addressed to. -/
def Request.endpoint (request : Request) : Endpoint := ⟨request.path, request.method⟩

/-- Handlers by endpoint, at most one for each. -/
structure Router where
  routes : List (Endpoint × Handler)
  distinct : (routes.map Prod.fst).Nodup

namespace Router

/-- A router without handlers. -/
def empty : Router := ⟨[], List.nodup_nil⟩

/-- Registers a handler, in place of an earlier one for the same endpoint. -/
def register (router : Router) (endpoint : Endpoint) (handler : Handler) : Router where
  routes := (endpoint, handler) :: router.routes.filter fun route => route.1 != endpoint
  distinct := by
    rw [List.map_cons, List.nodup_cons]
    refine ⟨?_, router.distinct.sublist (List.filter_sublist.map _)⟩
    simp only [List.mem_map, List.mem_filter, bne_iff_ne, not_exists, not_and, and_imp]
    exact fun route _ other same => other same

/-- The handler for an endpoint. -/
def lookup (router : Router) (endpoint : Endpoint) : Option Handler := router.routes.lookup endpoint

/-- The number of endpoints with a handler. -/
def size (router : Router) : Nat := router.routes.length

/-- The answer to a request that nobody is registered for. -/
def notFound : Response := .text 404 "Not Found"

/-- The answer to a request. -/
def dispatch (router : Router) (request : Request) : Response :=
  match router.lookup request.endpoint with
  | some handler => handler request
  | none => notFound

end Router

end CompactHttp
