import CompactHttp.Message
import CompactHttp.Url

/-! # Redirects

A redirect names its target either by the headers `host` and `path` together, which win, or
by a `location`. A location without a scheme is seen from the root of the host that was
asked. A request that follows a redirect is repeated as it was after the statuses 307
and 308, and becomes a GET without body after all others.
-/

namespace CompactHttp

/-- Where a redirect leads. -/
structure RedirectTarget where
  host : String
  path : String
deriving DecidableEq, Repr

/-- What is wrong with a location. -/
inductive LocationFault where
  /-- It is no URL. -/
  | malformed (error : UrlError)
  /-- It is a URL that leads to no host. -/
  | noHost
deriving DecidableEq, Repr

/-- What a fault says. -/
def LocationFault.message : LocationFault → String
  | malformed error => error.message
  | noHost => "no host"

/-- Why a redirect cannot be followed. -/
inductive RedirectError where
  /-- The response does not say where to go. -/
  | missingTarget
  /-- The response says where to go, but not in a form that can be used. -/
  | invalidLocation (location : String) (fault : LocationFault)
deriving DecidableEq, Repr

/-- What an error says. -/
def RedirectError.message : RedirectError → String
  | missingTarget => "redirect response missing location or host/path headers"
  | invalidLocation location fault =>
    "invalid location header: " ++ location ++ ": " ++ fault.message

namespace Redirect

/-- A path, the root if it is empty. -/
def rooted (path : String) : String := if path.isEmpty then "/" else path

/-- The scheme under which hosts are asked. -/
def scheme : String := "qh"

/-- The URL of a location, seen from a host. -/
def locate (location currentHost : String) : Except UrlError Url :=
  match Url.parse location with
  | .error .noScheme => do
    Url.resolve (← Url.parse (scheme ++ "://" ++ currentHost ++ "/")) location
  | result => result

/-- The target of a URL, if it leads to a host. -/
def ofUrl? (url : Url) : Option RedirectTarget := do
  let host := (← url.host).text
  if host.isEmpty then none
  else
    let query := (url.query.map ("?" ++ ·)).getD ""
    return ⟨host, rooted url.path ++ query⟩

/-- The target of a location, seen from a host. -/
def ofLocation (location currentHost : String) : Except RedirectError RedirectTarget :=
  match locate location currentHost with
  | .error error => .error (.invalidLocation location (.malformed error))
  | .ok url =>
    match ofUrl? url with
    | some target => .ok target
    | none => .error (.invalidLocation location .noHost)

/-- The target of a redirect that answers a request to a host. -/
def target (response : Response) (currentHost : String) :
    Except RedirectError RedirectTarget :=
  match response.header? "host", response.header? "path" with
  | some host, some path => .ok ⟨host, rooted path⟩
  | _, _ =>
    match response.header? "location" with
    | some location => ofLocation location currentHost
    | none => .error .missingTarget

/-- The header that says how long a body is. -/
def contentLength : String := "content-length"

/-- The request sent to the target of a redirect with some status. -/
def followUp (request : Request) (status : UInt16) (target : RedirectTarget) : Request :=
  if Status.preservesMethod status then
    { request with host := target.host, path := target.path, version := 0 }
  else
    ⟨.get, target.host, target.path, 0,
      request.headers.keep fun name => !Headers.sameName name contentLength, []⟩

end Redirect

end CompactHttp
