import CompactHttp.Server

/-! # A demonstration server

A few routes that show what a server can do. The only thing that they take from outside is
the time, in seconds, that the user document carries.
-/

namespace CompactHttp.Demo

/-- A handler that always gives the same text. -/
def constant (text : String) : Handler := fun _ => .text 200 text

/-- A JSON object whose members are already written. -/
def jsonObject (members : List (String × String)) : String :=
  let written := members.map fun member => "\"" ++ member.1 ++ "\":" ++ member.2
  "\x7b" ++ ",".intercalate written ++ "\x7d"

/-- Gives back the body as text. -/
def echo : Handler := fun request => .text 200 ("Echo: " ++ Utf8.decodeLossy request.body)

/-- A document about a user, with the time it was asked for. -/
def user (now : Nat) : Handler := fun _ =>
  let body := jsonObject [("active", "true"), ("id", "123"), ("name", "\"John Doe\"")]
  .new 200 (Utf8.encode body) (.ofList [("content-type", ContentType.json.headerValue),
    ("cache-control", "max-age=3600"), ("date", toString now)])

/-- Says what was done to the user. -/
def userDone (what : String) : Handler := fun _ =>
  .json 200 (jsonObject [("id", "123"), ("message", "\"User " ++ what ++ "\"")])

/-- A text that is worth compressing. -/
def update : Handler := fun request =>
  .text 200 ("Updated data: " ++ Utf8.decodeLossy request.body ++ " ; " ++
    String.ofList (List.replicate 1900 'a') ++ "; Hallo Welt;")

/-- Says how long the body is. -/
def measure : Handler := fun request =>
  .text 200 ("Received " ++ toString request.body.length ++ " bytes successfully")

/-- Leads on to another path of the same host. -/
def leadOn : Handler := fun request =>
  .new 301 [] (.ofList [("host", request.host), ("path", "/permanent-hello")])

/-- A row of bytes, which is never compressed. -/
def binary : Handler := fun _ =>
  .new 200 ((List.range 4096).map fun index => Bytes.byte (index % 251))
    (.ofList [("content-type", ContentType.octetStream.headerValue)])

/-- The routes of the server at some time. -/
def routes (now : Nat) : List (Endpoint × Handler) := [
  (⟨"/hello", .get⟩, constant "Hello from QH Protocol!"),
  (⟨"/echo", .post⟩, echo),
  (⟨"/status", .get⟩, constant "QH Server is running!"),
  (⟨"/api/user", .get⟩, user now),
  (⟨"/api/user", .put⟩, userDone "updated"),
  (⟨"/api/user", .patch⟩, userDone "partially updated"),
  (⟨"/api/user", .delete⟩, fun _ => .new 204 [] .empty),
  (⟨"/data", .post⟩, update),
  (⟨"/large-post", .post⟩, measure),
  (⟨"/redirect", .get⟩, leadOn),
  (⟨"/permanent-hello", .get⟩, constant "Hello from the new, permanent location!"),
  (⟨"/binary", .get⟩, binary)]

/-- The server at some time. -/
def server (now : Nat) : Server where
  router := (routes now).foldl (fun router route => router.register route.1 route.2) .empty

end CompactHttp.Demo
