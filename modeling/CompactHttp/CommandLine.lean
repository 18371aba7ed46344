import CompactHttp.Client
import CompactHttp.CommandLine.Arguments
import CompactHttp.CommandLine.Failure
import CompactHttp.Dump

/-! # The command line

The program sends a request and shows the response, or shows what encoded bytes mean. What
it does is a function of its arguments and of the machine it runs on.
-/

namespace CompactHttp.CommandLine

/-- How the program ends. -/
inductive Outcome where
  | success (output : String)
  /-- Something went wrong, which is told in full. -/
  | failure (detail : String)
  /-- The arguments make no sense. -/
  | misuse
  /-- The program was stopped. -/
  | crash
deriving DecidableEq, Repr

namespace Outcome

/-- The number that the program ends with. -/
def exitCode : Outcome → Nat
  | success _ => 0
  | failure _ => 1
  | misuse => 2
  | crash => 101

/-- What the program writes to its output. -/
def output : Outcome → String
  | success output => output
  | _ => ""

/-- What a failed program writes about it. -/
def errorOutput : Outcome → String
  | failure detail => "Error: " ++ detail ++ "\n"
  | _ => ""

end Outcome

/-- A machine: its files, where the settings are if nothing else is said, and its network. -/
structure Machine (World Link Stream : Type) where
  fileAt : String → Except FileError String
  usualConfig : Option String := none
  transport : Transport World Link Stream
  resolver : Resolver World

/-- What the system says of a host that it cannot ask anybody for. -/
def unanswered : SystemFault :=
  let message := "failed to lookup address information: Temporary failure in name resolution"
  ⟨message, Detail.record "Custom" [("kind", "Uncategorized"), ("error", quoted message)]⟩

/-- A machine without files and without network. -/
def Machine.bare : Machine Unit SocketAddress Empty where
  fileAt _ := .error .notFound
  transport := .offline
  resolver := .system fun _ world => (.error unanswered, world)

/-- The address that is asked unless another one is given. -/
def usualAddress : String := "127.0.0.1:8090"

/-- The host of an address text, without brackets around it. -/
def hostOf (address : String) : String :=
  match splitAtLast ':' address.toList with
  | none => address
  | some (host, _) =>
    let isBracket (char : Char) : Bool := char == '[' || char == ']'
    String.ofList ((host.dropWhile isBracket).reverse.dropWhile isBracket).reverse

/-- How a response is shown. -/
def report (response : Response) : String :=
  "Status: " ++ toString response.status.toNat ++ "\n" ++
    String.join (response.headers.sorted.map fun entry => entry.1 ++ ": " ++ entry.2 ++ "\n") ++
    "\n" ++ response.bodyText ++ "\n"

/-- The settings in a file, or the usual ones without a file. -/
def loadConfig (fileAt : String → Except FileError String) :
    Option String → Except String Config
  | none => .ok {}
  | some path =>
    match fileAt path with
    | .error fault => .error (Detail.call "Io" [fault.detail])
    | .ok text =>
      match Config.parse text with
      | .error fault => .error fault.detail
      | .ok config => .ok config

/-- Shows what bytes mean. -/
def inspect (kind : MessageKind) (read : Except InputError Bytes) : Outcome :=
  match read with
  | .ok data => .success (Dump.render kind data ++ "\n")
  | .error .brokenCharacter => .crash
  | .error fault => .failure fault.detail

/-- Sends a request to an address and shows the response. -/
def exchange {World Link Stream : Type} (client : Client World Link Stream) (world : World)
    (address host : String) (method : Method) (path : String) (headers : Headers) (body : Bytes) :
    Outcome × World :=
  let action : Client.Action World Link Response := do
    client.connect address
    let response ← client.send method host path headers body
    client.close
    return response
  match action.run { world := world } with
  | .ok response situation => (.success (report response), situation.world)
  | .error fault situation =>
    (if fault.crash?.isSome then .crash else .failure fault.detail, situation.world)

/-- Carries out a command. -/
def perform {World Link Stream : Type} (machine : Machine World Link Stream) (world : World)
    (settings : Settings) (command : Command) : Outcome × World :=
  match loadConfig machine.fileAt (settings.config <|> machine.usualConfig) with
  | .error detail => (.failure detail, world)
  | .ok config =>
    let client : Client World Link Stream :=
      { transport := machine.transport, resolver := machine.resolver, config := config.client }
    let address := settings.address.getD usualAddress
    let host := settings.host.getD (hostOf address)
    match command with
    | .get path => exchange client world address host .get path .empty []
    | .send method path body contentType =>
      let headers := match contentType with
        | some code => Headers.empty.insert "content-type" (toString code)
        | none => .empty
      exchange client world address host method path headers (Utf8.encode body)
    | .inspect kind data true => (inspect kind (Input.base64 data), world)
    | .inspect kind data false => (inspect kind (Input.hexadecimal data), world)

/-- What the program does when it is called with arguments. -/
def run {World Link Stream : Type} (machine : Machine World Link Stream) (world : World)
    (arguments : List String) : Outcome × World :=
  match demand arguments with
  | .misuse => (.misuse, world)
  | .help topic => (.success topic.text, world)
  | .run (settings, command) => perform machine world settings command

end CompactHttp.CommandLine
