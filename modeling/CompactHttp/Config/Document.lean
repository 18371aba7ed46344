import CompactHttp.Config
import CompactHttp.Toml

/-! # Settings in a document

A configuration file is a TOML document with a section for the client, for the server and
for the log. A section is a table of settings by name, or an array of them in their usual
order. Settings that are not given keep their default, and names that mean nothing are
passed over; a value of the wrong type spoils the document.
-/

namespace CompactHttp.Config

open CompactHttp.Toml

/-- The settings that a section gives. Without names they take the given ones in order. A
point in time counts as a table without any of the names. -/
def section? (names : List String) : Value → Option Entries
  | .table _ entries => some entries
  | .array items => some (names.zip items)
  | .tables rows => some (names.zip (rows.map (.table .opened)))
  | .moment _ => some []
  | _ => none

/-- The value of a setting, the default if it is not given, nothing if it cannot be read. -/
def setting {Item : Type} (entries : Entries) (name : String) (read : Value → Option Item)
    (default : Item) : Option Item :=
  match entries.lookup name with
  | some value => read value
  | none => some default

/-- A text. -/
def text? : Value → Option String
  | .text text => some text
  | _ => none

/-- A number that is not negative. -/
def size? : Value → Option Nat
  | .integer value => if 0 ≤ value then some value.toNat else none
  | _ => none

/-- Whether a value is a table or an array that holds nothing. -/
def isEmpty : Value → Bool
  | .table _ entries => entries.isEmpty
  | .array items => items.isEmpty
  | .tables rows => rows.isEmpty
  | _ => false

/-- An encoding: its word, or a table in which its word is the only name and has nothing
in it. -/
def encoding? : Value → Option Encoding
  | .text word => Encoding.ofToken? word
  | .table _ [(word, value)] => if isEmpty value then Encoding.ofToken? word else none
  | _ => none

/-- A list of encodings. -/
def encodings? : Value → Option (List Encoding)
  | .array items => items.mapM encoding?
  | .tables rows => rows.mapM fun row => encoding? (.table .opened row)
  | _ => none

/-- The settings of a client. -/
def client? (value : Value) : Option ClientConfig := do
  let default : ClientConfig := {}
  let entries ← section? ["max_response_size", "max_redirects", "supported_encodings"] value
  return {
    maxResponseSize := ← setting entries "max_response_size" size? default.maxResponseSize
    maxRedirects := ← setting entries "max_redirects" size? default.maxRedirects
    encodings := ← setting entries "supported_encodings" encodings? default.encodings }

/-- The settings of a server. -/
def server? (value : Value) : Option ServerConfig := do
  let default : ServerConfig := {}
  let entries ← section?
    ["bind_address", "max_request_size", "min_compression_size", "supported_encodings"] value
  return {
    bindAddress := ← setting entries "bind_address" text? default.bindAddress
    maxRequestSize := ← setting entries "max_request_size" size? default.maxRequestSize
    minCompressionSize := ← setting entries "min_compression_size" size? default.minCompressionSize
    encodings := ← setting entries "supported_encodings" encodings? default.encodings }

/-- The settings of the log. -/
def log? (value : Value) : Option LogConfig := do
  let default : LogConfig := {}
  let entries ← section? ["log_level", "log_format"] value
  return {
    level := ← setting entries "log_level" text? default.level
    format := ← setting entries "log_format" text? default.format }

/-- The settings that a document gives. -/
def ofEntries? (entries : Entries) : Option Config := do
  return {
    client := ← setting entries "client" client? {}
    server := ← setting entries "server" server? {}
    log := ← setting entries "observability" log? {} }

end CompactHttp.Config
