import CompactHttp.Config.Document
import CompactHttp.Net.Address

/-! # Whether settings make sense

Settings that can be read may still make no sense. All that is wrong with them is told at
once, in the order of the settings.
-/

namespace CompactHttp

/-- What is wrong with a setting. -/
structure Complaint where
  field : String
  message : String
deriving DecidableEq, Repr

/-- What a complaint says. -/
def Complaint.text (complaint : Complaint) : String := complaint.field ++ ": " ++ complaint.message

namespace Config

/-- A size of zero would allow nothing. -/
def sizeComplaints (field : String) (size : Nat) : List Complaint :=
  if size = 0 then [⟨field, "must be greater than 0"⟩] else []

/-- An encoding needs to be named once only. -/
def encodingComplaints (field : String) : (seen : List Encoding) → List Encoding → List Complaint
  | _, [] => []
  | seen, encoding :: rest =>
    let others := encodingComplaints field (encoding :: seen) rest
    if encoding ∈ seen then
      ⟨field, "duplicate encoding '" ++ encoding.token ++ "'"⟩ :: others
    else others

/-- The address to listen at needs a port and no name. -/
def addressComplaints (field text : String) : List Complaint :=
  if (SocketAddress.parse? text).isSome then []
  else [⟨field, "invalid socket address '" ++ text ++ "'"⟩]

/-- The form of the log has to be a known one. -/
def formatComplaints (field word : String) : List Complaint :=
  if (LogFormat.parse? word).isSome then [] else [⟨field, "unknown format '" ++ word ++ "'"⟩]

/-- All that is wrong with settings. -/
def complaints (config : Config) : List Complaint :=
  sizeComplaints "client.max_response_size" config.client.maxResponseSize ++
    encodingComplaints "client.supported_encodings" [] config.client.encodings ++
    addressComplaints "server.bind_address" config.server.bindAddress ++
    sizeComplaints "server.max_request_size" config.server.maxRequestSize ++
    encodingComplaints "server.supported_encodings" [] config.server.encodings ++
    formatComplaints "observability.log_format" config.log.format

end Config

/-- Why there are no settings to be had from a text. -/
inductive ConfigError where
  /-- The text is no document of settings. -/
  | unreadable
  /-- The settings make no sense. -/
  | invalid (complaints : List Complaint)
deriving DecidableEq, Repr

/-- What an error says, before what is said of a document that cannot be read. -/
def ConfigError.message : ConfigError → String
  | unreadable => "Parse error: "
  | invalid complaints => "Validation failed: " ++ ", ".intercalate (complaints.map Complaint.text)

/-- Settings, if they make sense. -/
def Config.validate (config : Config) : Except ConfigError Config :=
  if config.complaints.isEmpty then .ok config else .error (.invalid config.complaints)

/-- The settings that a text gives. -/
def Config.parse (text : String) : Except ConfigError Config :=
  match (Toml.parse? text).bind Config.ofEntries? with
  | some config => config.validate
  | none => .error .unreadable

end CompactHttp
