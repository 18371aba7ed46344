import CompactHttp.Client.Error
import CompactHttp.CommandLine.Input
import CompactHttp.Config.Validation
import CompactHttp.Text.Detail

/-! # Failures on the command line

A failed command says in full what went wrong.
-/

namespace CompactHttp

open Detail

/-- Why a file cannot be read. -/
inductive FileError where
  | notFound
  | denied
  | isDirectory
  | notText
deriving DecidableEq, Repr

/-- An error that the operating system gives. -/
def systemDetail (code : Nat) (kind message : String) : String :=
  record "Os" [("code", toString code), ("kind", kind), ("message", quoted message)]

/-- An error in full. -/
def FileError.detail : FileError → String
  | notFound => systemDetail 2 "NotFound" "No such file or directory"
  | denied => systemDetail 13 "PermissionDenied" "Permission denied"
  | isDirectory => systemDetail 21 "IsADirectory" "Is a directory"
  | notText => record "Error"
    [("kind", "InvalidData"), ("message", quoted "stream did not contain valid UTF-8")]

/-- An error in full. -/
def ConfigError.detail : ConfigError → String
  | unreadable => "Parse"
  | invalid complaints =>
    call "Validation" [list (complaints.map fun complaint =>
      record "ValidationError"
        [("field", quoted complaint.field), ("message", quoted complaint.message)])]

/-- An error in full. -/
def Base64Error.detail : Base64Error → String
  | invalidByte position byte => call "InvalidByte" [toString position, toString byte.toNat]
  | invalidLength length => call "InvalidLength" [toString length]
  | invalidLastSymbol position byte =>
    call "InvalidLastSymbol" [toString position, toString byte.toNat]
  | invalidPadding => "InvalidPadding"

/-- An error in full. -/
def InputError.detail : InputError → String
  | oddDigits => quoted "hex input has an odd number of digits"
  | invalidDigit | brokenCharacter => record "ParseIntError" [("kind", "InvalidDigit")]
  | invalidBase64 cause => cause.detail

/-- An error in full. -/
def FormatError.detail : FormatError → String
  | incomplete => "Incomplete"
  | lengthOverflow => "VarintOverflow"
  | partTooLong part => record "LengthExceedsBuffer" [("field", quoted part.label)]
  | emptyMessage => "EmptyMessage"
  | unknownMethod code => call "InvalidMethod" [toString code.toNat]
  | emptyHost => "EmptyHost"
  | hostTooLong length limit =>
    record "HostTooLong" [("len", toString length), ("max", toString limit)]
  | unknownHeader id => call "UnknownHeaderId" [toString id.toNat]
  | notText part => record "InvalidUtf8" [("field", quoted part.label)]

/-- An error in full. -/
def TransportError.detail : TransportError → String
  | closed => "Closed"
  | refused address => call "ConnectionRefused" [address.text]
  | addressInUse address => call "AddressInUse" [address.text]
  | unreachable => call "Io" [systemDetail 101 "NetworkUnreachable" "Network is unreachable"]

/-- An error in full. -/
def ResolveError.detail : ResolveError → String
  | noAddresses host => call "NoAddresses" [quoted host]
  | lookup host cause => record "Lookup" [("host", quoted host), ("source", cause.detail)]

/-- An error in full, but for what a decoder says of broken data. -/
def CompressionError.detail : CompressionError → String
  | unsupported word => call "Unsupported" [quoted word]
  | tooLarge limit => record "SizeLimitExceeded" [("limit", toString limit)]
  | broken encoding => record "Io" [("encoding", encoding.token)]
  | crashed cause => (crashed cause).message

/-- An error in full. -/
def ClientError.detail : ClientError → String
  | notConnected => "NotConnected"
  | invalidAddress text => call "InvalidAddress" [quoted text]
  | unresolved cause => call "Resolve" [cause.detail]
  | transport cause => call "Transport" [cause.detail]
  | responseTooLarge limit => record "ResponseTooLarge" [("limit", toString limit)]
  | malformed cause => call "Wire" [cause.detail]
  | tooManyRedirects limit => record "TooManyRedirects" [("max", toString limit)]
  | redirect .missingTarget => "MissingRedirectTarget"
  | redirect (.invalidLocation location fault) =>
    call "InvalidLocation" [quoted (location ++ ": " ++ fault.message)]
  | undecodable cause => call "Decompress" [cause.detail]
  | noResponse => "NoResponse"

end CompactHttp
