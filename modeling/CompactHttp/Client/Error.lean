import CompactHttp.Compression
import CompactHttp.Framing
import CompactHttp.Net.Resolver
import CompactHttp.Net.Transport
import CompactHttp.Redirect

/-! # What can go wrong for a client

A client passes on what goes wrong below it, and adds what it refuses by itself. An error is
one of policy if a limit was kept, not if something failed.
-/

namespace CompactHttp

/-- Why a client does not get what it asks for. -/
inductive ClientError where
  /-- There is no link to any peer. -/
  | notConnected
  /-- A text is no address with a port. -/
  | invalidAddress (text : String)
  | unresolved (cause : ResolveError)
  | transport (cause : TransportError)
  /-- A response has more bytes than may be held. -/
  | responseTooLarge (limit : Nat)
  | malformed (cause : FormatError)
  /-- A request was redirected more often than is allowed. -/
  | tooManyRedirects (limit : Nat)
  | redirect (cause : RedirectError)
  | undecodable (cause : CompressionError)
  /-- The stream ended before the response was there in full. -/
  | noResponse
deriving DecidableEq, Repr

namespace ClientError

/-- What an error says. -/
def message : ClientError → String
  | notConnected => "client not connected"
  | invalidAddress text => "invalid address format: " ++ text
  | unresolved cause => cause.message
  | transport cause => "transport error: " ++ cause.message
  | responseTooLarge limit => "response size exceeds limit of " ++ toString limit ++ " bytes"
  | malformed cause => "failed to parse response: " ++ cause.message
  | tooManyRedirects limit => "too many redirects (limit " ++ toString limit ++ ")"
  | redirect cause => cause.message
  | undecodable (.crashed cause) => (CompressionError.crashed cause).message
  | undecodable cause => "decompression failed: " ++ cause.message
  | noResponse => "no response received"

/-- Whether a limit was kept rather than something failed. -/
def isPolicy : ClientError → Bool
  | responseTooLarge _ | tooManyRedirects _ | undecodable (.tooLarge _) => true
  | _ => false

/-- What stopped the program, if it was stopped. -/
def crash? : ClientError → Option Crash
  | undecodable (.crashed cause) => some cause
  | _ => none

/-- The error of a response that cannot be put together. -/
def ofFraming : FramingError → ClientError
  | .tooLarge limit => responseTooLarge limit
  | .malformed cause => malformed cause

end ClientError

end CompactHttp
