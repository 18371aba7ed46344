import CompactHttp.Compression.Encoding

/-! # Settings

What a client, a server and their log can be told, and what holds when they are not.
-/

namespace CompactHttp

/-- The bytes in a mebibyte. -/
def mebibyte : Nat := 1024 * 1024

/-- Settings of a client. -/
structure ClientConfig where
  /-- The most bytes that may be held of a response, and that its body may become. -/
  maxResponseSize : Nat := 50 * mebibyte
  /-- The most redirects that one request follows. -/
  maxRedirects : Nat := 10
  /-- The encodings that are asked for, the preferred one first. -/
  encodings : List Encoding := Encoding.all
deriving DecidableEq, Repr

/-- Settings of a server. -/
structure ServerConfig where
  /-- The address with a port to listen at. -/
  bindAddress : String := "127.0.0.1:8090"
  /-- The most bytes that may be held of a request. -/
  maxRequestSize : Nat := 10 * mebibyte
  /-- The fewest bytes of a body that is worth compressing. -/
  minCompressionSize : Nat := 1024
  /-- The encodings that are offered. -/
  encodings : List Encoding := Encoding.all
deriving DecidableEq, Repr

/-- Settings of the log. -/
structure LogConfig where
  level : String := "info"
  format : String := "pretty"
deriving DecidableEq, Repr

/-- All settings. -/
structure Config where
  client : ClientConfig := {}
  server : ServerConfig := {}
  log : LogConfig := {}
deriving DecidableEq, Repr

/-- The forms of a log. -/
inductive LogFormat where
  | pretty
  | json
deriving DecidableEq, Repr

/-- The form that a word stands for, in any mixture of ASCII capitals and small letters. -/
def LogFormat.parse? (word : String) : Option LogFormat :=
  match word.toLower with
  | "pretty" | "text" => some pretty
  | "json" => some json
  | _ => none

end CompactHttp
