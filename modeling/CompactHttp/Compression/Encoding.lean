import CompactHttp.Text.Blank
import CompactHttp.Text.Number

/-! # Content encodings

The encodings a body may have, and how two peers agree on one: the client lists those
it takes, in the order of its preference, and the first of them that the server offers
is used. Words that name no encoding are passed over.
-/

namespace CompactHttp

/-- A way to write a body in fewer bytes. -/
inductive Encoding where
  | zstd
  | brotli
  | gzip
deriving DecidableEq, Repr, Inhabited

namespace Encoding

/-- All encodings, the preferred one first. -/
def all : List Encoding := [zstd, brotli, gzip]

/-- The word for an encoding. -/
def token : Encoding → String
  | zstd => "zstd"
  | brotli => "br"
  | gzip => "gzip"

/-- The encoding a word stands for. -/
def ofToken? (word : String) : Option Encoding := all.find? fun encoding => encoding.token == word

/-- The encodings that an `accept-encoding` value names, in its order. -/
def parseAccept (value : String) : List Encoding :=
  (splitAtChar ',' value.toList).filterMap fun word =>
    ofToken? (String.ofList (Blank.trimChars word))

/-- The `accept-encoding` value that names these encodings. -/
def acceptHeader (encodings : List Encoding) : String :=
  ", ".intercalate (encodings.map token)

/-- The first encoding of the client that the server has too. -/
def select (client server : List Encoding) : Option Encoding :=
  client.find? fun encoding => server.contains encoding

end Encoding

end CompactHttp
