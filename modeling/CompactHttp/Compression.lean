import CompactHttp.Compression.Brotli
import CompactHttp.Compression.Encoding
import CompactHttp.Compression.Gzip
import CompactHttp.Compression.Zstd
import CompactHttp.Crash

/-! # Packing and unpacking bodies

A body is packed with one of the encodings, and unpacked under a limit on the number of
bytes it may become. A body that passes the limit is refused as too large whatever would
come after; one that stays within it has to be sound to its end. To tell, one byte more is
asked for than may be kept, and the program stops if there is no such number of bytes.
Nothing packs into nothing. All this holds whatever programs do the packing (`Codec`); those
of this library are `Codec.standard`.
-/

namespace CompactHttp

/-- Why a body cannot be packed or unpacked. -/
inductive CompressionError where
  /-- A word that names no encoding. -/
  | unsupported (word : String)
  /-- The body becomes larger than is allowed. -/
  | tooLarge (limit : Nat)
  /-- The packed data are broken or cut off. -/
  | broken (encoding : Encoding)
  /-- The program is stopped. This is not told to whoever wants the body. -/
  | crashed (cause : Crash)
deriving DecidableEq, Repr

/-- What an error says, before what the decoder adds about broken data. A program that is stopped
says so by itself. -/
def CompressionError.message : CompressionError → String
  | unsupported word => "unsupported encoding: " ++ word
  | tooLarge limit => "decompressed size exceeds limit of " ++ toString limit ++ " bytes"
  | broken encoding => encoding.token ++ " codec error"
  | crashed _ => "attempt to add with overflow"

namespace Encoding

/-- The encoding that a header value names, white space around it left aside. -/
def parse (value : String) : Except CompressionError Encoding :=
  match ofToken? (Blank.trim value) with
  | some encoding => .ok encoding
  | none => .error (.unsupported (Blank.trim value))

end Encoding

/-- Programs that pack and unpack. -/
structure Codec where
  /-- Packs data, unless that fails. -/
  encode : Encoding → Bytes → Option Bytes
  /-- What unpacking data produces. -/
  decode : Encoding → Bytes → Production

namespace Codec

/-- The programs of this library. They can pack everything. -/
def standard : Codec where
  encode
    | .zstd, data => some (Zstd.encode data)
    | .brotli, data => some (Brotli.encode data)
    | .gzip, data => some (Gzip.encode data)
  decode
    | .zstd => Zstd.decode
    | .brotli => Brotli.decode
    | .gzip => Gzip.decode

/-- Packs a body. -/
def compress (codec : Codec) (encoding : Encoding) (data : Bytes) : Option Bytes :=
  if data.isEmpty then some [] else codec.encode encoding data

/-- The most bytes that are read of what a decoder gives out: one more than may be kept. The
program stops where that is no number of sixty-four bits. -/
def ceiling (limit : Nat) : Except Crash Nat :=
  if limit + 1 < Nat.pow 2 64 then .ok (limit + 1) else .error .overflow

/-- What a reader with a ceiling gets of a body, if that is at most `limit` bytes. -/
def readWithin (encoding : Encoding) (limit : Nat) (read : Nat → Except Halt Bytes) :
    Except CompressionError Bytes :=
  match ceiling limit with
  | .error cause => .error (.crashed cause)
  | .ok ceiling =>
    match read ceiling with
    | .error _ => .error (.broken encoding)
    | .ok bytes => if limit < bytes.length then .error (.tooLarge limit) else .ok bytes

/-- Unpacks a body to at most `limit` bytes. -/
def decompress (codec : Codec) (encoding : Encoding) (limit : Nat) (data : Bytes) :
    Except CompressionError Bytes :=
  if data.isEmpty then .ok [] else readWithin encoding limit (codec.decode encoding data).upTo

end Codec

end CompactHttp
