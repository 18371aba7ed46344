import CompactHttp.Bytes

/-! # Repeats in a byte string

A byte string is cut into pieces that are written out and pieces that repeat what stands
a short distance before them. A repeat may run into itself: a run of one byte is that
byte followed by a repeat at distance one. How long a repeat has to be to be worth
announcing depends on the encoding.
-/

namespace CompactHttp

/-- A piece of a byte string. -/
inductive Piece where
  /-- Bytes that are written out. -/
  | literal (bytes : Bytes)
  /-- As many bytes as `length` says, each equal to the one `distance` before it. -/
  | repeated (distance length : Nat)
deriving DecidableEq, Repr

/-- How many bytes a piece stands for. -/
def Piece.length : Piece → Nat
  | literal bytes => bytes.length
  | repeated _ length => length

namespace Repeats

/-- How far back a repeat is looked for. -/
def reach : Nat := 256

/-- The longest repeat that is cut out. -/
def maxLength : Nat := 65536

/-- How many bytes from a position on, at most `fuel`, equal those `distance` before them, in
addition to those already `found`. -/
def lengthFrom (data : Array UInt8) (distance : Nat) : (fuel found position : Nat) → Nat
  | 0, found, _ => found
  | fuel + 1, found, position =>
    match data[position]? with
    | some byte =>
      if data[position - distance]? = some byte then
        lengthFrom data distance fuel (found + 1) (position + 1)
      else found
    | none => found

/-- The first distance, from `distance` on, at which a repeat of at least `least` bytes starts,
and the length of that repeat. The fuel is the number of distances to try. -/
def findFrom (data : Array UInt8) (least position : Nat) :
    (fuel distance : Nat) → Option (Nat × Nat)
  | 0, _ => none
  | fuel + 1, distance =>
    let length := lengthFrom data distance maxLength 0 position
    if least ≤ length then some (distance, length)
    else findFrom data least position fuel (distance + 1)

/-- The pieces before a position, of which some bytes are still to be written out (last
first). The pieces are in reverse too. -/
def close (pieces : List Piece) (waiting : Bytes) : List Piece :=
  if waiting.isEmpty then pieces else .literal waiting.reverse :: pieces

/-- The pieces from a position on, behind those already cut. The fuel is at least the number
of bytes that are left. -/
def cutFrom (data : Array UInt8) (least : Nat) :
    (fuel : Nat) → List Piece → Bytes → (position : Nat) → List Piece
  | 0, pieces, waiting, _ => (close pieces waiting).reverse
  | fuel + 1, pieces, waiting, position =>
    match data[position]? with
    | none => (close pieces waiting).reverse
    | some byte =>
      match findFrom data least position (min position reach) 1 with
      | some (distance, length) =>
        cutFrom data least fuel (.repeated distance length :: close pieces waiting) []
          (position + length)
      | none => cutFrom data least fuel pieces (byte :: waiting) (position + 1)

/-- The pieces of a byte string, in which no repeat is shorter than `least`. -/
def cut (least : Nat) (data : Bytes) : List Piece :=
  let data := data.toArray
  cutFrom data least (data.size + 1) [] [] 0

/-- Appends bytes, each equal to the one `distance` before it. Before the start there are
zeros. -/
def copyBack (distance : Nat) : (length : Nat) → Array UInt8 → Array UInt8
  | 0, output => output
  | length + 1, output =>
    let byte := if distance ≤ output.size then output[output.size - distance]?.getD 0 else 0
    copyBack distance length (output.push byte)

/-- Appends the bytes of a piece. -/
def append (output : Array UInt8) : Piece → Array UInt8
  | .literal bytes => output ++ bytes
  | .repeated distance length => copyBack distance length output

/-- The byte string that pieces make. -/
def join (pieces : List Piece) : Bytes := (pieces.foldl append #[]).toList

end Repeats

end CompactHttp
