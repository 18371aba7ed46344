import CompactHttp.Compression.Bits

/-! # What a decoder produces

A decoder gives out bytes piece by piece and then ends, cleanly or not. What follows a
piece is only worked out when it is asked for. `Production.upTo` asks for no more than
some number of bytes: what would come after them is never seen, and a decoder that gives
out fewer has to reach a clean end.
-/

namespace CompactHttp

/-- The bytes a decoder gives out and how it ends. -/
inductive Production where
  /-- Bytes, and what comes after them. -/
  | emit (bytes : Bytes) (next : Unit → Production)
  /-- The end of sound data. -/
  | finished
  /-- The decoder cannot go on. -/
  | failed (cause : Halt)

namespace Production

/-- All bytes that are given out. -/
def bytes : Production → Bytes
  | emit bytes next => bytes ++ (next ()).bytes
  | finished => []
  | failed _ => []

/-- How the decoder ends: without a cause if it ends cleanly. -/
def ending : Production → Option Halt
  | emit _ next => (next ()).ending
  | finished => none
  | failed cause => some cause

/-- Reads what a decoder gives out, behind the pieces already `read` (last first), until
`ceiling` more bytes have come or it ends. -/
def upToFrom (read : List Bytes) (ceiling : Nat) : Production → Except Halt Bytes
  | emit bytes next =>
    if ceiling ≤ bytes.length then .ok (bytes.take ceiling :: read).reverse.flatten
    else upToFrom (bytes :: read) (ceiling - bytes.length) (next ())
  | finished => .ok read.reverse.flatten
  | failed cause => if ceiling = 0 then .ok read.reverse.flatten else .error cause

/-- Reads what a decoder gives out until `ceiling` bytes have come or it ends. -/
def upTo (ceiling : Nat) (production : Production) : Except Halt Bytes :=
  upToFrom [] ceiling production

/-- A decoder that works through its output in windows: it gives out a window when it has to
write past it, and the window in which it finds the data corrupt is lost. -/
def windowed (window : Nat) (output : Bytes) : Option Halt → Production
  | none => emit output fun _ => finished
  | some .truncated => emit output fun _ => failed .truncated
  | some .corrupt =>
    emit (output.take ((output.length - 1) / window * window)) fun _ => failed .corrupt

/-- A decoder that looks at what follows a piece before it gives out the last byte of the
piece, and keeps that byte when it finds corrupt data. -/
def lookingAhead {α : Type} (piece : Bytes) (following : Except Halt α) (next : α → Production) :
    Production :=
  match following with
  | .ok value => emit piece fun _ => next value
  | .error .truncated => emit piece fun _ => failed .truncated
  | .error .corrupt => emit piece.dropLast fun _ => failed .corrupt

end Production

end CompactHttp
