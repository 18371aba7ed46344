import CompactHttp.Compression.Bits

/-! # Prefix codes

A prefix code is given by the lengths of its codewords alone: codewords of one length
follow one another in the order of their symbols, and shorter ones come before longer
ones. A codeword is read from its highest bit on.
-/

namespace CompactHttp

/-- A prefix code: how many codewords there are of each length from one on, and the symbols
in the order of their codewords. -/
structure PrefixCode where
  counts : List Nat
  symbols : Array Nat

namespace PrefixCode

/-- The code in which symbol `i` has a codeword of the `i`-th length, none if that is zero. -/
def ofLengths (maxLength : Nat) (lengths : List Nat) : PrefixCode :=
  let sizes := (List.range maxLength).map (· + 1)
  let ranked := (lengths.zipIdx).filter fun entry => entry.1 != 0
  ⟨sizes.map fun size => lengths.count size,
    (sizes.flatMap fun size => (ranked.filter fun entry => entry.1 == size).map Prod.snd).toArray⟩

/-- How many of the bit strings as long as the longest codeword begin with a codeword, each
counted once for every codeword it begins with. -/
def covered : (counts : List Nat) → Nat
  | [] => 0
  | count :: counts => count * Nat.pow 2 counts.length + covered counts

/-- Whether every bit string begins with exactly one codeword. A code of at most one symbol
may leave bit strings over. -/
def isSound (code : PrefixCode) : Bool :=
  covered code.counts == Nat.pow 2 code.counts.length ||
    (code.symbols.size ≤ 1 && covered code.counts ≤ Nat.pow 2 code.counts.length)

/-- Reads a codeword of which `value` has been read, when the codewords of the present
length start at `first` and their symbols at position `position`. -/
def readFrom (symbols : Array Nat) :
    (counts : List Nat) → (value first position : Nat) → BitSource → Except Halt (Nat × BitSource)
  | [], _, _, _, _ => .error .corrupt
  | count :: counts, value, first, position, source => do
    let (bit, source) ← source.bit
    let value := 2 * value + bit.toNat
    if value < first + count then
      match symbols[position + (value - first)]? with
      | some symbol => return (symbol, source)
      | none => throw .corrupt
    else readFrom symbols counts value (2 * (first + count)) (position + count) source

/-- The symbol whose codeword comes next. -/
def read (code : PrefixCode) (source : BitSource) : Except Halt (Nat × BitSource) :=
  readFrom code.symbols code.counts 0 0 0 source

end PrefixCode

end CompactHttp
