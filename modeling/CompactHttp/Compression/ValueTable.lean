import CompactHttp.Compression.Bits

/-! # Numbers as a symbol with additional bits

Packed formats write a number as the symbol of a range and its place in that range. A table
gives the least number of each range, in rising order, and how many bits the place takes.
-/

namespace CompactHttp

/-- The least number of each symbol's range, and the number of additional bits. -/
abbrev ValueTable := Array (Nat × Nat)

namespace ValueTable

/-- The number with a symbol, its additional bits taken from a source. -/
def read (table : ValueTable) (symbol : Nat) (source : BitSource) :
    Except Halt (Nat × BitSource) :=
  match table[symbol]? with
  | none => .error .corrupt
  | some (least, extra) => do
    let (more, source) ← source.number extra
    return (least + more, source)

/-- The symbol of the last range that does not start above a number, and the additional bits. -/
def split (table : ValueTable) (value : Nat) : Nat × List Bool :=
  let symbol := (table.toList.filter fun range => range.1 ≤ value).length - 1
  let (least, extra) := table[symbol]?.getD (0, 0)
  (symbol, numberBits extra (value - least))

end ValueTable

end CompactHttp
