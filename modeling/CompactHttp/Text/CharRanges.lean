/-! # Sets of characters

A set of characters is a list of code point ranges, both ends included.
-/

namespace CompactHttp

/-- A set of characters, as ranges of code points. -/
abbrev CharRanges := List (Nat × Nat)

/-- Whether a character lies in one of the ranges. -/
def CharRanges.contains (ranges : CharRanges) (char : Char) : Bool :=
  ranges.any fun (first, last) => first ≤ char.toNat && char.toNat ≤ last

end CompactHttp
