/-! # Byte strings

Wire data is a list of bytes. A reader consumes a byte string from the front and
gives back what it left, so that readers compose without offsets.
-/

namespace CompactHttp

/-- A byte string. -/
abbrev Bytes := List UInt8

namespace Bytes

/-- A byte from a number, of which only the low eight bits are kept. -/
def byte (value : Nat) : UInt8 := UInt8.ofNat value

/-- Compares byte strings by their first difference; a proper beginning comes first. -/
def before : Bytes → Bytes → Bool
  | [], [] => false
  | [], _ :: _ => true
  | _ :: _, [] => false
  | first :: rest, other :: others =>
    if first = other then before rest others else first < other

end Bytes

end CompactHttp
