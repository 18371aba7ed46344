import CompactHttp.Crash
import CompactHttp.FormatError
import Mathlib.Algebra.GroupWithZero.Nat

/-! # Operations that stop a program

A program that reads a buffer by offsets takes bytes and pieces of it, subtracts lengths, shifts
words and keeps words as addresses. Each of these operations has cases in which a program must
not go on. A `Checked` reading crashes there (`Crash`); otherwise it has an outcome, which may well
be a format error.
-/

namespace CompactHttp

/-- A reading each of whose operations may crash. -/
abbrev Checked (α : Type) := ExceptT FormatError (Except Crash) α

namespace Checked

variable {α : Type}

def crash (cause : Crash) : Checked α := ExceptT.mk (.error cause)

/-- A reading that comes to its outcome without a crash. -/
def settled (outcome : Except FormatError α) : Checked α := ExceptT.mk (.ok outcome)

/-- The difference of two numbers of bytes. -/
def subtract (total part : Nat) : Checked Nat :=
  if part ≤ total then pure (total - part) else crash .underflow

/-- A word whose bits are moved up. -/
def shift (word : UInt64) (amount : Nat) : Checked UInt64 :=
  if amount < 64 then pure (word <<< UInt64.ofNat amount) else crash .wideShift

/-- A number of bytes as a word. -/
def toWord (size : Nat) : Checked UInt64 :=
  if size < 2 ^ 64 then pure (.ofNat size) else crash .truncation

/-- A reading that lacks bytes gives nothing; every other fault stays. -/
def unlessIncomplete (reading : Checked α) : Checked (Option α) :=
  ExceptT.mk do
    match ← reading.run with
    | .ok value => return .ok (some value)
    | .error fault => return if fault.isIncomplete then .ok none else .error fault

/-- A reading in two steps gives a result if both do. -/
theorem bind_eq_settled_ok_iff {β : Type} {reading : Checked α} {next : α → Checked β}
    {result : β} :
    reading >>= next = settled (.ok result) ↔
      ∃ value, reading = settled (.ok value) ∧ next value = settled (.ok result) := by
  rcases reading with cause | fault | value
  · exact ⟨nofun, fun ⟨_, read, _⟩ => nomatch read⟩
  · exact ⟨nofun, fun ⟨_, read, _⟩ => nomatch read⟩
  · exact ⟨fun read => ⟨value, rfl, read⟩, fun ⟨_, rfl, read⟩ => read⟩

end Checked

/-- The addresses of a machine: numbers of so many bits, which a word can hold. -/
structure AddressSpace where
  bits : Nat
  narrow : bits ≤ 64

namespace AddressSpace

variable (space : AddressSpace)

/-- How many addresses there are. -/
def size : Nat := 2 ^ space.bits

/-- An address so many bytes further. -/
def add (address count : Nat) : Checked Nat :=
  if address + count < space.size then pure (address + count) else .crash .overflow

/-- A word as an address. -/
def ofWord (word : UInt64) : Checked Nat :=
  if word.toNat < space.size then pure word.toNat else .crash .truncation

/-- A word as an address, or the last address if it is beyond it. -/
def clamp (number : Nat) : Nat := min number (space.size - 1)

/-- A fault as it is told with the addresses of this space. -/
def tell : FormatError → FormatError
  | .hostTooLong length limit => .hostTooLong (space.clamp length) limit
  | fault => fault

variable {space} in
/-- A sum that does not overflow is the sum, and an address. -/
theorem eq_add_of_add {address count sum : Nat}
    (added : space.add address count = .settled (.ok sum)) :
    sum = address + count ∧ sum < space.size := by
  unfold add at added
  split at added
  · next inside =>
    cases added
    exact ⟨rfl, inside⟩
  · cases added

theorem size_le : space.size ≤ 2 ^ 64 := Nat.pow_le_pow_right (by decide) space.narrow

end AddressSpace

end CompactHttp
