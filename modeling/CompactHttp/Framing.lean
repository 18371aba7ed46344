import CompactHttp.Message

/-! # Where a message ends

Messages arrive in fragments. The length of a message is known as soon as all of it is
there, from its length prefixes alone (`Request.length?`, `Response.length?`); until
then it is unknown, unless what is there can begin no message. A `Reassembly` collects
fragments up to a limit and gives out whole messages.
-/

namespace CompactHttp

namespace Framing

/-- The bytes after a length-prefixed part; nothing when the part is not all there. -/
def skipPart (data : Bytes) : Except FormatError (Option Bytes) :=
  match Varint.decode data with
  | .error .incomplete => .ok none
  | .error .overflow => .error .lengthOverflow
  | .ok (length, rest) => .ok (if rest.length < length then none else some (rest.drop length))

/-- A part takes at least one byte. -/
theorem skipPart_shortens {data rest : Bytes} (skipped : skipPart data = .ok (some rest)) :
    rest.length < data.length := by
  unfold skipPart at skipped
  split at skipped <;> simp only [reduceCtorEq, Except.ok.injEq, Option.ite_none_left_eq_some,
    Option.some.injEq] at skipped
  next length after read =>
    obtain ⟨_, rfl⟩ := skipped
    have := Varint.decode_shortens read
    simp only [List.length_drop]
    omega

/-- The bytes after several length-prefixed parts; nothing when they are not all there. -/
def skipParts : (count : Nat) → Bytes → Except FormatError (Option Bytes)
  | 0, data => .ok (some data)
  | count + 1, data =>
    match skipPart data with
    | .error fault => .error fault
    | .ok none => .ok none
    | .ok (some rest) => skipParts count rest

/-- Skipping parts adds no bytes. -/
theorem skipParts_shortens {count : Nat} {data rest : Bytes}
    (skipped : skipParts count data = .ok (some rest)) : rest.length ≤ data.length := by
  induction count generalizing data with
  | zero =>
    simp only [skipParts, Except.ok.injEq, Option.some.injEq] at skipped
    exact Nat.le_of_eq (congrArg List.length skipped.symm)
  | succ count ih =>
    unfold skipParts at skipped
    split at skipped <;> try simp only [reduceCtorEq, Except.ok.injEq] at skipped
    next after first =>
      exact Nat.le_trans (ih skipped) (Nat.le_of_lt (skipPart_shortens first))

/-- Whether the length that announces a host, if it is there, is one a host can have. -/
def checkHost (data : Bytes) : Except FormatError Unit :=
  match Varint.decode data with
  | .error .incomplete => .ok ()
  | .error .overflow => .error .lengthOverflow
  | .ok (length, _) =>
    if length = 0 then .error .emptyHost
    else if Request.maxHostSize < length then .error (.hostTooLong length Request.maxHostSize)
    else .ok ()

end Framing

open Framing

/-- How many bytes the request at the front of a byte string takes, once it is all there. -/
def Request.length? (data : Bytes) : Except FormatError (Option Nat) :=
  match data with
  | [] => .ok none
  | first :: parts =>
    if 6 < Request.methodBits first then .error (.unknownMethod (Request.methodBits first))
    else
      match checkHost parts with
      | .error fault => .error fault
      | .ok () => (skipParts 4 parts).map fun left => left.map fun rest => data.length - rest.length

/-- How many bytes the response at the front of a byte string takes, once it is all there. -/
def Response.length? (data : Bytes) : Except FormatError (Option Nat) :=
  match data with
  | [] => .ok none
  | _ :: parts => (skipParts 2 parts).map fun left => left.map fun rest => data.length - rest.length

/-- What is left of a message behind its first byte is shorter than the message. -/
theorem Framing.length_of_left {first : UInt8} {parts : Bytes} {count length : Nat}
    (known : (skipParts count parts).map (fun left => left.map fun rest =>
      (first :: parts).length - rest.length) = .ok (some length)) :
    0 < length ∧ length ≤ (first :: parts).length := by
  match skipped : skipParts count parts with
  | .error _ => simp [skipped, Except.map] at known
  | .ok none => simp [skipped, Except.map] at known
  | .ok (some rest) =>
    have := skipParts_shortens skipped
    simp only [skipped, Except.map, Option.map_some, Except.ok.injEq, Option.some.injEq] at known
    simp only [List.length_cons] at known ⊢
    omega

/-- The two kinds of message. -/
inductive MessageKind where
  | request
  | response
deriving DecidableEq, Repr

namespace MessageKind

/-- How many bytes the message at the front of a byte string takes, once it is all there. -/
def length? : MessageKind → Bytes → Except FormatError (Option Nat)
  | request => Request.length?
  | response => Response.length?

/-- A message has at least one byte, and no more than are there. -/
theorem length?_bounds {kind : MessageKind} {data : Bytes} {length : Nat}
    (known : kind.length? data = .ok (some length)) : 0 < length ∧ length ≤ data.length := by
  match kind, data with
  | request, [] | response, [] => simp [length?, Request.length?, Response.length?] at known
  | request, first :: parts =>
    simp only [length?, Request.length?] at known
    split at known
    · simp at known
    · split at known
      · simp at known
      · exact length_of_left known
  | response, first :: parts => exact length_of_left known

/-- Whether a whole message stands at the front of a byte string. -/
def isComplete (kind : MessageKind) (data : Bytes) : Except FormatError Bool :=
  (kind.length? data).map Option.isSome

/-- The table that abbreviates the headers of this kind of message. -/
def headerTable : MessageKind → HeaderTable
  | request => .request
  | response => .response

end MessageKind

/-- Why no message can be had from the fragments. -/
inductive FramingError where
  /-- More bytes came than may be held at once. -/
  | tooLarge (limit : Nat)
  /-- The bytes can begin no message. -/
  | malformed (fault : FormatError)
deriving DecidableEq, Repr

/-- What an error says. -/
def FramingError.message : FramingError → String
  | tooLarge limit => "message size exceeds limit of " ++ toString limit ++ " bytes"
  | malformed fault => "malformed message: " ++ fault.message

/-- The bytes that have arrived and belong to no message yet, for messages of one kind and
with a limit on their number. -/
structure Reassembly where
  kind : MessageKind
  limit : Nat
  held : Bytes
deriving DecidableEq, Repr

namespace Reassembly

/-- Nothing has arrived. -/
def start (kind : MessageKind) (limit : Nat) : Reassembly := ⟨kind, limit, []⟩

/-- Nothing is held any more. -/
def clear (buffer : Reassembly) : Reassembly := { buffer with held := [] }

/-- Holds a fragment too. Everything is dropped if that would pass the limit. -/
def push (buffer : Reassembly) (fragment : Bytes) : Except FramingError Unit × Reassembly :=
  if buffer.limit < buffer.held.length + fragment.length then
    (.error (.tooLarge buffer.limit), buffer.clear)
  else (.ok (), { buffer with held := buffer.held ++ fragment })

/-- Splits off the first message if it is all there. Everything is dropped if the bytes can
begin no message. -/
def next (buffer : Reassembly) : Except FramingError (Option Bytes) × Reassembly :=
  match buffer.kind.length? buffer.held with
  | .error fault => (.error (.malformed fault), buffer.clear)
  | .ok none => (.ok none, buffer)
  | .ok (some length) =>
    (.ok (some (buffer.held.take length)), { buffer with held := buffer.held.drop length })

/-- Splitting off a message leaves less. -/
theorem next_shortens {buffer after : Reassembly} {message : Bytes}
    (taken : buffer.next = (.ok (some message), after)) :
    after.held.length < buffer.held.length := by
  unfold next at taken
  split at taken <;> simp only [Prod.mk.injEq, reduceCtorEq, Except.ok.injEq, Option.some.injEq,
    false_and] at taken
  next length known =>
    obtain ⟨_, rfl⟩ := taken
    have := MessageKind.length?_bounds known
    simp only [List.length_drop]
    omega

/-- All messages that are there in full, and why the bytes after them can begin no message,
if they cannot. -/
def drain (buffer : Reassembly) : (List Bytes × Option FramingError) × Reassembly :=
  match taken : buffer.next with
  | (.ok (some message), after) =>
    have := next_shortens taken
    let ((messages, fault), left) := after.drain
    ((message :: messages, fault), left)
  | (.ok none, after) => (([], none), after)
  | (.error fault, after) => (([], some fault), after)
termination_by buffer.held.length

end Reassembly

end CompactHttp
