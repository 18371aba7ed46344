/-! # What stops a program

Some operations have cases in which a program must not go on: it stops there, and nothing comes of
what it was doing.
-/

namespace CompactHttp

/-- What stops a program. -/
inductive Crash where
  /-- Bytes outside a buffer. -/
  | outOfRange
  /-- More is subtracted than there is. -/
  | underflow
  /-- A sum is too large for the place it is put. -/
  | overflow
  /-- A word is shifted by as many bits as it has, or more. -/
  | wideShift
  /-- A number loses bits in the place it is put. -/
  | truncation
deriving DecidableEq, Repr

end CompactHttp
