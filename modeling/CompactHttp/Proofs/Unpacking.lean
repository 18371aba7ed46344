import CompactHttp.Client.Response
import CompactHttp.Proofs.HeaderMaps

/-! # Unpacking under a limit

Reading a decoder up to a ceiling gives the bytes up to there if it has so many, and all of them
or its fault if it has fewer (`Production.upTo_eq`). So a body that becomes more than the limit
allows is too large whatever comes later, and any other one has to end cleanly
(`Codec.decompress_eq`); only where there is no number of bytes beyond the limit the program stops
(`Codec.decompress_of_uncounted`). What a client makes of a response is given case by case
(`Client.unpackWith_eq_ok_iff`).
-/

namespace CompactHttp

namespace Production

/-- Reading a production up to a ceiling gives its bytes up to there; its failure is seen only if
the ceiling is not reached. -/
theorem upToFrom_eq (read : List Bytes) (ceiling : Nat) (production : Production) :
    upToFrom read ceiling production =
      if ceiling ≤ production.bytes.length then
        .ok (read.reverse.flatten ++ production.bytes.take ceiling)
      else
        match production.ending with
        | none => .ok (read.reverse.flatten ++ production.bytes)
        | some cause => .error cause := by
  induction production generalizing read ceiling with
  | finished =>
    rw [upToFrom, bytes, ending]
    split <;> simp
  | failed cause =>
    rw [upToFrom, bytes, ending]
    -- A reader that has enough does not come to the fault.
    by_cases nothing : ceiling = 0
    · simp [nothing]
    · rw [if_neg nothing, if_neg (by simpa using nothing)]
  | emit piece next ih =>
    rw [upToFrom, bytes, ending, List.length_append]
    by_cases enough : ceiling ≤ piece.length
    · rw [if_pos enough, if_pos (by omega), List.take_append_of_le_length enough]
      simp
    · rw [if_neg enough, ih]
      have later : ceiling - piece.length ≤ (next ()).bytes.length ↔
          ceiling ≤ piece.length + (next ()).bytes.length := by omega
      have whole : piece.take ceiling = piece := List.take_of_length_le (by omega)
      simp only [later, List.take_append, whole, List.reverse_cons, List.flatten_append,
        List.flatten_singleton, List.append_assoc]

/-- A decoder is read until there are as many bytes as are asked for; with fewer it has to end
cleanly. -/
theorem upTo_eq (ceiling : Nat) (production : Production) :
    production.upTo ceiling =
      if ceiling ≤ production.bytes.length then .ok (production.bytes.take ceiling)
      else
        match production.ending with
        | none => .ok production.bytes
        | some cause => .error cause :=
  upToFrom_eq [] ceiling production

end Production

namespace Codec

variable {codec : Codec} {encoding : Encoding} {limit : Nat} {data body : Bytes}

/-- A body that is not empty is read up to the ceiling. -/
theorem decompress_of_something (codec : Codec) (encoding : Encoding) (limit : Nat)
    (something : data ≠ []) : codec.decompress encoding limit data =
      readWithin encoding limit (codec.decode encoding data).upTo := by
  rw [decompress, List.isEmpty_eq_false_iff.mpr something, if_neg Bool.false_ne_true]

section Reader

variable {read : Nat → Except Halt Bytes}

/-- Where there is one byte more than the limit, a reader is asked for so many. -/
theorem readWithin_of_counted (encoding : Encoding) (counted : limit + 1 < Nat.pow 2 64)
    (read : Nat → Except Halt Bytes) : readWithin encoding limit read =
      match read (limit + 1) with
      | .error _ => .error (.broken encoding)
      | .ok bytes => if limit < bytes.length then .error (.tooLarge limit) else .ok bytes := by
  have counts : ceiling limit = .ok (limit + 1) := if_pos counted
  unfold readWithin
  split
  · next cause stops => cases counts.symm.trans stops
  · next found goes =>
    cases counts.symm.trans goes
    rfl

/-- Where there is not, the program stops before it reads anything. -/
theorem readWithin_of_uncounted (encoding : Encoding) (uncounted : ¬limit + 1 < Nat.pow 2 64)
    (read : Nat → Except Halt Bytes) :
    readWithin encoding limit read = .error (.crashed .overflow) := by
  rw [readWithin, ceiling, if_neg uncounted]

/-- Whatever a reader does, nothing that is taken from it passes the limit. -/
theorem length_le_of_readWithin (taken : readWithin encoding limit read = .ok body) :
    body.length ≤ limit := by
  by_cases counted : limit + 1 < Nat.pow 2 64
  · rw [readWithin_of_counted encoding counted] at taken
    split at taken
    · cases taken
    · split at taken
      · cases taken
      · next small =>
        cases taken
        exact Nat.le_of_not_lt small
  · rw [readWithin_of_uncounted encoding counted] at taken
    cases taken

end Reader

/-- Whatever the programs do, nothing that is unpacked passes the limit. -/
theorem length_le_of_decompress (unpacked : codec.decompress encoding limit data = .ok body) :
    body.length ≤ limit := by
  by_cases something : data = []
  · subst something
    cases unpacked
    exact Nat.zero_le limit
  · rw [decompress_of_something codec encoding limit something] at unpacked
    exact length_le_of_readWithin unpacked

/-- The limit is a threshold: what becomes larger is too large, and what does not has to end
cleanly. -/
theorem decompress_eq (encoding : Encoding) (something : data ≠ [])
    (counted : limit + 1 < Nat.pow 2 64) :
    codec.decompress encoding limit data =
      if limit < (codec.decode encoding data).bytes.length then .error (.tooLarge limit)
      else
        match (codec.decode encoding data).ending with
        | none => .ok (codec.decode encoding data).bytes
        | some _ => .error (.broken encoding) := by
  rw [decompress_of_something codec encoding limit something,
    readWithin_of_counted encoding counted, Production.upTo_eq]
  by_cases large : limit < (codec.decode encoding data).bytes.length
  · rw [if_pos large, if_pos (Nat.succ_le_of_lt large)]
    simp [Nat.succ_le_of_lt large]
  · rw [if_neg large, if_neg (by omega)]
    cases (codec.decode encoding data).ending with
    | none => simp [large]
    | some cause => rfl

/-- Without a limit that can be counted past no body can be unpacked, unless it is empty. -/
theorem decompress_of_uncounted (codec : Codec) (encoding : Encoding) (something : data ≠ [])
    (uncounted : ¬limit + 1 < Nat.pow 2 64) :
    codec.decompress encoding limit data = .error (.crashed .overflow) := by
  rw [decompress_of_something codec encoding limit something,
    readWithin_of_uncounted encoding uncounted]

end Codec

namespace Encoding

/-- Every encoding is read from its own token. -/
@[simp]
theorem parse_token (encoding : Encoding) : parse encoding.token = .ok encoding := by
  cases encoding <;> decide +kernel

end Encoding

namespace Client

variable {codec : Codec} {limit : Nat} {response : Response}

/-- A response with an unpacked body in place of its own. -/
def unpacked (response : Response) (body : Bytes) : Response :=
  { response with
    headers := (response.headers.erase "content-encoding").insert "content-length"
      (toString body.length)
    body := body }

/-- A response without an encoding is left as it is. -/
theorem unpackWith_of_plain (plain : response.headers.get? "content-encoding" = none) :
    unpackWith codec limit response = .ok response := by
  rw [unpackWith, plain]

theorem unpackWith_of_empty (empty : response.headers.get? "content-encoding" = some "") :
    unpackWith codec limit response = .ok response := by
  rw [unpackWith, empty]
  rfl

/-- A response in a known encoding is unpacked by its codec. -/
theorem unpackWith_of_word {word : String} {encoding : Encoding}
    (packed : response.headers.get? "content-encoding" = some word)
    (names : Encoding.parse word = .ok encoding) :
    unpackWith codec limit response =
      match codec.decompress encoding limit response.body with
      | .error fault => .error (.undecodable fault)
      | .ok body => .ok (unpacked response body) := by
  have present : word.isEmpty = false := by
    by_contra empty
    rw [Bool.not_eq_false, String.isEmpty_iff] at empty
    subst empty
    revert names
    cases encoding <;> decide +kernel
  rw [unpackWith, packed]
  dsimp only
  rw [present, names]
  rfl

/-- A client gets a response as it is if it names no encoding, and else with its body
unpacked. -/
theorem unpackWith_eq_ok_iff {received : Response} :
    unpackWith codec limit response = .ok received ↔
      (response.headers.get? "content-encoding").getD "" = "" ∧ received = response ∨
      ∃ word encoding body, response.headers.get? "content-encoding" = some word ∧ word ≠ "" ∧
        Encoding.parse word = .ok encoding ∧
        codec.decompress encoding limit response.body = .ok body ∧
        received = unpacked response body := by
  match named : response.headers.get? "content-encoding" with
  | none =>
    rw [unpackWith_of_plain named]
    simp [eq_comm]
  | some word =>
    by_cases empty : word = ""
    · subst empty
      rw [unpackWith_of_empty named]
      simp [eq_comm]
    · cases names : Encoding.parse word with
      | error fault => simp [unpackWith, named, empty, names]
      | ok encoding =>
        rw [unpackWith_of_word named names]
        cases unpacks : codec.decompress encoding limit response.body with
        | error fault => simp [empty, names, unpacks]
        | ok body => simp [empty, names, unpacks, eq_comm]

end Client

end CompactHttp
