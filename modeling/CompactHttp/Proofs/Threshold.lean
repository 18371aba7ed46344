import CompactHttp.Proofs.Unpacking

/-! # The limit on unpacked bytes is a threshold

A decoder is asked for one piece after the other, ends cleanly or fails, or goes on for ever. What
a reader with a ceiling gets of it depends only on the bytes that it gives out up to there
(`Decoder.upTo_of_gives`). So unpacking tells apart exactly three things: more bytes than the
limit, a fault within it, and a clean end within it (`Codec.decompress_threshold`). The largest
number of sixty-four bits is no such limit, since there is no ceiling above it: the program stops
then, whatever the data (`Codec.decompress_crashes`).
-/

namespace CompactHttp

/-- What comes of asking a decoder for more. A piece is not empty, as a reader takes an empty one
for the end. -/
inductive Delivery (State : Type) where
  | piece (bytes : Bytes) (next : State) (something : bytes ≠ [])
  | finished
  | failed (cause : Halt)

/-- A decoder that is asked for one piece after the other, perhaps without end. -/
abbrev Decoder (State : Type) := State → Delivery State

namespace Decoder

variable {State : Type} {decoder : Decoder State} {start state next later : State}
  {bytes output : Bytes} {cause : Halt} {encoding : Encoding} {limit : Nat}

/-- Reads what a decoder gives out until `ceiling` bytes have come or it ends. -/
def upTo (decoder : Decoder State) (ceiling : Nat) (state : State) : Except Halt Bytes :=
  if ceiling = 0 then .ok []
  else
    match decoder state with
    | .finished => .ok []
    | .failed cause => .error cause
    | .piece bytes next _ =>
      (decoder.upTo (ceiling - bytes.length) next).map (bytes.take ceiling ++ ·)
termination_by ceiling
decreasing_by
  have := List.length_pos_iff.mpr ‹bytes ≠ []›
  omega

/-- Unpacks what a decoder gives out to at most `limit` bytes. -/
def unpack (decoder : Decoder State) (encoding : Encoding) (limit : Nat) (start : State) :
    Except CompressionError Bytes :=
  Codec.readWithin encoding limit fun ceiling => decoder.upTo ceiling start

/-- What a decoder gives out between two states. -/
inductive Gives (decoder : Decoder State) : State → Bytes → State → Prop where
  | nothing (state : State) : Gives decoder state [] state
  | piece {state next later : State} {bytes others : Bytes} {something : bytes ≠ []}
    (here : decoder state = .piece bytes next something)
    (more : Gives decoder next others later) : Gives decoder state (bytes ++ others) later

/-- The decoder gives out more bytes than a limit, whatever comes then. -/
def Passes (decoder : Decoder State) (start : State) (limit : Nat) : Prop :=
  ∃ bytes later, decoder.Gives start bytes later ∧ limit < bytes.length

/-- The decoder gives out some bytes and ends cleanly. -/
def Finishes (decoder : Decoder State) (start : State) (bytes : Bytes) : Prop :=
  ∃ later, decoder.Gives start bytes later ∧ decoder later = .finished

/-- The decoder gives out some bytes and fails. -/
def Fails (decoder : Decoder State) (start : State) (bytes : Bytes) : Prop :=
  ∃ later cause, decoder.Gives start bytes later ∧ decoder later = .failed cause

theorem upTo_zero (decoder : Decoder State) (state : State) : decoder.upTo 0 state = .ok [] := by
  rw [upTo, if_pos rfl]

/-- A decoder that has finished gives nothing more. -/
theorem upTo_of_finished (ends : decoder state = .finished) (ceiling : Nat) :
    decoder.upTo ceiling state = .ok [] := by
  rw [upTo, ends, ite_self]

/-- A decoder that fails does so if anything more is asked for. -/
theorem upTo_of_failed (fails : decoder state = .failed cause) {ceiling : Nat}
    (some : ceiling ≠ 0) : decoder.upTo ceiling state = .error cause := by
  rw [upTo, if_neg some, fails]

/-- A piece is given before the rest, both as far as is asked for. -/
theorem upTo_of_piece {something : bytes ≠ []}
    (here : decoder state = .piece bytes next something) (ceiling : Nat) :
    decoder.upTo ceiling state =
      (decoder.upTo (ceiling - bytes.length) next).map (bytes.take ceiling ++ ·) := by
  by_cases nothing : ceiling = 0
  · subst nothing
    rw [Nat.zero_sub, upTo_zero, upTo_zero]
    rfl
  · rw [upTo, if_neg nothing, here]

/-- A reader gets what a decoder gives out up to the ceiling, and reads on behind it if there is
less. -/
theorem upTo_of_gives (gives : decoder.Gives state bytes later) (ceiling : Nat) :
    decoder.upTo ceiling state =
      if ceiling ≤ bytes.length then .ok (bytes.take ceiling)
      else (decoder.upTo (ceiling - bytes.length) later).map (bytes ++ ·) := by
  induction gives generalizing ceiling with
  | nothing state =>
    by_cases nothing : ceiling = 0
    · rw [nothing, upTo_zero]
      rfl
    · rw [if_neg (by simpa using nothing)]
      cases decoder.upTo ceiling state <;> rfl
  | @piece state next later bytes others something here more ih =>
    rw [upTo_of_piece here, ih, List.length_append, List.take_append]
    by_cases enough : ceiling ≤ bytes.length + others.length
    · rw [if_pos (by omega), if_pos enough]
      rfl
    · have whole : bytes.take ceiling = bytes := List.take_of_length_le (by omega)
      rw [if_neg (by omega), if_neg enough, whole, Nat.sub_sub]
      cases decoder.upTo (ceiling - (bytes.length + others.length)) later with
      | error cause => rfl
      | ok rest => simp [Except.map]

/-- A decoder passes a limit, or it comes to an end before. -/
theorem passes_or_ends (decoder : Decoder State) (start : State) (limit : Nat) :
    decoder.Passes start limit ∨
      ∃ bytes, bytes.length ≤ limit ∧ (decoder.Finishes start bytes ∨ decoder.Fails start bytes) := by
  -- On the limit: each piece leaves less of it.
  induction limit using Nat.strongRecOn generalizing start with
  | _ limit ih =>
    match here : decoder start with
    | .finished => exact .inr ⟨[], Nat.zero_le limit, .inl ⟨start, .nothing start, here⟩⟩
    | .failed cause =>
      exact .inr ⟨[], Nat.zero_le limit, .inr ⟨start, cause, .nothing start, here⟩⟩
    | .piece bytes next something =>
      have positive := List.length_pos_iff.mpr something
      by_cases within : bytes.length ≤ limit
      · obtain ⟨others, later, gives, beyond⟩ | ⟨others, short, ends⟩ :=
          ih (limit - bytes.length) (by omega) next
        · refine .inl ⟨bytes ++ others, later, .piece here gives, ?_⟩
          rw [List.length_append]
          omega
        · refine .inr ⟨bytes ++ others, ?_, ?_⟩
          · rw [List.length_append]
            omega
          · obtain ⟨later, gives, finishes⟩ | ⟨later, cause, gives, fails⟩ := ends
            · exact .inl ⟨later, .piece here gives, finishes⟩
            · exact .inr ⟨later, cause, .piece here gives, fails⟩
      · refine .inl ⟨bytes ++ [], next, .piece here (.nothing next), ?_⟩
        rw [List.append_nil]
        omega

section Counted

variable (counted : limit + 1 < Nat.pow 2 64)
include counted

/-- A decoder that passes the limit is too large. -/
theorem unpack_of_passes (passes : decoder.Passes start limit) :
    decoder.unpack encoding limit start = .error (.tooLarge limit) := by
  obtain ⟨bytes, later, gives, beyond⟩ := passes
  have size : (bytes.take (limit + 1)).length = limit + 1 := List.length_take_of_le beyond
  rw [unpack, Codec.readWithin_of_counted encoding counted, upTo_of_gives gives,
    if_pos (Nat.succ_le_of_lt beyond)]
  dsimp only
  rw [size, if_pos (Nat.lt_succ_self limit)]

/-- A decoder that ends cleanly within the limit gives all of its bytes. -/
theorem unpack_of_finishes (finishes : decoder.Finishes start output)
    (within : output.length ≤ limit) : decoder.unpack encoding limit start = .ok output := by
  obtain ⟨later, gives, ends⟩ := finishes
  rw [unpack, Codec.readWithin_of_counted encoding counted, upTo_of_gives gives,
    if_neg (by omega), upTo_of_finished ends]
  dsimp only [Except.map]
  rw [List.append_nil, if_neg (by omega)]

/-- A decoder that fails within the limit is broken. -/
theorem unpack_of_fails (fails : decoder.Fails start output) (within : output.length ≤ limit) :
    decoder.unpack encoding limit start = .error (.broken encoding) := by
  obtain ⟨later, cause, gives, ends⟩ := fails
  rw [unpack, Codec.readWithin_of_counted encoding counted, upTo_of_gives gives,
    if_neg (by omega), upTo_of_failed ends (by omega)]
  rfl

/-- Unpacking gives bytes only if they are all that the decoder gives out before a clean end. -/
theorem unpack_eq_ok_iff : decoder.unpack encoding limit start = .ok output ↔
    decoder.Finishes start output ∧ output.length ≤ limit := by
  refine ⟨fun unpacks => ?_, fun ⟨finishes, within⟩ => unpack_of_finishes counted finishes within⟩
  obtain passes | ⟨bytes, within, finishes | fails⟩ := decoder.passes_or_ends start limit
  · cases (unpack_of_passes counted passes).symm.trans unpacks
  · cases (unpack_of_finishes counted finishes within).symm.trans unpacks
    exact ⟨finishes, within⟩
  · cases (unpack_of_fails counted fails within).symm.trans unpacks

/-- A decoder is too large only if it passes the limit. -/
theorem unpack_eq_tooLarge_iff : decoder.unpack encoding limit start = .error (.tooLarge limit) ↔
    decoder.Passes start limit := by
  refine ⟨fun unpacks => ?_, unpack_of_passes counted⟩
  obtain passes | ⟨bytes, within, finishes | fails⟩ := decoder.passes_or_ends start limit
  · exact passes
  · cases (unpack_of_finishes counted finishes within).symm.trans unpacks
  · cases (unpack_of_fails counted fails within).symm.trans unpacks

/-- A decoder is broken only if it fails within the limit. -/
theorem unpack_eq_broken_iff : decoder.unpack encoding limit start = .error (.broken encoding) ↔
    ∃ bytes, decoder.Fails start bytes ∧ bytes.length ≤ limit := by
  refine ⟨fun unpacks => ?_, fun ⟨bytes, fails, within⟩ => unpack_of_fails counted fails within⟩
  obtain passes | ⟨bytes, within, finishes | fails⟩ := decoder.passes_or_ends start limit
  · cases (unpack_of_passes counted passes).symm.trans unpacks
  · cases (unpack_of_finishes counted finishes within).symm.trans unpacks
  · exact ⟨bytes, fails, within⟩

end Counted

end Decoder

namespace Production

/-- What comes of asking for more of a production. -/
def deliver : Decoder Production
  | emit bytes next =>
    if something : bytes ≠ [] then .piece bytes (next ()) something else (next ()).deliver
  | finished => .finished
  | failed cause => .failed cause

/-- What a production emits is given before the rest, both as far as is asked for. -/
theorem upTo_deliver_emit (bytes : Bytes) (next : Unit → Production) (ceiling : Nat) :
    Decoder.upTo deliver ceiling (emit bytes next) =
      (Decoder.upTo deliver (ceiling - bytes.length) (next ())).map (bytes.take ceiling ++ ·) := by
  by_cases something : bytes = []
  · subst something
    have same : deliver (emit [] next) = deliver (next ()) := by
      rw [deliver, dif_neg (not_not.mpr rfl)]
    rw [List.take_nil, List.length_nil, Nat.sub_zero, Decoder.upTo, same, ← Decoder.upTo]
    cases Decoder.upTo deliver ceiling (next ()) <;> rfl
  · exact Decoder.upTo_of_piece (by rw [deliver, dif_pos something]) ceiling

/-- A production is read as what a decoder delivers. -/
theorem upTo_deliver (ceiling : Nat) (production : Production) :
    Decoder.upTo deliver ceiling production = production.upTo ceiling := by
  induction production generalizing ceiling with
  | finished =>
    rw [Decoder.upTo_of_finished deliver.eq_2, upTo_eq, bytes, ending, List.take_nil, ite_self]
  | failed cause =>
    by_cases nothing : ceiling = 0
    · rw [nothing, Decoder.upTo_zero]
      rfl
    · rw [Decoder.upTo_of_failed (deliver.eq_3 cause) nothing, upTo_eq, bytes, ending,
        if_neg (by simpa using nothing)]
  | emit piece next ih =>
    rw [upTo_deliver_emit, ih, upTo_eq, upTo_eq, bytes, ending, List.length_append,
      List.take_append]
    by_cases enough : ceiling ≤ piece.length + (next ()).bytes.length
    · rw [if_pos (by omega), if_pos enough]
      rfl
    · have whole : piece.take ceiling = piece := List.take_of_length_le (by omega)
      rw [if_neg (by omega), if_neg enough, whole]
      cases (next ()).ending <;> rfl

end Production

namespace Codec

/-- The programs that unpack are decoders like others. -/
theorem decompress_eq_unpack {data : Bytes} (codec : Codec) (encoding : Encoding) (limit : Nat)
    (something : data ≠ []) : codec.decompress encoding limit data =
      Decoder.unpack Production.deliver encoding limit (codec.decode encoding data) := by
  rw [decompress_of_something codec encoding limit something, Decoder.unpack]
  exact congrArg (readWithin encoding limit)
    (funext fun ceiling => (Production.upTo_deliver ceiling _).symm)

/-- There is a ceiling one above the limit, unless the limit is the largest number of sixty-four
bits. -/
theorem ceiling_eq_ok_iff {limit : Nat} (small : limit < Nat.pow 2 64) :
    ceiling limit = .ok (limit + 1) ↔ limit + 1 ≠ Nat.pow 2 64 := by
  unfold ceiling
  constructor
  · intro counts last
    rw [if_neg (Nat.not_lt.mpr (Nat.le_of_eq last.symm))] at counts
    cases counts
  · exact fun apart => if_pos (Nat.lt_of_le_of_ne small apart)

/-- Data are unpacked as any decoder is that gives out one piece after the other, perhaps without
end. Under every limit but the largest number of sixty-four bits the limit is an exact threshold:
a decoder that passes it is too large, whatever would come then; one that fails before is broken;
and one that ends cleanly before gives all of its bytes; one of these is the case. So what can be
unpacked under one limit can be under every other that it fits into, and is too large for the
rest. Under the largest limit the program stops, whatever the decoder. -/
theorem decompress_threshold {State : Type} (decoder : Decoder State) (start : State)
    (codec : Codec) (encoding : Encoding) (limit : Nat) :
    let unpack := fun limit => decoder.unpack encoding limit start
    (limit < Nat.pow 2 64 → (ceiling limit = .ok (limit + 1) ↔ limit + 1 ≠ Nat.pow 2 64)) ∧
    (∀ data, data ≠ [] → codec.decompress encoding limit data =
      Decoder.unpack Production.deliver encoding limit (codec.decode encoding data)) ∧
    (limit + 1 < Nat.pow 2 64 →
      (unpack limit = .error (.tooLarge limit) ↔ decoder.Passes start limit) ∧
      (unpack limit = .error (.broken encoding) ↔
        ∃ bytes, decoder.Fails start bytes ∧ bytes.length ≤ limit) ∧
      (∀ output, unpack limit = .ok output ↔
        decoder.Finishes start output ∧ output.length ≤ limit) ∧
      (decoder.Passes start limit ∨ ∃ bytes, bytes.length ≤ limit ∧
        (decoder.Finishes start bytes ∨ decoder.Fails start bytes)) ∧
      ∀ output, unpack limit = .ok output → ∀ other, other + 1 < Nat.pow 2 64 →
        unpack other =
          if output.length ≤ other then .ok output else .error (.tooLarge other)) ∧
    (limit + 1 = Nat.pow 2 64 → unpack limit = .error (.crashed .overflow)) := by
  intro unpack
  refine ⟨ceiling_eq_ok_iff, fun data => decompress_eq_unpack codec encoding limit,
    fun counted => ?_, fun last => readWithin_of_uncounted encoding
      (Nat.not_lt.mpr (Nat.le_of_eq last.symm)) _⟩
  refine ⟨Decoder.unpack_eq_tooLarge_iff counted, Decoder.unpack_eq_broken_iff counted,
    fun output => Decoder.unpack_eq_ok_iff counted, decoder.passes_or_ends start limit, ?_⟩
  intro output unpacks other countedToo
  obtain ⟨finishes, -⟩ := (Decoder.unpack_eq_ok_iff counted).mp unpacks
  by_cases fits : output.length ≤ other
  · rw [if_pos fits]
    exact Decoder.unpack_of_finishes countedToo finishes fits
  · rw [if_neg fits]
    obtain ⟨later, gives, -⟩ := finishes
    exact Decoder.unpack_of_passes countedToo ⟨output, later, gives, Nat.lt_of_not_le fits⟩

/-- A decoder that gives out zeros without end. -/
def zeros : Decoder Unit := fun _ => .piece [0, 0] () (List.cons_ne_nil _ _)

/-- A packed body of one byte. -/
def oneByte : Bytes := [0x28, 0xB5, 0x2F, 0xFD, 0x20, 1, 9, 0, 0, 97]

/-- One byte fits a limit of one and no limit of nothing, the greatest limit crashes, and a stream
of zeros never ends but is cut off. -/
theorem decompress_threshold_sample :
    oneByte ≠ [] ∧ standard.decompress .zstd 1 oneByte = .ok [97] ∧
      standard.decompress .zstd 0 oneByte = .error (.tooLarge 0) ∧
      standard.decompress .zstd 5000000000 oneByte = .ok [97] ∧
      standard.decompress .zstd 18446744073709551615 oneByte = .error (.crashed .overflow) ∧
      zeros.unpack .gzip 3 () = .error (.tooLarge 3) := by
  have something : oneByte ≠ [] := List.cons_ne_nil _ _
  have unpacks : standard.decompress .zstd 1 oneByte = .ok [97] := by decide +kernel
  have threshold := decompress_threshold Production.deliver (standard.decode .zstd oneByte)
    standard .zstd
  have onward := fun limit => (threshold limit).2.1 oneByte something
  obtain ⟨-, -, below, -⟩ := threshold 1
  obtain ⟨-, -, -, -, others⟩ := below (by decide)
  have fits := others [97] ((onward 1).symm.trans unpacks)
  have last := (threshold 18446744073709551615).2.2.2 (by decide)
  refine ⟨something, unpacks, (onward 0).trans (fits 0 (by decide)),
    (onward 5000000000).trans (fits 5000000000 (by decide)), (onward _).trans last, ?_⟩
  have passes : zeros.Passes () 3 :=
    ⟨_, (), .piece rfl (.piece rfl (.nothing ())), by decide⟩
  exact ((decompress_threshold zeros () standard .gzip 3).2.2.1 (by decide)).1.mpr passes

/-- A body that ends cleanly after one byte stops the program under the largest limit. -/
theorem decompress_crashes :
    (standard.decode .zstd oneByte).bytes = [97] ∧
      (standard.decode .zstd oneByte).ending = none ∧
      ceiling 18446744073709551615 = .error .overflow ∧
      standard.decompress .zstd 18446744073709551615 oneByte = .error (.crashed .overflow) := by
  decide +kernel

end Codec

end CompactHttp
