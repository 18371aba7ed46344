import CompactHttp.Base64
import CompactHttp.Proofs.Outcome
import CompactHttp.Proofs.Varint

/-! # Base64 has one written form

A text is read as some bytes exactly if it is their written form (`Base64.decode_eq_ok_iff`): the
fillers, and the bits of the last character that belong to no byte, leave nothing to choose. All
groups but the last are read as whole ones, so a text is taken apart into whole groups and one
that may be filled up, and both are written back as they were.
-/

namespace CompactHttp

namespace Base64

variable {byte : UInt8} {value : Nat} {text front last bytes : Bytes}

/-! ## Characters -/

/-- Whether a byte is a visible character of ASCII other than the semicolon. -/
def IsSolid (byte : UInt8) : Prop := 32 < byte.toNat ∧ byte.toNat < 127 ∧ byte.toNat ≠ 59

instance (byte : UInt8) : Decidable (IsSolid byte) := inferInstanceAs (Decidable (_ ∧ _))

/-- What there is to know of the alphabet: its characters are told apart, none of them fills up,
and all can be seen. -/
theorem symbol_spec : ∀ value < 64, value? (symbol value) = some value ∧
    symbol value ≠ padding ∧ IsSolid (symbol value) := by
  decide +kernel

/-- Only the low six bits of a value choose its symbol. -/
theorem symbol_mod (value : Nat) : symbol (value % 64) = symbol value := by
  rw [symbol, symbol, Nat.mod_mod]

/-- A character has the value whose character it is. -/
theorem value?_eq_some_iff : value? byte = some value ↔ value < 64 ∧ symbol value = byte := by
  constructor
  · intro found
    obtain ⟨inside, here, -⟩ := List.idxOf?_eq_some_iff.mp found
    have small : value < 64 := inside
    refine ⟨small, ?_⟩
    rw [symbol, Nat.mod_eq_of_lt small, List.getElem?_eq_getElem inside, Option.getD_some, here]
  · rintro ⟨small, rfl⟩
    exact (symbol_spec value small).1

/-- A symbol is read as the six bits it was chosen by. -/
theorem value?_symbol (value : Nat) : value? (symbol value) = some (value % 64) := by
  rw [← symbol_mod]
  exact (symbol_spec _ (Nat.mod_lt _ (by decide))).1

/-- No value has the filler as its symbol. -/
theorem symbol_ne_padding (value : Nat) : symbol value ≠ padding := by
  rw [← symbol_mod]
  exact (symbol_spec _ (Nat.mod_lt _ (by decide))).2.1

/-- A symbol is visible in print, and is no semicolon. -/
theorem isSolid_symbol (value : Nat) : IsSolid (symbol value) := by
  rw [← symbol_mod]
  exact (symbol_spec _ (Nat.mod_lt _ (by decide))).2.2

theorem isSolid_padding : IsSolid padding := by decide

/-! ## Written forms -/

/-- The written form has four characters for every three bytes that are begun. -/
theorem length_encode (bytes : Bytes) : (encode bytes).length = (bytes.length + 2) / 3 * 4 := by
  fun_induction encode bytes with
  | case1 => rfl
  | case2 | case3 => simp only [List.length_cons, List.length_nil]
  | case4 a b c rest ih =>
    simp only [List.length_cons, ih]
    omega

/-- What is written in base64 has nothing but such bytes. -/
theorem isSolid_of_mem_encode (member : byte ∈ encode bytes) : IsSolid byte := by
  fun_induction encode bytes with
  | case1 => cases member
  | case2 =>
    simp only [List.mem_cons, List.not_mem_nil, or_false] at member
    obtain rfl | rfl | rfl | rfl := member
    · exact isSolid_symbol _
    · exact isSolid_symbol _
    · exact isSolid_padding
    · exact isSolid_padding
  | case3 =>
    simp only [List.mem_cons, List.not_mem_nil, or_false] at member
    obtain rfl | rfl | rfl | rfl := member
    · exact isSolid_symbol _
    · exact isSolid_symbol _
    · exact isSolid_symbol _
    · exact isSolid_padding
  | case4 a b c rest ih =>
    simp only [List.mem_cons] at member
    obtain rfl | rfl | rfl | rfl | later := member
    · exact isSolid_symbol _
    · exact isSolid_symbol _
    · exact isSolid_symbol _
    · exact isSolid_symbol _
    · exact ih later

/-! ## Whole groups -/

/-- Characters are read as values exactly if they are the characters of these. -/
theorem values_eq_ok_iff {position : Nat} {read : List Nat} : values position text = .ok read ↔
    text = read.map symbol ∧ ∀ value ∈ read, value < 64 := by
  induction text generalizing position read with
  | nil =>
    rw [values]
    constructor
    · intro done
      cases done
      exact ⟨rfl, nofun⟩
    · rintro ⟨same, -⟩
      rw [List.map_eq_nil_iff.mp same.symm]
  | cons byte rest ih =>
    rw [values]
    cases found : value? byte with
    | none =>
      refine ⟨nofun, ?_⟩
      rintro ⟨same, small⟩
      cases read with
      | nil => cases same
      | cons value others =>
        obtain ⟨rfl, -⟩ := List.cons.inj same
        rw [value?_symbol] at found
        cases found
    | some value =>
      obtain ⟨small, rfl⟩ := value?_eq_some_iff.mp found
      dsimp only
      rw [map_eq_ok_iff]
      constructor
      · rintro ⟨others, later, rfl⟩
        obtain ⟨rfl, allSmall⟩ := ih.mp later
        exact ⟨rfl, List.forall_mem_cons.mpr ⟨small, allSmall⟩⟩
      · rintro ⟨same, allSmall⟩
        cases read with
        | nil => cases same
        | cons other others =>
          rw [List.forall_mem_cons] at allSmall
          obtain ⟨head, rfl⟩ := List.cons.inj same
          have equal : value = other := by
            have lookup := (symbol_spec other allSmall.1).1
            rw [← head, (symbol_spec value small).1] at lookup
            exact Option.some.inj lookup
          subst equal
          exact ⟨others, ih.mpr ⟨rfl, allSmall.2⟩, rfl⟩

/-- Three bytes are written as four symbols, in front of what comes after them. -/
theorem encode_group {a b c d : Nat} (small : a < 64 ∧ b < 64 ∧ c < 64 ∧ d < 64) (rest : Bytes) :
    encode (Bytes.byte (a * 4 + b / 16) :: Bytes.byte (b % 16 * 16 + c / 4) ::
        Bytes.byte (c % 4 * 64 + d) :: rest) =
      symbol a :: symbol b :: symbol c :: symbol d :: encode rest := by
  have first : (Bytes.byte (a * 4 + b / 16)).toNat = a * 4 + b / 16 :=
    Varint.toNat_byte (by omega)
  have second : (Bytes.byte (b % 16 * 16 + c / 4)).toNat = b % 16 * 16 + c / 4 :=
    Varint.toNat_byte (by omega)
  have third : (Bytes.byte (c % 4 * 64 + d)).toNat = c % 4 * 64 + d :=
    Varint.toNat_byte (by omega)
  have fourth : symbol (c % 4 * 64 + d) = symbol d := by
    rw [← symbol_mod, show (c % 4 * 64 + d) % 64 = d by omega]
  rw [encode, first, second, third, fourth, show (a * 4 + b / 16) / 4 = a by omega,
    show (a * 4 + b / 16) % 4 * 16 + (b % 16 * 16 + c / 4) / 16 = b by omega,
    show (b % 16 * 16 + c / 4) % 16 * 4 + (c % 4 * 64 + d) / 64 = c by omega]

/-- Values that make whole groups are the bytes that are written with their characters. -/
theorem encode_joinGroups (read : List Nat) (whole : read.length % 4 = 0)
    (small : ∀ value ∈ read, value < 64) (bytes : Bytes) :
    encode (joinGroups read ++ bytes) = read.map symbol ++ encode bytes := by
  match read with
  | [] => rfl
  | [_] | [_, _] | [_, _, _] => simp at whole
  | a :: b :: c :: d :: rest =>
    simp only [List.forall_mem_cons] at small
    obtain ⟨aSmall, bSmall, cSmall, dSmall, others⟩ := small
    have onward := encode_joinGroups rest (by simp only [List.length_cons] at whole; omega) others bytes
    rw [joinGroups, List.cons_append, List.cons_append, List.cons_append,
      encode_group ⟨aSmall, bSmall, cSmall, dSmall⟩, onward]
    rfl

/-- Bytes that are written in whole groups are those that the values of the characters make. -/
theorem exists_values (front bytes : Bytes) (whole : front.length % 3 = 0) :
    ∃ read, encode (front ++ bytes) = read.map symbol ++ encode bytes ∧
      (∀ value ∈ read, value < 64) ∧ joinGroups read = front ∧
      4 * front.length = 3 * read.length := by
  match front with
  | [] => exact ⟨[], rfl, nofun, rfl, rfl⟩
  | [_] | [_, _] => simp at whole
  | a :: b :: c :: rest =>
    obtain ⟨read, written, small, joined, length⟩ :=
      exists_values rest bytes (by simp only [List.length_cons] at whole; omega)
    have aSmall := a.toNat_lt
    have bSmall := b.toNat_lt
    have cSmall := c.toNat_lt
    refine ⟨a.toNat / 4 :: (a.toNat % 4 * 16 + b.toNat / 16) ::
      (b.toNat % 16 * 4 + c.toNat / 64) :: c.toNat % 64 :: read, ?_, ?_, ?_, ?_⟩
    · simp only [List.cons_append, encode, written, List.map_cons, symbol_mod]
    · simp only [List.forall_mem_cons]
      exact ⟨by omega, by omega, by omega, by omega, small⟩
    · have first : a.toNat / 4 * 4 + (a.toNat % 4 * 16 + b.toNat / 16) / 16 = a.toNat := by omega
      have second : (a.toNat % 4 * 16 + b.toNat / 16) % 16 * 16 +
          (b.toNat % 16 * 4 + c.toNat / 64) / 4 = b.toNat := by omega
      have third : (b.toNat % 16 * 4 + c.toNat / 64) % 4 * 64 + c.toNat % 64 = c.toNat := by omega
      rw [joinGroups, first, second, third, joined]
      simp only [Bytes.byte, UInt8.ofNat_toNat]
    · simp only [List.length_cons]
      omega

/-! ## The last group -/

/-- A last group that is read holds characters with their values, and then fillers. -/
theorem exists_of_lastGroup {start place filled count : Nat} {before read : List (UInt8 × Nat)}
    (ends : lastGroup start place before filled text = .ok (read, count)) :
    ∃ more fillers, read = before ++ more ∧ count = filled + fillers ∧
      text = more.map Prod.fst ++ List.replicate fillers padding ∧
      (∀ entry ∈ more, value? entry.1 = some entry.2) ∧ (0 < filled → more = []) := by
  induction text generalizing place before filled with
  | nil =>
    cases ends
    exact ⟨[], 0, (List.append_nil _).symm, rfl, rfl, nofun, fun _ => rfl⟩
  | cons byte rest ih =>
    rw [lastGroup] at ends
    by_cases fills : byte = padding
    · rw [if_pos fills] at ends
      split at ends
      · cases ends
      · obtain ⟨more, fillers, same, counted, split, -, alone⟩ := ih ends
        obtain rfl := alone (Nat.succ_pos filled)
        refine ⟨[], fillers + 1, same, by omega, ?_, nofun, fun _ => rfl⟩
        rw [split, fills, List.replicate_succ]
        rfl
    · rw [if_neg fills] at ends
      split at ends
      · cases ends
      · next unfilled =>
        split at ends
        · next value found =>
          obtain ⟨more, fillers, same, counted, split, known, -⟩ := ih ends
          refine ⟨(byte, value) :: more, fillers, ?_, counted, ?_,
            List.forall_mem_cons.mpr ⟨found, known⟩, fun some => absurd some unfilled⟩
          · rw [same, List.append_assoc]
            rfl
          · rw [split]
            rfl
        · cases ends

/-- One byte is written as two symbols and two fillers. -/
theorem encode_pair {a b : Nat} (small : a < 64 ∧ b < 64) (filled : b % 16 = 0) :
    encode [Bytes.byte (a * 4 + b / 16)] = [symbol a, symbol b, padding, padding] := by
  have first : (Bytes.byte (a * 4 + b / 16)).toNat = a * 4 + b / 16 :=
    Varint.toNat_byte (by omega)
  rw [encode, first, show (a * 4 + b / 16) / 4 = a by omega,
    show (a * 4 + b / 16) % 4 * 16 = b by omega]

/-- Two bytes are written as three symbols and one filler. -/
theorem encode_triple {a b c : Nat} (small : a < 64 ∧ b < 64 ∧ c < 64) (filled : c % 4 = 0) :
    encode [Bytes.byte (a * 4 + b / 16), Bytes.byte (b % 16 * 16 + c / 4)] =
      [symbol a, symbol b, symbol c, padding] := by
  have first : (Bytes.byte (a * 4 + b / 16)).toNat = a * 4 + b / 16 :=
    Varint.toNat_byte (by omega)
  have second : (Bytes.byte (b % 16 * 16 + c / 4)).toNat = b % 16 * 16 + c / 4 :=
    Varint.toNat_byte (by omega)
  rw [encode, first, second, show (a * 4 + b / 16) / 4 = a by omega,
    show (a * 4 + b / 16) % 4 * 16 + (b % 16 * 16 + c / 4) / 16 = b by omega,
    show (b % 16 * 16 + c / 4) % 16 * 4 = c by omega]

section Ends

variable {start fillers a b c d : Nat} {x y z w : UInt8}

/-- No symbols at the end are right only if there is no text at all. -/
theorem decodeLast_of_nil (ends : lastGroup start 0 [] 0 text = .ok ([], fillers)) :
    decodeLast start text = if start = 0 ∧ text.isEmpty then .ok []
      else .error (.invalidLength (start + 0)) := by
  rw [decodeLast, ends]
  rfl

/-- One symbol at the end is never enough for a byte. -/
theorem decodeLast_of_single (ends : lastGroup start 0 [] 0 text = .ok ([(x, a)], fillers)) :
    decodeLast start text = if start = 0 ∧ text.isEmpty then .ok []
      else .error (.invalidLength (start + 1)) := by
  rw [decodeLast, ends]
  rfl

/-- Two symbols at the end give a byte, if they are filled up and no bit is left over. -/
theorem decodeLast_of_pair
    (ends : lastGroup start 0 [] 0 text = .ok ([(x, a), (y, b)], fillers)) :
    decodeLast start text = if (2 + fillers) % 4 ≠ 0 then .error .invalidPadding
      else if b % 16 ≠ 0 then .error (.invalidLastSymbol (start + 1) y)
      else .ok [Bytes.byte (a * 4 + b / 16)] := by
  rw [decodeLast, ends]
  rfl

/-- Three symbols at the end give two bytes, if they are filled up and no bit is left over. -/
theorem decodeLast_of_triple
    (ends : lastGroup start 0 [] 0 text = .ok ([(x, a), (y, b), (z, c)], fillers)) :
    decodeLast start text = if (3 + fillers) % 4 ≠ 0 then .error .invalidPadding
      else if c % 4 ≠ 0 then .error (.invalidLastSymbol (start + 2) z)
      else .ok [Bytes.byte (a * 4 + b / 16), Bytes.byte (b % 16 * 16 + c / 4)] := by
  rw [decodeLast, ends]
  rfl

/-- Four symbols at the end give three bytes, if no filler stands behind them. -/
theorem decodeLast_of_four
    (ends : lastGroup start 0 [] 0 text = .ok ([(x, a), (y, b), (z, c), (w, d)], fillers)) :
    decodeLast start text = if (4 + fillers) % 4 ≠ 0 then .error .invalidPadding
      else .ok (joinGroups [a, b, c, d]) := by
  rw [decodeLast, ends]
  rfl

end Ends

/-- A last group that is read is the written form of what is read. -/
theorem encode_of_decodeLast {start : Nat} (short : text.length ≤ 4)
    (read : decodeLast start text = .ok bytes) : encode bytes = text := by
  obtain ⟨⟨more, count⟩, ends, -⟩ := bind_eq_ok_iff.mp read
  obtain ⟨_, fillers, rfl, rfl, split, known, -⟩ := exists_of_lastGroup ends
  have size : more.length + fillers ≤ 4 := by
    rw [split, List.length_append, List.length_map, List.length_replicate] at short
    exact short
  have shape : ∀ entry ∈ more, entry.2 < 64 ∧ symbol entry.2 = entry.1 :=
    fun entry member => value?_eq_some_iff.mp (known entry member)
  rw [Nat.zero_add] at ends
  match more with
  | [] =>
    rw [decodeLast_of_nil ends] at read
    split at read
    · next nothing =>
      cases read
      exact (List.isEmpty_iff.mp nothing.2).symm
    · cases read
  | [(x, a)] =>
    rw [decodeLast_of_single ends, if_neg (by simp [split])] at read
    cases read
  | [(x, a), (y, b)] =>
    simp only [List.forall_mem_cons] at shape
    obtain ⟨first, second, -⟩ := shape
    rw [decodeLast_of_pair ends] at read
    split at read
    · cases read
    · next whole =>
      obtain rfl : fillers = 2 := by
        simp only [List.length_cons, List.length_nil] at size
        omega
      split at read
      · cases read
      · next filled =>
        cases read
        rw [encode_pair ⟨first.1, second.1⟩ (not_not.mp filled), first.2, second.2, split]
        rfl
  | [(x, a), (y, b), (z, c)] =>
    simp only [List.forall_mem_cons] at shape
    obtain ⟨first, second, third, -⟩ := shape
    rw [decodeLast_of_triple ends] at read
    split at read
    · cases read
    · next whole =>
      obtain rfl : fillers = 1 := by
        simp only [List.length_cons, List.length_nil] at size
        omega
      split at read
      · cases read
      · next filled =>
        cases read
        rw [encode_triple ⟨first.1, second.1, third.1⟩ (not_not.mp filled), first.2, second.2,
          third.2, split]
        rfl
  | [(x, a), (y, b), (z, c), (w, d)] =>
    simp only [List.forall_mem_cons] at shape
    obtain ⟨first, second, third, fourth, -⟩ := shape
    rw [decodeLast_of_four ends] at read
    split at read
    · cases read
    · obtain rfl : fillers = 0 := by
        simp only [List.length_cons, List.length_nil] at size
        omega
      cases read
      rw [joinGroups, encode_group ⟨first.1, second.1, third.1, fourth.1⟩, first.2, second.2,
        third.2, fourth.2, split]
      rfl
  | _ :: _ :: _ :: _ :: _ :: _ =>
    simp only [List.length_cons] at size
    omega

theorem byte_toNat {number : Nat} (same : number = byte.toNat) : Bytes.byte number = byte := by
  rw [same, Bytes.byte, UInt8.ofNat_toNat]

/-- A last group is read back. -/
theorem decodeLast_encode (start : Nat) (some : bytes ≠ []) (short : bytes.length ≤ 3) :
    decodeLast start (encode bytes) = .ok bytes := by
  match bytes with
  | [a] =>
    have aSmall := a.toNat_lt
    have ends : lastGroup start 0 [] 0 (encode [a]) = .ok
        ([(symbol (a.toNat / 4), a.toNat / 4 % 64),
          (symbol (a.toNat % 4 * 16), a.toNat % 4 * 16 % 64)], 2) := by
      simp [encode, lastGroup, symbol_ne_padding, value?_symbol]
    rw [decodeLast_of_pair ends, if_neg (by decide), if_neg (by omega),
      byte_toNat (show _ = a.toNat by omega)]
  | [a, b] =>
    have aSmall := a.toNat_lt
    have bSmall := b.toNat_lt
    have ends : lastGroup start 0 [] 0 (encode [a, b]) = .ok
        ([(symbol (a.toNat / 4), a.toNat / 4 % 64),
          (symbol (a.toNat % 4 * 16 + b.toNat / 16), (a.toNat % 4 * 16 + b.toNat / 16) % 64),
          (symbol (b.toNat % 16 * 4), b.toNat % 16 * 4 % 64)], 1) := by
      simp [encode, lastGroup, symbol_ne_padding, value?_symbol]
    rw [decodeLast_of_triple ends, if_neg (by decide), if_neg (by omega),
      byte_toNat (show _ = a.toNat by omega), byte_toNat (show _ = b.toNat by omega)]
  | [a, b, c] =>
    have aSmall := a.toNat_lt
    have bSmall := b.toNat_lt
    have cSmall := c.toNat_lt
    have ends : lastGroup start 0 [] 0 (encode [a, b, c]) = .ok
        ([(symbol (a.toNat / 4), a.toNat / 4 % 64),
          (symbol (a.toNat % 4 * 16 + b.toNat / 16), (a.toNat % 4 * 16 + b.toNat / 16) % 64),
          (symbol (b.toNat % 16 * 4 + c.toNat / 64), (b.toNat % 16 * 4 + c.toNat / 64) % 64),
          (symbol c.toNat, c.toNat % 64)], 0) := by
      simp [encode, lastGroup, symbol_ne_padding, value?_symbol]
    rw [decodeLast_of_four ends, if_neg (by decide), joinGroups,
      byte_toNat (show _ = a.toNat by omega), byte_toNat (show _ = b.toNat by omega),
      byte_toNat (show _ = c.toNat by omega)]
    rfl
  | _ :: _ :: _ :: _ :: _ =>
    simp only [List.length_cons] at short
    omega

/-! ## Whole texts -/

/-- Reads a text in which the last group starts at some place. -/
def decodeCut (start : Nat) (text : Bytes) : Except Base64Error Bytes := do
  let front ← values 0 (text.take start)
  let back ← decodeLast start (text.drop start)
  return joinGroups front ++ back

/-- A text cut in two gives bytes if its front is symbols and its last group is sound. -/
theorem decodeCut_eq_ok_iff {start : Nat} : decodeCut start text = .ok bytes ↔
    ∃ front back, values 0 (text.take start) = .ok front ∧
      decodeLast start (text.drop start) = .ok back ∧ joinGroups front ++ back = bytes := by
  unfold decodeCut
  simp only [bind_eq_ok_iff]
  constructor
  · rintro ⟨front, frontRead, back, backRead, same⟩
    cases same
    exact ⟨front, back, frontRead, backRead, rfl⟩
  · rintro ⟨front, back, frontRead, backRead, rfl⟩
    exact ⟨front, frontRead, back, backRead, rfl⟩

/-- The last group is a whole one, or what is left behind the whole ones. -/
theorem decode_eq_decodeCut (apart : text.length % 4 ≠ 1) : decode text =
    decodeCut (text.length - if text.length % 4 = 0 then 4 else text.length % 4) text := by
  unfold decode
  dsimp only
  rw [if_neg apart]
  rfl

/-- A text that can be read can be read with its last group cut off. -/
theorem decodeCut_of_decode (read : decode text = .ok bytes) :
    decodeCut (text.length - if text.length % 4 = 0 then 4 else text.length % 4) text =
      .ok bytes := by
  by_cases alone : text.length % 4 = 1
  · unfold decode at read
    dsimp only at read
    rw [if_pos alone] at read
    -- What is looked at first can only make the reading fail.
    split at read
    · split at read
      · cases read
      · exact read
    · exact read
  · rw [← decode_eq_decodeCut alone]
    exact read

/-- Bytes are read from nothing but what is written for them. -/
theorem encode_of_decode (read : decode text = .ok bytes) : encode bytes = text := by
  obtain ⟨front, back, frontRead, backRead, rfl⟩ :=
    decodeCut_eq_ok_iff.mp (decodeCut_of_decode read)
  obtain ⟨split, small⟩ := values_eq_ok_iff.mp frontRead
  generalize cut : (text.length - if text.length % 4 = 0 then 4 else text.length % 4) = start at *
  have place : start % 4 = 0 ∧ start ≤ text.length ∧ text.length ≤ start + 4 := by
    subst cut
    split <;> omega
  have whole : front.length % 4 = 0 := by
    have size := congrArg List.length split
    rw [List.length_take_of_le place.2.1, List.length_map] at size
    rw [← size]
    exact place.1
  have last : encode back = text.drop start :=
    encode_of_decodeLast (by rw [List.length_drop]; omega) backRead
  rw [encode_joinGroups front whole small, last, ← split, List.take_append_drop]

/-- Bytes are whole groups and a last one, which is not empty if there are bytes at all. -/
theorem exists_groups (some : bytes ≠ []) : ∃ front last, bytes = front ++ last ∧
    front.length % 3 = 0 ∧ last ≠ [] ∧ last.length ≤ 3 := by
  have positive := List.length_pos_iff.mpr some
  refine ⟨bytes.take ((bytes.length - 1) / 3 * 3), bytes.drop ((bytes.length - 1) / 3 * 3),
    (List.take_append_drop _ bytes).symm, ?_, ?_, ?_⟩
  · rw [List.length_take_of_le (by omega)]
    omega
  · rw [← List.length_pos_iff, List.length_drop]
    omega
  · rw [List.length_drop]
    omega

/-- What is written for bytes is read as those bytes. -/
theorem decode_encode (bytes : Bytes) : decode (encode bytes) = .ok bytes := by
  by_cases some : bytes = []
  · subst some
    rfl
  · obtain ⟨front, last, rfl, whole, something, short⟩ := exists_groups some
    obtain ⟨read, written, small, joined, size⟩ := exists_values front last whole
    have positive := List.length_pos_iff.mpr something
    have four : (encode last).length = 4 := by
      rw [length_encode]
      omega
    have length : (encode (front ++ last)).length = read.length + 4 := by
      rw [written, List.length_append, List.length_map, four]
    have remainder : (encode (front ++ last)).length % 4 = 0 := by omega
    rw [decode_eq_decodeCut (by omega), if_pos remainder, length, Nat.add_sub_cancel, written,
      decodeCut_eq_ok_iff]
    have cut : (read.map symbol).length = read.length := List.length_map _
    refine ⟨read, last, ?_, ?_, by rw [joined]⟩
    · rw [← cut, List.take_left, values_eq_ok_iff]
      exact ⟨rfl, small⟩
    · rw [← cut, List.drop_left]
      exact decodeLast_encode _ something short

/-- A text is read as some bytes exactly if it is their written form. -/
theorem decode_eq_ok_iff : decode text = .ok bytes ↔ text = encode bytes :=
  ⟨fun read => (encode_of_decode read).symm, fun same => same ▸ decode_encode bytes⟩

end Base64

end CompactHttp
