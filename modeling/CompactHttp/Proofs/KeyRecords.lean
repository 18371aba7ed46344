import CompactHttp.Net.KeyRecord
import CompactHttp.Proofs.Base64
import CompactHttp.Proofs.Decimals
import CompactHttp.Proofs.Outcome
import CompactHttp.Proofs.TextParts

/-! # Key records are read as they are written

A record that names a version and a key once, in any order, with white space around its parts and
with other parts among them, is read as that key for that version and for no other; the record that
is written for a key is such a one and short enough, and whatever else is read as a key has the
version and the text of that key in the last parts with their names
(`KeyRecord.parse_published`). A part is cut at its first equals sign, so those at the
end of a key are left to its text, and as base64 has one written form no other text is read as that
key.
-/

namespace CompactHttp

namespace Utf8

/-- Different texts have different bytes. -/
theorem encode_injective : Function.Injective encode := by
  intro text other same
  have read := decode_encode text
  rw [same, decode_encode] at read
  exact (Option.some.inj read).symm

/-- The bytes of a text are those of its characters. -/
theorem encode_ofList (chars : List Char) :
    encode (String.ofList chars) = chars.flatMap String.utf8EncodeChar := by
  rw [encode, String.toUTF8, String.toByteArray_ofList, List.utf8Encode, List.data_toByteArray]

/-- A code in ASCII is a character with that code. -/
theorem toNat_ofNat {code : Nat} (ascii : code < 128) : (Char.ofNat code).toNat = code := by
  have valid : code.isValidChar := .inl (by omega)
  rw [Char.ofNat, dif_pos valid]
  rfl

/-- A character of ASCII is the byte that is its code. -/
theorem utf8EncodeChar_ofNat {byte : UInt8} (ascii : byte.toNat < 128) :
    String.utf8EncodeChar (Char.ofNat byte.toNat) = [byte] := by
  have code : (Char.ofNat byte.toNat).val.toNat = byte.toNat := toNat_ofNat ascii
  rw [String.utf8EncodeChar, code]
  simp only [show byte.toNat ≤ 127 by omega, ↓reduceIte, UInt8.ofNat_toNat]

/-- Bytes in ASCII are the text of the characters with their codes. -/
theorem encode_ofList_map {bytes : Bytes} (ascii : ∀ byte ∈ bytes, byte.toNat < 128) :
    encode (String.ofList (bytes.map fun byte => Char.ofNat byte.toNat)) = bytes := by
  rw [encode_ofList]
  induction bytes with
  | nil => rfl
  | cons byte rest ih =>
    rw [List.forall_mem_cons] at ascii
    rw [List.map_cons, List.flatMap_cons, utf8EncodeChar_ofNat ascii.1, ih ascii.2]
    rfl

/-- A text of ASCII has as many bytes as it has characters. -/
theorem utf8ByteSize_of_ascii {chars : List Char} (ascii : ∀ char ∈ chars, char.toNat < 128) :
    (String.ofList chars).utf8ByteSize = chars.length := by
  induction chars with
  | nil => rfl
  | cons char rest ih =>
    rw [List.forall_mem_cons] at ascii
    have single : char.utf8Size = 1 :=
      Char.utf8Size_eq_one_iff.mpr (UInt32.le_iff_toNat_le.mpr (Nat.le_of_lt_succ ascii.1))
    rw [String.ofList_cons, String.utf8ByteSize_append, String.utf8ByteSize_singleton, single,
      ih ascii.2, List.length_cons, Nat.add_comm]

end Utf8

namespace KeyRecord

variable {name : Char} {text part : List Char} {record : String} {key : PeerKey}
  {version expected : Nat}

/-! ## Parts -/

/-- Whether a part is a name, an equals sign and a text, with or without white space around
them. -/
def Tells (name : Char) (text part : List Char) : Prop :=
  ∃ left right, part = left ++ name :: '=' :: text ++ right ∧
    ∀ char ∈ left ++ right, Blank.isBlank char = true

/-- A part that names neither a version nor a key. -/
def PassedOver (part : List Char) : Prop :=
  ∀ text, ¬Tells 'v' text part ∧ ¬Tells 'k' text part

/-- The text of a key. -/
def keyChars (key : PeerKey) : List Char :=
  (Base64.encode key.bytes).map fun byte => Char.ofNat byte.toNat

/-- A record that is made of parts, of which one has a version, one has a key, and all others are
passed over. -/
def Publishes (version : Nat) (key : PeerKey) (record : String) : Prop :=
  ∃ parts versionPart keyPart others, record.toList = [';'].intercalate parts ∧
    (∀ part ∈ parts, ';' ∉ part) ∧ parts.Perm (versionPart :: keyPart :: others) ∧
    Tells 'v' (toString version).toList versionPart ∧ Tells 'k' (keyChars key) keyPart ∧
    ∀ part ∈ others, PassedOver part

/-- Whether the last part of a record that has a name has a text with it. -/
def TellsLast (name : Char) (text : List Char) (record : String) : Prop :=
  ∃ before part after, record.toList = [';'].intercalate (before ++ part :: after) ∧
    (∀ piece ∈ before ++ part :: after, ';' ∉ piece) ∧ Tells name text part ∧
    ∀ later ∈ after, ∀ other, ¬Tells name other later

/-- A character that can be the name of a part. -/
structure Names (name : Char) : Prop where
  visible : Blank.isBlank name = false
  apart : name ≠ '='

theorem names_version : Names 'v' := ⟨rfl, by decide⟩

theorem names_key : Names 'k' := ⟨rfl, by decide⟩

/-- White space behind a text is dropped, and what stands before it is left. -/
theorem trimChars_named (names : Names name) (text : List Char) :
    Blank.trimChars (name :: '=' :: text) =
      name :: '=' :: (text.reverse.dropWhile Blank.isBlank).reverse := by
  have front : (name :: '=' :: text).dropWhile Blank.isBlank = name :: '=' :: text :=
    List.dropWhile_cons_of_neg (by rw [names.visible]; exact Bool.false_ne_true)
  have back : ['=', name].dropWhile Blank.isBlank = ['=', name] :=
    List.dropWhile_cons_of_neg (by decide)
  rw [Blank.trimChars, front, List.reverse_cons, List.reverse_cons, List.append_assoc,
    List.dropWhile_append]
  split
  · next nothing =>
    rw [List.isEmpty_iff.mp nothing]
    change (['=', name].dropWhile Blank.isBlank).reverse = _
    rw [back]
    rfl
  · rw [List.reverse_append]
    rfl

/-- A name before an equals sign is split from what is behind it. -/
theorem splitPart_named (names : Names name) (text : List Char) :
    splitPart (name :: '=' :: text) = some ([name], text) := by
  have first : (name :: '=' :: text).takeWhile (· ≠ '=') = [name] := by
    rw [List.takeWhile_cons_of_pos (by simpa using names.apart),
      List.takeWhile_cons_of_neg (by simp)]
  rw [splitPart, first]
  rfl

/-- What stands before and after the first equals sign makes up a part. -/
theorem eq_of_splitPart (split : splitPart part = some ([name], text)) :
    part = name :: '=' :: text := by
  have whole := part.takeWhile_append_dropWhile (p := fun char => decide (char ≠ '='))
  have back : part.drop (part.takeWhile (· ≠ '=')).length = part.dropWhile (· ≠ '=') :=
    (congrArg (List.drop _) whole.symm).trans (List.drop_left' rfl)
  have stops := part.head?_dropWhile_not (fun char => decide (char ≠ '='))
  rw [splitPart, back] at split
  cases found : part.dropWhile (· ≠ '=') with
  | nil =>
    rw [found] at split
    cases split
  | cons sign value =>
    rw [found] at split stops whole
    obtain rfl : sign = '=' := by simpa using stops
    obtain ⟨front, rfl⟩ := Prod.mk.inj (Option.some.inj split)
    rw [← whole, front]
    rfl

/-- How a part is read. -/
def readPart (part : List Char) : Option (List Char × List Char) :=
  splitPart (Blank.trimChars part)

/-- A part that tells something is read so, without the white space around it. -/
theorem readPart_of_tells (names : Names name) (told : Tells name text part) :
    readPart part = some ([name], (text.reverse.dropWhile Blank.isBlank).reverse) := by
  obtain ⟨left, right, rfl, blank⟩ := told
  rw [readPart, Blank.trimChars_of_blank blank, trimChars_named names, splitPart_named names]

/-- A text without white space in it is read as it is. -/
theorem readPart_of_solid (names : Names name) (told : Tells name text part)
    (solid : ∀ char ∈ text, Blank.isBlank char = false) : readPart part = some ([name], text) := by
  have kept : text.reverse.dropWhile Blank.isBlank = text.reverse := by
    cases turned : text.reverse with
    | nil => rfl
    | cons last others =>
      have member : last ∈ text := List.mem_reverse.mp (turned ▸ List.mem_cons_self)
      exact List.dropWhile_cons_of_neg (by rw [solid last member]; exact Bool.false_ne_true)
  rw [readPart_of_tells names told, kept, List.reverse_reverse]

/-- What is read from a part is told by it. -/
theorem tells_of_readPart (read : readPart part = some ([name], text)) : Tells name text part := by
  obtain ⟨left, right, split, blank⟩ := Blank.exists_blank_trimChars part
  rw [eq_of_splitPart read] at split
  exact ⟨left, right, split, blank⟩

/-! ## Last parts -/

/-- A name that comes with one text only comes with it last. -/
theorem last?_of_unique {parts : List (List Char × List Char)} (told : ([name], text) ∈ parts)
    (only : ∀ other, ([name], other) ∈ parts → other = text) : last? name parts = some text := by
  unfold last?
  cases found : parts.reverse.lookup [name] with
  | none =>
    have absent := List.lookup_eq_none_iff.mp found _ (List.mem_reverse.mpr told)
    rw [bne_self_eq_false] at absent
    cases absent
  | some other =>
    obtain ⟨before, after, split, -⟩ := List.lookup_eq_some_iff.mp found
    have member : ([name], other) ∈ parts := by
      rw [← List.mem_reverse, split]
      exact List.mem_append_right before List.mem_cons_self
    rw [only other member]

/-- What is read as the last text of a name is the text that the last part with that name has. -/
theorem tellsLast_of_last? (names : Names name) (found : last? name (parts record) = some text) :
    TellsLast name text record := by
  obtain ⟨later, earlier, split, apart⟩ := List.lookup_eq_some_iff.mp found
  have turned : parts record = earlier.reverse ++ ([name], text) :: later.reverse := by
    rw [← (parts record).reverse_reverse, split, List.reverse_append, List.reverse_cons,
      List.append_assoc, List.singleton_append]
  obtain ⟨front, back, pieces, -, behind⟩ := List.filterMap_eq_append_iff.mp turned
  obtain ⟨skipped, part, after, rfl, -, here, rest⟩ := List.filterMap_eq_cons_iff.mp behind
  have all : front ++ (skipped ++ part :: after) = (front ++ skipped) ++ part :: after :=
    (List.append_assoc front skipped (part :: after)).symm
  rw [all] at pieces
  refine ⟨front ++ skipped, part, after, ?_, ?_, tells_of_readPart here, ?_⟩
  · rw [← pieces, intercalate_splitAtChar]
  · intro piece member inside
    rw [← pieces] at member
    exact (of_mem_splitAtChar member inside).2 rfl
  · intro piece member other told
    have read := List.mem_filterMap.mpr ⟨piece, member, readPart_of_tells names told⟩
    rw [show after.filterMap readPart = later.reverse from rest, List.mem_reverse] at read
    have different := apart _ read
    rw [bne_self_eq_false] at different
    cases different

/-! ## Records -/

/-- A character that a part can have inside: one of ASCII that is neither white space nor a
semicolon. -/
structure Solid (char : Char) : Prop where
  ascii : char.toNat < 128
  visible : Blank.isBlank char = false
  apart : char ≠ ';'

/-- Visible characters of ASCII are no white space, and only one is a semicolon. -/
theorem visible_of_code : ∀ code < 127, 32 < code → code ≠ 59 →
    Blank.isBlank (Char.ofNat code) = false ∧ Char.ofNat code ≠ ';' := by
  decide +kernel

/-- A visible character of ASCII other than a semicolon stays where it stands in a part. -/
theorem solid_of_toNat {char : Char} (above : 32 < char.toNat) (below : char.toNat < 127)
    (apart : char.toNat ≠ 59) : Solid char := by
  have holds := visible_of_code char.toNat below above apart
  rw [Char.ofNat_toNat] at holds
  exact ⟨Nat.lt_succ_of_lt below, holds.1, holds.2⟩

theorem solid_of_mem_keyChars {char : Char} (member : char ∈ keyChars key) : Solid char := by
  obtain ⟨byte, inside, rfl⟩ := List.mem_map.mp member
  obtain ⟨above, below, apart⟩ := Base64.isSolid_of_mem_encode inside
  have code := Utf8.toNat_ofNat (Nat.lt_succ_of_lt below)
  refine solid_of_toNat ?_ ?_ ?_ <;> rwa [code]

theorem solid_of_mem_toString {number : Nat} {char : Char}
    (member : char ∈ (toString number).toList) : Solid char := by
  obtain ⟨above, below⟩ := Number.isDigit_of_mem_toString member
  have above : 48 ≤ char.toNat := above
  have below : char.toNat ≤ 57 := below
  exact solid_of_toNat (by omega) (by omega) (by omega)

/-- A key is written in forty-four characters. -/
theorem length_keyChars (key : PeerKey) : (keyChars key).length = 44 := by
  rw [keyChars, List.length_map, Base64.length_encode, key.size]

/-- The characters of a key are the base64 of its bytes. -/
theorem encode_keyChars (key : PeerKey) :
    Utf8.encode (String.ofList (keyChars key)) = Base64.encode key.bytes :=
  Utf8.encode_ofList_map fun _ member => Nat.lt_succ_of_lt (Base64.isSolid_of_mem_encode member).2.1

/-- A text is the base64 of a key if it has the characters of the key. -/
theorem decode_eq_ok_iff : Base64.decode (Utf8.encode (String.ofList text)) = .ok key.bytes ↔
    text = keyChars key := by
  rw [Base64.decode_eq_ok_iff, ← encode_keyChars]
  exact ⟨fun same => String.ofList_injective (Utf8.encode_injective same), fun same => by rw [same]⟩

/-- A key is made of its own bytes only. -/
theorem ofBytes?_eq_some_iff {bytes : Bytes} : PeerKey.ofBytes? bytes = some key ↔
    bytes = key.bytes := by
  unfold PeerKey.ofBytes?
  constructor
  · intro found
    split at found
    · cases found
      rfl
    · cases found
  · rintro rfl
    rw [dif_pos key.size]

/-- The text of the key is the last one of that name, and is not empty. -/
theorem keyText?_eq_some_iff : keyText? record = some text ↔
    last? 'k' (parts record) = some text ∧ text ≠ [] := by
  rw [keyText?, Option.filter_eq_some_iff, Bool.not_eq_true', List.isEmpty_eq_false_iff]

/-- The version is the number that the last text of that name spells, below the bound. -/
theorem version?_eq_some_iff : version? record = some version ↔
    ∃ text, last? 'v' (parts record) = some text ∧ Number.Spells (String.ofList text) version ∧
      version < versionBound := by
  simp only [version?, Option.bind_eq_bind, Option.bind_eq_some_iff,
    Number.unsignedBelow?_eq_some_iff]

/-- A record that is too long is refused, whatever is in it. -/
theorem parse_of_long (long : maxSize < record.utf8ByteSize) :
    parse record expected = .error .tooLong := by
  unfold parse
  rw [if_pos long]
  rfl

/-- Without a version a record is refused as unversioned. -/
theorem parse_of_unversioned (short : record.utf8ByteSize ≤ maxSize)
    (missing : version? record = none) : parse record expected = .error .missingVersion := by
  unfold parse
  rw [if_neg (Nat.not_lt.mpr short), missing]
  rfl

/-- A record for another version is refused as such. -/
theorem parse_of_other_version (short : record.utf8ByteSize ≤ maxSize)
    (found : version? record = some version) (other : version ≠ expected) :
    parse record expected = .error (.versionMismatch version expected) := by
  unfold parse
  rw [if_neg (Nat.not_lt.mpr short), found]
  dsimp only
  rw [if_pos other]
  rfl

/-- A record for the right version is as good as its key. -/
theorem parse_of_version (short : record.utf8ByteSize ≤ maxSize)
    (found : version? record = some expected) : parse record expected =
      match keyText? record with
      | none => .error .missingKey
      | some text =>
        match Base64.decode (Utf8.encode (String.ofList text)) with
        | .error _ => .error .invalidBase64
        | .ok bytes =>
          match PeerKey.ofBytes? bytes with
          | some key => .ok key
          | none => .error (.wrongKeySize bytes.length) := by
  unfold parse
  rw [if_neg (Nat.not_lt.mpr short), found]
  dsimp only
  rw [if_neg (not_not.mpr rfl)]
  cases keyText? record <;> rfl

/-- A record is read as a key if it is short enough, its last version is the one that is asked for
and its last key is the text of that key. -/
theorem parse_eq_ok_iff : parse record expected = .ok key ↔ record.utf8ByteSize ≤ maxSize ∧
    version? record = some expected ∧ last? 'k' (parts record) = some (keyChars key) := by
  constructor
  · intro read
    have short : record.utf8ByteSize ≤ maxSize := by
      by_contra long
      rw [parse_of_long (Nat.not_le.mp long)] at read
      cases read
    match found : version? record with
    | none =>
      rw [parse_of_unversioned short found] at read
      cases read
    | some version =>
      by_cases same : version = expected
      · subst same
        rw [parse_of_version short found] at read
        match keyed : keyText? record with
        | none =>
          rw [keyed] at read
          cases read
        | some text =>
          rw [keyed] at read
          dsimp only at read
          split at read
          · cases read
          · next bytes decoded =>
            split at read
            · next given sized =>
              cases read
              obtain rfl := ofBytes?_eq_some_iff.mp sized
              obtain rfl := decode_eq_ok_iff.mp decoded
              exact ⟨short, rfl, (keyText?_eq_some_iff.mp keyed).1⟩
            · cases read
      · rw [parse_of_other_version short found same] at read
        cases read
  · rintro ⟨short, found, told⟩
    have something : keyChars key ≠ [] :=
      List.ne_nil_of_length_pos (by rw [length_keyChars]; decide)
    rw [parse_of_version short found, keyText?_eq_some_iff.mpr ⟨told, something⟩]
    dsimp only
    rw [decode_eq_ok_iff.mpr rfl]
    dsimp only
    rw [ofBytes?_eq_some_iff.mpr rfl]

/-! ## Records that publish a key -/

/-- Of the parts of a record those that are passed over have no say in what is read. -/
theorem parts_of_publishes (published : Publishes version key record) :
    (['v'], (toString version).toList) ∈ parts record ∧ (['k'], keyChars key) ∈ parts record ∧
      ∀ pair ∈ parts record, pair = (['v'], (toString version).toList) ∨
        pair = (['k'], keyChars key) ∨ pair.1 ≠ ['v'] ∧ pair.1 ≠ ['k'] := by
  obtain ⟨pieces, versionPart, keyPart, others, split, free, order, ofVersion, ofKey, foreign⟩ :=
    published
  have readVersion : readPart versionPart = some (['v'], (toString version).toList) :=
    readPart_of_solid names_version ofVersion fun char member =>
      (solid_of_mem_toString member).visible
  have readKey : readPart keyPart = some (['k'], keyChars key) :=
    readPart_of_solid names_key ofKey fun char member =>
      (solid_of_mem_keyChars member).visible
  have some : pieces ≠ [] := by
    rintro rfl
    exact absurd order.symm (List.cons_ne_nil _ _ ∘ List.Perm.eq_nil)
  have read : parts record = pieces.filterMap readPart := by
    rw [parts, split, splitAtChar_intercalate some free]
    rfl
  rw [read]
  refine ⟨?_, ?_, ?_⟩
  · exact List.mem_filterMap.mpr ⟨versionPart, order.mem_iff.mpr List.mem_cons_self, readVersion⟩
  · exact List.mem_filterMap.mpr
      ⟨keyPart, order.mem_iff.mpr (List.mem_cons_of_mem _ List.mem_cons_self), readKey⟩
  · rintro ⟨name, text⟩ member
    obtain ⟨piece, among, here⟩ := List.mem_filterMap.mp member
    have among := order.mem_iff.mp among
    rw [List.mem_cons, List.mem_cons] at among
    obtain rfl | rfl | other := among
    · rw [readVersion] at here
      exact .inl (Option.some.inj here).symm
    · rw [readKey] at here
      exact .inr (.inl (Option.some.inj here).symm)
    · refine .inr (.inr ⟨?_, ?_⟩)
      · rintro rfl
        exact (foreign piece other text).1 (tells_of_readPart here)
      · rintro rfl
        exact (foreign piece other text).2 (tells_of_readPart here)

/-- The version that a record publishes is found in it. -/
theorem version?_of_publishes (small : version < versionBound)
    (published : Publishes version key record) : version? record = some version := by
  obtain ⟨told, -, all⟩ := parts_of_publishes published
  refine version?_eq_some_iff.mpr ⟨_, last?_of_unique told fun other member => ?_, ?_, small⟩
  · obtain same | same | apart := all _ member
    · exact (Prod.mk.inj same).2
    · cases (Prod.mk.inj same).1
    · exact absurd rfl apart.1
  · rw [String.ofList_toList]
    exact Number.spells_toString version

/-- The key that a record publishes is found in it. -/
theorem last?_key_of_publishes (published : Publishes version key record) :
    last? 'k' (parts record) = some (keyChars key) := by
  obtain ⟨-, told, all⟩ := parts_of_publishes published
  refine last?_of_unique told fun other member => ?_
  obtain same | same | apart := all _ member
  · cases (Prod.mk.inj same).1
  · exact (Prod.mk.inj same).2
  · exact absurd rfl apart.2

/-- A record is written with its version first, then its key. -/
theorem toList_write (version : Nat) (key : PeerKey) : (write version key).toList =
    [';'].intercalate ['v' :: '=' :: (toString version).toList, 'k' :: '=' :: keyChars key] := by
  simp [write, keyChars, List.intercalate]

/-- A record that is written is not too long. -/
theorem utf8ByteSize_write_le (small : version < versionBound) (key : PeerKey) :
    (write version key).utf8ByteSize ≤ maxSize := by
  have digits : (toString version).toList.length ≤ 10 := by
    rw [Number.toList_toString]
    exact Nat.toDigits_length 10 version 10 (by decide)
      (Nat.lt_of_lt_of_le small (by decide))
  have ascii : ∀ char ∈ (write version key).toList, char.toNat < 128 := by
    intro char member
    rw [toList_write, List.intercalate_cons_cons, List.intercalate_singleton] at member
    simp only [List.mem_append, List.mem_cons, List.not_mem_nil, or_false] at member
    obtain ((rfl | rfl | digit) | rfl) | rfl | rfl | inside := member
    · decide
    · decide
    · exact (solid_of_mem_toString digit).ascii
    · decide
    · decide
    · decide
    · exact (solid_of_mem_keyChars inside).ascii
  have size := Utf8.utf8ByteSize_of_ascii ascii
  rw [String.ofList_toList, toList_write, List.intercalate_cons_cons,
    List.intercalate_singleton] at size
  simp only [List.length_append, List.length_cons, List.length_nil, length_keyChars] at size
  unfold maxSize
  omega

/-- The record that is written for a key publishes it. -/
theorem publishes_write (version : Nat) (key : PeerKey) :
    Publishes version key (write version key) := by
  refine ⟨_, _, _, [], toList_write version key, ?_, .refl _, ⟨[], [], ?_, nofun⟩,
    ⟨[], [], ?_, nofun⟩, nofun⟩
  · intro part member
    rw [List.mem_cons, List.mem_singleton] at member
    obtain rfl | rfl := member
    · rw [List.mem_cons, List.mem_cons, not_or, not_or]
      exact ⟨by decide, by decide, fun inside =>
        (solid_of_mem_toString inside).apart rfl⟩
    · rw [List.mem_cons, List.mem_cons, not_or, not_or]
      exact ⟨by decide, by decide, fun inside => (solid_of_mem_keyChars inside).apart rfl⟩
  · exact (List.append_nil _).symm
  · exact (List.append_nil _).symm

/-- A record is read as the key that it publishes, for the version that it is published for; and
what is read as a key has that version and the text of that key in the last parts with their
names. -/
theorem parse_published :
    (∀ version < 2 ^ 32, ∀ key, (write version key).utf8ByteSize ≤ 80 ∧
      Publishes version key (write version key)) ∧
    (∀ version < 2 ^ 32, ∀ key record, record.utf8ByteSize ≤ 80 →
      Publishes version key record → parse record version = .ok key ∧
        ∀ expected, expected ≠ version →
          parse record expected = .error (.versionMismatch version expected)) ∧
    ∀ record expected key, parse record expected = .ok key → record.utf8ByteSize ≤ 80 ∧
      (∃ text, TellsLast 'v' text record ∧ Number.Spells (String.ofList text) expected ∧
        expected < 2 ^ 32) ∧
      TellsLast 'k' (keyChars key) record := by
  refine ⟨fun version small key => ?_, fun version small key record short published => ?_,
    fun record expected key read => ?_⟩
  · exact ⟨utf8ByteSize_write_le small key, publishes_write version key⟩
  · have found := version?_of_publishes small published
    refine ⟨parse_eq_ok_iff.mpr ⟨short, found, last?_key_of_publishes published⟩, ?_⟩
    intro expected other
    exact parse_of_other_version short found other.symm
  · obtain ⟨short, found, told⟩ := parse_eq_ok_iff.mp read
    obtain ⟨text, toldVersion, spelled, small⟩ := version?_eq_some_iff.mp found
    exact ⟨short, ⟨text, tellsLast_of_last? names_version toldVersion, spelled, small⟩,
      tellsLast_of_last? names_key told⟩

/-- The key of thirty-two ones. -/
def sampleKey : PeerKey := ⟨List.replicate 32 1, rfl⟩

/-- A record with its parts in another order, white space around them and a third one. -/
def sampleRecord : String := " k=AQEBAQEBAQEBAQEBAQEBAQEBAQEBAQEBAQEBAQEBAQE= ; v=0 ;x=y"

/-- A record may have white space and other parts in it, in any order. -/
theorem publishes_sampleRecord : Publishes 0 sampleKey sampleRecord := by
  refine ⟨[[' '] ++ 'k' :: '=' :: keyChars sampleKey ++ [' '], " v=0 ".toList, "x=y".toList],
    " v=0 ".toList, [' '] ++ 'k' :: '=' :: keyChars sampleKey ++ [' '], ["x=y".toList],
    by decide +kernel, by decide +kernel, .swap _ _ _,
    ⟨[' '], [' '], by decide +kernel, forall_mem_of_all (by decide)⟩,
    ⟨[' '], [' '], rfl, forall_mem_of_all (by decide)⟩, ?_⟩
  rintro part member text
  obtain rfl := List.mem_singleton.mp member
  have read : readPart "x=y".toList = some (['x'], ['y']) := by decide +kernel
  refine ⟨fun told => ?_, fun told => ?_⟩
  · rw [readPart_of_tells names_version told] at read
    cases read
  · rw [readPart_of_tells names_key told] at read
    cases read

/-- The sample gives its key to those who expect its version, and to no others. -/
theorem parse_published_sample : Publishes 0 sampleKey sampleRecord ∧
    parse sampleRecord 0 = .ok sampleKey ∧
    parse sampleRecord 1 = .error (.versionMismatch 0 1) ∧
    TellsLast 'k' (keyChars sampleKey) sampleRecord := by
  obtain ⟨-, forth, back⟩ := parse_published
  obtain ⟨read, mismatch⟩ := forth 0 (by decide) sampleKey sampleRecord (by decide +kernel)
    publishes_sampleRecord
  exact ⟨publishes_sampleRecord, read, mismatch 1 (by decide), (back _ _ _ read).2.2⟩

end KeyRecord

end CompactHttp
