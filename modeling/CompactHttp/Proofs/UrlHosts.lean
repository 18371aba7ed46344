import CompactHttp.Proofs.Outcome
import CompactHttp.Proofs.TextParts
import CompactHttp.Url
import Mathlib.Tactic.Common

/-! # What the host of a URL is written with

Whatever the scheme, a host that is not an address of eight groups is written in characters that
stand for themselves in every URL (`Url.isPlain_of_parse`): no control, no space, and nothing
that would end a host. An address of eight groups is written with at least two colons
(`Ipv6.two_le_count_text`), which are no such characters.
-/

namespace CompactHttp

/-- Whether a character stands for itself in the host of any URL. -/
def UrlHost.isPlain (char : Char) : Bool :=
  0x20 < char.toNat && char.toNat < 0x7F && !isForbidden char

/-- The digits of a number are digits of its base. -/
theorem exists_digit_of_mem_toDigits {base number : Nat} (wide : 1 < base) {char : Char}
    (member : char ∈ Nat.toDigits base number) : ∃ digit < base, char = Nat.digitChar digit := by
  induction number using Nat.strongRecOn with
  | ind number ih =>
    by_cases small : number < base
    · rw [Nat.toDigits_of_lt_base small, List.mem_singleton] at member
      exact ⟨number, small, member⟩
    · rw [Nat.toDigits_of_base_le wide (by omega), List.mem_append, List.mem_singleton] at member
      obtain front | last := member
      · exact ih (number / base) (Nat.div_lt_self (by omega) wide) front
      · exact ⟨number % base, Nat.mod_lt _ (by omega), last⟩

/-! ## Percent encoding -/

namespace Percent

variable {set : EncodeSet} {chars : List Char} {char : Char}

/-- The characters of encoded bytes. -/
def byteChars : List Char := "%0123456789ABCDEF".toList

/-- Characters are encoded one by one. -/
theorem toList_encode (set : EncodeSet) (chars : List Char) :
    (encode set chars).toList = chars.flatMap fun char => (encodeChar set char).toList := by
  rw [encode, String.toList_join, List.flatMap_map]

/-- A character of ASCII that may stay does. -/
theorem encodeChar_of_kept (ascii : char.toNat < 0x80) (kept : set char = false) :
    encodeChar set char = char.toString := by
  rw [encodeChar, if_pos (by simp [ascii, kept])]

/-- Characters that may all stay are left as they are. -/
theorem toList_encode_of_kept (kept : ∀ char ∈ chars, char.toNat < 0x80 ∧ set char = false) :
    (encode set chars).toList = chars := by
  rw [toList_encode]
  induction chars with
  | nil => rfl
  | cons first rest ih =>
    obtain ⟨ascii, stays⟩ := kept first List.mem_cons_self
    rw [List.flatMap_cons, encodeChar_of_kept ascii stays,
      ih fun char member => kept char (List.mem_cons_of_mem first member)]
    simp [Char.toString]

/-- A byte is encoded by a percent sign and digits. -/
theorem byteChars_of_mem_encodeByte {byte : UInt8} (member : char ∈ (encodeByte byte).toList) :
    char ∈ byteChars := by
  have digits : ∀ digit < 16, (Nat.digitChar digit).toUpper ∈ byteChars := by decide
  rw [encodeByte, String.toList_append, List.mem_append] at member
  obtain mark | inside := member
  · exact forall_mem_of_all (by decide) char mark
  · change char ∈ ((hexPadded 2 byte.toNat).map Char.toUpper).toList at inside
    rw [String.toList_map, List.mem_map] at inside
    obtain ⟨lower, inside, rfl⟩ := inside
    rw [hexPadded, String.toList_ofList, List.mem_append] at inside
    obtain zero | written := inside
    · rw [List.eq_of_mem_replicate zero]
      decide
    · obtain ⟨digit, small, rfl⟩ := exists_digit_of_mem_toDigits (by decide) written
      exact digits digit small

/-- What is encoded has characters that may stay, percent signs and digits. -/
theorem mem_encode (member : char ∈ (encode set chars).toList) :
    char ∈ chars ∧ char.toNat < 0x80 ∧ set char = false ∨ char ∈ byteChars := by
  rw [toList_encode, List.mem_flatMap] at member
  obtain ⟨source, among, written⟩ := member
  unfold encodeChar at written
  split at written
  · next stays =>
    simp only [Bool.and_eq_true, decide_eq_true_eq, Bool.not_eq_true'] at stays
    rw [Char.toString, String.toList_singleton, List.mem_singleton] at written
    subst written
    exact .inl ⟨among, stays⟩
  · rw [String.toList_join, List.mem_flatMap] at written
    obtain ⟨text, encoded, written⟩ := written
    obtain ⟨byte, -, rfl⟩ := List.mem_map.mp encoded
    exact .inr (byteChars_of_mem_encodeByte written)

end Percent

/-! ## Domain names -/

namespace Punycode

/-- Numbers in Punycode are written in its digits. -/
theorem mem_encodeNumber {bias position number : Nat} {char : Char}
    (member : char ∈ encodeNumber bias position number) :
    ∃ digit < base, char = digitChar digit := by
  induction position, number using encodeNumber.induct bias with
  | case1 position number least below =>
    rw [encodeNumber, if_pos below, List.mem_singleton] at member
    exact ⟨number, Nat.lt_trans below (threshold_lt position bias), member⟩
  | case2 position number least above ih =>
    rw [encodeNumber, if_neg above, List.mem_cons] at member
    obtain rfl | later := member
    · have room : threshold position bias < base := threshold_lt position bias
      have inside := Nat.mod_lt (number - threshold position bias)
        (show 0 < base - threshold position bias by omega)
      exact ⟨_, by omega, rfl⟩
    · exact ih later

/-- What has been written of a label: characters with a property that all digits have. -/
def Writing.All (property : Char → Prop) (state : Writing) : Prop :=
  ∀ char ∈ state.written, property char

variable {property : Char → Prop} {state : Writing}
  (digits : ∀ digit < base, property (digitChar digit))
include digits

/-- Placing a character writes digits only. -/
theorem Writing.All.placeChar (all : state.All property) (basic code : Nat) (char : Char) :
    (placeChar basic code state char).All property := by
  unfold Punycode.placeChar
  split
  · exact all
  · split
    · intro written member
      obtain old | new := List.mem_append.mp member
      · exact all written old
      · obtain ⟨digit, small, rfl⟩ := mem_encodeNumber new
        exact digits digit small
    · exact all

theorem Writing.All.foldl (all : state.All property) (basic code : Nat) (label : List Char) :
    (label.foldl (Punycode.placeChar basic code) state).All property := by
  induction label generalizing state with
  | nil => exact all
  | cons char rest ih => exact ih (all.placeChar digits basic code char)

theorem Writing.All.placeAll (all : state.All property) (label : List Char) (basic : Nat)
    (codes : List Nat) (next : Nat) : (placeAll label basic codes next state).All property := by
  induction codes generalizing next state with
  | nil => exact all
  | cons code codes ih =>
    have counted : ({ state with
        number := state.number + (code - next) * (state.placed + 1) } : Writing).All property := all
    have passed := counted.foldl digits basic code label
    rw [Punycode.placeAll]
    apply ih
    exact passed

/-- A label is written with its own ASCII characters, hyphens and digits. -/
theorem forall_mem_encode {label : List Char} (hyphen : property '-')
    (basic : ∀ char ∈ label, char.toNat < firstCode → property char) :
    ∀ char ∈ encode label, property char := by
  have kept : ∀ char ∈ label.filter fun char => char.toNat < firstCode, property char := by
    intro char member
    obtain ⟨among, ascii⟩ := List.mem_filter.mp member
    exact basic char among (of_decide_eq_true ascii)
  refine Writing.All.placeAll digits ?_ label _ _ _
  intro char member
  dsimp only at member
  split at member
  · cases member
  · obtain old | last := List.mem_append.mp member
    · exact kept char old
    · rw [List.mem_singleton.mp last]
      exact hyphen

end Punycode

namespace DomainName

variable {label written : List Char} {char : Char}

/-- Whether a character may stand in the ASCII form of a domain name. -/
def IsFinal (char : Char) : Prop := char.toNat < 0x80 ∧ isForbidden char = false

instance (char : Char) : Decidable (IsFinal char) :=
  inferInstanceAs (Decidable (_ ∧ _))

/-- Digits of Punycode may stand in a domain name. -/
theorem isFinal_digitChar : ∀ digit < Punycode.base, IsFinal (Punycode.digitChar digit) := by
  decide

theorem isFinal_of_isAllowed (ascii : char.toNat < 0x80) (allowed : isAllowed char = true) :
    IsFinal char := by
  rw [isAllowed, if_pos ascii, Bool.not_eq_true'] at allowed
  exact ⟨ascii, allowed⟩

theorem isFinal_of_mem_encode (sound : isSoundLabel label = true)
    (member : char ∈ Punycode.encode label) : IsFinal char := by
  rw [isSoundLabel, Bool.and_eq_true, List.all_eq_true] at sound
  refine Punycode.forall_mem_encode isFinal_digitChar (by decide) ?_ char member
  intro other among ascii
  exact isFinal_of_isAllowed ascii (sound.1 other among)

theorem isFinal_of_mem_mark (member : char ∈ punycodeMark) : IsFinal char :=
  forall_mem_of_all (by decide) char member

theorem isFinal_of_labelToAscii (turns : labelToAscii label = some written)
    (member : char ∈ written) : IsFinal char := by
  unfold labelToAscii at turns
  split at turns
  · next marked =>
    -- The label is left as it is, but only if it is the written form of a sound one.
    split at turns
    · next inner decodes =>
      split at turns
      · next same =>
        cases turns
        simp only [Bool.and_eq_true, beq_iff_eq] at same
        obtain ⟨⟨sound, -⟩, encodes⟩ := same
        obtain ⟨rest, rfl⟩ := List.isPrefixOf_iff_prefix.mp marked
        obtain front | back := List.mem_append.mp member
        · exact isFinal_of_mem_mark front
        · refine isFinal_of_mem_encode sound ?_
          rw [encodes]
          exact back
      · cases turns
    · cases turns
  · split at turns
    · cases turns
    · next sound =>
      rw [Bool.not_eq_true, Bool.not_eq_false'] at sound
      split at turns
      · next ascii =>
        cases turns
        rw [List.all_eq_true] at ascii
        have allowed := (Bool.and_eq_true _ _ ▸ sound).1
        exact isFinal_of_isAllowed (of_decide_eq_true (ascii char member))
          (List.all_eq_true.mp allowed char member)
      · cases turns
        obtain front | back := List.mem_append.mp member
        · exact isFinal_of_mem_mark front
        · exact isFinal_of_mem_encode sound back

/-- What stands in parts that are put together stands in a part, or between them. -/
theorem mem_intercalate {separator : List Char} {parts : List (List Char)}
    (member : char ∈ separator.intercalate parts) :
    char ∈ separator ∨ ∃ part ∈ parts, char ∈ part := by
  induction parts with
  | nil => cases member
  | cons part rest ih =>
    cases rest with
    | nil =>
      rw [List.intercalate_singleton] at member
      exact .inr ⟨part, List.mem_singleton_self part, member⟩
    | cons next rest =>
      rw [List.intercalate_cons_cons, List.append_assoc, List.mem_append, List.mem_append] at member
      obtain here | between | later := member
      · exact .inr ⟨part, List.mem_cons_self, here⟩
      · exact .inl between
      · obtain inside | ⟨other, among, inside⟩ := ih later
        · exact .inl inside
        · exact .inr ⟨other, List.mem_cons_of_mem part among, inside⟩

/-- Each label that is written is the ASCII form of a label. -/
theorem exists_of_mem_mapM {labels turned : List (List Char)}
    (turns : labels.mapM labelToAscii = some turned) (member : written ∈ turned) :
    ∃ label ∈ labels, labelToAscii label = some written := by
  induction labels generalizing turned with
  | nil =>
    cases turns
    cases member
  | cons label rest ih =>
    rw [List.mapM_cons, Option.bind_eq_bind, Option.bind_eq_some_iff] at turns
    obtain ⟨first, here, turns⟩ := turns
    rw [Option.bind_eq_bind, Option.bind_eq_some_iff] at turns
    obtain ⟨others, there, same⟩ := turns
    cases same
    obtain rfl | later := List.mem_cons.mp member
    · exact ⟨label, List.mem_cons_self, here⟩
    · obtain ⟨other, among, turns⟩ := ih there later
      exact ⟨other, List.mem_cons_of_mem label among, turns⟩

/-- All characters of a domain name in its ASCII form may stand there. -/
theorem isFinal_of_toAscii {name : Bytes} {domain : List Char} (turns : toAscii name = some domain)
    (member : char ∈ domain) : IsFinal char := by
  rw [toAscii, Option.bind_eq_bind, Option.bind_eq_some_iff] at turns
  obtain ⟨text, -, turns⟩ := turns
  rw [Option.bind_eq_bind, Option.bind_eq_some_iff] at turns
  obtain ⟨labels, turned, same⟩ := turns
  cases same
  obtain dot | ⟨label, among, inside⟩ := mem_intercalate member
  · rw [List.mem_singleton.mp dot]
    decide
  · obtain ⟨source, -, turns⟩ := exists_of_mem_mapM turned among
    exact isFinal_of_labelToAscii turns inside

end DomainName

/-! ## Hosts -/

namespace UrlHost

variable {chars : List Char} {char : Char} {host : UrlHost}

/-- Whether a host is an address of eight groups. -/
def isV6 : UrlHost → Bool
  | v6 _ => true
  | _ => false

/-- What may stand in a domain name is plain. -/
theorem isPlain_of_isFinal (final : DomainName.IsFinal char) : isPlain char = true := by
  have all : ∀ code < 128, DomainName.isForbidden (Char.ofNat code) = false →
      isPlain (Char.ofNat code) = true := by
    decide
  exact forall_char_of_forall_code
    (fun char => DomainName.isForbidden char = false → isPlain char = true) all final.1 final.2

/-- Percent signs and digits are plain. -/
theorem isPlain_of_byteChars : ∀ char ∈ Percent.byteChars, isPlain char = true :=
  forall_mem_of_all (by decide)

/-- What is neither encoded nor forbidden in a host is plain. -/
theorem isPlain_of_kept (ascii : char.toNat < 0x80) (kept : Percent.controls char = false)
    (allowed : isForbidden char = false) : isPlain char = true := by
  have all : ∀ code < 128, Percent.controls (Char.ofNat code) = false →
      isForbidden (Char.ofNat code) = false → isPlain (Char.ofNat code) = true := by
    decide
  exact forall_char_of_forall_code (fun char => Percent.controls char = false →
    isForbidden char = false → isPlain char = true) all ascii kept allowed

/-- The characters of an address in four parts are plain. -/
theorem isPlain_of_v4 {address : Ipv4} (member : char ∈ address.text.toList) :
    isPlain char = true := by
  have digits : ∀ digit < 10, isPlain (Nat.digitChar digit) = true := by decide
  rw [Ipv4.text, String.toList_intercalate] at member
  obtain dot | ⟨part, among, inside⟩ := DomainName.mem_intercalate member
  · rw [List.mem_singleton.mp dot]
    decide
  · rw [List.map_map, List.mem_map] at among
    obtain ⟨octet, -, rfl⟩ := among
    rw [Function.comp_apply, Nat.toString_eq_repr, Nat.toList_repr] at inside
    obtain ⟨digit, small, rfl⟩ := exists_digit_of_mem_toDigits (by decide) inside
    exact digits digit small

/-- What is read between brackets is an address in groups. -/
theorem isV6_of_parseBracketed (parses : parseBracketed chars = .ok host) :
    host.isV6 = true := by
  unfold parseBracketed at parses
  split at parses
  · split at parses <;> cases parses
    rfl
  · cases parses

/-- The host of a well-known scheme. -/
theorem isPlain_of_parseSpecial (parses : parseSpecial chars = .ok host)
    (apart : host.isV6 = false) (member : char ∈ host.text.toList) : isPlain char = true := by
  unfold parseSpecial at parses
  split at parses
  · rw [isV6_of_parseBracketed parses] at apart
    cases apart
  · split at parses
    · cases parses
    · cases parses
    · next domain _ turns =>
      split at parses
      · cases parses4 : parseIpv4 domain with
        | error error =>
          rw [parses4] at parses
          cases parses
        | ok address =>
          rw [parses4] at parses
          cases parses
          exact isPlain_of_v4 member
      · cases parses
        rw [text, String.toList_ofList] at member
        exact isPlain_of_isFinal (DomainName.isFinal_of_toAscii turns member)

/-- The host of any other scheme. -/
theorem isPlain_of_parseOpaque (parses : parseOpaque chars = .ok host)
    (apart : host.isV6 = false) (member : char ∈ host.text.toList) : isPlain char = true := by
  unfold parseOpaque at parses
  split at parses
  · rw [isV6_of_parseBracketed parses] at apart
    cases apart
  · split at parses
    · cases parses
    · next allowed =>
      cases parses
      rw [Bool.not_eq_true, List.any_eq_false] at allowed
      obtain ⟨among, ascii, kept⟩ | encoded := Percent.mem_encode member
      · exact isPlain_of_kept ascii kept (Bool.eq_false_iff.mpr (allowed char among))
      · exact isPlain_of_byteChars char encoded

end UrlHost

namespace Url

variable {url : Url} {host : UrlHost} {char : Char} {chars : List Char}

/-- Whether a host is read from some characters. -/
def HasForm (host : UrlHost) : Prop :=
  ∃ chars, UrlHost.parseSpecial chars = .ok host ∨ UrlHost.parseOpaque chars = .ok host

/-- The host in an authority is read as a host. -/
theorem hasForm_of_parseAuthority {scheme : String}
    (parses : parseAuthority scheme chars = .ok url) (has : url.host = some host) :
    HasForm host := by
  unfold parseAuthority at parses
  obtain ⟨⟨hasUser, rest⟩, -, parses⟩ := bind_eq_ok_iff.mp parses
  dsimp only at parses
  split at parses
  · cases parses
  · split at parses
    all_goals
      obtain ⟨read, reads, parses⟩ := bind_eq_ok_iff.mp parses
      obtain ⟨after, -, parses⟩ := bind_eq_ok_iff.mp parses
      cases parses
      cases has
    · exact ⟨_, .inl reads⟩
    · exact ⟨_, .inr reads⟩

theorem hasForm_of_parseFile (parses : parseFile chars = .ok url) (has : url.host = some host) :
    HasForm host := by
  unfold parseFile at parses
  extract_lets kind slashes rest hostChars isLocal onward at parses
  have from_host {read : UrlHost} (goesOn : onward read = .ok url) :
      host = read ∧ read ≠ .name "" := by
    cases goesOn
    obtain ⟨named, same⟩ := Option.ite_none_right_eq_some.mp has
    exact ⟨(Option.some.inj same).symm, named.1⟩
  split at parses
  · obtain ⟨-, named⟩ := from_host parses
    exact absurd rfl named
  · obtain ⟨read, reads, parses⟩ := bind_eq_ok_iff.mp parses
    obtain ⟨rfl, -⟩ := from_host parses
    exact ⟨_, .inl reads⟩

/-- The host of a URL is read as a host, whatever the scheme. -/
theorem hasForm_of_parse {text : String} (parses : parse text = .ok url)
    (has : url.host = some host) : HasForm host := by
  unfold parse at parses
  split at parses
  · unfold parseAfterScheme at parses
    split at parses
    · exact hasForm_of_parseAuthority parses has
    · exact hasForm_of_parseFile parses has
    · exact hasForm_of_parseAuthority parses has
    · cases parses
      cases has
  · cases parses

/-- The host of a URL that is no address of eight groups is written in plain characters. -/
theorem isPlain_of_parse {text : String} (parses : parse text = .ok url)
    (has : url.host = some host) (apart : host.isV6 = false) (member : char ∈ host.text.toList) :
    UrlHost.isPlain char = true := by
  obtain ⟨chars, special | general⟩ := hasForm_of_parse parses has
  · exact UrlHost.isPlain_of_parseSpecial special apart member
  · exact UrlHost.isPlain_of_parseOpaque general apart member

end Url

/-! ## Addresses of eight groups -/

namespace Ipv6

variable {char : Char}

/-- The characters that groups are written with. -/
def groupChars : List Char := "0123456789abcdef:".toList

/-- Groups are written in digits and colons. -/
theorem groupChars_of_mem_groupsText {groups : List UInt16}
    (member : char ∈ (groupsText groups).toList) : char ∈ groupChars := by
  have digits : ∀ digit < 16, Nat.digitChar digit ∈ groupChars := by decide
  rw [groupsText, String.toList_intercalate] at member
  obtain colon | ⟨part, among, inside⟩ := DomainName.mem_intercalate member
  · rw [List.mem_singleton.mp colon]
    decide
  · rw [List.map_map, List.mem_map] at among
    obtain ⟨group, -, rfl⟩ := among
    rw [Function.comp_apply, hexNumber, String.toList_ofList] at inside
    obtain ⟨digit, small, rfl⟩ := exists_digit_of_mem_toDigits (by decide) inside
    exact digits digit small

/-- Of parts with colons between them there is at most one more than there are colons. -/
theorem length_le_count_intercalate (parts : List (List Char)) :
    parts.length ≤ ([':'].intercalate parts).count ':' + 1 := by
  induction parts with
  | nil => exact Nat.zero_le _
  | cons part rest ih =>
    cases rest with
    | nil => exact Nat.le_add_left 1 _
    | cons next rest =>
      rw [List.intercalate_cons_cons, List.append_assoc, List.count_append, List.count_append,
        List.count_singleton_self, List.length_cons]
      omega

/-- An address in groups is written in digits and colons. -/
theorem groupChars_of_mem_text {address : Ipv6} (member : char ∈ address.text.toList) :
    char ∈ groupChars := by
  unfold text at member
  dsimp only at member
  split at member
  · rw [String.toList_append, String.toList_append, List.mem_append, List.mem_append] at member
    obtain (front | colons) | back := member
    · exact groupChars_of_mem_groupsText front
    · exact forall_mem_of_all (by decide) char colons
    · exact groupChars_of_mem_groupsText back
  · exact groupChars_of_mem_groupsText member

/-- An address in groups has two colons at least. -/
theorem two_le_count_text (address : Ipv6) : 2 ≤ address.text.toList.count ':' := by
  unfold text
  dsimp only
  split
  · rw [String.toList_append, String.toList_append, List.count_append, List.count_append]
    have colons : "::".toList.count ':' = 2 := by decide
    omega
  · rw [groupsText, String.toList_intercalate]
    have counted := length_le_count_intercalate
      ((address.groups.toList.map fun group => hexNumber group.toNat).map String.toList)
    rw [List.length_map, List.length_map, Vector.length_toList] at counted
    exact Nat.le_of_succ_le_succ (Nat.le_trans (by decide) counted)

end Ipv6

end CompactHttp
