import CompactHttp.Proofs.Lowercase
import CompactHttp.Proofs.RoundTrip

/-! # Names in small letters

The headers of a message that has been read have their names in small letters
(`Response.smallNames_of_decode`). Of such headers one that has a name in some mixture of capitals
and small letters has the name itself (`Headers.SmallNames.eq_of_sameName`), and headers that are
sent so arrive with all their values.
-/

namespace CompactHttp

namespace Lowercase

/-- In ASCII the small letter is that of the library. -/
theorem letter_ascii : ∀ code < 128, letter (Char.ofNat code) = (Char.ofNat code).toLower := by
  decide +kernel

/-- In ASCII small letters are those of the rules of ASCII. -/
theorem letter_eq_toLower {char : Char} (ascii : char.toNat < 128) :
    letter char = char.toLower := by
  have same := letter_ascii char.toNat ascii
  rwa [Char.ofNat_toNat] at same

/-- A character that stays as it is in small letters is no ASCII capital. -/
theorem IsSmall.toLower {char : Char} (small : IsSmall char) : char.toLower = char := by
  by_cases ascii : char.toNat < 128
  · rw [← letter_eq_toLower ascii, small.2.2]
  · refine dif_neg fun capital => ascii ?_
    exact Nat.lt_of_le_of_lt capital.2 (by decide)

/-- Whether a character is one of ASCII and no capital. -/
def isPlain (char : Char) : Bool :=
  char.toNat < 128 && (char.toNat < 65 || 90 < char.toNat)

/-- Plain characters are small letters already. -/
theorem isSmall_of_isPlain {char : Char} (plain : isPlain char = true) : IsSmall char := by
  unfold isPlain at plain
  simp only [Bool.and_eq_true, Bool.or_eq_true, decide_eq_true_eq] at plain
  obtain ⟨ascii, noCapital⟩ := plain
  refine ⟨?_, ?_, ?_⟩
  · rintro rfl
    revert ascii
    decide
  · rintro rfl
    revert ascii
    decide
  · rw [letter_eq_toLower ascii]
    refine dif_neg fun capital => ?_
    have above : 65 ≤ char.toNat := capital.1
    have below : char.toNat ≤ 90 := capital.2
    omega

/-- Nothing but ASCII becomes ASCII by the rules of ASCII. -/
theorem ascii_of_toLower {char : Char} (ascii : char.toLower.toNat < 128) : char.toNat < 128 := by
  by_contra beyond
  have same : char.toLower = char :=
    dif_neg fun capital => beyond (Nat.lt_of_le_of_lt capital.2 (by decide))
  rw [same] at ascii
  exact beyond ascii

/-- A text of ASCII has the small letters of the rules of ASCII. -/
theorem lettersFrom_of_ascii (before : List Char) {chars : List Char}
    (ascii : ∀ char ∈ chars, char.toNat < 128) :
    lettersFrom before chars = chars.map Char.toLower := by
  induction chars generalizing before with
  | nil => rfl
  | cons first rest ih =>
    rw [List.forall_mem_cons] at ascii
    obtain ⟨small, split, cases⟩ := lettersFrom_cons_cases before first rest
    rw [split, ih (first :: before) ascii.2, List.map_cons]
    obtain ⟨rfl, -⟩ | ⟨rfl, -⟩ | ⟨-, -, rfl⟩ := cases
    · exact absurd ascii.1 (by decide)
    · exact absurd ascii.1 (by decide)
    · rw [letter_eq_toLower ascii.1]
      rfl

/-- Of the capitals beyond ASCII only the sign for kelvin has a small letter in it. -/
theorem small_beyond_ascii : ∀ run ∈ CaseTable.capitals, run.last < 128 ∨ 128 ≤ run.lower ∨
    run.first = run.last ∧ run.lower = 'k'.toNat := by
  decide +kernel

/-- A small letter of ASCII other than k is that of its capital by the rules of ASCII. -/
theorem toLower_of_letter {char : Char} (ascii : (letter char).toNat < 128)
    (noKelvin : letter char ≠ 'k') : char.toLower = letter char := by
  by_cases inside : char.toNat < 128
  · exact (letter_eq_toLower inside).symm
  · match found : run? char.toNat with
    | none =>
      have same : letter char = char := by rw [letter, found]
      rw [same] at ascii
      exact absurd ascii inside
    | some run =>
      have small : letter char = Char.ofNat (run.lower + (char.toNat - run.first)) := by
        simp only [letter, found]
      obtain ⟨member, above, below, -⟩ := run?_eq_some found
      rw [small, (toNat_small found).1] at ascii
      obtain within | beyond | ⟨single, kelvin⟩ := small_beyond_ascii run member
      · omega
      · omega
      · have here : char.toNat - run.first = 0 := by omega
        rw [here, kelvin] at small
        exact absurd small noKelvin

/-- Where small letters are all of ASCII, and none is a k, every capital was one of ASCII. -/
theorem map_toLower_of_lettersFrom {before chars : List Char}
    (ascii : ∀ small ∈ lettersFrom before chars, small.toNat < 128 ∧ small ≠ 'k') :
    chars.map Char.toLower = lettersFrom before chars := by
  induction chars generalizing before with
  | nil => rfl
  | cons first rest ih =>
    have split := lettersFrom_cons_of_ascii fun small member => (ascii small member).1
    rw [split, List.forall_mem_cons] at ascii
    obtain ⟨⟨small, noKelvin⟩, later⟩ := ascii
    rw [split, List.map_cons, toLower_of_letter small noKelvin, ih later]

end Lowercase

/-- A text of ASCII characters without capitals is its own small letters. -/
theorem lowercase_of_plain {text : String} (plain : text.toList.all Lowercase.isPlain = true) :
    lowercase text = text := by
  rw [lowercase, Lowercase.lettersFrom_of_isSmall [], String.ofList_toList]
  intro char inside
  exact Lowercase.isSmall_of_isPlain (List.all_eq_true.mp plain char inside)

/-- A text in small letters stays as it is, by the library as well. -/
theorem toLower_of_lowercase {text : String} (small : lowercase text = text) :
    text.toLower = text := by
  have letters : ∀ char ∈ text.toList, char.toLower = char := by
    intro char member
    rw [← small, lowercase, String.toList_ofList] at member
    exact (Lowercase.isSmall_of_mem_lettersFrom member).toLower
  apply String.toList_injective
  change (text.map Char.toLower).toList = text.toList
  rw [String.toList_map, List.map_congr_left letters, List.map_id']

namespace Headers

/-- A name whose small letters are all of ASCII, and none a k, differs from them in no more than
the case of ASCII letters. -/
theorem sameName_of_lowercase {name small : String} (same : lowercase name = small)
    (ascii : ∀ char ∈ small.toList, char.toNat < 128 ∧ char ≠ 'k') :
    sameName name small = true := by
  have letters : Lowercase.lettersFrom [] name.toList = small.toList := by
    rw [← same, lowercase, String.toList_ofList]
  have lowered : name.toLower = small := by
    apply String.toList_injective
    change (name.map Char.toLower).toList = small.toList
    rw [String.toList_map, Lowercase.map_toLower_of_lettersFrom (letters ▸ ascii), letters]
  have stays : small.toLower = small := toLower_of_lowercase (same ▸ lowercase_lowercase name)
  rw [sameName, lowered, stays, beq_self_eq_true]

/-- A name that differs from one in small letters of ASCII in no more than the case of ASCII letters
has it as its small letters. -/
theorem lowercase_of_sameName {name small : String} (same : sameName name small = true)
    (plain : ∀ char ∈ small.toList, Lowercase.isPlain char = true) : lowercase name = small := by
  have stays : lowercase small = small := lowercase_of_plain (List.all_eq_true.mpr plain)
  rw [sameName, beq_iff_eq, toLower_of_lowercase stays] at same
  have letters : name.toList.map Char.toLower = small.toList := by
    rw [← same]
    exact (String.toList_map ..).symm
  have ascii : ∀ char ∈ name.toList, char.toNat < 128 := by
    intro char member
    have lowered : char.toLower ∈ small.toList := letters ▸ List.mem_map_of_mem member
    have within := plain _ lowered
    unfold Lowercase.isPlain at within
    rw [Bool.and_eq_true, decide_eq_true_eq] at within
    exact Lowercase.ascii_of_toLower within.1
  rw [lowercase, Lowercase.lettersFrom_of_ascii [] ascii, letters, String.ofList_toList]

/-- Whether all names are in small letters. -/
def SmallNames (headers : Headers) : Prop :=
  ∀ name ∈ headers.entries.map Prod.fst, lowercase name = name

instance (headers : Headers) : Decidable headers.SmallNames :=
  inferInstanceAs (Decidable (∀ name ∈ headers.entries.map Prod.fst, lowercase name = name))

variable {order headers : Headers}

/-- A name in small letters that is inserted leaves all of them so. -/
theorem SmallNames.insert {name value : String} (small : headers.SmallNames)
    (isSmall : lowercase name = name) : (headers.insert name value).SmallNames := by
  intro other member
  rw [Headers.insert, names_put] at member
  split at member
  · exact small other member
  · rw [List.mem_append, List.mem_singleton] at member
    obtain old | rfl := member
    · exact small other old
    · exact isSmall

/-- Small names stay small in any order. -/
theorem SmallNames.of_reordering (small : headers.SmallNames)
    (reordered : order.Reordering headers) : order.SmallNames := by
  intro name member
  exact small name ((reordered.map Prod.fst).mem_iff.mp member)

/-- Headers in small letters are read as they were written. -/
theorem SmallNames.ofList_lowerEntries (small : order.SmallNames) :
    ofList order.lowerEntries = order := by
  have same : order.lowerEntries = order.entries.map id := by
    apply List.map_congr_left
    intro entry member
    rw [small entry.1 (List.mem_map_of_mem member)]
    rfl
  rw [List.map_id] at same
  have kept : (ofList order.lowerEntries).entries = order.entries := by
    rw [same, entries_ofList order.distinct]
  cases order
  cases read : ofList _
  rw [read] at kept
  cases kept
  rfl

/-- A value arrives under a name in small letters if no other name becomes that one. -/
theorem get?_ofList_lowerEntries {name value : String} (found : order.get? name = some value)
    (small : lowercase name = name)
    (alone : ∀ entry ∈ order.entries, lowercase entry.1 = name → entry.1 = name) :
    (ofList order.lowerEntries).get? name = some value := by
  have sent : (name, value) ∈ order.lowerEntries := by
    refine List.mem_map.mpr ⟨(name, value), (get?_eq_some_iff order name value).mp found, ?_⟩
    rw [small]
  obtain ⟨other, arrived⟩ := exists_get?_ofList sent
  obtain ⟨entry, member, same⟩ := List.mem_map.mp (mem_of_get?_ofList arrived)
  obtain ⟨lowered, same⟩ := Prod.mk.inj same
  have held := (get?_eq_some_iff order entry.1 entry.2).mpr member
  rw [alone entry member lowered, found, same] at held
  rw [arrived, held]

/-- A name of ASCII arrives in small letters exactly if it was mentioned. -/
theorem isSome_get?_ofList_lowerEntries {small : String} (reordered : order.Reordering headers)
    (plain : ∀ char ∈ small.toList, Lowercase.isPlain char = true)
    (ascii : ∀ char ∈ small.toList, char.toNat < 128 ∧ char ≠ 'k') :
    ((ofList order.lowerEntries).get? small).isSome = headers.mentions small := by
  rw [Bool.eq_iff_iff, Option.isSome_iff_exists, mentions_eq_true_iff]
  constructor
  · rintro ⟨value, found⟩
    obtain ⟨entry, member, same⟩ := List.mem_map.mp (mem_of_get?_ofList found)
    exact ⟨entry, reordered.mem_iff.mp member,
      sameName_of_lowercase (Prod.mk.inj same).1 ascii⟩
  · rintro ⟨entry, member, same⟩
    have sent : (small, entry.2) ∈ order.lowerEntries := by
      refine List.mem_map.mpr ⟨entry, reordered.mem_iff.mpr member, ?_⟩
      rw [lowercase_of_sameName same plain]
    exact exists_get?_ofList sent

/-- What is kept of small names is small. -/
theorem SmallNames.keep (small : headers.SmallNames) (test : String → Bool) :
    (headers.keep test).SmallNames := by
  intro name member
  rw [List.mem_map] at member
  obtain ⟨entry, kept, rfl⟩ := member
  exact small entry.1 (List.mem_map_of_mem (List.mem_filter.mp kept).1)

/-- Small names over small names are small. -/
theorem smallNames_overlay {entries : List (String × String)} (small : headers.SmallNames)
    (others : ∀ entry ∈ entries, lowercase entry.1 = entry.1) :
    (headers.overlay entries).SmallNames := by
  induction entries generalizing headers with
  | nil => exact small
  | cons entry rest ih =>
    apply ih (small.insert (others entry List.mem_cons_self))
    intro other member
    exact others other (List.mem_cons_of_mem entry member)

/-- In headers with small names a name in capitals is found by its small letters. -/
theorem SmallNames.eq_of_sameName {name other : String} (small : headers.SmallNames)
    (member : name ∈ headers.entries.map Prod.fst) (isSmall : lowercase other = other)
    (same : sameName name other = true) : name = other := by
  rw [sameName, beq_iff_eq, toLower_of_lowercase (small name member),
    toLower_of_lowercase isSmall] at same
  exact same

end Headers

namespace HeaderBlock

variable {table : HeaderTable}

/-- A header that is read has its name in small letters. -/
theorem lowercase_of_entryAt {data rest : Bytes} {entry : String × String}
    (rows : ∀ row ∈ table, lowercase row.name = row.name)
    (here : EntryAt table data entry rest) : lowercase entry.1 = entry.1 := by
  cases here with
  | @full _ row _ _ _ found _ => exact rows row (List.mem_of_find?_eq_some found)
  | @named _ row _ _ _ _ found _ _ => exact rows row (List.mem_of_find?_eq_some found)
  | @custom name _ _ _ _ _ _ => exact lowercase_lowercase name

theorem lowercase_of_decodeEntries {block : Bytes} {entries : List (String × String)}
    (rows : ∀ row ∈ table, lowercase row.name = row.name)
    (read : decodeEntries table block = .ok entries) :
    ∀ entry ∈ entries, lowercase entry.1 = entry.1 := by
  have listed := entriesAt_of_decodeEntries read
  clear read
  induction listed with
  | nil => exact fun _ member => nomatch member
  | cons first _ ih =>
    rw [List.forall_mem_cons]
    exact ⟨lowercase_of_entryAt rows first, ih⟩

theorem smallNames_of_decode {block : Bytes} {headers : Headers}
    (rows : ∀ row ∈ table, lowercase row.name = row.name)
    (read : decode table block = .ok headers) : headers.SmallNames := by
  obtain ⟨entries, listed, rfl⟩ := map_eq_ok_iff.mp read
  exact Headers.smallNames_overlay (fun _ member => nomatch member)
    (lowercase_of_decodeEntries rows listed)

end HeaderBlock

namespace HeaderTable

/-- Names of ASCII characters without capitals are in small letters. -/
theorem lowercase_of_isPlain {table : HeaderTable}
    (plain : (table.all fun row => row.name.toList.all Lowercase.isPlain) = true) :
    ∀ row ∈ table, lowercase row.name = row.name := by
  intro row member
  exact lowercase_of_plain (List.all_eq_true.mp plain row member)

/-- The names of the table of requests are in small letters. -/
theorem lowercase_request : ∀ row ∈ request, lowercase row.name = row.name :=
  lowercase_of_isPlain (by decide +kernel)

theorem lowercase_response : ∀ row ∈ response, lowercase row.name = row.name :=
  lowercase_of_isPlain (by decide +kernel)

end HeaderTable

namespace Response

variable {data : Bytes} {response : Response}

/-- A response is read from a block of headers and a body that is part of the message. -/
theorem exists_of_decode (read : decode data = .ok response) :
    response.body.length ≤ data.length ∧
      ∃ block, HeaderBlock.decode .response block = .ok response.headers := by
  obtain ⟨⟨message, rest⟩, front, rfl⟩ := map_eq_ok_iff.mp read
  match data with
  | [] => cases front
  | first :: tail =>
    obtain ⟨⟨block, behind⟩, blockRead, front⟩ := bind_eq_ok_iff.mp front
    obtain ⟨headers, headersRead, front⟩ := bind_eq_ok_iff.mp front
    obtain ⟨⟨body, left⟩, bodyRead, front⟩ := bind_eq_ok_iff.mp front
    cases front
    have blockShort := Varint.decode_shortens ((takePart_eq_ok_iff _).mp blockRead)
    have bodyShort := Varint.decode_shortens ((takePart_eq_ok_iff _).mp bodyRead)
    rw [List.length_append] at blockShort bodyShort
    refine ⟨?_, block, headersRead⟩
    rw [List.length_cons]
    dsimp only
    omega

/-- The headers of a response that is read have small names. -/
theorem smallNames_of_decode (read : decode data = .ok response) :
    response.headers.SmallNames := by
  obtain ⟨-, block, headersRead⟩ := exists_of_decode read
  exact HeaderBlock.smallNames_of_decode HeaderTable.lowercase_response headersRead

end Response

end CompactHttp
