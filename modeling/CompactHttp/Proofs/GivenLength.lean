import CompactHttp.Proofs.BodyRules

/-! # The length that a response gives

A response is made with the length of its body, and headers that are given for it are laid over
that. Names are told apart by their case in this map, but not when it is written, and then the last
of the entries wins. So a length that is given under the name in small letters replaces the
response's own one, as it should, and the headers arrive alike in whatever order they are gone
through (`Response.given_length`). Given in other letters it stands beside the own one: then the
order decides which of the two arrives (`Headers.Before`), and there are orders for either
(`Response.given_length_lost`).
-/

namespace CompactHttp

namespace Headers

variable {order headers : Headers} {first second : String × String}

/-- Whether an entry is gone through before another one. -/
def Before (order : Headers) (first second : String × String) : Prop :=
  ∃ front back, order.entries = front ++ second :: back ∧ first ∈ front

/-- Of two different entries one is gone through before the other. -/
theorem before_or_before (firstMember : first ∈ order.entries)
    (secondMember : second ∈ order.entries)
    (different : first ≠ second) : order.Before first second ∨ order.Before second first := by
  obtain ⟨front, back, split⟩ := List.append_of_mem secondMember
  rw [split, List.mem_append, List.mem_cons] at firstMember
  obtain earlier | same | later := firstMember
  · exact .inl ⟨front, back, split, earlier⟩
  · exact absurd same different
  · obtain ⟨between, behind, rfl⟩ := List.append_of_mem later
    refine .inr ⟨front ++ second :: between, behind, ?_, ?_⟩
    · rw [split, List.append_assoc, List.cons_append]
    · exact List.mem_append_right _ List.mem_cons_self

/-- Either of two entries may be gone through before the other. -/
theorem exists_before (firstMember : first ∈ headers.entries)
    (secondMember : second ∈ headers.entries) (different : first ≠ second) :
    ∃ order : Headers, order.Reordering headers ∧ order.Before first second := by
  have moved : headers.entries.Perm (first :: headers.entries.erase first) :=
    List.perm_cons_erase firstMember
  have distinct : ((first :: headers.entries.erase first).map Prod.fst).Nodup :=
    (moved.map Prod.fst).nodup_iff.mp headers.distinct
  refine ⟨⟨first :: headers.entries.erase first, distinct⟩, moved.symm, ?_⟩
  have later : second ∈ headers.entries.erase first :=
    (List.mem_erase_of_ne different.symm).mpr secondMember
  obtain ⟨front, back, split⟩ := List.append_of_mem later
  exact ⟨first :: front, back, congrArg (first :: ·) split, List.mem_cons_self⟩

/-- The last entry of a name gives its value. -/
theorem get?_ofList_of_last {before after : List (String × String)} {name value : String}
    (last : ∀ entry ∈ after, entry.1 ≠ name) :
    (ofList (before ++ (name, value) :: after)).get? name = some value := by
  have later : after.reverse.lookup name = none :=
    List.lookup_eq_none_iff.mpr fun entry member =>
      bne_iff_ne.mpr (last entry (List.mem_reverse.mp member)).symm
  rw [ofList, get?_overlay, List.reverse_append, List.reverse_cons, List.append_assoc,
    List.lookup_append, later, List.singleton_append, List.lookup_cons, beq_self_eq_true]
  rfl

/-- Where a name has one value only, this is the value that its entries make. -/
theorem get?_ofList_eq_some_iff {entries : List (String × String)} {name : String}
    (single : ∀ value other, (name, value) ∈ entries → (name, other) ∈ entries → value = other)
    (value : String) : (ofList entries).get? name = some value ↔ (name, value) ∈ entries := by
  refine ⟨mem_of_get?_ofList, fun member => ?_⟩
  obtain ⟨last, found⟩ := exists_get?_ofList member
  rw [found, single last value (mem_of_get?_ofList found) member]

/-- Of two entries of one name in small letters the one behind gives its value, if there are no
more of this name. -/
theorem get?_ofList_lowerEntries_of_before {name : String} (before : order.Before first second)
    (lowered : lowercase second.1 = name)
    (both : ∀ entry ∈ order.entries, lowercase entry.1 = name → entry = first ∨ entry = second) :
    (ofList order.lowerEntries).get? name = some second.2 := by
  obtain ⟨front, back, split, earlier⟩ := before
  have once : (front ++ second :: back).Nodup := split ▸ order.distinct.of_map
  obtain ⟨-, behind, apart⟩ := List.nodup_append.mp once
  have last : ∀ entry ∈ back, lowercase entry.1 ≠ name := by
    intro entry member same
    have listed : entry ∈ order.entries :=
      split ▸ List.mem_append_right _ (List.mem_cons_of_mem _ member)
    obtain rfl | rfl := both entry listed same
    · exact apart entry earlier entry (List.mem_cons_of_mem _ member) rfl
    · exact (List.nodup_cons.mp behind).1 member
  rw [lowerEntries, split, List.map_append, List.map_cons, lowered]
  apply get?_ofList_of_last
  intro entry member
  obtain ⟨given, givenMember, rfl⟩ := List.mem_map.mp member
  exact last given givenMember

/-- In small letters each name has one value only. -/
theorem DistinctLowered.single (distinct : headers.DistinctLowered) {name value other : String}
    (member : (name, value) ∈ headers.lowerEntries) (again : (name, other) ∈ headers.lowerEntries) :
    value = other :=
  congrArg Prod.snd (List.inj_on_of_nodup_map distinct member again rfl)

/-- What is found is the value of the name in some letters. -/
theorem exists_mem_of_find? {name value : String} (found : headers.find? name = some value) :
    ∃ entry ∈ headers.entries, sameName entry.1 name = true ∧ entry.2 = value := by
  unfold find? at found
  split at found
  · next exact =>
    cases found
    exact ⟨_, (get?_eq_some_iff headers name value).mp exact, beq_self_eq_true _, rfl⟩
  · obtain ⟨entry, scanned, rfl⟩ := Option.map_eq_some_iff.mp found
    refine ⟨entry, List.mem_of_find?_eq_some scanned, ?_, rfl⟩
    simpa using List.find?_some scanned

/-- A name in small letters of ASCII arrives with the value that is found for it in any letters. -/
theorem DistinctLowered.get?_ofList_lowerEntries (distinct : headers.DistinctLowered)
    {small : String} (plain : ∀ char ∈ small.toList, Lowercase.isPlain char = true)
    (ascii : ∀ char ∈ small.toList, char.toNat < 128 ∧ char ≠ 'k') :
    (ofList headers.lowerEntries).get? small = headers.find? small := by
  have mentioned := isSome_get?_ofList_lowerEntries (.refl headers) plain ascii
  rw [← isSome_find?] at mentioned
  cases found : headers.find? small with
  | none =>
    rw [found] at mentioned
    exact Option.isNone_iff_eq_none.mp (Option.isSome_eq_false_iff.mp mentioned)
  | some value =>
    obtain ⟨entry, member, same, rfl⟩ := exists_mem_of_find? found
    refine (get?_ofList_eq_some_iff (fun _ _ => distinct.single) entry.2).mpr ?_
    rw [← lowercase_of_sameName same plain]
    exact List.mem_map_of_mem member

end Headers

namespace Response

open Headers

variable {status : UInt16} {body : Bytes} {headers order : Headers}

/-- The length that a response has of itself. -/
def ownLength (body : Bytes) : String × String := ("content-length", toString body.length)

/-- The headers that are given are laid over the length of the body. -/
theorem get?_headers_new (status : UInt16) (body : Bytes) (headers : Headers) (name : String) :
    (new status body headers).headers.get? name = (headers.get? name).or
      (if name = "content-length" then some (toString body.length) else none) := by
  rw [new, get?_overlay_entries, get?_insert]
  rfl

/-- A response has the headers that are given for it, and its own length if none is given under the
name in small letters. -/
theorem mem_headers_new (status : UInt16) (body : Bytes) (headers : Headers)
    (entry : String × String) : entry ∈ (new status body headers).headers.entries ↔
      entry ∈ headers.entries ∨ headers.get? "content-length" = none ∧ entry = ownLength body := by
  obtain ⟨name, value⟩ := entry
  rw [← get?_eq_some_iff, ← get?_eq_some_iff, get?_headers_new, Option.or_eq_some_iff, ownLength,
    Prod.mk.injEq]
  by_cases here : name = "content-length"
  · subst here
    simp only [↓reduceIte, Option.some.injEq, true_and, eq_comm]
  · simp only [here, ↓reduceIte, reduceCtorEq, and_false, false_and]

theorem lowercase_contentLength : lowercase "content-length" = "content-length" :=
  lowercase_of_plain (by decide)

/-- What arrives if a response is made of headers in small letters, in whatever order they are gone
through. -/
def arriving (status : UInt16) (body : Bytes) (headers : Headers) : Headers :=
  (new status body (.ofList headers.lowerEntries)).headers

section Arriving

variable (distinct : headers.DistinctLowered)
  (reordered : order.Reordering (new status body headers).headers)

include distinct

/-- The length that should arrive is the one that is given, in whatever letters, or else that of
the body. -/
theorem get?_arriving_contentLength (status : UInt16) (body : Bytes) :
    (arriving status body headers).get? "content-length" =
      some ((headers.find? "content-length").getD (toString body.length)) := by
  rw [arriving, get?_headers_new, if_pos rfl,
    distinct.get?_ofList_lowerEntries Request.contentLength_isPlain Request.contentLength_ascii]
  cases headers.find? "content-length" <;> rfl

include reordered

/-- Every other header arrives as it was given. -/
theorem get?_arrived_of_ne {name : String} (other : name ≠ "content-length") :
    (ofList order.lowerEntries).get? name = (arriving status body headers).get? name := by
  have same (value : String) :
      (name, value) ∈ order.lowerEntries ↔ (name, value) ∈ headers.lowerEntries := by
    rw [reordered.lowerEntries.mem_iff, lowerEntries, lowerEntries, List.mem_map, List.mem_map]
    refine exists_congr fun entry => and_congr_left fun lowered => ?_
    rw [mem_headers_new, or_iff_left]
    rintro ⟨-, rfl⟩
    exact other ((congrArg Prod.fst lowered).symm.trans lowercase_contentLength)
  rw [arriving, get?_headers_new, if_neg other, Option.or_none]
  apply Option.ext
  intro value
  rw [get?_ofList_eq_some_iff fun _ _ member again =>
      distinct.single ((same _).mp member) ((same _).mp again),
    get?_ofList_eq_some_iff fun _ _ => distinct.single, same]

/-- The length that arrives is all that can be wrong. -/
theorem reordering_insert_arriving {length : String}
    (arrived : (ofList order.lowerEntries).get? "content-length" = some length) :
    (ofList order.lowerEntries).Reordering
      ((arriving status body headers).insert "content-length" length) := by
  rw [reordering_iff_get?]
  intro name
  rw [get?_insert]
  split
  · next here => rw [here, arrived]
  · next other => exact get?_arrived_of_ne distinct reordered other

/-- What arrives is the headers that are given, with the length that was found there. -/
theorem reordering_arriving (arrived : (ofList order.lowerEntries).get? "content-length" =
      some ((headers.find? "content-length").getD (toString body.length))) :
    (ofList order.lowerEntries).Reordering (arriving status body headers) := by
  rw [reordering_iff_get?]
  intro name
  by_cases here : name = "content-length"
  · rw [here, arrived, get?_arriving_contentLength distinct]
  · exact get?_arrived_of_ne distinct reordered here

end Arriving

/-! ## The length in small letters and in others -/

/-- A length is given under the name in letters that are not all small. -/
def GivenInCapitals (headers : Headers) (given : String × String) : Prop :=
  given ∈ headers.entries ∧ lowercase given.1 = "content-length" ∧ given.1 ≠ "content-length"

/-- A length that is not given in capitals is found under its own name. -/
theorem find?_contentLength_of_small (small : ∀ given, ¬GivenInCapitals headers given) :
    headers.find? "content-length" = headers.get? "content-length" := by
  match found : headers.find? "content-length" with
  | none =>
    match exact : headers.get? "content-length" with
    | none => rfl
    | some value => simp only [find?, exact, reduceCtorEq] at found
  | some value =>
    obtain ⟨entry, member, same, rfl⟩ := exists_mem_of_find? found
    have lowered := lowercase_of_sameName same Request.contentLength_isPlain
    have named : entry.1 = "content-length" :=
      Decidable.not_not.mp fun capital => small entry ⟨member, lowered, capital⟩
    rw [← named]
    exact ((get?_eq_some_iff headers entry.1 entry.2).mpr member).symm

/-- A length that is given in small letters, or not at all, arrives as it should. -/
theorem arrived_of_small (small : ∀ given, ¬GivenInCapitals headers given)
    (reordered : order.Reordering (new status body headers).headers) :
    (ofList order.lowerEntries).get? "content-length" =
      some ((headers.find? "content-length").getD (toString body.length)) := by
  apply Headers.get?_ofList_lowerEntries
  · rw [reordering_iff_get?.mp reordered, get?_headers_new, if_pos rfl,
      find?_contentLength_of_small small]
    cases headers.get? "content-length" <;> rfl
  · exact lowercase_contentLength
  · intro entry member lowered
    obtain given | ⟨-, rfl⟩ := (mem_headers_new ..).mp (reordered.mem_iff.mp member)
    · exact Decidable.not_not.mp fun capital => small entry ⟨given, lowered, capital⟩
    · rfl

section Capitals

variable {given : String × String} (distinct : headers.DistinctLowered)
  (capital : GivenInCapitals headers given)

include distinct capital

/-- A length in other letters is the only one that is given. -/
theorem eq_of_givenInCapitals {entry : String × String} (member : entry ∈ headers.entries)
    (lowered : lowercase entry.1 = "content-length") : entry = given := by
  have distinctNames : (headers.entries.map fun entry => lowercase entry.1).Nodup := by
    have names := distinct
    unfold DistinctLowered lowerEntries at names
    rwa [List.map_map] at names
  exact List.inj_on_of_nodup_map distinctNames member capital.1
    (lowered.trans capital.2.1.symm)

/-- A length that is given in capitals is found as the length that is given. -/
theorem find?_of_givenInCapitals : headers.find? "content-length" = some given.2 := by
  rw [← distinct.get?_ofList_lowerEntries Request.contentLength_isPlain
    Request.contentLength_ascii, get?_ofList_eq_some_iff fun _ _ => distinct.single,
    ← capital.2.1]
  exact List.mem_map_of_mem capital.1

/-- Then the response has both lengths, and no third one. -/
theorem both_of_givenInCapitals (status : UInt16) (body : Bytes) :
    ownLength body ∈ (new status body headers).headers.entries ∧
      given ∈ (new status body headers).headers.entries ∧
      ∀ entry ∈ (new status body headers).headers.entries,
        lowercase entry.1 = "content-length" → entry = ownLength body ∨ entry = given := by
  have absent : headers.get? "content-length" = none := by
    refine Option.eq_none_iff_forall_ne_some.mpr fun value stored => ?_
    have member := (get?_eq_some_iff headers _ value).mp stored
    have same := eq_of_givenInCapitals distinct capital member lowercase_contentLength
    exact capital.2.2 (congrArg Prod.fst same.symm)
  refine ⟨(mem_headers_new ..).mpr (.inr ⟨absent, rfl⟩),
    (mem_headers_new ..).mpr (.inl capital.1), fun entry member lowered => ?_⟩
  obtain listed | ⟨-, own⟩ := (mem_headers_new ..).mp member
  · exact .inr (eq_of_givenInCapitals distinct capital listed lowered)
  · exact .inl own

omit distinct in
/-- The length of the body is another entry than the one in capitals. -/
theorem ownLength_ne_of_givenInCapitals (body : Bytes) : ownLength body ≠ given :=
  fun same => capital.2.2 (congrArg Prod.fst same.symm)

end Capitals

/-- A response is read with the headers that are given for it, and with its own length if none is
given. A length that is given under the name in small letters replaces the own one in every order.
One that is given in other letters does so only if it is gone through behind the own one, and in
the other orders the own one arrives; there are orders of both kinds. -/
theorem given_length (status : UInt16) (body : Bytes) {headers : Headers}
    (distinct : headers.DistinctLowered) :
    (arriving status body headers).get? "content-length" =
      some ((headers.find? "content-length").getD (toString body.length)) ∧
    (∀ order : Headers, order.Reordering (new status body headers).headers →
      Addressable ((new status body headers).encodeIn order) →
      ∃ read, decode ((new status body headers).encodeIn order) = .ok read ∧
        ((∀ given, ¬GivenInCapitals headers given) →
          read.headers.Reordering (arriving status body headers)) ∧
        ∀ given, GivenInCapitals headers given →
          order.Before (ownLength body) given ∧
              read.headers.Reordering (arriving status body headers) ∨
            order.Before given (ownLength body) ∧ read.headers.Reordering
              ((arriving status body headers).insert "content-length" (toString body.length))) ∧
    ∀ given, GivenInCapitals headers given →
      (∃ order : Headers, order.Reordering (new status body headers).headers ∧
        order.Before (ownLength body) given) ∧
      ∃ order : Headers, order.Reordering (new status body headers).headers ∧
        order.Before given (ownLength body) := by
  refine ⟨get?_arriving_contentLength distinct status body, ?_, ?_⟩
  · intro order reordered addressable
    have whole := decode_encode_append addressable []
    rw [List.append_nil] at whole
    refine ⟨_, whole, fun small => ?_, fun given capital => ?_⟩
    · exact reordering_arriving distinct reordered (arrived_of_small small reordered)
    · obtain ⟨own, listed, both⟩ := both_of_givenInCapitals distinct capital status body
      have inOrder := fun entry => (reordered.mem_iff (a := entry)).mp
      obtain before | before := before_or_before (reordered.mem_iff.mpr own)
        (reordered.mem_iff.mpr listed) (ownLength_ne_of_givenInCapitals capital body)
      · refine .inl ⟨before, reordering_arriving distinct reordered ?_⟩
        rw [find?_of_givenInCapitals distinct capital]
        exact get?_ofList_lowerEntries_of_before before capital.2.1
          fun entry member => both entry (inOrder entry member)
      · refine .inr ⟨before, reordering_insert_arriving distinct reordered ?_⟩
        exact get?_ofList_lowerEntries_of_before before lowercase_contentLength
          fun entry member lowered => (both entry (inOrder entry member) lowered).symm
  · intro given capital
    obtain ⟨own, listed, -⟩ := both_of_givenInCapitals distinct capital status body
    have different := ownLength_ne_of_givenInCapitals capital body
    exact ⟨exists_before own listed different, exists_before listed own different.symm⟩

/-- A length that is given in small letters arrives, whatever the body and the order of the headers.
-/
theorem given_length_sample :
    let headers : Headers := .ofList [("content-length", "9"), ("X", "b")]
    headers.DistinctLowered ∧ ∃ read,
      decode ((new 200 [1] headers).encodeIn (.ofList [("X", "b"), ("content-length", "9")])) =
        .ok read ∧
      read.headers.get? "content-length" = some "9" := by
  intro headers
  have distinct : headers.DistinctLowered := by decide +kernel
  have swapped : Headers.Reordering (.ofList [("X", "b"), ("content-length", "9")])
      (new 200 [1] headers).headers := by
    unfold Headers.Reordering
    decide +kernel
  have names : ∀ given ∈ headers.entries, lowercase given.1 = "content-length" →
      given.1 = "content-length" := by
    decide +kernel
  obtain ⟨right, arrives, -⟩ := given_length 200 [1] distinct
  obtain ⟨read, whole, small, -⟩ := arrives _ swapped (by unfold Addressable; decide +kernel)
  refine ⟨distinct, read, whole, ?_⟩
  have same := small fun given capital => capital.2.2 (names given capital.1 capital.2.1)
  rw [reordering_iff_get?.mp same, right]
  decide +kernel

/-- A length in capitals loses against the own length in one of the two orders that there are, and
whenever the response is asked before it is sent. -/
theorem given_length_lost :
    let response := new 200 (Utf8.encode "hello") (.ofList [("Content-Length", "99")])
    let behind : Headers := .ofList [("content-length", "5"), ("Content-Length", "99")]
    let before : Headers := .ofList [("Content-Length", "99"), ("content-length", "5")]
    Headers.DistinctLowered (.ofList [("Content-Length", "99")]) ∧
    behind.Reordering response.headers ∧ before.Reordering response.headers ∧
    decode (response.encodeIn behind) =
      .ok ⟨0, 200, .ofList [("content-length", "99")], Utf8.encode "hello"⟩ ∧
    decode (response.encodeIn before) =
      .ok ⟨0, 200, .ofList [("content-length", "5")], Utf8.encode "hello"⟩ ∧
    response.header? "content-length" = some "5" := by
  unfold Headers.Reordering
  decide +kernel

end Response

end CompactHttp
