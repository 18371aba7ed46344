import CompactHttp.Headers
import Mathlib.Data.List.Nodup

/-! # Header maps up to order

Nothing about a header map may depend on the order of its entries. Two maps that differ
only in that order (`Headers.Reordering`) are the maps with the same value for every name
(`Headers.reordering_iff_get?`), so a change to a map is known by what it does to look-ups.
Entries whose names are distinct already are the entries of the map they make
(`Headers.entries_ofList`), and laying entries over a map one by one is laying the map that they
make over it (`Headers.overlay_ofList`).
-/

namespace CompactHttp

namespace Headers

/-- The same headers, in whatever order they are gone through. -/
def Reordering (order headers : Headers) : Prop := order.entries.Perm headers.entries

theorem Reordering.refl (headers : Headers) : headers.Reordering headers := List.Perm.refl _

/-- The entries with their names in small letters. -/
def lowerEntries (headers : Headers) : List (String × String) :=
  headers.entries.map fun entry => (lowercase entry.1, entry.2)

/-- No two names are the same in small letters. -/
def DistinctLowered (headers : Headers) : Prop := (headers.lowerEntries.map Prod.fst).Nodup

instance (headers : Headers) : Decidable headers.DistinctLowered :=
  inferInstanceAs (Decidable (List.Nodup _))

variable {order headers : Headers}

/-- An order of headers is one of their entries in small letters. -/
theorem Reordering.lowerEntries (same : order.Reordering headers) :
    order.lowerEntries.Perm headers.lowerEntries :=
  List.Perm.map _ same

/-- Whether small letters keep names apart does not depend on the order. -/
theorem Reordering.distinctLowered (same : order.Reordering headers)
    (distinct : headers.DistinctLowered) : order.DistinctLowered :=
  (same.lowerEntries.map Prod.fst).nodup_iff.mpr distinct

/-- The value of a name is that of its entry. -/
theorem get?_eq_some_iff (headers : Headers) (name value : String) :
    headers.get? name = some value ↔ (name, value) ∈ headers.entries := by
  unfold get?
  rw [List.lookup_eq_some_iff]
  constructor
  · rintro ⟨before, after, split, -⟩
    rw [split]
    exact List.mem_append_right _ List.mem_cons_self
  · intro member
    obtain ⟨before, after, split⟩ := List.append_of_mem member
    refine ⟨before, after, split, fun entry earlier => ?_⟩
    have distinct := headers.distinct
    rw [split, List.map_append, List.nodup_append] at distinct
    have different := distinct.2.2 entry.1 (List.mem_map_of_mem earlier) name List.mem_cons_self
    exact bne_iff_ne.mpr different.symm

/-- A header map is its values: two maps with the same values differ in order only. -/
theorem reordering_iff_get? :
    order.Reordering headers ↔ ∀ name, order.get? name = headers.get? name := by
  have once (any : Headers) : any.entries.Nodup := any.distinct.of_map _
  unfold Reordering
  rw [List.perm_ext_iff_of_nodup (once order) (once headers)]
  constructor
  · intro members name
    apply Option.ext
    intro value
    rw [get?_eq_some_iff, get?_eq_some_iff, members]
  · rintro values ⟨name, value⟩
    rw [← get?_eq_some_iff, ← get?_eq_some_iff, values]

/-- A new name is put behind the others. -/
theorem put_of_absent {name value : String} {entries : List (String × String)}
    (absent : name ∉ entries.map Prod.fst) :
    put name value entries = entries ++ [(name, value)] := by
  induction entries with
  | nil => rfl
  | cons entry rest ih =>
    rw [List.map_cons, List.mem_cons, not_or] at absent
    rw [put, if_neg (Ne.symm absent.1), ih absent.2, List.cons_append]

/-- Entries with new and distinct names are put behind the others as they are. -/
theorem entries_overlay {others : List (String × String)}
    (distinct : ((headers.entries ++ others).map Prod.fst).Nodup) :
    (headers.overlay others).entries = headers.entries ++ others := by
  induction others generalizing headers with
  | nil => exact (List.append_nil _).symm
  | cons entry rest ih =>
    have absent : entry.1 ∉ headers.entries.map Prod.fst := by
      rw [List.map_append, List.nodup_append] at distinct
      exact fun present => distinct.2.2 entry.1 present entry.1 List.mem_cons_self rfl
    have placed : (headers.insert entry.1 entry.2).entries = headers.entries ++ [entry] :=
      put_of_absent absent
    have onward := @ih (headers.insert entry.1 entry.2)
    rw [placed, List.append_assoc, List.singleton_append] at onward
    exact onward distinct

/-- Entries with distinct names are the entries of the map they make. -/
theorem entries_ofList {entries : List (String × String)}
    (distinct : (entries.map Prod.fst).Nodup) : (ofList entries).entries = entries :=
  entries_overlay distinct

/-! ## What a change does to a look-up -/

/-- An entry that is put in place is found by its name, and the others as before. -/
theorem lookup_put (name value other : String) (entries : List (String × String)) :
    (put name value entries).lookup other =
      if other = name then some value else entries.lookup other := by
  induction entries with
  | nil => grind [put]
  | cons entry rest ih =>
    by_cases here : entry.1 = name
    · rw [put, if_pos here]
      grind
    · rw [put, if_neg here]
      grind

/-- A set value is found, and every other name keeps its own. -/
@[simp]
theorem get?_insert (headers : Headers) (name value other : String) :
    (headers.insert name value).get? other =
      if other = name then some value else headers.get? other :=
  lookup_put name value other headers.entries

/-- A kept name keeps its value. -/
@[simp]
theorem get?_keep (headers : Headers) (test : String → Bool) (name : String) :
    (headers.keep test).get? name = if test name then headers.get? name else none := by
  apply Option.ext
  intro value
  rw [get?_eq_some_iff, keep, List.mem_filter, ← get?_eq_some_iff]
  by_cases kept : test name = true <;> simp [kept]

@[simp]
theorem get?_erase (headers : Headers) (name other : String) :
    (headers.erase name).get? other = if other = name then none else headers.get? other := by
  by_cases same : other = name <;> simp [erase, same]

theorem keep_keep (headers : Headers) (test : String → Bool) :
    (headers.keep test).keep test = headers.keep test := by
  simp [keep]

/-- A name is not mentioned when its headers have been left out. -/
theorem mentions_keep_other (headers : Headers) (name : String) :
    (headers.keep fun other => !sameName other name).mentions name = false := by
  simp [mentions, keep]

/-- A name is mentioned by an entry with that name in any case. -/
theorem mentions_eq_true_iff {headers : Headers} {name : String} :
    headers.mentions name = true ↔ ∃ entry ∈ headers.entries, sameName entry.1 name = true :=
  List.any_eq_true

/-- Setting a value makes its name mentioned, and changes nothing about other names. -/
@[simp]
theorem mentions_insert (headers : Headers) (name value other : String) :
    (headers.insert name value).mentions other =
      (sameName name other || headers.mentions other) := by
  unfold mentions insert
  dsimp only
  induction headers.entries with
  | nil => rfl
  | cons entry rest ih =>
    rw [put]
    by_cases here : entry.1 = name
    · rw [if_pos here, List.any_cons, List.any_cons, here, ← Bool.or_assoc, Bool.or_self]
    · rw [if_neg here, List.any_cons, ih, List.any_cons, Bool.or_left_comm]

/-- Setting a value leaves the entries of other names. -/
theorem mem_of_mem_insert {headers : Headers} {name value : String} {entry : String × String}
    (member : entry ∈ (headers.insert name value).entries) (other : entry.1 ≠ name) :
    entry ∈ headers.entries := by
  have held := (get?_eq_some_iff _ entry.1 entry.2).mpr member
  rw [get?_insert, if_neg other, get?_eq_some_iff] at held
  exact held

/-- A name that was not mentioned is then there in no other letters. -/
theorem eq_of_sameName_insert {headers : Headers} {name value : String} {entry : String × String}
    (silent : headers.mentions name = false) (member : entry ∈ (headers.insert name value).entries)
    (same : sameName entry.1 name = true) : entry.1 = name := by
  by_contra other
  have mentioned := mentions_eq_true_iff.mpr ⟨entry, mem_of_mem_insert member other, same⟩
  rw [silent] at mentioned
  cases mentioned

/-- A name is found in some case exactly if it is mentioned. -/
theorem isSome_find? (headers : Headers) (name : String) :
    (headers.find? name).isSome = headers.mentions name := by
  unfold find?
  cases exact : headers.get? name with
  | some value =>
    have member := (get?_eq_some_iff headers name value).mp exact
    have mentioned : headers.mentions name = true := by
      rw [mentions, List.any_eq_true]
      exact ⟨(name, value), member, by simp [sameName]⟩
    exact mentioned.symm
  | none => rw [Option.isSome_map, List.isSome_find?, mentions]

/-! ## Maps laid over one another -/

/-- The value that is put in place last counts. -/
theorem put_put (name value later : String) (entries : List (String × String)) :
    put name later (put name value entries) = put name later entries := by
  induction entries with
  | nil => simp only [put, ↓reduceIte]
  | cons entry rest ih =>
    by_cases here : entry.1 = name
    · simp only [put, here, ↓reduceIte]
    · simp only [put, here, ↓reduceIte, ih]

/-- The value of a name that is there can be set before or after that of another name. -/
theorem put_comm {name other : String} (value otherValue : String)
    {entries : List (String × String)} (different : other ≠ name)
    (present : name ∈ entries.map Prod.fst) :
    put name value (put other otherValue entries) =
      put other otherValue (put name value entries) := by
  induction entries with
  | nil => cases present
  | cons entry rest ih =>
    by_cases here : entry.1 = name
    · have notOther : ¬entry.1 = other := fun same => different (same.symm.trans here)
      have stays : ¬name = other := different.symm
      simp only [put, here, stays, ↓reduceIte]
    · rw [List.map_cons, List.mem_cons] at present
      have later := present.resolve_left (Ne.symm here)
      by_cases otherHere : entry.1 = other
      · simp only [put, otherHere, different, ↓reduceIte]
      · simp only [put, here, otherHere, ↓reduceIte, ih later]

/-- The value that is inserted last counts. -/
theorem insert_insert (headers : Headers) (name value later : String) :
    (headers.insert name value).insert name later = headers.insert name later := by
  simp only [insert, put_put]

theorem mem_names_insert (headers : Headers) (name value : String) :
    name ∈ (headers.insert name value).entries.map Prod.fst := by
  rw [insert, names_put]
  split
  · assumption
  · exact List.mem_append_right _ (List.mem_singleton_self name)

/-- A value can be set before other names are laid over it, if it replaces one. -/
theorem overlay_insert {name : String} (value : String) {others : List (String × String)}
    (present : name ∈ headers.entries.map Prod.fst) (absent : name ∉ others.map Prod.fst) :
    (headers.insert name value).overlay others = (headers.overlay others).insert name value := by
  induction others generalizing headers with
  | nil => rfl
  | cons entry rest ih =>
    rw [List.map_cons, List.mem_cons, not_or] at absent
    have swapped : (headers.insert name value).insert entry.1 entry.2 =
        (headers.insert entry.1 entry.2).insert name value := by
      simp only [insert, put_comm value entry.2 (Ne.symm absent.1) present]
    have stillPresent : name ∈ (headers.insert entry.1 entry.2).entries.map Prod.fst := by
      rw [insert, names_put]
      split
      · exact present
      · exact List.mem_append_left _ present
    calc (headers.insert name value).overlay (entry :: rest)
      _ = ((headers.insert entry.1 entry.2).insert name value).overlay rest :=
        congrArg (fun laid => overlay laid rest) swapped
      _ = ((headers.insert entry.1 entry.2).overlay rest).insert name value :=
        ih stillPresent absent.2

/-- Putting an entry over others is inserting it last. -/
theorem overlay_put {name value : String} {others : List (String × String)}
    (distinct : (others.map Prod.fst).Nodup) :
    headers.overlay (put name value others) = (headers.overlay others).insert name value := by
  induction others generalizing headers with
  | nil => rfl
  | cons entry rest ih =>
    rw [List.map_cons, List.nodup_cons] at distinct
    by_cases here : entry.1 = name
    · rw [put, if_pos here]
      calc headers.overlay ((name, value) :: rest)
        _ = ((headers.insert name entry.2).insert name value).overlay rest := by
          rw [insert_insert]
          rfl
        _ = ((headers.insert name entry.2).overlay rest).insert name value :=
          overlay_insert value (mem_names_insert ..) (here ▸ distinct.1)
        _ = (headers.overlay (entry :: rest)).insert name value := by
          rw [← here]
          rfl
    · rw [put, if_neg here]
      exact ih distinct.2

/-- Laying maps over one another is associative. -/
theorem overlay_overlay (headers others : Headers) (entries : List (String × String)) :
    headers.overlay (others.overlay entries).entries =
      (headers.overlay others.entries).overlay entries := by
  induction entries generalizing others with
  | nil => rfl
  | cons entry rest ih =>
    calc headers.overlay (others.overlay (entry :: rest)).entries
      _ = (headers.overlay (others.insert entry.1 entry.2).entries).overlay rest := ih _
      _ = ((headers.overlay others.entries).insert entry.1 entry.2).overlay rest := by
        rw [insert, overlay_put others.distinct]

/-- Laying entries over a map one by one is laying over it the map that they make. -/
theorem overlay_ofList (headers : Headers) (entries : List (String × String)) :
    headers.overlay (ofList entries).entries = headers.overlay entries :=
  overlay_overlay headers empty entries

/-- The last of the entries laid over a map that has the name gives the value. -/
theorem get?_overlay (headers : Headers) (others : List (String × String)) (name : String) :
    (headers.overlay others).get? name = (others.reverse.lookup name).or (headers.get? name) := by
  induction others generalizing headers with
  | nil => rfl
  | cons entry rest ih =>
    have laid : headers.overlay (entry :: rest) = (headers.insert entry.1 entry.2).overlay rest :=
      rfl
    rw [laid, ih, get?_insert, List.reverse_cons, List.lookup_append, Option.or_assoc]
    by_cases same : name = entry.1
    · rw [if_pos same, List.lookup_cons, same, beq_self_eq_true]
      rfl
    · rw [if_neg same, List.lookup_cons, beq_false_of_ne same]
      rfl

/-- A map laid over another one hides it. -/
theorem get?_overlay_entries (headers others : Headers) (name : String) :
    (headers.overlay others.entries).get? name = (others.get? name).or (headers.get? name) := by
  have turned : (others.entries.reverse.map Prod.fst).Nodup := by
    rw [List.map_reverse, List.nodup_reverse]
    exact others.distinct
  have same : Reordering ⟨others.entries.reverse, turned⟩ others := List.reverse_perm _
  rw [get?_overlay]
  exact congrArg (Option.or · _) (reordering_iff_get?.mp same name)

/-- A map that entries make holds only values of theirs. -/
theorem mem_of_get?_ofList {entries : List (String × String)} {name value : String}
    (found : (ofList entries).get? name = some value) : (name, value) ∈ entries := by
  have nothing : empty.get? name = none := rfl
  rw [ofList, get?_overlay, nothing, Option.or_none, List.lookup_eq_some_iff] at found
  obtain ⟨before, after, split, -⟩ := found
  rw [← List.mem_reverse, split]
  exact List.mem_append_right _ List.mem_cons_self

/-- A map that entries make has a value for each of their names. -/
theorem exists_get?_ofList {entries : List (String × String)} {name value : String}
    (member : (name, value) ∈ entries) : ∃ last, (ofList entries).get? name = some last := by
  rw [ofList, get?_overlay]
  match found : entries.reverse.lookup name with
  | some last => exact ⟨last, rfl⟩
  | none =>
    have absent := List.lookup_eq_none_iff.mp found _ (List.mem_reverse.mpr member)
    exact absurd rfl (bne_iff_ne.mp absent)

end Headers

end CompactHttp
