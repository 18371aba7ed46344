import CompactHttp.Text.Lowercase

/-! # Header maps

A message has at most one header of each name; names are told apart by case here and
brought to small letters on the wire. The map is the list of its entries. Nothing may
depend on their order but the order in which they are written, so a statement about
every order of writing is one about every permutation of the entries.
-/

namespace CompactHttp

/-- Headers by name, no name twice. -/
structure Headers where
  entries : List (String × String)
  distinct : (entries.map Prod.fst).Nodup
deriving DecidableEq

namespace Headers

/-- Entries with a value set: in place when the name is there, at the end when it is not. -/
def put (name value : String) : List (String × String) → List (String × String)
  | [] => [(name, value)]
  | entry :: rest =>
    if entry.1 = name then (name, value) :: rest else entry :: put name value rest

/-- Setting a value adds the name at the end unless it is there. -/
theorem names_put (name value : String) (entries : List (String × String)) :
    (put name value entries).map Prod.fst =
      if name ∈ entries.map Prod.fst then entries.map Prod.fst
      else entries.map Prod.fst ++ [name] := by
  induction entries with
  | nil => simp [put]
  | cons entry rest ih =>
    by_cases same : entry.1 = name
    · simp [put, same]
    · have other : ¬name = entry.1 := fun equal => same equal.symm
      simp only [put, same, ↓reduceIte, List.map_cons, ih, List.mem_cons, other, false_or]
      split <;> rfl

/-- Names that are distinct stay so when an entry is put in place. -/
theorem distinct_put {name value : String} {entries : List (String × String)}
    (distinct : (entries.map Prod.fst).Nodup) :
    ((put name value entries).map Prod.fst).Nodup := by
  rw [names_put]
  split
  · exact distinct
  · next absent =>
    rw [List.nodup_append]
    refine ⟨distinct, by simp, ?_⟩
    intro first member second last
    rw [List.mem_singleton] at last
    subst last
    exact fun equal => absent (equal ▸ member)

/-- No headers. -/
def empty : Headers := ⟨[], List.nodup_nil⟩

instance : Inhabited Headers := ⟨empty⟩

/-- Sets the value of a name. -/
def insert (headers : Headers) (name value : String) : Headers :=
  ⟨put name value headers.entries, distinct_put headers.distinct⟩

/-- The headers whose name passes a test. -/
def keep (headers : Headers) (test : String → Bool) : Headers :=
  ⟨headers.entries.filter fun entry => test entry.1,
    headers.distinct.sublist (List.filter_sublist.map _)⟩

/-- The headers without those of one name. -/
def erase (headers : Headers) (name : String) : Headers := headers.keep (· != name)

/-- The value of exactly this name. -/
def get? (headers : Headers) (name : String) : Option String := headers.entries.lookup name

/-- These headers with others laid over them. -/
def overlay (headers : Headers) (others : List (String × String)) : Headers :=
  others.foldl (fun all entry => all.insert entry.1 entry.2) headers

/-- The headers of a list in which a later entry replaces an earlier one of its name. -/
def ofList (entries : List (String × String)) : Headers := empty.overlay entries

/-- Whether two names differ at most in the case of ASCII letters. -/
def sameName (name other : String) : Bool := name.toLower == other.toLower

/-- Whether a name is present in any mixture of ASCII capitals and small letters. -/
def mentions (headers : Headers) (name : String) : Bool :=
  headers.entries.any fun entry => sameName entry.1 name

/-- The value of a name: of exactly this one if present, else of one that differs from it
only in the case of ASCII letters. -/
def find? (headers : Headers) (name : String) : Option String :=
  match headers.get? name with
  | some value => some value
  | none => (headers.entries.find? fun entry => sameName entry.1 name).map Prod.snd

/-- The entries ordered by name. -/
def sorted (headers : Headers) : List (String × String) :=
  headers.entries.mergeSort fun first second => decide (first.1 ≤ second.1)

end Headers

end CompactHttp
