/-! # TOML values

A document is a table. Its tables come about in four ways, and what may be added to one
later depends on which it was (`TableOrigin`). All additions go through `Entries.alter`,
which follows a path of names, makes the tables that are missing on the way, and changes
the one at its end.
-/

namespace CompactHttp.Toml

/-- How a table came about. -/
inductive TableOrigin where
  /-- A header opened it; the document itself counts as opened too. -/
  | opened
  /-- A header made it on the way to a table inside it. -/
  | passed
  /-- A dotted key made it. -/
  | dotted
  /-- It is written in braces. -/
  | inline
deriving DecidableEq, Repr

/-- A value. Of fractions and of points in time only the written form is kept. -/
inductive Value where
  | text (text : String)
  | integer (value : Int)
  | fraction (written : String)
  | boolean (value : Bool)
  | moment (written : String)
  | array (items : List Value)
  | table (origin : TableOrigin) (entries : List (String × Value))
  /-- Tables that headers in double brackets add one by one. -/
  | tables (rows : List (List (String × Value)))

instance : Inhabited Value := ⟨.boolean false⟩

/-- What a table holds, by name. -/
abbrev Entries := List (String × Value)

/-- The path of a dotted key, and its last name. -/
structure Key where
  path : List String
  name : String
deriving DecidableEq, Repr

/-- A list with its last item changed. -/
def alterLast {Item : Type} (change : Item → Option Item) : List Item → Option (List Item)
  | [] => none
  | [last] => (change last).map fun changed => [changed]
  | first :: rest => (alterLast change rest).map (first :: ·)

namespace Entries

/-- Sets the value of a name: in place when it is there, at the end when it is not. -/
def put (name : String) (value : Value) : Entries → Entries
  | [] => [(name, value)]
  | entry :: rest =>
    if entry.1 = name then (name, value) :: rest else entry :: put name value rest

/-- Adds a name that is not there yet. -/
def add (name : String) (value : Value) (entries : Entries) : Option Entries :=
  if (entries.lookup name).isSome then none else some (entries ++ [(name, value)])

/-- Changes the table at the end of a path, given how the table came about where the path
starts. Missing tables are made with origin `made`. Values and tables in braces are never
passed, and dotted keys pass no table that has a header. In a list of tables the path leads
on in the last one. -/
def alter (made : TableOrigin) (change : TableOrigin → Entries → Option Entries) :
    (path : List String) → TableOrigin → Entries → Option Entries
  | [], origin, entries => change origin entries
  | name :: path, _, entries => do
    let value ←
      match (entries.lookup name).getD (.table made []) with
      | .table origin inner =>
        if origin = .inline ∨ (made = .dotted ∧ origin = .opened) then none
        else (alter made change path origin inner).map (.table origin)
      | .tables rows => (alterLast (alter made change path .opened) rows).map .tables
      | _ => none
    return put name value entries

/-- Sets the value of a dotted key. Its path has to end in a table made by dotted keys. -/
def define (key : Key) (value : Value) : Entries → Option Entries :=
  alter .dotted (fun origin entries =>
    if key.path ≠ [] ∧ origin ≠ .dotted then none else entries.add key.name value)
    key.path .opened

/-- Opens a table with a header of its own, which it may have only once. -/
def openTable (key : Key) : Entries → Option Entries :=
  alter .passed (fun _ entries =>
    match entries.lookup key.name with
    | none => some (entries.put key.name (.table .opened []))
    | some (.table .passed inner) => some (entries.put key.name (.table .opened inner))
    | some _ => none) key.path .opened

/-- Adds a table to a list of tables. -/
def openRow (key : Key) : Entries → Option Entries :=
  alter .passed (fun _ entries =>
    match entries.lookup key.name with
    | none => some (entries.put key.name (.tables [[]]))
    | some (.tables rows) => some (entries.put key.name (.tables (rows ++ [[]])))
    | some _ => none) key.path .opened

end Entries

end CompactHttp.Toml
