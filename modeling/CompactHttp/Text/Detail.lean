import CompactHttp.Text.Quoted

/-! # Values in full

A value is shown in full by the name of what it is, with arguments in parentheses or named
fields in braces.
-/

namespace CompactHttp.Detail

/-- A name with arguments. -/
def call (name : String) (arguments : List String) : String :=
  name ++ "(" ++ ", ".intercalate arguments ++ ")"

/-- A name with named fields. -/
def record (name : String) (fields : List (String × String)) : String :=
  let shown := fields.map fun field => field.1 ++ ": " ++ field.2
  name ++ " \x7b " ++ ", ".intercalate shown ++ " \x7d"

/-- Values in brackets. -/
def list (items : List String) : String := "[" ++ ", ".intercalate items ++ "]"

end CompactHttp.Detail
