/-! # Request methods

A method travels as three bits. Code seven stands for no method.
-/

namespace CompactHttp

/-- What a request asks to be done. -/
inductive Method where
  | get
  | post
  | put
  | patch
  | delete
  | head
  | options
deriving DecidableEq, Repr, Inhabited

namespace Method

/-- All methods, in the order of their codes. -/
def all : List Method := [get, post, put, patch, delete, head, options]

/-- The number that stands for a method on the wire. -/
def code : Method → UInt8
  | get => 0
  | post => 1
  | put => 2
  | patch => 3
  | delete => 4
  | head => 5
  | options => 6

/-- The method with the given number. -/
def ofCode? : UInt8 → Option Method
  | 0 => some get
  | 1 => some post
  | 2 => some put
  | 3 => some patch
  | 4 => some delete
  | 5 => some head
  | 6 => some options
  | _ => none

/-- Whether a request with this method carries a body. -/
def allowsBody : Method → Bool
  | post | put | patch => true
  | get | delete | head | options => false

/-- The method's name, in capitals. -/
def name : Method → String
  | get => "GET"
  | post => "POST"
  | put => "PUT"
  | patch => "PATCH"
  | delete => "DELETE"
  | head => "HEAD"
  | options => "OPTIONS"

/-- The method with the given name, in any mixture of ASCII capitals and small letters. -/
def ofName? (text : String) : Option Method :=
  let capitals := text.toUpper
  all.find? fun method => method.name == capitals

/-- What is said of a name that belongs to no method. -/
def unknownMessage (text : String) : String := "unknown method: " ++ text.toUpper

/-- Every method is had again from its code. -/
@[simp] theorem ofCode?_code (method : Method) : ofCode? method.code = some method := by
  cases method <;> rfl

end Method

end CompactHttp
