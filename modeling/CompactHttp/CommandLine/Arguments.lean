import CompactHttp.CommandLine.Usage
import CompactHttp.Text.Number

/-! # Arguments

The program takes options, a command, and what belongs to the command. Arguments are taken
in one after the other (`next`): an option by a long name or a letter, with its value in the
same argument or the next one, or a word; after two dashes everything is a word. What is
given is checked as it comes, so a fault wins over a later cry for help. Only the last
option before a command is checked after it.
-/

namespace CompactHttp.CommandLine

/-- An option. Its name is used with two dashes, its letter with one. -/
structure OptionName where
  name : String
  letter : Option Char
  takesValue : Bool
deriving DecidableEq, Repr

/-- The option that asks for help. -/
def helpOption : OptionName := ⟨"help", some 'h', false⟩

/-- What comes next among arguments. -/
inductive Piece where
  /-- Nothing. -/
  | done
  /-- An option without value. -/
  | flag (name : String) (rest : List String)
  /-- An option with its value, and whether both stand in one argument. -/
  | option (name value : String) (attached : Bool) (rest : List String)
  | word (text : String) (rest : List String)
  /-- All the rest are words. -/
  | separator (rest : List String)
  | misuse
deriving DecidableEq, Repr

/-- Whether an argument looks like an option. -/
def looksLikeOption (argument : String) : Bool :=
  match argument.toList with
  | '-' :: _ :: _ => true
  | _ => false

/-- The value of an option in the next argument. -/
def detached (option : OptionName) : List String → Piece
  | value :: rest =>
    if looksLikeOption value then .misuse else .option option.name value false rest
  | [] => .misuse

/-- An option by its long name, with a value behind an equals sign or not. -/
def longOption (options : List OptionName) (chars : List Char) (rest : List String) : Piece :=
  let name := chars.takeWhile (· ≠ '=')
  match options.find? fun option => option.name.toList == name, chars.drop name.length with
  | none, _ => .misuse
  | some option, [] => if option.takesValue then detached option rest else .flag option.name rest
  | some option, _ :: value =>
    if option.takesValue then .option option.name (String.ofList value) true rest else .misuse

/-- An option by its letter. What follows the letter is its value, with an equals sign before
it or not. -/
def shortOption (options : List OptionName) (letter : Char) (value : List Char)
    (rest : List String) : Piece :=
  match options.find? fun option => option.letter == some letter with
  | none => .misuse
  | some option =>
    if !option.takesValue then .flag option.name rest
    else
      match value with
      | [] => detached option rest
      | '=' :: value => .option option.name (String.ofList value) true rest
      | value => .option option.name (String.ofList value) true rest

/-- What comes next. -/
def next (options : List OptionName) : List String → Piece
  | [] => .done
  | argument :: rest =>
    match argument.toList with
    | ['-', '-'] => .separator rest
    | '-' :: '-' :: chars => longOption options chars rest
    | '-' :: letter :: value => shortOption options letter value rest
    | _ => .word argument rest

/-- The arguments behind what comes next. -/
def Piece.rest : Piece → List String
  | done | misuse => []
  | flag _ rest | option _ _ _ rest | word _ rest | separator rest => rest

/-- A value of its own is one argument, or there is none. -/
theorem detached_shortens (option : OptionName) (arguments : List String) :
    (detached option arguments).rest.length ≤ arguments.length := by
  unfold detached
  split
  · split <;> simp [Piece.rest]
  · simp [Piece.rest]

/-- A long option takes no more arguments than there are. -/
theorem longOption_shortens (options : List OptionName) (chars : List Char)
    (rest : List String) : (longOption options chars rest).rest.length ≤ rest.length := by
  unfold longOption
  dsimp only
  split
  · simp [Piece.rest]
  · split
    · exact detached_shortens _ rest
    · simp [Piece.rest]
  · split <;> simp [Piece.rest]

theorem shortOption_shortens (options : List OptionName) (letter : Char) (value : List Char)
    (rest : List String) : (shortOption options letter value rest).rest.length ≤ rest.length := by
  unfold shortOption
  split
  · simp [Piece.rest]
  · split
    · simp [Piece.rest]
    · split
      · exact detached_shortens _ rest
      · simp [Piece.rest]
      · simp [Piece.rest]

/-- Whatever comes next takes at least one argument. -/
theorem next_shortens (options : List OptionName) (arguments : List String) :
    (next options arguments).rest.length < arguments.length ∨ next options arguments = .done := by
  unfold next
  split
  · exact .inr rfl
  · next argument rest =>
    left
    rw [List.length_cons, Nat.lt_succ_iff]
    split
    · simp [Piece.rest]
    · exact longOption_shortens ..
    · exact shortOption_shortens ..
    · simp [Piece.rest]

/-- What can be asked of the program. -/
inductive Command where
  | get (path : String)
  | send (method : Method) (path body : String) (contentType : Option Nat)
  | inspect (kind : MessageKind) (data : String) (base64 : Bool)
deriving DecidableEq, Repr

/-- The options of the program. -/
structure Settings where
  address : Option String := none
  host : Option String := none
  config : Option String := none
deriving DecidableEq, Repr

/-- What arguments ask for. -/
inductive Demand (Item : Type) where
  | run (item : Item)
  | help (topic : Topic)
  | misuse
deriving DecidableEq, Repr

/-- A number of eight bits, in decimal digits with or without a sign. -/
def octet? (text : String) : Option Nat :=
  match text.toList with
  | '-' :: digits => (Number.decimal? digits).filter (· = 0)
  | _ => Number.unsignedBelow? 256 text

/-- What has been given to a command so far: its words, backwards, and its options. -/
structure Given where
  words : List String := []
  contentType : Option Nat := none
  base64 : Bool := false

namespace Given

/-- A further word, if the command takes one. -/
def addWord (topic : Topic) (given : Given) (word : String) : Option Given :=
  let added : Given := { given with words := word :: given.words }
  match topic, given.words.length with
  | .get, 0 | .inspect _, 0 | .send, 1 | .send, 2 => some added
  | .send, 0 => if (Method.ofName? word).isSome then some added else none
  | _, _ => none

/-- All words, one after the other. -/
def addWords (topic : Topic) (given : Given) (words : List String) : Option Given :=
  words.foldlM (addWord topic) given

/-- The command, if nothing is missing. -/
def command? (topic : Topic) (given : Given) : Option Command :=
  match topic, given.words with
  | .get, [path] => some (.get path)
  | .send, [body, path, method] =>
    (Method.ofName? method).map fun method => .send method path body given.contentType
  | .inspect kind, [data] => some (.inspect kind data given.base64)
  | _, _ => none

end Given

/-- The options of a command. -/
def commandOptions : Topic → List OptionName
  | .send => [helpOption, ⟨"content-type", some 't', true⟩]
  | .inspect _ => [helpOption, ⟨"base64", none, false⟩]
  | _ => [helpOption]

/-- What the arguments of a command ask for. -/
def demandOf (topic : Topic) (given : Given) (arguments : List String) : Demand Command :=
  let finish (given : Option Given) : Demand Command :=
    match given.bind (Given.command? topic) with
    | some command => .run command
    | none => .misuse
  have shortens := next_shortens (commandOptions topic) arguments
  match piece : next (commandOptions topic) arguments with
  | .done => finish (some given)
  | .misuse => .misuse
  | .separator rest => finish (given.addWords topic rest)
  | .word word rest =>
    have : rest.length < arguments.length := by simpa [piece, Piece.rest] using shortens
    match given.addWord topic word with
    | some given => demandOf topic given rest
    | none => .misuse
  | .flag name rest =>
    have : rest.length < arguments.length := by simpa [piece, Piece.rest] using shortens
    if name = helpOption.name then .help topic
    else if given.base64 then .misuse
    else demandOf topic { given with base64 := true } rest
  | .option _ value _ rest =>
    have : rest.length < arguments.length := by simpa [piece, Piece.rest] using shortens
    match octet? value, given.contentType with
    | some code, none => demandOf topic { given with contentType := some code } rest
    | _, _ => .misuse
termination_by arguments.length

/-- What is asked for by words after the command for help: help on the command that they
name. -/
def helpDemand : List String → Demand Command
  | [] => .help .program
  | [word] =>
    match Topic.commands.lookup word with
    | some topic => .help topic
    | none => .misuse
  | _ => .misuse

/-- The options of the program. -/
def programOptions : List OptionName :=
  [helpOption, ⟨"addr", some 'a', true⟩, ⟨"host", none, true⟩, ⟨"config", some 'c', true⟩]

/-- Takes in an option, which may be given once. The name of a file is not empty. -/
def Settings.take (settings : Settings) (name value : String) : Option Settings :=
  match name with
  | "addr" =>
    if settings.address.isSome then none else some { settings with address := some value }
  | "host" => if settings.host.isSome then none else some { settings with host := some value }
  | "config" =>
    if settings.config.isSome ∨ value.isEmpty then none
    else some { settings with config := some value }
  | _ => none

/-- Takes in the option that is still to be checked, if there is one. -/
def Settings.settle (settings : Settings) : Option (String × String) → Option Settings
  | some (name, value) => settings.take name value
  | none => some settings

/-- What arguments ask for, given the options that have been taken in, and one that is still to
be checked. -/
def demandFrom (settings : Settings) (late : Option (String × String)) (arguments : List String) :
    Demand (Settings × Command) :=
  have shortens := next_shortens programOptions arguments
  match piece : next programOptions arguments with
  | .done | .misuse | .separator _ => .misuse
  | .flag _ _ => if (settings.settle late).isSome then .help .program else .misuse
  | .option name value attached rest =>
    have : rest.length < arguments.length := by simpa [piece, Piece.rest] using shortens
    match settings.settle late with
    | none => .misuse
    | some settings =>
      if attached then
        match settings.take name value with
        | none => .misuse
        | some settings => demandFrom settings none rest
      else demandFrom settings (some (name, value)) rest
  | .word word rest =>
    let asked : Demand Command :=
      match Topic.commands.lookup word with
      | none => .misuse
      | some .help => helpDemand rest
      | some topic => demandOf topic {} rest
    match asked with
    | .misuse => .misuse
    | .help topic => .help topic
    | .run command =>
      match settings.settle late with
      | none => .misuse
      | some settings => .run (settings, command)
termination_by arguments.length

/-- What arguments ask for. -/
def demand (arguments : List String) : Demand (Settings × Command) :=
  demandFrom {} none arguments

end CompactHttp.CommandLine
