import EdiSchema.Text.Count

/-!
# Reading arguments

Arguments are options with their values, and in the end the name of a command with arguments of its
own. An option is given by its name or by its letter, and its value follows it or is attached to it.

What an option is stands in a table of parameters; this module knows none of them.
-/

namespace EdiSchema.CommandLine

/-- Why arguments are not carried out. -/
inductive Stop where
  /-- They are not understood. -/
  | usage
  | help
  | version
  deriving DecidableEq

/-- What the value of an option has to be. -/
inductive ValueKind where
  | text
  /-- A path, which is not empty. -/
  | path
  /-- A count that fits 64 bits. -/
  | count
  deriving DecidableEq

/-- Whether a text is a value of a kind. -/
def ValueKind.accepts (kind : ValueKind) (value : String) : Bool :=
  match kind with
  | .text => true
  | .path => !value.isEmpty
  | .count => (Text.readCount Text.maxCount64 value.toList).isOk

/-- How many values an option takes at a time. Only one that takes many may be repeated. -/
inductive Arity where
  | none
  | one
  | many
  deriving DecidableEq

/-- An option that may be given. -/
structure Parameter where
  name : String
  letter : Option Char := none
  arity : Arity := .one
  kind : ValueKind := .text
  /-- What an option does that ends the reading as soon as it is given. -/
  stop : Option Stop := none

/-- The values of the options given so far, by the names of the options. -/
abbrev Given := List (String × List String)

namespace Given

/-- Whether an option has been given. -/
def has (given : Given) (name : String) : Bool :=
  given.any (·.1 == name)

/-- All values of an option. -/
def values (given : Given) (name : String) : List String :=
  given.flatMap fun entry => if entry.1 == name then entry.2 else []

/-- The last value of an option. -/
def value? (given : Given) (name : String) : Option String :=
  (given.values name).getLast?

end Given

/-- What has been read, and an option that is open for values, with those it has. -/
structure Reading where
  given : Given := []
  pending : Option (Parameter × List String) := none

namespace Reading

/-- The reading with one more option and its values. -/
def record (r : Reading) (p : Parameter) (values : List String) : Except Stop Reading :=
  match p.stop with
  | some stop => .error stop
  | none =>
    if (p.arity != .many && r.given.has p.name) || !values.all p.kind.accepts then .error .usage
    else .ok ⟨r.given ++ [(p.name, values)], none⟩

/-- The reading with no open option. -/
def close (r : Reading) : Except Stop Reading :=
  match r.pending with
  | none => .ok r
  | some (p, values) => if values.isEmpty then .error .usage else r.record p values

/-- The reading after an option, with a value attached to it or without. -/
def takeOption (r : Reading) (p : Parameter) (attached : Option String) : Except Stop Reading := do
  let r ← r.close
  match p.arity, attached with
  | .none, none => r.record p []
  | .none, some _ => .error .usage
  | _, some value => r.record p [value]
  | _, none => return { r with pending := some (p, []) }

/-- The reading after a value for the open option. -/
def takeValue (r : Reading) (value : String) : Except Stop Reading :=
  match r.pending with
  | none => .error .usage
  | some (p, values) =>
    if p.arity = .many then .ok { r with pending := some (p, values ++ [value]) }
    else r.record p [value]

/-- The reading after the letters of options, the last of which may have its value behind it. -/
def takeLetters (parameters : List Parameter) : Reading → List Char → Except Stop Reading
  | r, [] => .ok r
  | r, letter :: rest =>
    match parameters.find? (·.letter == some letter) with
    | none => .error .usage
    | some p =>
      match p.arity, rest with
      | .none, _ => do takeLetters parameters (← r.takeOption p none) rest
      | _, [] => r.takeOption p none
      | _, '=' :: value => r.takeOption p (some (String.ofList value))
      | _, value => r.takeOption p (some (String.ofList value))

/-- The reading after the name of an option, which may have a value behind an equals sign. -/
def takeName (parameters : List Parameter) (r : Reading) (cs : List Char) : Except Stop Reading :=
  let (name, rest) := cs.span (· != '=')
  match parameters.find? (·.name == String.ofList name) with
  | none => .error .usage
  | some p => r.takeOption p (if rest.isEmpty then none else some (String.ofList rest.tail))

/-- The reading after one argument that is not the name of a command. -/
def take (parameters : List Parameter) (r : Reading) (argument : String) : Except Stop Reading :=
  match argument.toList with
  | '-' :: '-' :: name => r.takeName parameters name
  | '-' :: letter :: letters => r.takeLetters parameters (letter :: letters)
  | _ => r.takeValue argument

end Reading

/-- Reads options up to the name of a command, and gives that name with the arguments behind it. Two
hyphens alone end the options, and nothing can follow them. -/
def readOptions (parameters : List Parameter) (commands : List String) :
    Reading → List String → Except Stop (Given × Option (String × List String))
  | r, [] => do return ((← r.close).given, none)
  | r, argument :: rest =>
    if r.pending.isNone && commands.contains argument then .ok (r.given, some (argument, rest))
    else if argument = "--" then
      if rest.isEmpty then do return ((← r.close).given, none) else .error .usage
    else do readOptions parameters commands (← r.take parameters argument) rest

end EdiSchema.CommandLine
