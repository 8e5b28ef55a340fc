import EdiSchema.CommandLine.Arguments
import EdiSchema.Extraction
import EdiSchema.Settings

/-!
# Invocations

What the arguments of the program ask for: a command, a settings file, and single settings that
override it. The options for settings are taken before and after the name of a command, and the
latter win.
-/

namespace EdiSchema.CommandLine

/-- Settings that are given one by one. -/
structure Overrides where
  tabWidth : Option Nat := none
  groupMax : Option String := none
  fragmentRoot : Option String := none
  maxConcurrency : Option Nat := none
  deriving DecidableEq

/-- Settings with overrides in place of what they had. -/
def Overrides.apply (overrides : Overrides) (settings : Settings) : Settings :=
  { settings with
    tabWidth := overrides.tabWidth.getD settings.tabWidth
    groupMax := overrides.groupMax.getD settings.groupMax
    fragmentRoot := overrides.fragmentRoot.getD settings.fragmentRoot
    maxConcurrency := overrides.maxConcurrency.getD settings.maxConcurrency }

/-- Where the pages of documents come from. -/
structure Origin where
  folder : String
  standard : String
  revision : String
  deriving DecidableEq

/-- The request for a document. -/
def Origin.request (origin : Origin) (document : String) : Request :=
  ⟨origin.standard, origin.revision, document⟩

/-- What a descriptor is generated from. -/
inductive Input where
  /-- A saved structure, and the dialect to use in place of its standard. -/
  | structure (path : String) (dialect : Option String)
  /-- A record list, and the document that it describes. -/
  | records (path document : String)
  deriving DecidableEq

/-- What the program is asked to do. -/
inductive Command where
  /-- Extract a message, and save its structure in a folder or print it. -/
  | extract (origin : Origin) (document : String) (folder : Option String)
  /-- Generate a descriptor, and save it in a working folder or print it. -/
  | generate (input : Input) (workFolder : Option String)
  /-- Extract and generate several documents. -/
  | run (origin : Origin) (documents : List String) (workFolder : String) (saveStructures : Bool)
  deriving DecidableEq

/-- A command with its settings. -/
structure Invocation where
  settingsFile : Option String
  overrides : Overrides
  command : Command
  deriving DecidableEq

/-- The option that asks for help. -/
def helpParameter : Parameter :=
  { name := "help", letter := some 'h', arity := .none, stop := some .help }

/-- The option that asks for the version. -/
def versionParameter : Parameter :=
  { name := "version", letter := some 'V', arity := .none, stop := some .version }

/-- The options for settings. -/
def settingsParameters : List Parameter := [
  { name := "config", letter := some 'c', kind := .path },
  { name := "tab-width", kind := .count },
  { name := "default-group-max" },
  { name := "fragment-root" },
  { name := "max-concurrency", kind := .count }]

/-- The options for the origin of documents. -/
def originParameters : List Parameter := [
  { name := "source", letter := some 's', kind := .path },
  { name := "standard" },
  { name := "revision", letter := some 'r' }]

/-- The options of each command. -/
def commandParameters : List (String × List Parameter) := [
  ("extract", originParameters ++ [
    { name := "document", letter := some 'd' },
    { name := "output", letter := some 'o', kind := .path }]),
  ("generate", [
    { name := "input", letter := some 'i', kind := .path },
    { name := "records", kind := .path },
    { name := "document", letter := some 'd' },
    { name := "dialect" },
    { name := "ixpath", kind := .path }]),
  ("run", originParameters ++ [
    { name := "document", letter := some 'd', arity := .many },
    { name := "ixpath", kind := .path },
    { name := "save-structures", arity := .none }])]

/-- The value of an option that has to be given. -/
def Given.require (given : Given) (name : String) : Except Stop String :=
  match given.value? name with
  | some value => .ok value
  | none => .error .usage

/-- The value of an option for a count. -/
def Given.count? (given : Given) (name : String) : Option Nat :=
  (given.value? name).bind fun value => (Text.readCount Text.maxCount64 value.toList).toOption

/-- The origin of documents. -/
def originOf (given : Given) : Except Stop Origin := do
  return ⟨← given.require "source", (given.value? "standard").getD "EDIFACT",
    ← given.require "revision"⟩

/-- What a descriptor is generated from: one of a structure and a record list. -/
def inputOf (given : Given) : Except Stop Input :=
  match given.value? "input", given.value? "records" with
  | some path, none => .ok (.structure path (given.value? "dialect"))
  | none, some path => do return .records path (← given.require "document")
  | _, _ => .error .usage

/-- The command of a name with its options. -/
def commandOf (name : String) (given : Given) : Except Stop Command :=
  match name with
  | "extract" => do
    return .extract (← originOf given) (← given.require "document") (given.value? "output")
  | "generate" => do return .generate (← inputOf given) (given.value? "ixpath")
  | "run" => do
    discard <| given.require "document"
    return .run (← originOf given) (given.values "document") (← given.require "ixpath")
      (given.has "save-structures")
  | _ => .error .usage

/-- The overrides among the options, the last of each. -/
def overridesOf (given : Given) : Overrides where
  tabWidth := given.count? "tab-width"
  groupMax := given.value? "default-group-max"
  fragmentRoot := given.value? "fragment-root"
  maxConcurrency := given.count? "max-concurrency"

/-- What the arguments of the program ask for. -/
def Invocation.ofArguments (arguments : List String) : Except Stop Invocation := do
  let names := commandParameters.map Prod.fst
  let (before, command) ← readOptions (settingsParameters ++ [helpParameter, versionParameter])
    ("help" :: names) {} arguments
  match command with
  | none => .error .usage
  | some (name, rest) =>
    match commandParameters.lookup name with
    | none => .error .help
    | some parameters =>
      let (behind, _) ← readOptions (parameters ++ settingsParameters ++ [helpParameter]) [] {} rest
      let given := before ++ behind
      return ⟨given.value? "config", overridesOf given, ← commandOf name behind⟩

end EdiSchema.CommandLine
