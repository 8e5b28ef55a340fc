import EdiSchema.Text.Blank
import EdiSchema.Text.Case

/-!
# Dialects

The dialects that a message can be described for. Two are delimited: separators end the parts of
a message, and the message stands in an interchange between fragments of its own. The third has
records of fixed width.
-/

namespace EdiSchema

/-- A dialect of descriptors. -/
inductive Dialect where
  | edifact
  | x12
  | idoc
  deriving DecidableEq

/-- The texts that end segments, elements and components. -/
structure Separators where
  segment : String
  element : String
  component : String
  deriving DecidableEq

/-- How a delimited dialect separates the parts of a message, and which fragments stand before
and after it in an interchange. -/
structure Interchange where
  separators : Separators
  header : List String
  trailer : List String
  /-- What the name of a message starts with where it is referred to. -/
  lead : String
  deriving DecidableEq

namespace Dialect

/-- All dialects. -/
def all : List Dialect := [.edifact, .x12, .idoc]

/-- The name of a dialect. -/
def name : Dialect → String
  | .edifact => "EDIFACT"
  | .x12 => "X12"
  | .idoc => "IDOC"

/-- The folder of a dialect below the root of fragments. -/
def folder : Dialect → String
  | .edifact => "edifact"
  | .x12 => "x12"
  | .idoc => "idoc"

/-- The element that holds the message in a descriptor. -/
def wrapperName : Dialect → String
  | .edifact => "INTERCHANGE"
  | .x12 => "INTERCHANGE"
  | .idoc => "TRANSACTION"

/-- The interchange of a delimited dialect. A line feed ends the segments of X12; it is written
with a backslash. -/
def interchange? : Dialect → Option Interchange
  | .edifact => some ⟨⟨"'", "+", ":"⟩, ["unb"], ["unz"], ""⟩
  | .x12 => some ⟨⟨"\\n", "|", ">"⟩, ["isa", "gs"], ["ge", "iea"], "x"⟩
  | .idoc => none

/-- Whether a dialect is delimited. -/
def isDelimited (dialect : Dialect) : Bool :=
  dialect.interchange?.isSome

/-- The dialect of a name, or the name without the blanks around it if there is none. -/
def ofName (name : String) : Except String Dialect :=
  let wanted := Text.trimmed name
  match all.find? fun dialect => Text.sameIgnoringCase dialect.name wanted with
  | some dialect => .ok dialect
  | none => .error wanted

end Dialect

end EdiSchema
