import EdiSchema.Attribute.Invalid
import EdiSchema.Decoding.Report
import EdiSchema.Json.Printer
import EdiSchema.Text.Count
import EdiSchema.Text.Quoted

/-!
# Decoding faults

A JSON value may fail to be the record that a reader expects. The fault says what is wrong, and
the entries of a message structure put their kind and code in front of it, so that a fault deep
in a tree is found by its path. Each entry makes a report of its own of the message inside it, so a
text from the value that reads like a position at the end of the message is lost if its line is zero.
-/

namespace EdiSchema.Decoding

/-- What a JSON value is, in the words of a fault. -/
def described : Json → String
  | .null => "null"
  | .bool true => "boolean `true`"
  | .bool false => "boolean `false`"
  | .number (.binary x) => "floating point `" ++ x.text ++ "`"
  | .number n => "integer `" ++ n.text ++ "`"
  | .text s => "string " ++ Text.quoted s
  | .array _ => "sequence"
  | .object _ => "map"

/-- The kinds of entries that a fault is located in. -/
inductive Place where
  | group
  | segment
  | composite
  | element
  deriving DecidableEq

/-- The name of a kind of entry. -/
def Place.name : Place → String
  | .group => "group"
  | .segment => "segment"
  | .composite => "composite"
  | .element => "element"

/-- Why a JSON value is not the record that was expected. -/
inductive Fault where
  /-- The value is of another type. -/
  | invalidType (found expected : String)
  /-- A member without a default is missing. -/
  | missing (key : String)
  /-- A member of a record that is read directly occurs twice. -/
  | duplicate (key : String)
  /-- An array ends at an index whose field has no default. -/
  | tooShort (index : Nat) (record : String) (size : Nat)
  /-- An array has more items than the record has fields. -/
  | tooLong (count : Nat)
  /-- An array that is read directly goes on after the last field. -/
  | trailing
  /-- The value is neither a text nor a natural number. -/
  | notACount
  /-- A count cannot be read. -/
  | count (fault : Text.CountFault)
  /-- A textual attribute cannot be read. -/
  | attribute (fault : Attribute.Invalid)
  /-- The fields do not make up any kind of entry of a record list. -/
  | notARecord
  /-- The fault is inside an entry of a message structure. -/
  | within (place : Place) (code : String) (fault : Fault)
  deriving DecidableEq

/-- What is reported of a fault. An entry takes the message of the fault inside it as it is reported
there. -/
def Fault.report (fault : Fault) : Report :=
  .ofMessage <| match fault with
    | .invalidType found expected => "invalid type: " ++ found ++ ", expected " ++ expected
    | .missing key => "missing field `" ++ key ++ "`"
    | .duplicate key => "duplicate field `" ++ key ++ "`"
    | .tooShort index record size =>
      "invalid length " ++ Text.decimal index ++ ", expected struct " ++ record ++ " with " ++
        Text.decimal size ++ " elements"
    | .tooLong size =>
      "invalid length " ++ Text.decimal size ++ ", expected fewer elements in array"
    | .trailing => "trailing characters"
    | .notACount => "data did not match any variant of untagged enum TextOrNumber"
    | .count fault => fault.message
    | .attribute fault => fault.message
    | .notARecord => "record is neither a group marker, a segment nor a field"
    | .within place code inner => place.name ++ " " ++ code ++ ": " ++ inner.report.message

/-- The wording of a fault. -/
def Fault.message (fault : Fault) : String :=
  fault.report.message

/-- The outcome of decoding. -/
abbrev Result (α : Type) := Except Fault α

end EdiSchema.Decoding
