import EdiSchema.Decoding.Source
import EdiSchema.Structure.Decode

/-!
# Reading a structure

The outermost value of a saved structure is read in the order of its text. Members with other
keys than the four of a structure are skipped without being looked at.
-/

namespace EdiSchema.Message

open Decoding

/-- The fields of a structure found so far. -/
structure Fields where
  standard : Option String := none
  revision : Option String := none
  document : Option String := none
  nodes : Option (List Node) := none

namespace Fields

/-- Takes one member of an object. -/
def read (fields : Fields) (member : String × Json) : Result Fields := do
  let (key, value) := member
  if key = "Standard" then
    return { fields with standard := ← once key asText fields.standard value }
  else if key = "Revision" then
    return { fields with revision := ← once key asText fields.revision value }
  else if key = "Document" then
    return { fields with document := ← once key asText fields.document value }
  else if key = "Segments" then
    return { fields with nodes := ← once key Node.listOfJson fields.nodes value }
  else return fields

/-- The structure with the fields found. -/
def finish (fields : Fields) : Result Message := do
  let standard ← require (.missing "Standard") fields.standard
  let revision ← require (.missing "Revision") fields.revision
  let document ← require (.missing "Document") fields.document
  return { standard, revision, document, nodes := fields.nodes.getD [] }

end Fields

/-- The fault of an array that ends before the field with an index. -/
def tooShort (index : Nat) : Fault := .tooShort index "MessageStructure" 4

/-- Reads a structure from the items of an array. -/
def ofItems (items : List Json) : Result Message := do
  let standard ← require (tooShort 0) (← ifPresent asText items[0]?)
  let revision ← require (tooShort 1) (← ifPresent asText items[1]?)
  let document ← require (tooShort 2) (← ifPresent asText items[2]?)
  let nodes ← ifPresent Node.listOfJson items[3]?
  if 4 < items.length then .error .trailing
  return { standard, revision, document, nodes := nodes.getD [] }

/-- Reads a structure from JSON. -/
def ofJson : Json → Result Message
  | .object members => do (← members.foldlM Fields.read {}).finish
  | .array items => ofItems items
  | other => wrongType other "struct MessageStructure"

/-- Whether a place in the text of a structure is read. -/
def isRead : List Json.Step → Bool
  | .member key :: _ => key ∈ ["Standard", "Revision", "Document", "Segments"]
  | _ => true

/-- Reads a structure from its text. -/
def ofText (text : String) : Except TextFault Message :=
  Decoding.ofText isRead ofJson text

end EdiSchema.Message
