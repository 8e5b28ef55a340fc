import EdiSchema.Decoding.Source
import EdiSchema.Idoc.Record
import EdiSchema.Text.Scan

/-!
# Reading records

A record is read from the fields that it has: a position that begins or ends a group comes first,
then a segment, then a field. Blank texts count as absent. A list of records leaves out the
entries that are none of these.
-/

namespace EdiSchema.Idoc.Record

open Decoding

/-- The fields of a record; all may be absent. -/
structure Fields where
  position : Option String := none
  maxOccurs : Option MaxOccurs := none
  segment : Option String := none
  typeName : Option String := none
  field : Option String := none
  length : UInt32 := 0
  description : String := ""

/-- A text, unless it is blank. -/
def notBlank (text : Option String) : Option String :=
  text.filter fun t => !Text.isBlankText t

/-- The group whose begin or end a position marks. -/
def groupMark? (suffix position : String) : Option String :=
  (Text.dropSuffix? suffix.toList position.toList).map String.ofList

/-- The mark of a group at a position. -/
def ofPosition? (bound : MaxOccurs) (position : String) : Option Record :=
  match groupMark? beginSuffix position with
  | some group => some (.groupBegin group bound)
  | none => (groupMark? endSuffix position).map .groupEnd

/-- The record with some fields. -/
def ofFields (fields : Fields) : Result Record :=
  let bound := fields.maxOccurs.getD .one
  match (notBlank fields.position).bind (ofPosition? bound) with
  | some record => .ok record
  | none =>
    match notBlank fields.segment with
    | some tag => .ok (.segment tag ((notBlank fields.typeName).getD tag) bound)
    | none =>
      match notBlank fields.field with
      | some name =>
        .ok (.field name (if fields.length = 0 then defaultLength else fields.length)
          fields.description)
      | none => .error .notARecord

/-- Reads the fields of a record from the items of an array. -/
def fieldsOfItems (excess : Fault) (items : List Json) : Result Fields := do
  let position ← ifPresent (asNullable asText) items[0]?
  let maxOccurs ← ifPresent (asNullable asMaxOccurs) items[1]?
  let tag ← ifPresent (asNullable asText) items[2]?
  let typeName ← ifPresent (asNullable asText) items[3]?
  let name ← ifPresent (asNullable asText) items[4]?
  let length ← ifPresent asCount items[5]?
  let description ← ifPresent asText items[6]?
  if 7 < items.length then .error excess
  return ⟨position.join, maxOccurs.join, tag.join, typeName.join, name.join, length.getD 0,
    description.getD ""⟩

/-- Reads the fields of a record from the members of an object. -/
def fieldsOfMembers (members : List (String × Json)) : Result Fields := do
  let description ← member members "Description" asText
  let name ← member members "Field" (asNullable asText)
  let length ← member members "Length" asCount
  let maxOccurs ← member members "Max" (asNullable asMaxOccurs)
  let position ← member members "Position" (asNullable asText)
  let tag ← member members "Segment" (asNullable asText)
  let typeName ← member members "Type" (asNullable asText)
  return ⟨position.join, maxOccurs.join, tag.join, typeName.join, name.join, length.getD 0,
    description.getD ""⟩

/-- Reads a record from JSON. -/
def ofJson (value : Json) : Result Record := do
  let fields ← match value with
    | .object members => fieldsOfMembers members
    | .array items => fieldsOfItems (.tooLong items.length) items
    | other => wrongType other "struct RawRecord"
  ofFields fields

/-- The fields of a record found so far in the order of its text. -/
structure Found where
  position : Option (Option String) := none
  maxOccurs : Option (Option MaxOccurs) := none
  segment : Option (Option String) := none
  typeName : Option (Option String) := none
  field : Option (Option String) := none
  length : Option UInt32 := none
  description : Option String := none

/-- Takes one member of an object. -/
def Found.read (found : Found) (member : String × Json) : Result Found := do
  let (key, value) := member
  if key = "Position" then
    return { found with position := ← once key (asNullable asText) found.position value }
  else if key = "Max" then
    return { found with maxOccurs := ← once key (asNullable asMaxOccurs) found.maxOccurs value }
  else if key = "Segment" then
    return { found with segment := ← once key (asNullable asText) found.segment value }
  else if key = "Type" then
    return { found with typeName := ← once key (asNullable asText) found.typeName value }
  else if key = "Field" then
    return { found with field := ← once key (asNullable asText) found.field value }
  else if key = "Length" then
    return { found with length := ← once key asCount found.length value }
  else if key = "Description" then
    return { found with description := ← once key asText found.description value }
  else return found

/-- The fields found. -/
def Found.fields (found : Found) : Fields where
  position := found.position.join
  maxOccurs := found.maxOccurs.join
  segment := found.segment.join
  typeName := found.typeName.join
  field := found.field.join
  length := found.length.getD 0
  description := found.description.getD ""

/-- Reads the fields of a record of a list. -/
def fieldsInList : Json → Result Fields
  | .object members => do return (← members.foldlM Found.read {}).fields
  | .array items => fieldsOfItems .trailing items
  | other => wrongType other "struct RawRecord"

/-- The keys of the fields of a record. -/
def keys : List String :=
  ["Position", "Max", "Segment", "Type", "Field", "Length", "Description"]

/-- Whether a place in the text of a record list is read. -/
def isRead : List Json.Step → Bool
  | .item :: .member key :: _ => key ∈ keys
  | _ => true

/-- Reads a record list from its text. -/
def listOfText (text : String) : Except TextFault (List Record) := do
  let entries ← Decoding.ofText isRead (asList fieldsInList) text
  return entries.filterMap fun fields => (ofFields fields).toOption

end EdiSchema.Idoc.Record
