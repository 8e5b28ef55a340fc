import EdiSchema.Decoding.Field
import EdiSchema.Json.Reader
import EdiSchema.Structure.Basic

/-!
# Structures from JSON

The inverse of saving a structure, and more lenient: fields may be absent when they have a
default, counts may be numbers, and an array may give the fields of a segment, an element or the
whole structure in their fixed order.

Whether an entry is a group and whether an item is a composite is decided by its child list or
else by its code. An object nested in the structure reports the fault of the first member in the
order of keys, then the first field that is missing; the outermost value is read in the order of
its text and refuses a repeated field.
-/

namespace EdiSchema

open Decoding

/-- Whether a code is `SG` and a number. -/
def Group.isCode (code : String) : Bool :=
  match code.toList with
  | 'S' :: 'G' :: digits => !digits.isEmpty && digits.all Char.isDigit
  | _ => false

/-- Whether a code is `C` or `S` and three digits. -/
def Composite.isCode (code : String) : Bool :=
  match code.toList with
  | [letter, a, b, c] => (letter == 'C' || letter == 'S') && [a, b, c].all Char.isDigit
  | _ => false

namespace Element

/-- The fault of an element without a code that is given as an array. -/
def tooShort : Fault := .tooShort 2 "Element" 9

/-- The element with the fields that were found. -/
def ofFields (code : String) (scope position name description : Option String)
    (requirement : Option Requirement) (dataType : Option DataType)
    (minLength maxLength : Option UInt32) : Element where
  scope := scope.getD usedScope
  position := position.getD ""
  code := code
  name := name.getD ""
  description := description.getD ""
  requirement := requirement.getD .conditional
  dataType := dataType.getD .alphanumeric
  minLength := minLength.getD 1
  maxLength := maxLength.getD 0

/-- Reads an element from the members of an object. -/
def ofMembers (members : List (String × Json)) : Result Element := do
  let description ← member members "Description" asText
  let code ← member members "Element" asText
  let maxLength ← member members "Max" asCount
  let minLength ← member members "Min" asCount
  let name ← member members "Name" asText
  let position ← member members "Position" asText
  let requirement ← member members "Requirement" asRequirement
  let scope ← member members "Scope" asText
  let dataType ← member members "Type" asDataType
  let code ← require (.missing "Element") code
  return ofFields code scope position name description requirement dataType minLength maxLength

/-- Reads an element from the items of an array. -/
def ofItems (items : List Json) : Result Element := do
  let scope ← ifPresent asText items[0]?
  let position ← ifPresent asText items[1]?
  let code ← require tooShort (← ifPresent asText items[2]?)
  let name ← ifPresent asText items[3]?
  let description ← ifPresent asText items[4]?
  let requirement ← ifPresent asRequirement items[5]?
  let dataType ← ifPresent asDataType items[6]?
  let minLength ← ifPresent asCount items[7]?
  let maxLength ← ifPresent asCount items[8]?
  if 9 < items.length then .error (.tooLong items.length)
  return ofFields code scope position name description requirement dataType minLength maxLength

/-- Reads an element. -/
def ofJson : Json → Result Element
  | .object members => ofMembers members
  | .array items => ofItems items
  | other => wrongType other "struct Element"

end Element

namespace Composite

/-- Reads a composite from the members of an object. -/
def ofMembers (members : List (String × Json)) : Result Composite := do
  let description ← member members "Description" asText
  let code ← member members "Element" asText
  let components ← member members "Elements" (asList Element.ofJson)
  let name ← member members "Name" asText
  let position ← member members "Position" asText
  let requirement ← member members "Requirement" asRequirement
  let scope ← member members "Scope" asText
  let dataType ← member members "Type" asDataType
  let code ← require (.missing "Element") code
  let components ← require (.missing "Elements") components
  return {
    scope := scope.getD usedScope
    position := position.getD ""
    code := code
    name := name.getD ""
    description := description.getD ""
    requirement := requirement.getD .conditional
    dataType := dataType.getD .composite
    components := components }

end Composite

namespace Item

/-- Whether the members of an object are those of a composite. -/
def isComposite (members : List (String × Json)) : Bool :=
  (Json.member? "Elements" members).isSome || Composite.isCode (codeOf "Element" (.object members))

/-- Reads a data item. -/
def ofJson (value : Json) : Result Item :=
  match value with
  | .object members =>
    if isComposite members then
      .composite <$> locate .composite (codeOf "Element" value) (Composite.ofMembers members)
    else .simple <$> locate .element (codeOf "Element" value) (Element.ofMembers members)
  | other => .simple <$> locate .element "" (Element.ofJson other)

end Item

namespace Segment

/-- The fault of a segment without a tag that is given as an array. -/
def tooShort : Fault := .tooShort 4 "Segment" 9

/-- The segment with the fields that were found; its requirement may raise its lower bound. -/
def ofFields (tag : String) (minOccurs : Option UInt32) (maxOccurs : Option MaxOccurs)
    (scope position name description : Option String) (requirement : Option Requirement)
    (items : Option (List Item)) : Segment where
  minOccurs := max (minOccurs.getD 0) (requirement.getD .conditional).minOccurs
  maxOccurs := maxOccurs.getD .one
  scope := scope.getD usedScope
  position := position.getD ""
  tag := tag
  name := name.getD ""
  description := description.getD ""
  requirement := requirement.getD .conditional
  items := items.getD []

/-- Reads a segment from the members of an object. -/
def ofMembers (members : List (String × Json)) : Result Segment := do
  let description ← member members "Description" asText
  let items ← member members "Elements" (asList Item.ofJson)
  let maxOccurs ← member members "Max" asMaxOccurs
  let minOccurs ← member members "Min" asCount
  let name ← member members "Name" asText
  let position ← member members "Position" asText
  let requirement ← member members "Requirement" asRequirement
  let scope ← member members "Scope" asText
  let tag ← member members "Segment" asText
  let tag ← require (.missing "Segment") tag
  return ofFields tag minOccurs maxOccurs scope position name description requirement items

/-- Reads a segment from the items of an array. -/
def ofItems (values : List Json) : Result Segment := do
  let minOccurs ← ifPresent asCount values[0]?
  let maxOccurs ← ifPresent asMaxOccurs values[1]?
  let scope ← ifPresent asText values[2]?
  let position ← ifPresent asText values[3]?
  let tag ← require tooShort (← ifPresent asText values[4]?)
  let name ← ifPresent asText values[5]?
  let description ← ifPresent asText values[6]?
  let requirement ← ifPresent asRequirement values[7]?
  let items ← ifPresent (asList Item.ofJson) values[8]?
  if 9 < values.length then .error (.tooLong values.length)
  return ofFields tag minOccurs maxOccurs scope position name description requirement items

/-- Reads a segment. -/
def ofJson : Json → Result Segment
  | .object members => ofMembers members
  | .array items => ofItems items
  | other => wrongType other "struct Segment"

end Segment

/-- Reads the own fields of a group from the members of an object, and takes the children that
were read from its child list. -/
def Group.ofMembers (members : List (String × Json)) (children : Result (Option (List Node))) :
    Result Node := do
  let description ← member members "Description" asText
  let maxOccurs ← member members "Max" (asNullable asMaxOccurs)
  let minOccurs ← member members "Min" asCount
  let name ← member members "Name" asText
  let position ← member members "Position" asText
  let requirement ← member members "Requirement" asRequirement
  let scope ← member members "Scope" asText
  let code ← member members "Segment" asText
  let children ← children
  let code ← require (.missing "Segment") code
  let children ← require (.missing "Segments") children
  let group : Group := {
    minOccurs := max (minOccurs.getD 0) (requirement.getD .conditional).minOccurs
    maxOccurs := maxOccurs.join
    scope := scope.getD usedScope
    position := position.getD ""
    code := code
    name := name.getD ""
    description := description.getD ""
    requirement := requirement.getD .conditional }
  return .group group children

namespace Node

/-- Whether the members of an object are those of a group. -/
def isGroup (members : List (String × Json)) : Bool :=
  (Json.member? "Segments" members).isSome || Group.isCode (codeOf "Segment" (.object members))

mutual
/-- Reads an entry. -/
def ofJson : Json → Result Node
  | .object members =>
    if isGroup members then
      locate .group (codeOf "Segment" (.object members))
        (Group.ofMembers members (childrenOf members))
    else
      .segment <$> locate .segment (codeOf "Segment" (.object members)) (Segment.ofMembers members)
  | other => .segment <$> locate .segment "" (Segment.ofJson other)

/-- Reads the entries of an array. -/
def listOfJson : Json → Result (List Node)
  | .array values => allOfJson values
  | other => wrongType other "a sequence"

/-- Reads entries one by one. -/
def allOfJson : List Json → Result (List Node)
  | [] => .ok []
  | value :: rest => do
    let node ← ofJson value
    let nodes ← allOfJson rest
    return node :: nodes

/-- Reads the child list among the members of an object. -/
def childrenOf : List (String × Json) → Result (Option (List Node))
  | [] => .ok none
  | (key, value) :: rest =>
    if key = "Segments" ∧ Json.member? "Segments" rest = none then some <$> listOfJson value
    else childrenOf rest
end

end Node

end EdiSchema
