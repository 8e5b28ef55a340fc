import EdiSchema.Structure.Basic
import EdiSchema.Structure.Encode

/-!
# Records

A message as a flat list of records: groups become a record at their begin and one at their end,
and a segment is followed by its fields, those of its composites among them.
-/

namespace EdiSchema.Idoc

/-- An entry of a record list. -/
inductive Record where
  | groupBegin (group : String) (maxOccurs : MaxOccurs)
  | groupEnd (group : String)
  /-- A segment, with the name of its type. -/
  | segment (segment typeName : String) (maxOccurs : MaxOccurs)
  | field (name : String) (length : UInt32) (description : String)
  deriving DecidableEq

/-- What the position of a record that begins a group ends in. -/
def beginSuffix : String := "_GROUP_BEGIN"

/-- What the position of a record that ends a group ends in. -/
def endSuffix : String := "_GROUP_END"

/-- The length of a field that states none. -/
def defaultLength : UInt32 := 6

/-- The record of an element. -/
def fieldOf (e : Element) : Record :=
  .field ("E" ++ e.code) (if e.maxLength = 0 then defaultLength else e.maxLength) e.name

/-- The records of an item. -/
def itemRecords : Item → List Record
  | .composite c => c.components.map fieldOf
  | .simple e => [fieldOf e]

/-- The records of a segment. -/
def segmentRecords (s : Segment) : List Record :=
  .segment s.tag s.tag s.maxOccurs :: s.items.flatMap itemRecords

mutual
/-- The records of an entry of a message. -/
def nodeRecords : Node → List Record
  | .segment s => segmentRecords s
  | .group g children =>
    .groupBegin g.code (g.maxOccurs.getD .one) :: (recordsOf children ++ [.groupEnd g.code])

/-- The records of the entries of a list. -/
def recordsOf : List Node → List Record
  | [] => []
  | node :: rest => nodeRecords node ++ recordsOf rest
end

/-- The records of a message. -/
def linearize (message : Message) : List Record :=
  recordsOf message.nodes

namespace Record

/-- A record as JSON. -/
def toJson : Record → Json
  | .groupBegin group bound =>
    .object [("Position", .text (group ++ beginSuffix)), ("Max", .text bound.text)]
  | .groupEnd group => .object [("Position", .text (group ++ endSuffix))]
  | .segment tag typeName bound =>
    .object [("Max", .text bound.text), ("Segment", .text tag), ("Type", .text typeName)]
  | .field name length description =>
    .object ([("Field", .text name)] ++
      (if length = 0 then [] else [("Length", .ofCount length)]) ++
      (if description = "" then [] else [("Description", .text description)]))

end Record

end EdiSchema.Idoc
