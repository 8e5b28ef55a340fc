import EdiSchema.Json.Printer
import EdiSchema.Structure.Basic
import EdiSchema.Text.Count

/-!
# Structures as JSON

A structure is saved as JSON with its fields in a fixed order and its counts as texts, so that
equal structures have equal files. Only the upper bound of a group may be absent.
-/

namespace EdiSchema

/-- A count as it is saved. -/
def Json.ofCount (n : UInt32) : Json :=
  .text (Text.decimal n.toNat)

/-- A simple element as JSON. -/
def Element.toJson (element : Element) : Json :=
  .object [
    ("Scope", .text element.scope),
    ("Position", .text element.position),
    ("Element", .text element.code),
    ("Name", .text element.name),
    ("Description", .text element.description),
    ("Requirement", .text element.requirement.name),
    ("Type", .text element.dataType.label),
    ("Min", .ofCount element.minLength),
    ("Max", .ofCount element.maxLength)]

/-- A composite as JSON. -/
def Composite.toJson (composite : Composite) : Json :=
  .object [
    ("Scope", .text composite.scope),
    ("Position", .text composite.position),
    ("Element", .text composite.code),
    ("Name", .text composite.name),
    ("Description", .text composite.description),
    ("Requirement", .text composite.requirement.name),
    ("Type", .text composite.dataType.label),
    ("Elements", .array (composite.components.map Element.toJson))]

/-- A data item as JSON. -/
def Item.toJson : Item → Json
  | .composite c => c.toJson
  | .simple e => e.toJson

/-- A segment as JSON. -/
def Segment.toJson (segment : Segment) : Json :=
  .object [
    ("Min", .ofCount segment.minOccurs),
    ("Max", .text segment.maxOccurs.text),
    ("Scope", .text segment.scope),
    ("Position", .text segment.position),
    ("Segment", .text segment.tag),
    ("Name", .text segment.name),
    ("Description", .text segment.description),
    ("Requirement", .text segment.requirement.name),
    ("Elements", .array (segment.items.map Item.toJson))]

/-- The member that holds the upper bound of a group, if it has one. -/
def Group.maxMember (group : Group) : List (String × Json) :=
  match group.maxOccurs with
  | some bound => [("Max", .text bound.text)]
  | none => []

/-- A group with its children, which are given as JSON, as JSON. -/
def Group.toJson (group : Group) (children : List Json) : Json :=
  .object ([("Min", .ofCount group.minOccurs)] ++ group.maxMember ++ [
    ("Scope", .text group.scope),
    ("Position", .text group.position),
    ("Segment", .text group.code),
    ("Name", .text group.name),
    ("Description", .text group.description),
    ("Requirement", .text group.requirement.name),
    ("Segments", .array children)])

namespace Node

mutual
/-- An entry as JSON. -/
def toJson : Node → Json
  | .segment s => s.toJson
  | .group g children => g.toJson (toJsonAll children)

/-- The entries of a list as JSON. -/
def toJsonAll : List Node → List Json
  | [] => []
  | node :: rest => toJson node :: toJsonAll rest
end

end Node

namespace Message

/-- A message as JSON. -/
def toJson (message : Message) : Json :=
  .object [
    ("Standard", .text message.standard),
    ("Revision", .text message.revision),
    ("Document", .text message.document),
    ("Segments", .array (Node.toJsonAll message.nodes))]

/-- The text in which a message is saved. -/
def toText (message : Message) : String :=
  message.toJson.pretty

end Message

end EdiSchema
