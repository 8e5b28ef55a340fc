import EdiSchema.Proofs.Structure.RoundTrip

/-!
# How deep groups are nested

The JSON of a message nests two levels for each group around an entry, the group and its child
list, and a fixed number for a segment with its composites. A bound on the groups is therefore one
on the JSON: up to 60 groups around each other stay within what is read.
-/

namespace EdiSchema

open Json

namespace Node

mutual
/-- The largest number of groups around each other in a tree. -/
def groupDepth : Node → ℕ
  | .segment _ => 0
  | .group _ children => groupDepthAll children + 1

/-- The largest number of groups around each other in a list of trees. -/
def groupDepthAll : List Node → ℕ
  | [] => 0
  | node :: rest => max (groupDepth node) (groupDepthAll rest)
end

end Node

/-- The largest number of groups around each other in a message. -/
def Message.groupDepth (message : Message) : ℕ :=
  Node.groupDepthAll message.nodes

/-- An element is saved as an object of texts. -/
theorem Element.nesting_toJson (element : Element) : element.toJson.nesting = 1 :=
  rfl

/-- A composite is saved as an object with a list of elements. -/
theorem Composite.nesting_toJson (composite : Composite) :
    composite.toJson.nesting = nestingOfItems (composite.components.map Element.toJson) + 2 := by
  simp [toJson, nesting, nestingOfMembers]

theorem Composite.nesting_toJson_le (composite : Composite) : composite.toJson.nesting ≤ 3 := by
  have hcomponents : nestingOfItems (composite.components.map Element.toJson) ≤ 1 := by
    apply nestingOfItems_map_le
    intro element _
    exact Nat.le_of_eq element.nesting_toJson
  rw [nesting_toJson]
  omega

/-- An item is saved with no more than the nesting of a composite. -/
theorem Item.nesting_toJson_le (item : Item) : item.toJson.nesting ≤ 3 := by
  cases item with
  | composite c => exact c.nesting_toJson_le
  | simple e =>
    rw [toJson, e.nesting_toJson]
    decide

/-- A segment is saved as an object with a list of items. -/
theorem Segment.nesting_toJson (segment : Segment) :
    segment.toJson.nesting = nestingOfItems (segment.items.map Item.toJson) + 2 := by
  simp [toJson, nesting, nestingOfMembers, ofCount]

theorem Segment.nesting_toJson_le (segment : Segment) : segment.toJson.nesting ≤ 5 := by
  have hitems : nestingOfItems (segment.items.map Item.toJson) ≤ 3 := by
    apply nestingOfItems_map_le
    intro item _
    exact item.nesting_toJson_le
  rw [nesting_toJson]
  omega

/-- A group is saved as an object with the list of its children. -/
theorem Group.nesting_toJson (group : Group) (children : List Json) :
    (group.toJson children).nesting = nestingOfItems children + 2 := by
  cases hmax : group.maxOccurs <;>
    simp [Group.toJson, Group.maxMember, hmax, nesting, nestingOfMembers, ofCount]

mutual
/-- An entry is saved with two levels for each group. -/
theorem Node.nesting_toJson_le (node : Node) : node.toJson.nesting ≤ 2 * node.groupDepth + 5 := by
  cases node with
  | segment s => exact s.nesting_toJson_le
  | group g children =>
    have hchildren := Node.nestingOfItems_toJsonAll_le children
    rw [toJson, Group.nesting_toJson, groupDepth]
    omega

/-- Entries are saved with two levels for each group. -/
theorem Node.nestingOfItems_toJsonAll_le (nodes : List Node) :
    nestingOfItems (toJsonAll nodes) ≤ 2 * groupDepthAll nodes + 5 := by
  cases nodes with
  | nil => exact Nat.zero_le _
  | cons node rest =>
    have hnode := Node.nesting_toJson_le node
    have hrest := Node.nestingOfItems_toJsonAll_le rest
    rw [toJsonAll, nestingOfItems, groupDepthAll]
    omega
end

/-- A message is saved as an object with the list of its entries. -/
theorem Message.nesting_toJson (message : Message) :
    message.toJson.nesting = nestingOfItems (Node.toJsonAll message.nodes) + 2 := by
  simp [toJson, nesting, nestingOfMembers]

/-- A message is saved with two levels for each group, and seven for the rest. -/
theorem Message.nesting_toJson_le (message : Message) :
    message.toJson.nesting ≤ 2 * message.groupDepth + 7 := by
  have hnodes := Node.nestingOfItems_toJsonAll_le message.nodes
  rw [groupDepth, nesting_toJson]
  omega

/-- A message with canonical entries and no more than 60 groups around each other is loaded as it
was saved. -/
theorem Message.ofText_toText {message : Message}
    (hcanonical : ∀ entry ∈ message.walk, entry.1.Canonical) (hdepth : message.groupDepth ≤ 60) :
    ofText message.toText = .ok message := by
  have hnesting : message.toJson.nesting ≤ depthLimit := by
    have hbound := message.nesting_toJson_le
    rw [depthLimit]
    omega
  exact ofText_toText_of_ofJson (message.ofJson_toJson_eq_ok_iff.2 hcanonical) hnesting

end EdiSchema
