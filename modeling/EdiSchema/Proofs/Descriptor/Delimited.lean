import Mathlib.Data.List.Basic
import EdiSchema.Descriptor.Body
import EdiSchema.Proofs.Xml.Outline
import EdiSchema.Structure.Walk

/-!
# Outlines of delimited bodies

The body of a message has a heading for every entry that is visited when the message is walked,
and the content under the heading of a segment names its fields.
-/

namespace EdiSchema

/-- The names of the fields of an item, those of a composite being its components. -/
def Item.fieldNames : Item → List String
  | .composite c => c.components.map ("E" ++ ·.code)
  | .simple e => ["E" ++ e.code]

/-- The names of the fields of a segment. -/
def Segment.fieldNames (s : Segment) : List String :=
  s.items.flatMap Item.fieldNames

/-- The names that the element of an item stands for: its own for a data element, those inside for
a composite. -/
def Item.namesIn : Item → Xml → List String
  | .composite _, node => node.content.map Xml.name
  | .simple _, node => [node.name]

/-- Whether an item is a composite without components whose code looks like the name of a field. -/
def Item.IsLookalike : Item → Prop
  | .composite c => c.components = [] ∧ Xml.IsFieldName c.code
  | .simple _ => False

namespace Body

variable (separators : Separators) (options : DescriptorOptions)

/-- The heading of an entry in a body, given its depth. -/
def heading : Node × ℕ → Xml.Heading
  | (.segment s, depth) =>
    ⟨depth, s.tag, false, tagField separators s.tag :: s.items.map (item separators)⟩
  | (.group g children, depth) => ⟨depth, g.code, true, nodes separators options children⟩

/-- The depth and name of a heading are those of its entry. -/
theorem outline_heading (entry : Node × ℕ) :
    ((heading separators options entry).depth, (heading separators options entry).name) =
      (entry.2, entry.1.code) := by
  obtain ⟨node, depth⟩ := entry
  cases node <;> rfl

/-- The attribute of an upper bound does not tell a group. -/
theorem format_notMem_maxAttribute (bound : MaxOccurs) :
    ("format", "none") ∉ maxAttribute bound := by
  unfold maxAttribute
  split <;> simp

/-- The attributes of a segment are not those of a group. -/
theorem format_notMem_segmentAttributes (s : Segment) :
    ("format", "none") ∉ segmentAttributes separators s := by
  have hmin : ("format", "none") ∉ minAttribute s.requirement := by
    unfold minAttribute
    split <;> simp
  simp [segmentAttributes, hmin, format_notMem_maxAttribute]

/-- Errors are reported at a segment. -/
theorem errorLevel_mem_segmentAttributes (s : Segment) :
    ("errorLevel", "true") ∈ segmentAttributes separators s := by
  simp [segmentAttributes]

/-- A segment has one heading. -/
theorem headings_segment (depth : ℕ) (s : Segment) :
    (segment separators s).headings depth = [heading separators options (.segment s, depth)] := by
  rw [segment, Xml.headings, if_neg (format_notMem_segmentAttributes separators s),
    if_pos (errorLevel_mem_segmentAttributes separators s)]
  rfl

/-- A group has a heading in front of those of its children, also if it has none. -/
theorem headings_group (depth : ℕ) (g : Group) (children : List Xml) :
    (group options g children).headings depth =
      ⟨depth, g.code, true, children⟩ :: Xml.allHeadings (depth + 1) children := by
  cases children with
  | nil => simp [group, Xml.headings, Xml.allHeadings]
  | cons child rest => simp [group, Xml.headings]

mutual
/-- The headings of an entry are those of the entries visited in it. -/
theorem headings_node (depth : ℕ) (n : Node) :
    (node separators options n).headings depth =
      (n.walk depth).map (heading separators options) := by
  cases n with
  | segment s => rw [node, headings_segment separators options, Node.walk, List.map_singleton]
  | group g children =>
    rw [node, headings_group, allHeadings_nodes, Node.walk, List.map_cons]
    rfl

/-- The headings of some entries are those of the entries visited in them. -/
theorem allHeadings_nodes (depth : ℕ) (ns : List Node) :
    Xml.allHeadings depth (nodes separators options ns) =
      (Node.walkAll depth ns).map (heading separators options) := by
  cases ns with
  | nil => rfl
  | cons n rest =>
    rw [nodes, Xml.allHeadings, headings_node, allHeadings_nodes, Node.walkAll, List.map_append]
end

/-- The element of an item names its fields. -/
theorem namesIn_item (i : Item) : i.namesIn (item separators i) = i.fieldNames := by
  cases i with
  | simple e => rfl
  | composite c =>
    rw [item, composite]
    split
    · next hempty =>
      rw [List.isEmpty_iff] at hempty
      simp [Item.namesIn, Item.fieldNames, Xml.content, hempty]
    · simp [Item.namesIn, Item.fieldNames, Xml.content, element, Xml.name]

/-- The names in the element of an item that are spelled like those of fields are its fields,
unless the item looks like a field itself. -/
theorem fieldNames_item {i : Item} (hi : ¬ i.IsLookalike) :
    (item separators i).fieldNames = i.fieldNames := by
  cases i with
  | simple e => simp [item, element, Xml.fieldNames, Item.fieldNames, Xml.isFieldName_append]
  | composite c =>
    have helement : ∀ e, (element separators.component e).fieldNames = ["E" ++ e.code] := by
      intro e
      simp [element, Xml.fieldNames, Xml.isFieldName_append]
    rw [item, composite]
    split
    · next hempty =>
      rw [List.isEmpty_iff] at hempty
      have hname : ¬ Xml.IsFieldName c.code := fun h => hi ⟨hempty, h⟩
      simp [Xml.fieldNames, hname, Item.fieldNames, hempty]
    · rw [Xml.fieldNames, Xml.allFieldNames_eq_flatMap, List.flatMap_map, Item.fieldNames,
        List.map_eq_flatMap]
      simp only [helement]

end Body

end EdiSchema
