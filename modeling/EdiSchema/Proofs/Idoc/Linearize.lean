import EdiSchema.Idoc.Document
import EdiSchema.Proofs.Descriptor.Delimited
import EdiSchema.Proofs.Idoc.Nesting

/-!
# Record lists of messages

The record list of a message nests: its groups are ended where they end in the message. The blocks
are the entries of the message again, so their document has a heading for every entry that is
visited when the message is walked.
-/

namespace EdiSchema.Idoc

/-- The field of an element. -/
def elementField (e : Element) : Field where
  name := "E" ++ e.code
  length := if e.maxLength = 0 then defaultLength else e.maxLength
  description := e.name

/-- The fields of an item. -/
def itemFields : Item → List Field
  | .composite c => c.components.map elementField
  | .simple e => [elementField e]

/-- The fields of a segment. -/
def segmentFields (s : Segment) : List Field :=
  s.items.flatMap itemFields

mutual
/-- The block of an entry of a message. -/
def blockOf : Node → Block
  | .segment s => .segment s.tag s.tag s.maxOccurs (segmentFields s)
  | .group g children => .group g.code (g.maxOccurs.getD .one) (blocksOf children)

/-- The blocks of the entries of a list. -/
def blocksOf : List Node → List Block
  | [] => []
  | node :: rest => blockOf node :: blocksOf rest
end

theorem itemRecords_eq (item : Item) : itemRecords item = (itemFields item).map Field.record := by
  cases item with
  | simple e => rfl
  | composite c =>
    rw [itemRecords, itemFields, List.map_map]
    rfl

theorem segmentRecords_eq (s : Segment) :
    segmentRecords s = .segment s.tag s.tag s.maxOccurs :: (segmentFields s).map Field.record := by
  rw [segmentRecords, segmentFields, List.map_flatMap, funext itemRecords_eq]

mutual
/-- The records of an entry nest into its block. -/
theorem nested_nodeRecords (node : Node) : Nested (nodeRecords node) [blockOf node] := by
  cases node with
  | segment s =>
    rw [nodeRecords, segmentRecords_eq]
    simpa [blockOf] using Nested.segment s.tag s.tag s.maxOccurs (segmentFields s) .nil
  | group g children =>
    exact .group g.code (g.maxOccurs.getD .one) (nested_recordsOf children) .nil

/-- The records of some entries nest into their blocks. -/
theorem nested_recordsOf (nodes : List Node) : Nested (recordsOf nodes) (blocksOf nodes) := by
  cases nodes with
  | nil => exact .nil
  | cons node rest => exact (nested_nodeRecords node).append (nested_recordsOf rest)
end

/-- The record list of a message is read as its entries. -/
theorem ofRecords_linearize (m : Message) :
    Block.ofRecords (linearize m) = .ok (blocksOf m.nodes) :=
  Block.ofRecords_eq_ok_iff.2 (.closed (nested_recordsOf m.nodes))

theorem linearize_ne_nil {m : Message} (hne : m.nodes ≠ []) : linearize m ≠ [] := by
  obtain ⟨node, rest, hnodes⟩ := List.exists_cons_of_ne_nil hne
  rw [linearize, hnodes, recordsOf]
  cases node <;> simp [nodeRecords, segmentRecords]

/-- The name of the element of an entry in a document of records. -/
def elementName : Node → String
  | .segment s => s.tag
  | .group g _ => g.code ++ "_GROUP"

/-- The heading of an entry in a document of records, given its depth. -/
def heading : Node × ℕ → Xml.Heading
  | (.segment s, depth) =>
    ⟨depth, s.tag, false,
      keyField "SEGNAM" nameLength s.tag ::
        (adminFields.map plainField ++ (segmentFields s).map fieldXml)⟩
  | (.group g children, depth) =>
    ⟨depth, groupElement g.code, true, Block.allToXml (blocksOf children)⟩

mutual
/-- The headings of an entry are those of the entries visited in it. -/
theorem headings_blockOf (depth : ℕ) (node : Node) :
    (blockOf node).toXml.headings depth = (node.walk depth).map heading := by
  cases node with
  | segment s =>
    have hgroup :
        ("format", "none") ∉ Body.maxAttribute s.maxOccurs ++ [("errorLevel", "true")] := by
      simp [Body.format_notMem_maxAttribute]
    rw [blockOf, Block.toXml, segmentXml, Xml.headings, if_neg hgroup, if_pos (by simp), Node.walk]
    rfl
  | group g children =>
    rw [blockOf, Block.toXml, groupXml, Xml.headings, if_pos (by simp), allHeadings_blocksOf,
      Node.walk, List.map_cons]
    rfl

/-- The headings of some entries are those of the entries visited in them. -/
theorem allHeadings_blocksOf (depth : ℕ) (nodes : List Node) :
    Xml.allHeadings depth (Block.allToXml (blocksOf nodes)) =
      (Node.walkAll depth nodes).map heading := by
  cases nodes with
  | nil => rfl
  | cons node rest =>
    rw [blocksOf, Block.allToXml, Xml.allHeadings, headings_blockOf, allHeadings_blocksOf,
      Node.walkAll, List.map_append]
end

theorem map_name_itemFields (item : Item) : (itemFields item).map (·.name) = item.fieldNames := by
  cases item with
  | simple e => rfl
  | composite c =>
    rw [itemFields, List.map_map]
    rfl

/-- The fields of a segment have the names of its data elements. -/
theorem map_name_segmentFields (s : Segment) : (segmentFields s).map (·.name) = s.fieldNames := by
  rw [segmentFields, List.map_flatMap, funext map_name_itemFields]
  rfl

/-- The names of the fields of a segment are spelled like those of fields. -/
theorem isFieldName_of_mem_segmentFields {s : Segment} {field : Field}
    (hfield : field ∈ segmentFields s) : Xml.IsFieldName field.name := by
  obtain ⟨item, -, hitem⟩ := List.mem_flatMap.1 hfield
  cases item with
  | simple e =>
    rw [itemFields, List.mem_singleton] at hitem
    rw [hitem]
    exact Xml.isFieldName_append e.code
  | composite c =>
    obtain ⟨e, -, rfl⟩ := List.mem_map.1 hitem
    exact Xml.isFieldName_append e.code

/-- The depth and name of a heading are those of its entry. -/
theorem outline_heading (entry : Node × ℕ) :
    ((heading entry).depth, (heading entry).name) = (entry.2, elementName entry.1) := by
  obtain ⟨node, depth⟩ := entry
  cases node <;> rfl

end EdiSchema.Idoc
