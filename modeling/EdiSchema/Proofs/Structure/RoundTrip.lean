import EdiSchema.Proofs.Json.Nesting
import EdiSchema.Proofs.Structure.Canonical

/-!
# Saving and loading a structure

The text of a saved structure is read as the structure again, exactly when all of its entries are
canonical and its JSON is not nested too deep. Reading the text gives the JSON that was written,
since all of it is text and every place in it is read; the rest is a matter of the JSON alone.
-/

namespace EdiSchema

open Json Decoding

/-- An element is saved in texts. -/
theorem Element.textual_toJson (element : Element) : Textual element.toJson := by
  refine .object ?_
  simp [Textual.text, ofCount]

/-- A composite is saved in texts. -/
theorem Composite.textual_toJson (composite : Composite) : Textual composite.toJson := by
  have hcomponents : Textual (.array (composite.components.map Element.toJson)) :=
    .array (by simp [Element.textual_toJson])
  refine .object ?_
  simp [Textual.text, hcomponents]

/-- An item is saved in texts. -/
theorem Item.textual_toJson (item : Item) : Textual item.toJson := by
  cases item with
  | composite c => exact c.textual_toJson
  | simple e => exact e.textual_toJson

/-- A segment is saved in texts. -/
theorem Segment.textual_toJson (segment : Segment) : Textual segment.toJson := by
  have hitems : Textual (.array (segment.items.map Item.toJson)) :=
    .array (by simp [Item.textual_toJson])
  refine .object ?_
  simp [Textual.text, ofCount, hitems]

/-- A group is saved in texts if its children are. -/
theorem Group.textual_toJson (group : Group) {children : List Json}
    (hchildren : ∀ child ∈ children, Textual child) : Textual (group.toJson children) := by
  have harray : Textual (.array children) := .array hchildren
  refine .object ?_
  cases hmax : group.maxOccurs <;> simp [Group.maxMember, hmax, Textual.text, ofCount, harray]

mutual
/-- An entry is saved in texts. -/
theorem Node.textual_toJson (node : Node) : Textual node.toJson := by
  cases node with
  | segment s => exact s.textual_toJson
  | group g children => exact g.textual_toJson (Node.textual_toJsonAll children)

/-- Entries are saved in texts. -/
theorem Node.textual_toJsonAll (nodes : List Node) : ∀ value ∈ toJsonAll nodes, Textual value := by
  cases nodes with
  | nil => simp [toJsonAll]
  | cons node rest =>
    exact List.forall_mem_cons.2 ⟨Node.textual_toJson node, Node.textual_toJsonAll rest⟩
end

namespace Message

/-- Every place in the text of a saved message is read. -/
theorem watched_toJson (message : Message) : Watched isRead [] message.toJson := by
  have htexts : ∀ member ∈ [("Standard", Json.text message.standard),
      ("Revision", .text message.revision), ("Document", .text message.document),
      ("Segments", .array (Node.toJsonAll message.nodes))], Textual member.2 := by
    have hnodes : Textual (.array (Node.toJsonAll message.nodes)) :=
      .array (Node.textual_toJsonAll message.nodes)
    simp [Textual.text, hnodes]
  refine .object rfl fun member hmember => (htexts member hmember).watched fun steps => ?_
  have hkey : member.1 ∈ ["Standard", "Revision", "Document", "Segments"] :=
    List.mem_map_of_mem (f := Prod.fst) hmember
  simpa [isRead] using hkey

/-- A message is loaded from its text if it is read from its JSON, and that is not nested too deep. -/
theorem ofText_toText_of_ofJson {message : Message} (hdecode : ofJson message.toJson = .ok message)
    (hnesting : message.toJson.nesting ≤ depthLimit) : ofText message.toText = .ok message := by
  rw [ofText, Decoding.ofText, toText, message.watched_toJson.skim?_pretty, if_pos hnesting]
  simp [hdecode]

/-- A message that is saved and loaded is the same again exactly if its entries are canonical and
its JSON is nested at most 127 deep. -/
theorem ofText_toText_eq_ok_iff (message : Message) :
    ofText message.toText = .ok message ↔
      (∀ entry ∈ message.walk, entry.1.Canonical) ∧ message.toJson.nesting ≤ 127 := by
  have hskim := message.watched_toJson.skim?_pretty
  rw [← ofJson_toJson_eq_ok_iff, ofText, Decoding.ofText, toText, hskim]
  change _ ↔ _ ∧ message.toJson.nesting ≤ depthLimit
  by_cases hnesting : message.toJson.nesting ≤ depthLimit
  · rw [if_pos hnesting, and_iff_left hnesting]
    cases hdecode : ofJson message.toJson with
    | ok decoded => simp [hdecode]
    | error fault =>
      simp only [hdecode, reduceCtorEq, iff_false]
      split <;> simp
  · rw [if_neg hnesting, and_iff_right_of_imp fun h => absurd h hnesting]
    simp [hnesting]

end Message

end EdiSchema
