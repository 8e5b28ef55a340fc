import EdiSchema.Proofs.Descriptor.Emission
import EdiSchema.Proofs.Descriptor.ReadBack

/-!
# Upper bounds in all dialects

Every group and segment of a descriptor shows an upper bound: that of its entry, in every dialect.
The dialects differ for a group without a bound alone. In a delimited body it shows the bound that
the options give to such groups; in a document of records it has become a group of bound one before
the options are looked at.
-/

namespace EdiSchema

/-- The upper bound of an entry as descriptors write it, given that of a group without one. -/
def Node.bound (groupMax : String) : Node → String
  | .segment s => s.maxOccurs.descriptorText
  | .group g _ => g.maxOccurs.elim groupMax MaxOccurs.descriptorText

/-- Whether an entry is a group without an upper bound. -/
def Node.IsOpen : Node → Prop
  | .segment _ => False
  | .group g _ => g.maxOccurs = none

/-- Bounds given to groups without one make a difference to these groups alone. -/
theorem Node.bound_eq_iff (node : Node) (first second : String) :
    node.bound first = node.bound second ↔ (node.IsOpen → first = second) := by
  cases node with
  | segment s => simp [bound, IsOpen]
  | group g children => cases hmax : g.maxOccurs <;> simp [bound, IsOpen, hmax]

/-- A bound is shown that is left out when it is one. -/
theorem Body.shownMax_maxAttribute {before after : List (String × String)} (bound : MaxOccurs)
    (hbefore : before.lookup "max" = none) (hafter : after.lookup "max" = none) :
    Xml.shownMax (before ++ maxAttribute bound ++ after) = bound.descriptorText := by
  rw [Xml.shownMax, List.lookup_append, List.lookup_append, hbefore, hafter, lookup_maxAttribute]
  by_cases hone : bound = .one
  · rw [hone]
    decide
  · simp [hone]

namespace Body

variable (separators : Separators) (options : DescriptorOptions)

/-- A segment shows its bound. -/
theorem bounds_segment (depth : ℕ) (s : Segment) :
    (segment separators s).bounds depth = [⟨depth, s.tag, s.maxOccurs.descriptorText⟩] := by
  have hmax : Xml.shownMax (segmentAttributes separators s) = s.maxOccurs.descriptorText := by
    rw [segmentAttributes, ← List.append_nil (_ ++ maxAttribute _)]
    refine shownMax_maxAttribute s.maxOccurs ?_ rfl
    simp [List.lookup_cons, lookup_minAttribute]
  rw [segment, Xml.bounds, if_neg (format_notMem_segmentAttributes separators s),
    if_pos (errorLevel_mem_segmentAttributes separators s), hmax]

/-- A group shows its bound in front of those of its children. -/
theorem bounds_group (depth : ℕ) (g : Group) (children : List Xml) :
    (group options g children).bounds depth =
      ⟨depth, g.code, groupMax options g⟩ :: Xml.allBounds (depth + 1) children := by
  cases children with
  | nil => simp [group, Xml.bounds, Xml.allBounds, Xml.shownMax, List.lookup_cons]
  | cons child rest => simp [group, Xml.bounds, Xml.shownMax, List.lookup_cons]

mutual
/-- The entries visited in an entry show their bounds. -/
theorem bounds_node (depth : ℕ) (n : Node) :
    (node separators options n).bounds depth = (n.walk depth).map fun entry =>
      ⟨entry.2, entry.1.code, entry.1.bound options.groupMax⟩ := by
  cases n with
  | segment s => rw [node, bounds_segment]; rfl
  | group g children =>
    rw [node, bounds_group, allBounds_nodes, Node.walk, List.map_cons]
    rfl

/-- The entries visited in some entries show their bounds. -/
theorem allBounds_nodes (depth : ℕ) (ns : List Node) :
    Xml.allBounds depth (nodes separators options ns) = (Node.walkAll depth ns).map fun entry =>
      ⟨entry.2, entry.1.code, entry.1.bound options.groupMax⟩ := by
  cases ns with
  | nil => rfl
  | cons n rest =>
    rw [nodes, Xml.allBounds, bounds_node, allBounds_nodes, Node.walkAll, List.map_append]
end

end Body

namespace Idoc

/-- A segment of a document of records shows its bound. -/
theorem bounds_segmentXml (depth : ℕ) (tag typeName : String) (bound : MaxOccurs)
    (fields : List Field) :
    (segmentXml tag typeName bound fields).bounds depth =
      [⟨depth, typeName, bound.descriptorText⟩] := by
  have hgroup : ("format", "none") ∉ Body.maxAttribute bound ++ [("errorLevel", "true")] := by
    simp [Body.format_notMem_maxAttribute]
  have hmax : Xml.shownMax ([] ++ Body.maxAttribute bound ++ [("errorLevel", "true")]) =
      bound.descriptorText := Body.shownMax_maxAttribute bound rfl rfl
  rw [segmentXml, Xml.bounds, if_neg hgroup, if_pos (by simp), ← hmax]
  rfl

/-- A group of a document of records shows its bound in front of those of its blocks. -/
theorem bounds_groupXml (depth : ℕ) (group : String) (bound : MaxOccurs) (content : List Xml) :
    (groupXml group bound content).bounds depth =
      ⟨depth, groupElement group, bound.descriptorText⟩ :: Xml.allBounds (depth + 1) content := by
  have hmax : Xml.shownMax ([("format", "none")] ++ Body.maxAttribute bound ++ []) =
      bound.descriptorText := Body.shownMax_maxAttribute bound rfl rfl
  rw [groupXml, Xml.bounds, if_pos (by simp), ← hmax, List.append_nil]

mutual
/-- The entries visited in an entry show their bounds, and groups without one the bound one. -/
theorem bounds_blockOf (depth : ℕ) (node : Node) :
    (blockOf node).toXml.bounds depth = (node.walk depth).map fun entry =>
      ⟨entry.2, elementName entry.1, entry.1.bound "1"⟩ := by
  cases node with
  | segment s =>
    rw [blockOf, Block.toXml, bounds_segmentXml, Node.walk]
    rfl
  | group g children =>
    have hbound : (g.maxOccurs.getD .one).descriptorText = (Node.group g children).bound "1" := by
      rw [Node.bound]
      cases g.maxOccurs with
      | none => decide
      | some bound => rfl
    rw [blockOf, Block.toXml, bounds_groupXml, allBounds_blocksOf, Node.walk, List.map_cons, hbound]
    rfl

/-- The entries visited in some entries show their bounds. -/
theorem allBounds_blocksOf (depth : ℕ) (nodes : List Node) :
    Xml.allBounds depth (Block.allToXml (blocksOf nodes)) =
      (Node.walkAll depth nodes).map fun entry =>
        ⟨entry.2, elementName entry.1, entry.1.bound "1"⟩ := by
  cases nodes with
  | nil => rfl
  | cons node rest =>
    rw [blocksOf, Block.allToXml, Xml.allBounds, bounds_blockOf, allBounds_blocksOf, Node.walkAll,
      List.map_append]
end

end Idoc

namespace Descriptor

open Idoc

/-- The groups and segments in the descriptors of a message show the bounds of its entries. A group
without one shows that of the options in a delimited body, and one in a document of records, so
the dialects show the same bounds if there is no such group or the options say one as well. -/
theorem ofMessage_bounds (options : DescriptorOptions) {m : Message} (hne : m.nodes ≠ []) :
    (∀ dialect ∈ [Dialect.edifact, .x12], ∃ descriptor body content,
      ofMessage dialect options m = .ok descriptor ∧ descriptor.body = some body ∧
      body.content = (Xml.element "MESSAGE"
        [("format", "none"), ("max", "n"), ("requirement", "mandatory")]
        (.comment (Body.title m) :: content)).text ∧
      Xml.allBounds 0 content = m.walk.map fun entry =>
        ⟨entry.2, entry.1.code, entry.1.bound options.groupMax⟩) ∧
    (∃ descriptor content,
      ofMessage .idoc options m = .ok descriptor ∧
      descriptor.content = (Xml.element "ixDOC"
        [("format", "variable"), ("end", "\\r\\n or \\n")] [
          .comment (Naming.reference m.document),
          .element "TRANSACTION" [("format", "none"), ("max", "n")]
            (controlRecord :: content)]).document ∧
      Xml.allBounds 0 content = m.walk.map fun entry =>
        ⟨entry.2, elementName entry.1, entry.1.bound "1"⟩) ∧
    ((∀ entry ∈ m.walk, entry.1.bound options.groupMax = entry.1.bound "1") ↔
      (∃ entry ∈ m.walk, entry.1.IsOpen) → options.groupMax = "1") := by
  have hempty : m.isEmpty = false := by simpa [Message.isEmpty] using hne
  refine ⟨?_, ?_, ?_⟩
  · intro dialect hdialect
    obtain ⟨interchange, hinterchange⟩ :
        ∃ interchange, dialect.interchange? = some interchange := by
      simp only [List.mem_cons, List.not_mem_nil, or_false] at hdialect
      rcases hdialect with rfl | rfl <;> exact ⟨_, rfl⟩
    refine ⟨delimited dialect interchange options m, _,
      Body.nodes interchange.separators options m.nodes, ?_, rfl, rfl,
      Body.allBounds_nodes interchange.separators options 0 m.nodes⟩
    simp [ofMessage, hempty, hinterchange]
  · refine ⟨ofBlocks m.document (blocksOf m.nodes), Block.allToXml (blocksOf m.nodes), ?_, rfl,
      allBounds_blocksOf 0 m.nodes⟩
    simp [ofMessage, hempty, Dialect.interchange?, ofRecords_linearize m.document hne]
  · simp only [Node.bound_eq_iff]
    constructor
    · intro h hsome
      obtain ⟨entry, hentry, hopen⟩ := hsome
      exact h entry hentry hopen
    · intro h entry hentry hopen
      exact h ⟨entry, hentry, hopen⟩

/-- Groups without a bound show the same in all dialects if the options give them the bound one. -/
theorem ofMessage_bounds_recurring :
    recurring.nodes ≠ [] ∧
    (∃ descriptor body content, ofMessage .x12 { groupMax := "1" } recurring = .ok descriptor ∧
      descriptor.body = some body ∧
      body.content = (Xml.element "MESSAGE"
        [("format", "none"), ("max", "n"), ("requirement", "mandatory")]
        (.comment (Body.title recurring) :: content)).text ∧
      Xml.allBounds 0 content =
        [⟨0, "BGM", "1"⟩, ⟨0, "SG1", "1"⟩, ⟨1, "SG1", "1"⟩, ⟨1, "BGM", "1"⟩]) ∧
    ∃ descriptor content, ofMessage .idoc { groupMax := "1" } recurring = .ok descriptor ∧
      Xml.allBounds 0 content =
        [⟨0, "BGM", "1"⟩, ⟨0, "SG1_GROUP", "1"⟩, ⟨1, "SG1_GROUP", "1"⟩, ⟨1, "BGM", "1"⟩] := by
  have hne : recurring.nodes ≠ [] := by simp [recurring]
  obtain ⟨hdelimited, ⟨descriptor', content', hok', -, hbounds'⟩, -⟩ :=
    ofMessage_bounds { groupMax := "1" } hne
  obtain ⟨descriptor, body, content, hok, hbody, htext, hbounds⟩ := hdelimited .x12 (by simp)
  refine ⟨hne, ⟨descriptor, body, content, hok, hbody, htext, hbounds.trans ?_⟩,
    descriptor', content', hok', hbounds'.trans ?_⟩
  · decide +kernel
  · decide +kernel

/-- A group without a bound shows that of the options in a delimited body, and one in a document of
records. -/
theorem ofMessage_bounds_differ :
    (∃ descriptor body content, ofMessage .edifact {} recurring = .ok descriptor ∧
      descriptor.body = some body ∧
      body.content = (Xml.element "MESSAGE"
        [("format", "none"), ("max", "n"), ("requirement", "mandatory")]
        (.comment (Body.title recurring) :: content)).text ∧
      Xml.allBounds 0 content =
        [⟨0, "BGM", "1"⟩, ⟨0, "SG1", "10"⟩, ⟨1, "SG1", "10"⟩, ⟨1, "BGM", "1"⟩]) ∧
    ∃ descriptor content, ofMessage .idoc {} recurring = .ok descriptor ∧
      descriptor.content = (Xml.element "ixDOC"
        [("format", "variable"), ("end", "\\r\\n or \\n")] [
          .comment (Naming.reference recurring.document),
          .element "TRANSACTION" [("format", "none"), ("max", "n")]
            (controlRecord :: content)]).document ∧
      Xml.allBounds 0 content =
        [⟨0, "BGM", "1"⟩, ⟨0, "SG1_GROUP", "1"⟩, ⟨1, "SG1_GROUP", "1"⟩, ⟨1, "BGM", "1"⟩] := by
  have hne : recurring.nodes ≠ [] := by simp [recurring]
  refine ⟨⟨_, _, _, rfl, rfl, rfl, ?_⟩, ⟨_, _, ofRecords_linearize "ORDERS" hne, rfl, ?_⟩⟩
  · decide +kernel
  · decide +kernel

end Descriptor

end EdiSchema
