import Mathlib.Data.List.Forall2
import EdiSchema.Descriptor.Basic
import EdiSchema.Proofs.Idoc.Linearize

/-!
# One message in all dialects

The descriptors of a message for different dialects outline it in the same way: they have the
groups and segments of the message at the same depths and in the same order, and under every
segment the same names of fields.

In a delimited body the element of a composite without components is like that of a field, and
only the place among the items of the segment tells them apart. Fields are therefore read by their
place; reading them by the spelling of their names gives the same as long as no such composite is
spelled like a field.
-/

namespace EdiSchema

/-- Whether a heading of a delimited body stands for an entry: for a segment, the elements after the
first name the fields of the items one after the other. -/
def Body.StandsFor : Node → Xml.Heading → Prop
  | .segment s, h =>
    h.isGroup = false ∧ h.content.length = s.items.length + 1 ∧
      (List.zipWith Item.namesIn s.items h.content.tail).flatten = s.fieldNames ∧
      ((∀ i ∈ s.items, ¬ i.IsLookalike) → Xml.allFieldNames h.content = s.fieldNames)
  | .group _ _, h => h.isGroup = true

/-- Whether a heading of a document of records stands for an entry: for a segment, the elements
after its name and the five administrative fields are its fields. -/
def Idoc.StandsFor : Node → Xml.Heading → Prop
  | .segment s, h =>
    h.isGroup = false ∧ (h.content.drop 6).map Xml.name = s.fieldNames ∧
      Xml.allFieldNames h.content = s.fieldNames
  | .group _ _, h => h.isGroup = true

/-- The headings of a body stand for the entries visited. -/
theorem Body.standsFor_heading (separators : Separators) (options : DescriptorOptions)
    (entry : Node × ℕ) : StandsFor entry.1 (heading separators options entry) := by
  obtain ⟨node, depth⟩ := entry
  cases node with
  | group g children => rfl
  | segment s =>
    refine ⟨rfl, by simp [heading], ?_, fun hitems => ?_⟩
    · have hnames : List.zipWith Item.namesIn s.items (s.items.map (item separators)) =
          s.items.map Item.fieldNames := by
        rw [List.zipWith_map_right, List.zipWith_self]
        exact List.map_congr_left fun i _ => namesIn_item separators i
      rw [heading, List.tail_cons, hnames]
      rfl
    · have hnames : ∀ i ∈ s.items, (item separators i).fieldNames = i.fieldNames :=
        fun i hi => fieldNames_item separators (hitems i hi)
      rw [heading, Xml.allFieldNames, Xml.allFieldNames_eq_flatMap, List.flatMap_map,
        List.flatMap_congr hnames]
      rfl

/-- The headings of a document of records stand for the entries visited. -/
theorem Idoc.standsFor_heading (entry : Node × ℕ) : StandsFor entry.1 (heading entry) := by
  obtain ⟨node, depth⟩ := entry
  cases node with
  | group g children => rfl
  | segment s =>
    have hadmin : (adminFields.map plainField).flatMap Xml.fieldNames = [] := by decide
    have hfields : ∀ field ∈ segmentFields s, (fieldXml field).fieldNames = [field.name] :=
      fun field hfield => if_pos (isFieldName_of_mem_segmentFields hfield)
    refine ⟨rfl, ?_, ?_⟩
    · rw [← map_name_segmentFields]
      exact List.map_map
    · rw [heading, Xml.allFieldNames, Xml.allFieldNames_eq_flatMap, List.flatMap_append, hadmin,
        List.flatMap_map, List.flatMap_congr hfields, ← List.map_eq_flatMap, map_name_segmentFields]
      rfl

namespace Descriptor

open Idoc

/-- A message with entries has a descriptor for every dialect. The groups and segments in the
descriptors are the entries of the message in the order of a walk, with their depths and codes,
and the fields of each segment are its items with every composite replaced by its components. -/
theorem ofMessage_outlines (options : DescriptorOptions) (m : Message) (hne : m.nodes ≠ []) :
    (∀ dialect ∈ [Dialect.edifact, .x12], ∃ descriptor body content,
      ofMessage dialect options m = .ok descriptor ∧ descriptor.body = some body ∧
      body.content = (Xml.element "MESSAGE"
        [("format", "none"), ("max", "n"), ("requirement", "mandatory")]
        (.comment (Body.title m) :: content)).text ∧
      (Xml.allHeadings 0 content).map (fun h => (h.depth, h.name)) =
        m.walk.map (fun entry => (entry.2, entry.1.code)) ∧
      List.Forall₂ (fun entry h => Body.StandsFor entry.1 h) m.walk (Xml.allHeadings 0 content)) ∧
    ∃ descriptor content,
      ofMessage .idoc options m = .ok descriptor ∧
      descriptor.content = (Xml.element "ixDOC"
        [("format", "variable"), ("end", "\\r\\n or \\n")] [
          .comment (Naming.reference m.document),
          .element "TRANSACTION" [("format", "none"), ("max", "n")]
            (controlRecord :: content)]).document ∧
      (Xml.allHeadings 0 content).map (fun h => (h.depth, h.name)) =
        m.walk.map (fun entry => (entry.2, elementName entry.1)) ∧
      List.Forall₂ (fun entry h => Idoc.StandsFor entry.1 h) m.walk
        (Xml.allHeadings 0 content) := by
  have hempty : m.isEmpty = false := by simpa [Message.isEmpty] using hne
  refine ⟨?_, ?_⟩
  · intro dialect hdialect
    obtain ⟨interchange, hinterchange⟩ :
        ∃ interchange, dialect.interchange? = some interchange := by
      simp only [List.mem_cons, List.not_mem_nil, or_false] at hdialect
      rcases hdialect with rfl | rfl <;> exact ⟨_, rfl⟩
    have hheadings := Body.allHeadings_nodes interchange.separators options 0 m.nodes
    refine ⟨delimited dialect interchange options m, _,
      Body.nodes interchange.separators options m.nodes, ?_, rfl, rfl, ?_, ?_⟩
    · simp [ofMessage, hempty, hinterchange]
    · rw [hheadings, List.map_map]
      exact List.map_congr_left fun entry _ =>
        Body.outline_heading interchange.separators options entry
    · rw [hheadings, List.forall₂_map_right_iff]
      exact List.forall₂_same.2 fun entry _ =>
        Body.standsFor_heading interchange.separators options entry
  · have hheadings := allHeadings_blocksOf 0 m.nodes
    have hrecords : (linearize m).isEmpty = false :=
      List.isEmpty_eq_false_iff.2 (linearize_ne_nil hne)
    refine ⟨ofBlocks m.document (blocksOf m.nodes), Block.allToXml (blocksOf m.nodes), ?_, rfl, ?_,
      ?_⟩
    · simp [ofMessage, hempty, Dialect.interchange?, ofRecords, hrecords, ofRecords_linearize]
    · rw [hheadings, List.map_map]
      exact List.map_congr_left fun entry _ => Idoc.outline_heading entry
    · rw [hheadings, List.forall₂_map_right_iff]
      exact List.forall₂_same.2 fun entry _ => Idoc.standsFor_heading entry

/-- A message in which a group holds an empty group of its own code, and a segment holds a composite
without components. -/
def recurring : Message where
  standard := "EDIFACT"
  revision := "D97A"
  document := "ORDERS"
  nodes := [
    .segment { tag := "BGM", items := [
      .composite { code := "C002", components := [{ code := "1001" }, { code := "3055" }] },
      .composite { code := "C106" }, .simple { code := "1225" }] },
    .group { code := "SG1" } [.group { code := "SG1" } [], .segment { tag := "BGM" }]]

/-- Codes that recur and groups without entries are outlined in the same way by both kinds of
descriptors. -/
theorem ofMessage_outlines_recurring :
    recurring.nodes ≠ [] ∧
    (∃ descriptor, ofMessage .x12 {} recurring = .ok descriptor ∧
      ∃ body content, descriptor.body = some body ∧
        body.content = (Xml.element "MESSAGE"
          [("format", "none"), ("max", "n"), ("requirement", "mandatory")]
          (.comment (Body.title recurring) :: content)).text ∧
        (Xml.allHeadings 0 content).map (fun h => (h.depth, h.name)) =
          [(0, "BGM"), (0, "SG1"), (1, "SG1"), (1, "BGM")]) ∧
    ∃ descriptor content, ofMessage .idoc {} recurring = .ok descriptor ∧
      (Xml.allHeadings 0 content).map (fun h => (h.depth, h.name)) =
        [(0, "BGM"), (0, "SG1_GROUP"), (1, "SG1_GROUP"), (1, "BGM")] ∧
      List.Forall₂ (fun entry h => Idoc.StandsFor entry.1 h) recurring.walk
        (Xml.allHeadings 0 content) := by
  have hne : recurring.nodes ≠ [] := by simp [recurring]
  obtain ⟨hdelimited, descriptor, content, hok, -, houtline, hfields⟩ :=
    ofMessage_outlines {} recurring hne
  obtain ⟨descriptor', body, content', hok', hbody, htext, houtline', -⟩ :=
    hdelimited .x12 (by simp)
  exact ⟨hne, ⟨descriptor', hok', body, content', hbody, htext, houtline'⟩,
    descriptor, content, hok, houtline, hfields⟩

end Descriptor

end EdiSchema
