import Mathlib.Data.List.Forall2
import EdiSchema.Descriptor.Basic
import EdiSchema.Proofs.Idoc.Acceptance
import EdiSchema.Proofs.Xml.Tags

/-!
# Descriptors of record lists

A record list has a descriptor exactly if it is well formed and not empty. The descriptor is then
a document with properly nested tags, in which the blocks that the list re-nests into stand after
the control record.
-/

namespace EdiSchema

namespace Idoc

/-- Which element shows a field of a segment. -/
def ShowsField (field : Field) (node : Xml) : Prop :=
  ∃ attributes, node = .empty field.name attributes

/-- Which element shows a block: a segment is shown by the name of the segment, five administrative
fields and its own fields, and a group by what shows its blocks. -/
inductive Shows : Block → Xml → Prop
  | segment {tag typeName : String} {bound : MaxOccurs} {fields : List Field}
      {attributes key mandt docnum segnum psgnum hlevel : List (String × String)}
      {content : List Xml} (hfields : List.Forall₂ ShowsField fields content) :
      Shows (.segment tag typeName bound fields)
        (.element typeName attributes
          (.leaf "SEGNAM" key tag :: .empty "MANDT" mandt :: .empty "DOCNUM" docnum ::
            .empty "SEGNUM" segnum :: .empty "PSGNUM" psgnum :: .empty "HLEVEL" hlevel :: content))
  | group {name : String} {bound : MaxOccurs} {blocks : List Block}
      {attributes : List (String × String)} {content : List Xml}
      (hcontent : List.Forall₂ Shows blocks content) :
      Shows (.group name bound blocks) (.element (name ++ "_GROUP") attributes content)

mutual
/-- The element that is written for a block shows it. -/
theorem shows_toXml (block : Block) : Shows block block.toXml := by
  cases block with
  | segment tag typeName bound fields =>
    have hfields : List.Forall₂ ShowsField fields (fields.map fieldXml) := by
      rw [List.forall₂_map_right_iff]
      exact List.forall₂_same.2 fun field _ => ⟨_, rfl⟩
    exact .segment hfields
  | group name bound blocks => exact .group (shows_allToXml blocks)

/-- The elements that are written for blocks show them in order. -/
theorem shows_allToXml (blocks : List Block) :
    List.Forall₂ Shows blocks (Block.allToXml blocks) := by
  cases blocks with
  | nil => exact .nil
  | cons block rest => exact .cons (shows_toXml block) (shows_allToXml rest)
end

end Idoc

/-- Every fault is reported as that of an invalid model. -/
theorem DescriptorFault.exists_message_eq (fault : DescriptorFault) :
    ∃ detail, fault.message = "Invalid model: " ++ detail := by
  have hassoc : ∀ a b c d e f g : String,
      a ++ b ++ c ++ d ++ e ++ f ++ g = a ++ (b ++ c ++ d ++ e ++ f ++ g) := by
    intro a b c d e f g
    simp only [String.append_assoc]
  cases fault with
  | noEntries m => exact ⟨_, hassoc _ m.standard " " m.revision " " m.document " has no segments"⟩
  | noRecords document => exact ⟨_, String.append_assoc⟩
  | records fault => exact ⟨fault.message, rfl⟩

namespace Descriptor

open Idoc

/-- A record list has a descriptor if it has records and re-nests into blocks. -/
theorem ofRecords_eq_ok_iff {document : String} {records : List Record} {descriptor : Descriptor} :
    ofRecords document records = .ok descriptor ↔
      records ≠ [] ∧ ∃ blocks, Renests records blocks ∧ descriptor = ofBlocks document blocks := by
  rw [ofRecords]
  cases records with
  | nil => simp
  | cons record rest =>
    simp only [List.isEmpty_cons, Bool.false_eq_true, if_false, ne_eq, reduceCtorEq,
      not_false_eq_true, true_and, ← Block.ofRecords_eq_ok_iff]
    cases Block.ofRecords (record :: rest) with
    | error fault => simp
    | ok blocks => simp [eq_comm]

/-- A record list has a descriptor exactly if it is well formed and not empty, and is an invalid
model otherwise. The tags of the descriptor are properly nested, and after the control record
stand the blocks that the list re-nests into. -/
theorem ofRecords_renests (document : String) (records : List Record) :
    ((∃ descriptor, ofRecords document records = .ok descriptor) ↔
      records ≠ [] ∧ WellFormed records) ∧
    ((∃ fault, ofRecords document records = .error fault ∧
        ∃ detail, fault.message = "Invalid model: " ++ detail) ↔
      ¬ (records ≠ [] ∧ WellFormed records)) ∧
    ∀ descriptor, ofRecords document records = .ok descriptor →
      ∃ blocks content root, Renests records blocks ∧ List.Forall₂ Shows blocks content ∧
        root = Xml.element "ixDOC" [("format", "variable"), ("end", "\\r\\n or \\n")] [
          .comment (Naming.reference document),
          .element "TRANSACTION" [("format", "none"), ("max", "n")] (controlRecord :: content)] ∧
        descriptor.content =
          Xml.declaration ++ "\n" ++ String.ofList (Xml.Line.write 0 root.lines) ∧
        Xml.ProperlyNested (root.lines.flatMap Xml.Line.tags) := by
  have hok : (∃ descriptor, ofRecords document records = .ok descriptor) ↔
      records ≠ [] ∧ WellFormed records := by
    simp only [ofRecords_eq_ok_iff, ← Block.exists_ofRecords_iff, Block.ofRecords_eq_ok_iff]
    constructor
    · rintro ⟨_, hne, blocks, hblocks, -⟩
      exact ⟨hne, blocks, hblocks⟩
    · rintro ⟨hne, blocks, hblocks⟩
      exact ⟨_, hne, blocks, hblocks, rfl⟩
  refine ⟨hok, ?_, fun descriptor hdescriptor => ?_⟩
  · rw [← hok]
    cases ofRecords document records with
    | ok descriptor => simp
    | error fault => simp [fault.exists_message_eq]
  · obtain ⟨-, blocks, hblocks, rfl⟩ := ofRecords_eq_ok_iff.1 hdescriptor
    refine ⟨blocks, Block.allToXml blocks, _, hblocks, shows_allToXml blocks, rfl, ?_,
      Xml.properlyNested_tags _⟩
    rw [← Xml.text_eq_write]
    rfl

/-- A group that is ended in a group that is not. -/
def unended : List Record :=
  [.groupBegin "SG1" (.bounded 9), .segment "E1EDK01" "E1EDK01005" .one,
    .field "BELNR" 35 "number", .groupBegin "SG2" .one, .groupEnd "SG2",
    .segment "E1EDKT1" "E1EDKT1002" .one]

/-- A group that is not ended holds everything up to the end of the list. -/
theorem ofRecords_renests_unended :
    ofRecords "ORDERS05" unended = .ok (ofBlocks "ORDERS05" [
      .group "SG1" (.bounded 9) [
        .segment "E1EDK01" "E1EDK01005" .one [⟨"BELNR", 35, "number"⟩],
        .group "SG2" .one [],
        .segment "E1EDKT1" "E1EDKT1002" .one []]]) ∧
    WellFormed unended ∧
    ∃ blocks content, Renests unended blocks ∧ List.Forall₂ Shows blocks content := by
  refine ⟨rfl, ((ofRecords_renests "ORDERS05" unended).1.1 ⟨_, rfl⟩).2, ?_⟩
  obtain ⟨blocks, content, -, hblocks, hcontent, -⟩ :=
    (ofRecords_renests "ORDERS05" unended).2.2 _ rfl
  exact ⟨blocks, content, hblocks, hcontent⟩

end Descriptor

end EdiSchema
