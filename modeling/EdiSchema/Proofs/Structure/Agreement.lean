import Mathlib.Data.List.Forall2
import EdiSchema.Proofs.Extraction.Canonical
import EdiSchema.Proofs.Structure.Decode

/-!
# Requirements and lower bounds

A segment that is mandatory occurs at least once, and one that is conditional need not occur. What
is extracted agrees with this throughout. What is loaded agrees for mandatory segments, whose lower
bounds are raised; a conditional segment keeps the lower bound that was stated for it, whatever it
is.

To say which lower bounds were stated, the values that segments are loaded from are listed in the
order of the segments.
-/

namespace EdiSchema

open Decoding

/-- Whether the lower bound of a segment is what its requirement says: not zero if the segment is
mandatory, and zero if it is conditional. -/
def Segment.Agrees (s : Segment) : Prop :=
  match s.requirement with
  | .mandatory => 1 ≤ s.minOccurs
  | .conditional => s.minOccurs = 0

instance (s : Segment) : Decidable s.Agrees := by
  unfold Segment.Agrees
  split <;> infer_instance

/-- The segment of an entry, unless it is a group. -/
def Node.segment? : Node → Option Segment
  | .segment s => some s
  | .group _ _ => none

/-- Whether an entry is a segment does not depend on its children. -/
theorem Node.segment?_bare (node : Node) : node.bare.segment? = node.segment? := by
  cases node <;> rfl

/-- The segments of a message at every depth. -/
def Message.segments (m : Message) : List Segment :=
  m.walk.filterMap fun entry => entry.1.segment?

section Stated

/-- The lower bound that a value states for a segment, zero if it states none. -/
def Segment.statedMin (value : Json) : UInt32 :=
  let source := match value with
    | .object members => Json.member? "Min" members
    | .array items => items[0]?
    | _ => none
  match ifPresent asCount source with
  | .ok (some count) => count
  | _ => 0

/-- The lower bound of a loaded segment is the one stated, raised to that of its requirement. -/
theorem Segment.minOccurs_of_ofJson {value : Json} {s : Segment} (h : ofJson value = .ok s) :
    s.minOccurs = max (statedMin value) s.requirement.minOccurs := by
  have hstated : ∀ {source : Option Json} {found : Option UInt32},
      ifPresent asCount source = .ok found →
      (match ifPresent asCount source with
        | .ok (some count) => count
        | _ => 0) = found.getD 0 := by
    intro source found hfound
    rw [hfound]
    cases found <;> rfl
  cases value with
  | object members =>
    simp only [ofJson, ofMembers, Steps.bind_eq_ok_iff, Steps.pure_eq_ok_iff] at h
    obtain ⟨_, -, _, -, _, -, found, hfound, _, -, _, -, _, -, _, -, _, -, _, -, rfl⟩ := h
    exact congrArg (max · _) (hstated hfound).symm
  | array items =>
    simp only [ofJson, ofItems, Steps.bind_eq_ok_iff] at h
    obtain ⟨found, hfound, _, -, _, -, _, -, _, -, _, -, _, -, _, -, _, -, _, -, hrest⟩ := h
    split at hrest
    · cases hrest
    · obtain rfl := Steps.pure_eq_ok_iff.1 hrest
      exact congrArg (max · _) (hstated hfound).symm
  | null => cases h
  | bool b => cases h
  | number n => cases h
  | text s => cases h

/-- A lower bound that was raised to that of the requirement agrees with it if none was stated for a
conditional segment. -/
theorem Segment.agrees_iff_of_max {s : Segment} {stated : UInt32}
    (h : s.minOccurs = max stated s.requirement.minOccurs) :
    s.Agrees ↔ (s.requirement = .conditional → stated = 0) := by
  rw [Segment.Agrees, h]
  cases hrequirement : s.requirement with
  | mandatory =>
    refine iff_of_true (Requirement.minOccurs_le_max .mandatory stated) fun h => ?_
    cases h
  | conditional =>
    have hmax : max stated Requirement.conditional.minOccurs = stated := by
      change (if stated ≤ 0 then 0 else stated) = stated
      split
      · next hle => exact (UInt32.le_zero_iff.1 hle).symm
      · rfl
    simp [hmax]

/-- A lower bound that is the one of the requirement agrees with it. -/
theorem Segment.agrees_of_minOccurs_eq {s : Segment} (h : s.minOccurs = s.requirement.minOccurs) :
    s.Agrees := by
  rw [Agrees, h]
  cases s.requirement <;> decide

end Stated

section Values

namespace Node

mutual
/-- The values that the segments of an entry are read from. -/
def segmentValues : Json → List Json
  | .object members => if isGroup members then segmentValuesIn members else [.object members]
  | other => [other]

/-- The values that the segments in a list are read from. -/
def segmentValuesOf : Json → List Json
  | .array values => allSegmentValues values
  | _ => []

/-- The values that the segments of some entries are read from. -/
def allSegmentValues : List Json → List Json
  | [] => []
  | value :: rest => segmentValues value ++ allSegmentValues rest

/-- The values that the segments in the child list among some members are read from. -/
def segmentValuesIn : List (String × Json) → List Json
  | [] => []
  | (key, value) :: rest =>
    if key = "Segments" ∧ Json.member? "Segments" rest = none then segmentValuesOf value
    else segmentValuesIn rest
end

/-- Values that segments are read from one after the other. -/
def AreRead (values : List Json) (depth : ℕ) (nodes : List Node) : Prop :=
  List.Forall₂ (fun value s => Segment.ofJson value = .ok s) values
    ((walkAll depth nodes).filterMap fun entry => entry.1.segment?)

mutual
/-- The segments of an entry are read from its values. -/
theorem areRead_of_ofJson (depth : ℕ) : ∀ {value : Json} {node : Node}, ofJson value = .ok node →
    AreRead (segmentValues value) depth [node]
  | .object members, node, h => by
    rw [ofJson] at h
    rw [segmentValues]
    split_ifs at h ⊢ with hgroup
    · obtain ⟨g, nodes, rfl, hchildren, -⟩ := Group.of_ofMembers (locate_eq_ok_iff.1 h)
      simpa [AreRead, walkAll, walk, segment?] using areRead_of_childrenOf (depth + 1) hchildren
    · obtain ⟨segment, hdecode, rfl⟩ := Steps.map_eq_ok_iff.1 h
      exact .cons (locate_eq_ok_iff.1 hdecode) .nil
  | .array items, node, h => by
    obtain ⟨segment, hdecode, rfl⟩ := Steps.map_eq_ok_iff.1 h
    exact .cons (locate_eq_ok_iff.1 hdecode) .nil

/-- The segments in a list are read from its values. -/
theorem areRead_of_listOfJson (depth : ℕ) : ∀ {value : Json} {nodes : List Node},
    listOfJson value = .ok nodes → AreRead (segmentValuesOf value) depth nodes
  | .array _, _, h => areRead_of_allOfJson depth h

/-- The segments of some entries are read from their values. -/
theorem areRead_of_allOfJson (depth : ℕ) : ∀ {values : List Json} {nodes : List Node},
    allOfJson values = .ok nodes → AreRead (allSegmentValues values) depth nodes
  | [], _, h => by
    obtain rfl := Except.ok.inj h
    exact .nil
  | value :: rest, nodes, h => by
    obtain ⟨node, hnode, hrest⟩ := Steps.bind_eq_ok_iff.1 h
    obtain ⟨others, hothers, hsame⟩ := Steps.bind_eq_ok_iff.1 hrest
    obtain rfl := Steps.pure_eq_ok_iff.1 hsame
    have hfirst := areRead_of_ofJson depth hnode
    rw [AreRead, walkAll, walkAll, List.append_nil] at hfirst
    rw [allSegmentValues, AreRead, walkAll, List.filterMap_append]
    exact List.rel_append hfirst (areRead_of_allOfJson depth hothers)

/-- The segments in a child list are read from its values. -/
theorem areRead_of_childrenOf (depth : ℕ) : ∀ {members : List (String × Json)} {nodes : List Node},
    childrenOf members = .ok (some nodes) → AreRead (segmentValuesIn members) depth nodes
  | [], _, h => by cases h
  | (key, value) :: rest, nodes, h => by
    rw [childrenOf] at h
    rw [segmentValuesIn]
    split_ifs at h ⊢ with hlast
    · obtain ⟨found, hfound, hsame⟩ := Steps.map_eq_ok_iff.1 h
      obtain rfl := Option.some.inj hsame
      exact areRead_of_listOfJson depth hfound
    · exact areRead_of_childrenOf depth h
end

end Node

end Values

namespace Message

/-- The values that the segments of a structure are read from. -/
def segmentValues (value : Json) : List Json :=
  (entries? value).elim [] Node.segmentValuesOf

/-- The segments of a structure are read from its values. -/
theorem forall₂_segmentValues {value : Json} {m : Message} (h : ofJson value = .ok m) :
    List.Forall₂ (fun v s => Segment.ofJson v = .ok s) (segmentValues value) m.segments := by
  rw [segments, walk, segmentValues]
  rcases of_ofJson h with ⟨hnone, hnil⟩ | ⟨list, hlist, hread⟩
  · rw [hnone, hnil]
    exact .nil
  · rw [hlist]
    exact Node.areRead_of_listOfJson 0 (Node.listOfJson_eq_asList list ▸ hread)

/-- A structure agrees if no lower bound was stated for its conditional segments. -/
theorem agrees_iff_of_ofJson {value : Json} {m : Message} (h : ofJson value = .ok m) :
    (∀ s ∈ m.segments, s.Agrees) ↔
      ∀ v ∈ segmentValues value, ∀ s, Segment.ofJson v = .ok s →
        s.requirement = .conditional → Segment.statedMin v = 0 := by
  have hread := forall₂_segmentValues h
  generalize segmentValues value = values at hread
  generalize m.segments = segments at hread
  induction hread with
  | nil => simp
  | cons hfirst _ ih =>
    rw [List.forall_mem_cons, List.forall_mem_cons]
    refine and_congr ?_ ih
    rw [Segment.agrees_iff_of_max (Segment.minOccurs_of_ofJson hfirst)]
    constructor
    · intro hstated s hs
      obtain rfl := Except.ok.inj (hfirst.symm.trans hs)
      exact hstated
    · intro hstated
      exact hstated _ hfirst

end Message

namespace Extraction

/-- The segments of an extracted message agree. -/
theorem agrees_of_run {source : Source} {tabWidth : ℕ} {request : Request}
    {extraction : Extraction} (hrun : run source tabWidth request = .ok extraction) :
    ∀ s ∈ extraction.message.segments, s.Agrees := by
  intro s hs
  obtain ⟨entry, hentry, hsegment⟩ := List.mem_filterMap.1 hs
  rcases run_eq_ok_iff.1 hrun with ⟨-, rfl⟩ | ⟨-, resolved, nodes, -, hnodes, rfl⟩
  · obtain rfl := List.mem_singleton.1 hentry
    obtain rfl := Option.some.inj hsegment
    exact Segment.agrees_of_minOccurs_eq rfl
  · have hbare : entry.1.bare ∈ resolved.markers.map Assembly.nodeOf :=
      (Assembly.map_bare_walkAll_assemble hnodes).mem_iff.1 (List.mem_map_of_mem hentry)
    obtain ⟨marker, -, hmarker⟩ := List.mem_map.1 hbare
    rw [← Node.segment?_bare, ← hmarker] at hsegment
    cases marker with
    | group g => cases hsegment
    | segment marker items =>
      obtain rfl := Option.some.inj hsegment
      exact Segment.agrees_of_minOccurs_eq rfl

end Extraction

namespace Message

/-- A structure is loaded from the value that its text is read as. -/
theorem exists_value_of_ofText {text : String} {m : Message} (h : ofText text = .ok m) :
    ∃ value, Json.skim? isRead text = some value ∧ ofJson value = .ok m :=
  Decoding.ofText_eq_ok_iff.1 h

/-- The segments of a structure are read from its values, with the lower bounds stated raised to
those of their requirements. -/
theorem forall₂_minOccurs {value : Json} {m : Message} (h : ofJson value = .ok m) :
    List.Forall₂ (fun v s => Segment.ofJson v = .ok s ∧
      s.minOccurs = max (Segment.statedMin v) s.requirement.minOccurs)
      (segmentValues value) m.segments :=
  (forall₂_segmentValues h).imp fun _ _ hs => ⟨hs, Segment.minOccurs_of_ofJson hs⟩

/-- The mandatory segments of a structure occur at least once. -/
theorem one_le_minOccurs_of_ofJson {value : Json} {m : Message} (h : ofJson value = .ok m) :
    ∀ s ∈ m.segments, s.requirement = .mandatory → 1 ≤ s.minOccurs := by
  have hread := forall₂_minOccurs h
  generalize segmentValues value = values at hread
  generalize m.segments = segments at hread
  induction hread with
  | nil => exact List.forall_mem_nil _
  | cons hfirst _ ih =>
    refine List.forall_mem_cons.2 ⟨?_, ih⟩
    intro hmandatory
    rw [hfirst.2, hmandatory]
    exact Requirement.minOccurs_le_max .mandatory _

/-- The segments of extracted messages agree. The lower bound of a loaded segment is the one that
its value states, raised to that of its requirement: a mandatory segment occurs at least once, and
all segments agree exactly if no value states another lower bound than zero for one that is
conditional. -/
theorem segments_agree_iff (text : String) :
    (∀ source tabWidth request extraction,
      Extraction.run source tabWidth request = .ok extraction →
        ∀ s ∈ extraction.message.segments, s.Agrees) ∧
    ∀ m, ofText text = .ok m → ∃ value, Json.skim? isRead text = some value ∧
      List.Forall₂ (fun v s => Segment.ofJson v = .ok s ∧
        s.minOccurs = max (Segment.statedMin v) s.requirement.minOccurs)
        (segmentValues value) m.segments ∧
      (∀ s ∈ m.segments, s.requirement = .mandatory → 1 ≤ s.minOccurs) ∧
      ((∀ s ∈ m.segments, s.Agrees) ↔
        ∀ v ∈ segmentValues value, ∀ s, Segment.ofJson v = .ok s →
          s.requirement = .conditional → Segment.statedMin v = 0) := by
  constructor
  · intro source tabWidth request extraction hrun
    exact Extraction.agrees_of_run hrun
  · intro m hload
    obtain ⟨value, hvalue, hdecode⟩ := exists_value_of_ofText hload
    exact ⟨value, hvalue, forall₂_minOccurs hdecode, one_le_minOccurs_of_ofJson hdecode,
      agrees_iff_of_ofJson hdecode⟩

/-- A structure with a lower bound stated for a conditional segment in a group, and none for a
mandatory one that is given as an array. -/
def counted (min : ℕ) : Json :=
  .object [
    ("Standard", .text "EDIFACT"), ("Revision", .text "D97A"), ("Document", .text "ORDERS"),
    ("Segments", .array [
      .array [.number (.natural 0), .text "1", .text "Used", .text "0010", .text "BGM", .text "",
        .text "", .text "M"],
      .object [
        ("Segment", .text "SG1"),
        ("Segments", .array [.object [
          ("Segment", .text "DTM"), ("Requirement", .text "Conditional"),
          ("Min", .number (.natural min))]])]])]

set_option maxRecDepth 20000 in
theorem skim?_counted_zero : Json.skim? isRead (counted 0).compact = some (counted 0) := by
  rw [Json.skim?, Json.compact, String.toList_ofList]
  rfl

set_option maxRecDepth 20000 in
theorem skim?_counted_five : Json.skim? isRead (counted 5).compact = some (counted 5) := by
  rw [Json.skim?, Json.compact, String.toList_ofList]
  rfl

/-- Segments agree if the lower bounds stated are zero, also for one that is raised. -/
theorem segments_agree_iff_counted_zero :
    ∃ m, ofText (counted 0).compact = .ok m ∧ m.segments.map (·.tag) = ["BGM", "DTM"] ∧
      ∀ s ∈ m.segments, s.Agrees := by
  have hload : ∃ m, ofText (counted 0).compact = .ok m ∧
      m.segments.map (·.tag) = ["BGM", "DTM"] := by
    rw [ofText, Decoding.ofText, skim?_counted_zero]
    exact ⟨_, rfl, by decide +kernel⟩
  obtain ⟨m, hload, htags⟩ := hload
  obtain ⟨value, hvalue, -, -, hagree⟩ := (segments_agree_iff _).2 m hload
  obtain rfl := Option.some.inj (skim?_counted_zero.symm.trans hvalue)
  have hzero : ∀ v ∈ segmentValues (counted 0), Segment.statedMin v = 0 := by decide +kernel
  exact ⟨m, hload, htags, hagree.2 fun v hv _ _ _ => hzero v hv⟩

/-- A conditional segment is loaded with the lower bound that is stated for it. -/
theorem exists_loaded_not_agrees :
    ∃ m, ofText (counted 5).compact = .ok m ∧
      ∃ s ∈ m.segments, s.requirement = .conditional ∧ s.minOccurs = 5 ∧ ¬ s.Agrees := by
  rw [ofText, Decoding.ofText, skim?_counted_five]
  exact ⟨_, rfl, by decide +kernel⟩

end Message

end EdiSchema
