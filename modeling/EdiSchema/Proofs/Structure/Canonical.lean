import Mathlib.Data.List.Basic
import EdiSchema.Proofs.Decoding.Field
import EdiSchema.Structure.Source
import EdiSchema.Structure.Walk

/-!
# Structures that are read back

Reading a structure from its own JSON gives it back exactly when nothing in it is read differently
from how it was written: a segment or simple element with the code of a group or composite, a lower
bound that its requirement raises, or a data type with the label of another one.

What is read is determined entry by entry, following the constructors of the structure.
-/

namespace EdiSchema

open Decoding

section Results

variable {α β : Type}

/-- A result without a fault goes on to what follows. -/
@[simp] theorem Decoding.ok_bind (value : α) (next : α → Result β) :
    ((Except.ok value : Result α) >>= next) = next value :=
  rfl

/-- Returning a function of what is read maps the result. -/
@[simp] theorem Decoding.bind_ok (f : α → β) (result : Result α) :
    (result >>= fun a => .ok (f a)) = f <$> result := by
  cases result <;> rfl

/-- A fault is located by the place in front of it. -/
@[simp] theorem Decoding.locate_error (place : Place) (code : String) (fault : Fault) :
    locate place code (.error fault : Result α) = .error (.within place code fault) :=
  rfl

/-- A function of a result gives a value exactly when the result is the one that leads to it. -/
theorem Decoding.map_eq_ok_iff {f : α → β} {result : Result α} {a : α} {b : β} {p : Prop}
    (hf : ∀ other, f other = b ↔ p ∧ other = a) : f <$> result = .ok b ↔ p ∧ result = .ok a := by
  cases result with
  | error fault => simp [Functor.map, Except.map]
  | ok value => simp [Functor.map, Except.map, hf]

/-- Wrapping a result does not make it another one. -/
theorem Decoding.map_injective_eq_ok_iff {f : α → β} (hf : ∀ a a', f a = f a' → a = a')
    {result : Result α} {a : α} : f <$> result = .ok (f a) ↔ result = .ok a := by
  rw [map_eq_ok_iff fun other => ⟨fun h => ⟨trivial, hf other a h⟩, fun h => h.2 ▸ rfl⟩, true_and]

/-- Putting a place in front of a fault does not matter if there is none. -/
theorem Decoding.locate_eq_ok_iff {place : Place} {code : String} {result : Result α} {a : α} :
    locate place code result = .ok a ↔ result = .ok a := by
  cases result <;> simp [locate, Except.mapError]

/-- A list is read back exactly when each of its values is. -/
theorem Decoding.asList_map_eq_ok_iff {read : Json → Result α} {write : α → Json}
    (values : List α) :
    asList read (.array (values.map write)) = .ok values ↔
      ∀ value ∈ values, read (write value) = .ok value := by
  rw [asList]
  induction values with
  | nil => simp [pure, Except.pure]
  | cons first rest ih =>
    rw [List.map_cons, List.mapM_cons, List.forall_mem_cons, ← ih]
    cases hfirst : read (write first) with
    | error fault => simp [bind, Except.bind]
    | ok value =>
      cases hrest : (rest.map write).mapM read with
      | error fault => simp [bind, Except.bind]
      | ok others => simp [bind, Except.bind, pure, Except.pure]

end Results

/-- A data type that does not repeat the label of a known one. -/
def DataType.Canonical (dataType : DataType) : Prop :=
  ∀ label, dataType = .other label → label ∉ knownLabels

/-- The form of a group code: `SG` and at least one digit. -/
def Group.IsCode (code : String) : Prop :=
  ∃ digits : List Char, digits ≠ [] ∧ (∀ c ∈ digits, c.isDigit = true) ∧
    code.toList = 'S' :: 'G' :: digits

/-- The form of a composite code: `C` or `S` and three digits. -/
def Composite.IsCode (code : String) : Prop :=
  ∃ letter : Char, (letter = 'C' ∨ letter = 'S') ∧ ∃ digits : List Char, digits.length = 3 ∧
    (∀ c ∈ digits, c.isDigit = true) ∧ code.toList = letter :: digits

/-- A composite whose own type, and those of its components, can be told from their labels. -/
structure Composite.Canonical (composite : Composite) : Prop where
  dataType : composite.dataType.Canonical
  components : ∀ element ∈ composite.components, element.dataType.Canonical

/-- An item that is recognized as what it is. -/
def Item.Canonical : Item → Prop
  | .composite c => c.Canonical
  | .simple e => ¬ Composite.IsCode e.code ∧ e.dataType.Canonical

/-- A segment that is recognized as one, with a lower bound that its requirement allows. -/
structure Segment.Canonical (segment : Segment) : Prop where
  tag : ¬ Group.IsCode segment.tag
  minOccurs : segment.requirement.minOccurs ≤ segment.minOccurs
  items : ∀ item ∈ segment.items, item.Canonical

/-- An entry whose own fields are read as they were written, whatever its children are. -/
def Node.Canonical : Node → Prop
  | .segment s => s.Canonical
  | .group g _ => g.requirement.minOccurs ≤ g.minOccurs

/-- Group codes are recognized by their form. -/
theorem Group.isCode_iff (code : String) : Group.isCode code = true ↔ Group.IsCode code := by
  simp only [Group.isCode, Group.IsCode]
  split
  · next digits hcode =>
    simp [hcode, List.all_eq_true]
  · next hcode =>
    simp only [Bool.false_eq_true, false_iff]
    rintro ⟨digits, -, -, hdigits⟩
    exact hcode digits hdigits

/-- Composite codes are recognized by their form. -/
theorem Composite.isCode_iff (code : String) :
    Composite.isCode code = true ↔ Composite.IsCode code := by
  simp only [Composite.isCode, Composite.IsCode]
  split
  · next letter a b c hcode =>
    simp only [Bool.and_eq_true, Bool.or_eq_true, beq_iff_eq, List.all_eq_true]
    constructor
    · rintro ⟨hletter, hdigits⟩
      exact ⟨letter, hletter, [a, b, c], rfl, hdigits, hcode⟩
    · rintro ⟨first, hfirst, digits, -, hdigits, hsame⟩
      obtain ⟨rfl, rfl⟩ := List.cons.inj (hcode.symm.trans hsame)
      exact ⟨hfirst, hdigits⟩
  · next hcode =>
    simp only [Bool.false_eq_true, false_iff]
    rintro ⟨letter, -, digits, hlength, -, hdigits⟩
    obtain ⟨a, b, c, rfl⟩ := List.length_eq_three.1 hlength
    exact hcode letter a b c hdigits

/-- An element is read back except for its data type, which is told from its label. -/
theorem Element.ofJson_toJson (element : Element) :
    Element.ofJson element.toJson =
      .ok { element with dataType := .ofLabel element.dataType.label } := by
  simp [toJson, ofJson, ofMembers, member, Json.member?, ifPresent, require, ofFields]

/-- A composite is recognized by its components, and its data type is told from its label. -/
theorem Item.ofJson_toJson_composite (c : Composite) :
    Item.ofJson (Item.composite c).toJson = .composite <$> locate .composite c.code
      ((fun components => { c with dataType := .ofLabel c.dataType.label, components }) <$>
        asList Element.ofJson (.array (c.components.map Element.toJson))) := by
  simp [toJson, ofJson, isComposite, codeOf, Json.text?, Composite.toJson, Composite.ofMembers,
    member, Json.member?, ifPresent, require]

/-- A simple element is not recognized if it has the code of a composite. -/
theorem Item.ofJson_toJson_simple (e : Element) :
    Item.ofJson (Item.simple e).toJson =
      if Composite.isCode e.code then .error (.within .composite e.code (.missing "Elements"))
      else .ok (.simple { e with dataType := .ofLabel e.dataType.label }) := by
  simp [toJson, ofJson, isComposite, codeOf, Json.text?, Composite.ofMembers, Element.toJson,
    member, Json.member?, ifPresent, require]
  split
  · rfl
  · exact congrArg (fun result => simple <$> locate .element e.code result)
      (Element.ofJson_toJson e)

/-- A segment is not recognized if it has the code of a group; its lower bound is raised to that
of its requirement. -/
theorem Node.ofJson_toJson_segment (s : Segment) :
    Node.ofJson (Node.segment s).toJson =
      if Group.isCode s.tag then .error (.within .group s.tag (.missing "Segments"))
      else .segment <$> locate .segment s.tag
        ((fun items => { s with minOccurs := max s.minOccurs s.requirement.minOccurs, items }) <$>
          asList Item.ofJson (.array (s.items.map Item.toJson))) := by
  simp [toJson, ofJson, isGroup, codeOf, Json.text?, Segment.toJson, Segment.ofMembers,
    Segment.ofFields, Group.ofMembers, member, Json.member?, ifPresent, require, childrenOf,
    asNullable]

/-- A group is recognized by its children; its lower bound is raised to that of its requirement. -/
theorem Node.ofJson_toJson_group (g : Group) (children : List Node) :
    Node.ofJson (Node.group g children).toJson = locate .group g.code
      ((fun nodes => .group { g with minOccurs := max g.minOccurs g.requirement.minOccurs } nodes) <$>
        allOfJson (toJsonAll children)) := by
  cases hmax : g.maxOccurs with
  | none =>
    simp [toJson, ofJson, isGroup, codeOf, Json.text?, Group.toJson, Group.maxMember, hmax,
      Group.ofMembers, member, Json.member?, ifPresent, require, childrenOf, listOfJson]
  | some bound =>
    simp [toJson, ofJson, isGroup, codeOf, Json.text?, Group.toJson, Group.maxMember, hmax,
      Group.ofMembers, member, Json.member?, ifPresent, require, childrenOf, listOfJson,
      asNullable]

/-- Elements that are read back are those with a canonical data type. -/
theorem Element.ofJson_toJson_eq_ok_iff (element : Element) :
    Element.ofJson element.toJson = .ok element ↔ element.dataType.Canonical := by
  rw [ofJson_toJson, Except.ok.injEq, DataType.Canonical, ← DataType.ofLabel_label_eq_self_iff]
  cases element
  simp

/-- Items that are read back are the canonical ones. -/
theorem Item.ofJson_toJson_eq_ok_iff (item : Item) :
    Item.ofJson item.toJson = .ok item ↔ item.Canonical := by
  cases item with
  | composite c =>
    have hfields : ∀ components, ({ c with
        dataType := .ofLabel c.dataType.label, components } : Composite) = c ↔
          DataType.ofLabel c.dataType.label = c.dataType ∧ components = c.components := by
      cases c
      simp
    rw [ofJson_toJson_composite, map_injective_eq_ok_iff fun _ _ => composite.inj,
      locate_eq_ok_iff, map_eq_ok_iff hfields, asList_map_eq_ok_iff,
      DataType.ofLabel_label_eq_self_iff]
    simp only [Element.ofJson_toJson_eq_ok_iff]
    exact ⟨fun ⟨h, hs⟩ => ⟨h, hs⟩, fun ⟨h, hs⟩ => ⟨h, hs⟩⟩
  | simple e =>
    rw [ofJson_toJson_simple]
    by_cases hcode : Composite.isCode e.code = true
    · have hform := (Composite.isCode_iff e.code).1 hcode
      simp [hcode, Canonical, hform]
    · have hform := mt (Composite.isCode_iff e.code).2 hcode
      have helement := Element.ofJson_toJson_eq_ok_iff e
      rw [Element.ofJson_toJson, Except.ok.injEq] at helement
      simp [hcode, Canonical, hform, helement]

/-- A bound is not raised exactly when the required one is no larger. -/
theorem Requirement.max_minOccurs_eq_iff (requirement : Requirement) (bound : UInt32) :
    max bound requirement.minOccurs = bound ↔ requirement.minOccurs ≤ bound := by
  change (if bound ≤ requirement.minOccurs then requirement.minOccurs else bound) = bound ↔ _
  split
  · next hle => exact ⟨fun h => h ▸ UInt32.le_refl _, fun h => UInt32.le_antisymm h hle⟩
  · next hlt => simp [UInt32.le_of_lt (UInt32.not_le.1 hlt)]

/-- Segments that are read back are the canonical ones. -/
theorem Node.ofJson_toJson_segment_eq_ok_iff (s : Segment) :
    Node.ofJson (Node.segment s).toJson = .ok (.segment s) ↔ s.Canonical := by
  rw [ofJson_toJson_segment]
  by_cases htag : Group.isCode s.tag = true
  · have hform := (Group.isCode_iff s.tag).1 htag
    rw [if_pos htag]
    exact ⟨fun h => by simp at h, fun h => absurd hform h.tag⟩
  · have hform := mt (Group.isCode_iff s.tag).2 htag
    have hfields : ∀ items, ({ s with
        minOccurs := max s.minOccurs s.requirement.minOccurs, items } : Segment) = s ↔
          s.requirement.minOccurs ≤ s.minOccurs ∧ items = s.items := by
      intro items
      rw [← Requirement.max_minOccurs_eq_iff]
      cases s
      simp
    rw [if_neg htag, map_injective_eq_ok_iff fun _ _ => segment.inj, locate_eq_ok_iff,
      map_eq_ok_iff hfields, asList_map_eq_ok_iff]
    simp only [Item.ofJson_toJson_eq_ok_iff]
    exact ⟨fun ⟨h, hs⟩ => ⟨hform, h, hs⟩, fun h => ⟨h.minOccurs, h.items⟩⟩

/-- A group is read back if its lower bound and its children are. -/
theorem Node.ofJson_toJson_group_eq_ok_iff (g : Group) (children : List Node) :
    Node.ofJson (Node.group g children).toJson = .ok (.group g children) ↔
      g.requirement.minOccurs ≤ g.minOccurs ∧
        allOfJson (toJsonAll children) = .ok children := by
  have hfields : ∀ nodes, Node.group { g with
      minOccurs := max g.minOccurs g.requirement.minOccurs } nodes = .group g children ↔
        g.requirement.minOccurs ≤ g.minOccurs ∧ nodes = children := by
    intro nodes
    rw [← Requirement.max_minOccurs_eq_iff]
    cases g
    simp
  rw [ofJson_toJson_group, locate_eq_ok_iff, map_eq_ok_iff hfields]

mutual
/-- An entry is read back exactly when all entries of its tree are canonical. -/
theorem Node.ofJson_toJson_eq_ok_iff (depth : ℕ) (node : Node) :
    Node.ofJson node.toJson = .ok node ↔ ∀ entry ∈ walk depth node, entry.1.Canonical := by
  cases node with
  | segment s => simpa [walk, Canonical] using Node.ofJson_toJson_segment_eq_ok_iff s
  | group g children =>
    rw [ofJson_toJson_group_eq_ok_iff, walk, List.forall_mem_cons,
      allOfJson_toJsonAll_eq_ok_iff (depth + 1) children]
    rfl

/-- The entries of a list are read back exactly when all entries of their trees are canonical. -/
theorem Node.allOfJson_toJsonAll_eq_ok_iff (depth : ℕ) (nodes : List Node) :
    allOfJson (toJsonAll nodes) = .ok nodes ↔
      ∀ entry ∈ walkAll depth nodes, entry.1.Canonical := by
  cases nodes with
  | nil => simp [toJsonAll, allOfJson, walkAll]
  | cons node rest =>
    rw [walkAll, List.forall_mem_append, ← Node.ofJson_toJson_eq_ok_iff depth node,
      ← Node.allOfJson_toJsonAll_eq_ok_iff depth rest, toJsonAll, allOfJson]
    cases hnode : ofJson node.toJson with
    | error fault => simp [bind, Except.bind]
    | ok first =>
      cases hrest : allOfJson (toJsonAll rest) with
      | error fault => simp [bind, Except.bind]
      | ok others => simp [bind, Except.bind, pure, Except.pure]
end

/-- A message is read back exactly when all of its entries are canonical. -/
theorem Message.ofJson_toJson_eq_ok_iff (message : Message) :
    Message.ofJson message.toJson = .ok message ↔
      ∀ entry ∈ message.walk, entry.1.Canonical := by
  have hread : Message.ofJson message.toJson =
      (fun nodes => { message with nodes }) <$> Node.allOfJson (Node.toJsonAll message.nodes) := by
    simp [ofJson, toJson, Fields.read, once, Fields.finish, require, Node.listOfJson]
  have hfields : ∀ nodes, ({ message with nodes } : Message) = message ↔
      True ∧ nodes = message.nodes := by
    cases message
    simp
  rw [walk, ← Node.allOfJson_toJsonAll_eq_ok_iff, hread, map_eq_ok_iff hfields, true_and]

end EdiSchema
