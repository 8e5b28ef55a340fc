import EdiSchema.Proofs.Decoding.Report
import EdiSchema.Proofs.Structure.Decode

/-!
# Where decoding fails

Groups, segments and composites are decoded by one law, each with its own keys. An object shows by
itself which kind it is, whether or not it can be decoded. Its own fields and its children decide
apart from each other whether it can; if only a child cannot, the first such child gives the fault,
and the entry puts its kind and code in front.

A defect below several entries is led to by one child after the other. By induction on that way its
fault is reported with all the entries above it, the outermost in front. What a message states of a
position at its end is reported as such by each of these entries, and is the only part of it that may
not come through. Faults in several fields of one entry are not compared here.
-/

namespace EdiSchema

open Decoding

/-- What a value in the JSON of a structure stands for. -/
inductive Role where
  | node
  | item
  | component

/-- What a value is decoded to. -/
def Role.Decoded : Role → Type
  | .node => Node
  | .item => Item
  | .component => Element

/-- Decodes a value as what it stands for. -/
def Role.decode : (role : Role) → Json → Result role.Decoded
  | .node => Node.ofJson
  | .item => Item.ofJson
  | .component => Element.ofJson

/-- The kinds of entries that have children. -/
inductive Parent where
  | group
  | segment
  | composite

/-- Whether the members of an object are those of a group: it has a child list or the code of a
group. -/
def Node.IsGroup (members : List (String × Json)) : Prop :=
  (∃ list, ("Segments", list) ∈ members) ∨ Group.IsCode (codeOf "Segment" (.object members))

/-- Whether the members of an object are those of a composite: it has a component list or the code
of a composite. -/
def Item.IsComposite (members : List (String × Json)) : Prop :=
  (∃ list, ("Elements", list) ∈ members) ∨ Composite.IsCode (codeOf "Element" (.object members))

/-- The member with a key can be read, if there is one. -/
def Decoding.MemberFits {α : Type} (members : List (String × Json)) (key : String)
    (read : Json → Result α) : Prop :=
  ∀ value, Json.member? key members = some value → ∃ a, read value = .ok a

namespace Parent

/-- The name of the kind in a fault. -/
def place : Parent → Place
  | .group => .group
  | .segment => .segment
  | .composite => .composite

/-- What an entry of the kind stands for. -/
def role : Parent → Role
  | .group => .node
  | .segment => .node
  | .composite => .item

/-- What the children of the kind stand for. -/
def childRole : Parent → Role
  | .group => .node
  | .segment => .item
  | .composite => .component

/-- The key of the code. -/
def codeKey : Parent → String
  | .group => "Segment"
  | .segment => "Segment"
  | .composite => "Element"

/-- The key of the child list. -/
def childKey : Parent → String
  | .group => "Segments"
  | .segment => "Elements"
  | .composite => "Elements"

/-- Whether the child list may be missing. -/
def mayLackList : Parent → Bool
  | .group => false
  | .segment => true
  | .composite => false

/-- Whether the members of an object are those of the kind. -/
def Describes : Parent → List (String × Json) → Prop
  | .group, members => Node.IsGroup members
  | .segment, members => ¬ Node.IsGroup members
  | .composite, members => Item.IsComposite members

/-- Whether an entry is of the kind and has some children. -/
def Holds : (parent : Parent) → parent.role.Decoded → List parent.childRole.Decoded → Prop
  | .group, node, children => ∃ g, node = Node.group g children
  | .segment, node, items => ∃ s, node = Node.segment s ∧ s.items = items
  | .composite, item, components => ∃ c, item = Item.composite c ∧ c.components = components

/-- Whether the fields that not all kinds share can be read. -/
def AttributesFit : Parent → List (String × Json) → Prop
  | .group, members =>
    MemberFits members "Max" (asNullable asMaxOccurs) ∧ MemberFits members "Min" asCount
  | .segment, members => MemberFits members "Max" asMaxOccurs ∧ MemberFits members "Min" asCount
  | .composite, members => MemberFits members "Type" asDataType

/-- An object whose own fields are those of an entry of the kind, whatever its children are. -/
structure WellFormed (parent : Parent) (members : List (String × Json)) : Prop where
  description : MemberFits members "Description" asText
  name : MemberFits members "Name" asText
  position : MemberFits members "Position" asText
  requirement : MemberFits members "Requirement" asRequirement
  scope : MemberFits members "Scope" asText
  code : ∃ code, Json.member? parent.codeKey members = some (.text code)
  attributes : parent.AttributesFit members

/-- What the children of an object are decoded to, one by one; a list that may be missing has no
children then. -/
def ChildrenDecode (parent : Parent) (members : List (String × Json))
    (children : List parent.childRole.Decoded) : Prop :=
  (∃ values, Json.member? parent.childKey members = some (.array values) ∧
    List.Forall₂ (fun value child => parent.childRole.decode value = .ok child) values children) ∨
  (parent.mayLackList ∧ Json.member? parent.childKey members = none ∧ children = [])

/-- The first value in the child list of an object that cannot be decoded. -/
def FirstDefect (parent : Parent) (members : List (String × Json)) (defect : Json) : Prop :=
  ∃ before after, Json.member? parent.childKey members = some (.array (before ++ defect :: after)) ∧
    ∀ value ∈ before, ∃ child, parent.childRole.decode value = .ok child

end Parent

/-- The fault inside entries with their kinds and codes, the outermost first. -/
def Decoding.Fault.along (path : List (Place × String)) (fault : Fault) : Fault :=
  path.foldr (fun step inner => .within step.1 step.2 inner) fault

/-- A message behind the kinds and codes of entries, the outermost in front. -/
def Decoding.headed (path : List (Place × String)) (message : String) : String :=
  path.foldr (fun step rest => step.1.name ++ " " ++ step.2 ++ ": " ++ rest) message

/-- A message as it is reported by one entry after the other, the outermost last. -/
def Decoding.reported (path : List (Place × String)) (message : String) : String :=
  path.foldr (fun step rest => restated (step.1.name ++ " " ++ step.2 ++ ": " ++ rest)) message

/-- A value that a value leads to by the first defects of entries, one below the other, whose own
fields are well formed. The path has the kinds and codes of these entries. -/
inductive DefectAt : Role → Json → List (Place × String) → Role → Json → Prop
  | here (role : Role) (value : Json) : DefectAt role value [] role value
  | inside {parent : Parent} {members : List (String × Json)} {child : Json} {code : String}
      {path : List (Place × String)} {role : Role} {defect : Json}
      (hkind : parent.Describes members) (hfields : parent.WellFormed members)
      (hcode : Json.member? parent.codeKey members = some (.text code))
      (hchild : parent.FirstDefect members child)
      (hbelow : DefectAt parent.childRole child path role defect) :
      DefectAt parent.role (.object members) ((parent.place, code) :: path) role defect

/-- A value that stands somewhere below another one, or is that value. -/
inductive Beneath : Role → Json → Role → Json → Prop
  | here (role : Role) (value : Json) : Beneath role value role value
  | inside {parent : Parent} {members : List (String × Json)} {values : List Json} {child : Json}
      {role : Role} {descendant : Json} (hkind : parent.Describes members)
      (hlist : Json.member? parent.childKey members = some (.array values)) (hchild : child ∈ values)
      (hbelow : Beneath parent.childRole child role descendant) :
      Beneath parent.role (.object members) role descendant

section Members

variable {α : Type} {members : List (String × Json)} {key : String} {read : Json → Result α}

/-- A member with a key is found if there is one. -/
theorem Json.isSome_member?_iff :
    (Json.member? key members).isSome = true ↔ ∃ value, (key, value) ∈ members := by
  constructor
  · intro h
    obtain ⟨value, hvalue⟩ := Option.isSome_iff_exists.1 h
    exact ⟨value, Json.mem_of_member? hvalue⟩
  · intro h
    obtain ⟨value, hmem⟩ := h
    induction members with
    | nil => cases hmem
    | cons first rest ih =>
      rw [Json.member?, Option.isSome_or, Bool.or_eq_true]
      rcases List.mem_cons.1 hmem with hfirst | hrest
      · right
        rw [← hfirst]
        simp
      · exact .inl (ih hrest)

/-- A member fits if reading it as one that may be missing succeeds. -/
theorem Decoding.memberFits_iff :
    MemberFits members key read ↔ ∃ found, member members key read = .ok found := by
  rw [MemberFits, member]
  cases Json.member? key members with
  | none => simp [ifPresent]
  | some value => cases hread : read value <;> simp [ifPresent, hread]

/-- A list cannot be read if its first value that cannot be read has the fault. -/
theorem Decoding.asList_eq_error {before after : List Json} {defect : Json} {fault : Fault}
    (hbefore : ∀ value ∈ before, ∃ a, read value = .ok a) (hdefect : read defect = .error fault) :
    asList read (.array (before ++ defect :: after)) = .error fault := by
  rw [asList]
  induction before with
  | nil =>
    rw [List.nil_append, List.mapM_cons, hdefect]
    rfl
  | cons first rest ih =>
    obtain ⟨⟨a, ha⟩, hrest⟩ := List.forall_mem_cons.1 hbefore
    rw [List.cons_append, List.mapM_cons, ha, ih hrest]
    rfl

end Members

/-- The test for a group is decided as it is stated. -/
theorem Node.isGroup_iff (members : List (String × Json)) :
    isGroup members = true ↔ IsGroup members := by
  rw [isGroup, Bool.or_eq_true, Json.isSome_member?_iff, Group.isCode_iff, IsGroup]

/-- The test for a composite is decided as it is stated. -/
theorem Item.isComposite_iff (members : List (String × Json)) :
    isComposite members = true ↔ IsComposite members := by
  rw [isComposite, Bool.or_eq_true, Json.isSome_member?_iff, Composite.isCode_iff, IsComposite]

section Children

variable {β : Type}

/-- Reads the children of an entry from the list under a key. -/
def Decoding.readChildren (mayLackList : Bool) (key : String) (read : Json → Result β)
    (members : List (String × Json)) : Result (List β) :=
  match Json.member? key members with
  | none => if mayLackList then .ok [] else .error (.missing key)
  | some list => asList read list

/-- Children are read from an array of which each value is, or from a list that may be missing. -/
theorem Decoding.readChildren_eq_ok_iff {mayLackList : Bool} {key : String}
    {read : Json → Result β} {members : List (String × Json)} {bs : List β} :
    readChildren mayLackList key read members = .ok bs ↔
      (∃ values, Json.member? key members = some (.array values) ∧
        List.Forall₂ (fun value b => read value = .ok b) values bs) ∨
      (mayLackList = true ∧ Json.member? key members = none ∧ bs = []) := by
  rw [readChildren]
  cases Json.member? key members with
  | none => cases mayLackList <;> simp [eq_comm]
  | some list => simp [asList_eq_ok_iff]

/-- How an entry is decoded of which only the children are still to be read. -/
structure Decoding.DecodesWith {α : Type} (fields : Prop) (holds : α → List β → Prop)
    (children : Result (List β)) (result : Result α) : Prop where
  /-- Only with well-formed fields is anything decoded. -/
  fields_of_ok : ∀ a, result = .ok a → fields
  /-- With well-formed fields the children decide. -/
  build : fields → ∃ build : List β → α,
    (∀ bs others, holds (build bs) others ↔ others = bs) ∧ result = build <$> children

namespace Decoding.DecodesWith

variable {α γ : Type} {fields : Prop} {holds : α → List β → Prop} {children : Result (List β)}
  {result : Result α} (h : DecodesWith fields holds children result)

include h

/-- What is decoded has the children that were read. -/
theorem exists_holds {a : α} (ha : result = .ok a) : ∃ bs, holds a bs := by
  obtain ⟨build, hbuild, hresult⟩ := h.build (h.fields_of_ok a ha)
  rw [hresult] at ha
  obtain ⟨bs, -, rfl⟩ := Steps.map_eq_ok_iff.1 ha
  exact ⟨bs, (hbuild bs bs).2 rfl⟩

/-- An entry with some children is decoded if its fields are well formed and these are its
children. -/
theorem exists_ok_iff (bs : List β) :
    (∃ a, result = .ok a ∧ holds a bs) ↔ fields ∧ children = .ok bs := by
  constructor
  · intro hdecoded
    obtain ⟨a, ha, hholds⟩ := hdecoded
    have hfields := h.fields_of_ok a ha
    obtain ⟨build, hbuild, hresult⟩ := h.build hfields
    rw [hresult] at ha
    obtain ⟨others, hothers, rfl⟩ := Steps.map_eq_ok_iff.1 ha
    obtain rfl := (hbuild others bs).1 hholds
    exact ⟨hfields, hothers⟩
  · intro hread
    obtain ⟨hfields, hchildren⟩ := hread
    obtain ⟨build, hbuild, hresult⟩ := h.build hfields
    refine ⟨build bs, ?_, (hbuild bs bs).2 rfl⟩
    rw [hresult, hchildren]
    rfl

/-- With well-formed fields, a fault in the children is the fault of the entry. -/
theorem eq_error (hfields : fields) {fault : Fault} (hfault : children = .error fault) :
    result = .error fault := by
  obtain ⟨build, -, hresult⟩ := h.build hfields
  rw [hresult, hfault]
  rfl

/-- Wrapping what is decoded changes nothing else. -/
theorem map {wrap : α → γ} {held : γ → List β → Prop}
    (hheld : ∀ a bs, held (wrap a) bs ↔ holds a bs) :
    DecodesWith fields held children (wrap <$> result) := by
  constructor
  · intro c hc
    obtain ⟨a, ha, -⟩ := Steps.map_eq_ok_iff.1 hc
    exact h.fields_of_ok a ha
  · intro hfields
    obtain ⟨build, hbuild, hresult⟩ := h.build hfields
    refine ⟨fun bs => wrap (build bs), fun bs others => (hheld _ others).trans (hbuild bs others), ?_⟩
    rw [hresult]
    cases children <;> rfl

end Decoding.DecodesWith

end Children

section Fields

variable {members : List (String × Json)}

/-- The own fields of an object are well formed if the readers of the fields succeed. -/
theorem Parent.wellFormed_iff {parent : Parent} :
    parent.WellFormed members ↔ ∃ description name position requirement scope code,
      member members "Description" asText = .ok description ∧
      member members "Name" asText = .ok name ∧
      member members "Position" asText = .ok position ∧
      member members "Requirement" asRequirement = .ok requirement ∧
      member members "Scope" asText = .ok scope ∧
      member members parent.codeKey asText = .ok (some code) ∧ parent.AttributesFit members := by
  have hcode : ∀ code, Json.member? parent.codeKey members = some (.text code) ↔
      member members parent.codeKey asText = .ok (some code) := by
    intro code
    rw [member_eq_ok_some_iff]
    simp only [asText_eq_ok_iff, exists_eq_right]
  constructor
  · intro h
    obtain ⟨code, hvalue⟩ := h.code
    obtain ⟨description, hdescription⟩ := memberFits_iff.1 h.description
    obtain ⟨name, hname⟩ := memberFits_iff.1 h.name
    obtain ⟨position, hposition⟩ := memberFits_iff.1 h.position
    obtain ⟨requirement, hrequirement⟩ := memberFits_iff.1 h.requirement
    obtain ⟨scope, hscope⟩ := memberFits_iff.1 h.scope
    exact ⟨description, name, position, requirement, scope, code, hdescription, hname, hposition,
      hrequirement, hscope, (hcode code).1 hvalue, h.attributes⟩
  · intro h
    obtain ⟨_, _, _, _, _, code, hdescription, hname, hposition, hrequirement, hscope, hvalue,
      hattributes⟩ := h
    exact ⟨memberFits_iff.2 ⟨_, hdescription⟩, memberFits_iff.2 ⟨_, hname⟩,
      memberFits_iff.2 ⟨_, hposition⟩, memberFits_iff.2 ⟨_, hrequirement⟩,
      memberFits_iff.2 ⟨_, hscope⟩, ⟨code, (hcode code).2 hvalue⟩, hattributes⟩

/-- A group is decoded from its own fields and its entries. -/
theorem Group.decodesWith_ofMembers (members : List (String × Json)) :
    DecodesWith (Parent.group.WellFormed members) (fun node nodes => ∃ g, node = .group g nodes)
      (readChildren false "Segments" Node.ofJson members)
      (ofMembers members (Node.childrenOf members)) := by
  constructor
  · intro node hnode
    simp only [ofMembers, Steps.bind_eq_ok_iff, Steps.pure_eq_ok_iff, require_eq_ok_iff] at hnode
    obtain ⟨_, hdescription, _, hmax, _, hmin, _, hname, _, hposition, _, hrequirement, _, hscope,
      _, hcode, _, -, code, rfl, -⟩ := hnode
    exact Parent.wellFormed_iff.2 ⟨_, _, _, _, _, code, hdescription, hname, hposition,
      hrequirement, hscope, hcode, memberFits_iff.2 ⟨_, hmax⟩, memberFits_iff.2 ⟨_, hmin⟩⟩
  · intro hfields
    obtain ⟨description, name, position, requirement, scope, code, hdescription, hname, hposition,
      hrequirement, hscope, hcode, hattributes⟩ := Parent.wellFormed_iff.1 hfields
    obtain ⟨maxOccurs, hmax⟩ := memberFits_iff.1 hattributes.1
    obtain ⟨minOccurs, hmin⟩ := memberFits_iff.1 hattributes.2
    let group : Group := {
      minOccurs := max (minOccurs.getD 0) (requirement.getD .conditional).minOccurs
      maxOccurs := maxOccurs.join
      scope := scope.getD usedScope
      position := position.getD ""
      code := code
      name := name.getD ""
      description := description.getD ""
      requirement := requirement.getD .conditional }
    refine ⟨.group group, fun nodes others => by simp [eq_comm], ?_⟩
    rw [Parent.codeKey] at hcode
    rw [Node.childrenOf_eq_member, readChildren]
    simp only [ofMembers, hdescription, hname, hposition, hrequirement, hscope, hmax, hmin, hcode,
      ok_bind, require]
    rw [member]
    cases Json.member? "Segments" members with
    | none => rfl
    | some list =>
      rw [ifPresent]
      dsimp only
      cases asList Node.ofJson list <;> rfl

/-- A segment is decoded from its own fields and its items. -/
theorem Segment.decodesWith_ofMembers (members : List (String × Json)) :
    DecodesWith (Parent.segment.WellFormed members) (fun segment items => segment.items = items)
      (readChildren true "Elements" Item.ofJson members) (ofMembers members) := by
  constructor
  · intro segment hsegment
    simp only [ofMembers, Steps.bind_eq_ok_iff, Steps.pure_eq_ok_iff, require_eq_ok_iff] at hsegment
    obtain ⟨_, hdescription, _, -, _, hmax, _, hmin, _, hname, _, hposition, _, hrequirement, _,
      hscope, _, htag, tag, rfl, -⟩ := hsegment
    exact Parent.wellFormed_iff.2 ⟨_, _, _, _, _, tag, hdescription, hname, hposition,
      hrequirement, hscope, htag, memberFits_iff.2 ⟨_, hmax⟩, memberFits_iff.2 ⟨_, hmin⟩⟩
  · intro hfields
    obtain ⟨description, name, position, requirement, scope, tag, hdescription, hname, hposition,
      hrequirement, hscope, htag, hattributes⟩ := Parent.wellFormed_iff.1 hfields
    obtain ⟨maxOccurs, hmax⟩ := memberFits_iff.1 hattributes.1
    obtain ⟨minOccurs, hmin⟩ := memberFits_iff.1 hattributes.2
    refine ⟨fun items => ofFields tag minOccurs maxOccurs scope position name description
      requirement (some items), fun items others => eq_comm, ?_⟩
    rw [Parent.codeKey] at htag
    rw [readChildren, ofMembers, hdescription, ok_bind, member]
    simp only [hname, hposition, hrequirement, hscope, hmax, hmin, htag, ok_bind, require]
    cases Json.member? "Elements" members with
    | none => rfl
    | some list =>
      rw [ifPresent]
      dsimp only
      cases asList Item.ofJson list <;> rfl

/-- A composite is decoded from its own fields and its components. -/
theorem Composite.decodesWith_ofMembers (members : List (String × Json)) :
    DecodesWith (Parent.composite.WellFormed members)
      (fun composite components => composite.components = components)
      (readChildren false "Elements" Element.ofJson members) (ofMembers members) := by
  constructor
  · intro composite hcomposite
    simp only [ofMembers, Steps.bind_eq_ok_iff, Steps.pure_eq_ok_iff, require_eq_ok_iff]
      at hcomposite
    obtain ⟨_, hdescription, _, hcode, _, -, _, hname, _, hposition, _, hrequirement, _, hscope, _,
      htype, code, rfl, -⟩ := hcomposite
    exact Parent.wellFormed_iff.2 ⟨_, _, _, _, _, code, hdescription, hname, hposition,
      hrequirement, hscope, hcode, memberFits_iff.2 ⟨_, htype⟩⟩
  · intro hfields
    obtain ⟨description, name, position, requirement, scope, code, hdescription, hname, hposition,
      hrequirement, hscope, hcode, hattributes⟩ := Parent.wellFormed_iff.1 hfields
    obtain ⟨dataType, htype⟩ := memberFits_iff.1 hattributes
    let composite : Composite := {
      scope := scope.getD usedScope
      position := position.getD ""
      code := code
      name := name.getD ""
      description := description.getD ""
      requirement := requirement.getD .conditional
      dataType := dataType.getD .composite }
    refine ⟨fun components => { composite with components }, fun components others => eq_comm, ?_⟩
    rw [Parent.codeKey] at hcode
    rw [readChildren, ofMembers, hdescription, ok_bind, hcode, ok_bind, member]
    simp only [hname, hposition, hrequirement, hscope, htype, ok_bind, require]
    cases Json.member? "Elements" members with
    | none => rfl
    | some list =>
      rw [ifPresent]
      dsimp only
      cases asList Element.ofJson list <;> rfl

end Fields

/-- A change of what is decoded leaves the place of a fault. -/
theorem Decoding.map_locate {α β : Type} (f : α → β) (place : Place) (code : String)
    (result : Result α) : f <$> locate place code result = locate place code (f <$> result) := by
  cases result <;> rfl

namespace Parent

variable {parent : Parent} {members : List (String × Json)}

/-- An object of a kind is decoded from its own fields and its children, and a fault is located in
it. -/
theorem exists_decode_eq (hkind : parent.Describes members) :
    ∃ result, parent.role.decode (.object members) =
        locate parent.place (codeOf parent.codeKey (.object members)) result ∧
      DecodesWith (parent.WellFormed members) parent.Holds
        (readChildren parent.mayLackList parent.childKey parent.childRole.decode members)
        result := by
  cases parent with
  | group =>
    refine ⟨_, ?_, Group.decodesWith_ofMembers members⟩
    change Node.ofJson (.object members) = _
    rw [Node.ofJson, if_pos ((Node.isGroup_iff members).2 hkind)]
    rfl
  | segment =>
    have hheld : ∀ (s : Segment) (items : List Item),
        Parent.segment.Holds (Node.segment s) items ↔ s.items = items := by
      intro s items
      constructor
      · intro h
        obtain ⟨other, hsame, hitems⟩ := h
        rw [Node.segment.inj hsame]
        exact hitems
      · intro h
        exact ⟨s, rfl, h⟩
    refine ⟨_, ?_, (Segment.decodesWith_ofMembers members).map hheld⟩
    change Node.ofJson (.object members) = _
    rw [Node.ofJson, if_neg (mt (Node.isGroup_iff members).1 hkind), map_locate]
    rfl
  | composite =>
    have hheld : ∀ (c : Composite) (components : List Element),
        Parent.composite.Holds (Item.composite c) components ↔ c.components = components := by
      intro c components
      constructor
      · intro h
        obtain ⟨other, hsame, hcomponents⟩ := h
        rw [Item.composite.inj hsame]
        exact hcomponents
      · intro h
        exact ⟨c, rfl, h⟩
    refine ⟨_, ?_, (Composite.decodesWith_ofMembers members).map hheld⟩
    change Item.ofJson (.object members) = _
    rw [Item.ofJson, if_pos ((Item.isComposite_iff members).2 hkind), map_locate]
    rfl

/-- What an object of a kind is decoded to is of the kind. -/
theorem exists_holds (hkind : parent.Describes members) {entry : parent.role.Decoded}
    (hentry : parent.role.decode (.object members) = .ok entry) :
    ∃ children, parent.Holds entry children := by
  obtain ⟨result, hdecode, hfamily⟩ := exists_decode_eq hkind
  rw [hdecode, locate_eq_ok_iff] at hentry
  exact hfamily.exists_holds hentry

/-- An object is decoded if its own fields are well formed and its children are decoded. -/
theorem exists_decode_iff (hkind : parent.Describes members)
    (children : List parent.childRole.Decoded) :
    (∃ entry, parent.role.decode (.object members) = .ok entry ∧ parent.Holds entry children) ↔
      parent.WellFormed members ∧ parent.ChildrenDecode members children := by
  obtain ⟨result, hdecode, hfamily⟩ := exists_decode_eq hkind
  simp only [hdecode, locate_eq_ok_iff]
  rw [hfamily.exists_ok_iff, readChildren_eq_ok_iff]
  rfl

/-- If only a child of an object cannot be decoded, the fault of the first such child is located in
the object. -/
theorem decode_eq_error (hkind : parent.Describes members) (hfields : parent.WellFormed members)
    {code : String} (hcode : Json.member? parent.codeKey members = some (.text code))
    {defect : Json} (hdefect : parent.FirstDefect members defect) {fault : Fault}
    (hfault : parent.childRole.decode defect = .error fault) :
    parent.role.decode (.object members) = .error (.within parent.place code fault) := by
  obtain ⟨result, hdecode, hfamily⟩ := exists_decode_eq hkind
  obtain ⟨before, after, hlist, hbefore⟩ := hdefect
  have hchildren : readChildren parent.mayLackList parent.childKey parent.childRole.decode members =
      .error fault := by
    rw [readChildren, hlist]
    exact asList_eq_error hbefore hfault
  rw [hdecode, hfamily.eq_error hfields hchildren, codeOf, hcode]
  rfl

end Parent

/-- A fault of a defect is reported with the entries that lead to it. -/
theorem DefectAt.decode_eq_error {role other : Role} {value defect : Json}
    {path : List (Place × String)} (h : DefectAt role value path other defect) {fault : Fault}
    (hfault : other.decode defect = .error fault) :
    role.decode value = .error (fault.along path) := by
  induction h with
  | here role value => exact hfault
  | inside hkind hfields hcode hchild hbelow ih =>
    exact Parent.decode_eq_error hkind hfields hcode hchild (ih hfault)

section Messages

variable {path : List (Place × String)} {step : Place × String} {message : String}

theorem Decoding.headed_nil : headed [] message = message := rfl

theorem Decoding.headed_cons : headed (step :: path) message =
    step.1.name ++ " " ++ step.2 ++ ": " ++ headed path message := rfl

theorem Decoding.reported_nil : reported [] message = message := rfl

theorem Decoding.reported_cons : reported (step :: path) message =
    restated (step.1.name ++ " " ++ step.2 ++ ": " ++ reported path message) := by
  rw [reported, List.foldr_cons, ← reported]

/-- The fault inside entries is worded as the entries report it. -/
theorem Decoding.Fault.message_along (path : List (Place × String)) (fault : Fault) :
    (fault.along path).message = reported path fault.message := by
  induction path with
  | nil => rfl
  | cons step rest ih =>
    rw [reported_cons, ← ih]
    rfl

/-- Entries report all of a message if the whole of it ends in no position. -/
theorem Decoding.reported_eq_headed (hplain : ¬ EndsInPosition (headed path message)) :
    reported path message = headed path message := by
  induction path with
  | nil => rw [reported_nil, headed_nil]
  | cons step rest ih =>
    rw [headed_cons] at hplain
    have hinner : ¬ EndsInPosition (headed rest message) :=
      fun hends => hplain (hends.append _)
    rw [reported_cons, headed_cons, ih hinner, restated_eq_self hplain]

/-- Entries report their kinds and codes in front of what they report of a message. -/
theorem Decoding.prefix_reported :
    path.flatMap (fun step => (" " ++ step.1.name ++ " " ++ step.2 ++ ":").toList) <+:
      (" " ++ reported path message).toList := by
  induction path with
  | nil => exact List.nil_prefix
  | cons step rest ih =>
    obtain ⟨place, code⟩ := step
    -- The headings of the inner entries end in a colon, or there are none.
    obtain ⟨front, hfront⟩ : ∃ front, front ++ [':'] = (place.name ++ " " ++ code ++ ":").toList ++
        rest.flatMap (fun step => (" " ++ step.1.name ++ " " ++ step.2 ++ ":").toList) := by
      rcases List.eq_nil_or_concat rest with rfl | ⟨others, last, rfl⟩
      · exact ⟨(place.name ++ " " ++ code).toList, by simp⟩
      · exact ⟨(place.name ++ " " ++ code ++ ":").toList ++
          others.flatMap (fun step => (" " ++ step.1.name ++ " " ++ step.2 ++ ":").toList) ++
            (" " ++ last.1.name ++ " " ++ last.2).toList, by simp⟩
    have hmessage : front ++ [':'] <+:
        (place.name ++ " " ++ code ++ ": " ++ reported rest message).toList := by
      rw [hfront]
      simpa using ih
    have hkept := prefix_restated hmessage
    rw [hfront] at hkept
    rw [reported_cons]
    simpa using hkept

end Messages

/-- Nothing is decoded from an object with a child that cannot be decoded. -/
theorem Parent.exists_child_of_decode {parent : Parent} {members : List (String × Json)}
    (hkind : parent.Describes members) {entry : parent.role.Decoded}
    (hentry : parent.role.decode (.object members) = .ok entry) {values : List Json}
    (hlist : Json.member? parent.childKey members = some (.array values)) {value : Json}
    (hvalue : value ∈ values) : ∃ child, parent.childRole.decode value = .ok child := by
  obtain ⟨children, hholds⟩ := exists_holds hkind hentry
  obtain ⟨-, hchildren⟩ := (exists_decode_iff hkind children).1 ⟨entry, hentry, hholds⟩
  rcases hchildren with ⟨others, hothers, hdecoded⟩ | ⟨-, hnone, -⟩
  · rw [hlist] at hothers
    obtain rfl := Json.array.inj (Option.some.inj hothers)
    obtain ⟨i, hi, rfl⟩ := List.mem_iff_getElem.1 hvalue
    exact ⟨_, hdecoded.get hi (hdecoded.length_eq ▸ hi)⟩
  · rw [hlist] at hnone
    cases hnone

/-- Nothing is decoded from a value with a descendant that cannot be decoded. -/
theorem Beneath.exists_decode {role other : Role} {value descendant : Json}
    (h : Beneath role value other descendant) (hdecode : ∃ a, role.decode value = .ok a) :
    ∃ b, other.decode descendant = .ok b := by
  induction h with
  | here role value => exact hdecode
  | inside hkind hlist hchild hbelow ih =>
    obtain ⟨entry, hentry⟩ := hdecode
    exact ih (Parent.exists_child_of_decode hkind hentry hlist hchild)

end EdiSchema
