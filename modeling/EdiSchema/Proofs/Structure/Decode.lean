import Mathlib.Data.List.Forall2
import EdiSchema.Proofs.Json.Nesting
import EdiSchema.Proofs.Steps
import EdiSchema.Proofs.Structure.Canonical

/-!
# What is decoded

A record that has been decoded tells what was found in its JSON. These laws take a successful
decoding apart, one for each kind of record, so that no proof about decoded structures unfolds how
their fields are read.

Every data type that is decoded is canonical, since it is told from a label. The lower bound of a
segment or group is at least that of its requirement, since decoding raises it.
-/

namespace EdiSchema

open Decoding

section Fields

variable {α : Type} {members : List (String × Json)} {key : String} {read : Json → Result α}

/-- The member that is found with a key is one of the members. -/
theorem Json.mem_of_member? {value : Json} (h : Json.member? key members = some value) :
    (key, value) ∈ members := by
  induction members with
  | nil => cases h
  | cons first rest ih =>
    obtain ⟨other, found⟩ := first
    rw [Json.member?, Option.or_eq_some_iff] at h
    rcases h with h | ⟨-, h⟩
    · exact List.mem_cons_of_mem _ (ih h)
    · split_ifs at h with hkey
      subst hkey
      obtain rfl := Option.some.inj h
      exact List.mem_cons_self

/-- A member at the end of an object replaces an earlier one with its key. -/
theorem Json.member?_concat (other : String) (value : Json) :
    Json.member? key (members ++ [(other, value)]) =
      if other = key then some value else Json.member? key members := by
  induction members with
  | nil => simp [Json.member?]
  | cons first rest ih =>
    rw [List.cons_append, Json.member?, Json.member?, ih]
    split <;> simp

/-- A required field is read if it was found. -/
theorem Decoding.require_eq_ok_iff {fault : Fault} {found : Option α} {a : α} :
    require fault found = .ok a ↔ found = some a := by
  cases found <;> simp [require]

/-- A field is found where its value is read. -/
theorem Decoding.member_eq_ok_some_iff {a : α} :
    member members key read = .ok (some a) ↔
      ∃ value, Json.member? key members = some value ∧ read value = .ok a := by
  rw [member]
  cases Json.member? key members with
  | none => simp [ifPresent]
  | some value =>
    have hread : some <$> read value = .ok (some a) ↔ read value = .ok a :=
      map_injective_eq_ok_iff fun _ _ => Option.some.inj
    simp [ifPresent, hread]

/-- A list is read if it is an array of which each value is read. -/
theorem Decoding.asList_eq_ok_iff {value : Json} {as : List α} :
    asList read value = .ok as ↔
      ∃ values, value = .array values ∧ List.Forall₂ (fun v a => read v = .ok a) values as := by
  cases value with
  | array values =>
    simp only [asList, Json.array.injEq, exists_eq_left']
    induction values generalizing as with
    | nil => cases as <;> simp [pure, Except.pure]
    | cons first rest ih =>
      rw [List.mapM_cons, Steps.bind_eq_ok_iff]
      constructor
      · intro h
        obtain ⟨a, ha, hrest⟩ := h
        obtain ⟨others, hothers, hsame⟩ := Steps.bind_eq_ok_iff.1 hrest
        obtain rfl := Steps.pure_eq_ok_iff.1 hsame
        exact .cons ha (ih.1 hothers)
      · intro h
        cases h with
        | cons ha hothers =>
          exact ⟨_, ha, Steps.bind_eq_ok_iff.2 ⟨_, ih.2 hothers, rfl⟩⟩
  | null => simp [asList, wrongType]
  | bool b => simp [asList, wrongType]
  | number n => simp [asList, wrongType]
  | text s => simp [asList, wrongType]
  | object ms => simp [asList, wrongType]

/-- What is in a list that has been read was read from a value of an array. -/
theorem Decoding.exists_of_mem_asList {value : Json} {as : List α}
    (h : asList read value = .ok as) :
    ∃ values, value = .array values ∧ ∀ a ∈ as, ∃ v ∈ values, read v = .ok a := by
  obtain ⟨values, rfl, hvalues⟩ := asList_eq_ok_iff.1 h
  refine ⟨values, rfl, ?_⟩
  clear h
  induction hvalues with
  | nil => exact List.forall_mem_nil _
  | cons ha _ ih =>
    refine List.forall_mem_cons.2 ⟨⟨_, List.mem_cons_self, ha⟩, ?_⟩
    intro other hother
    obtain ⟨v, hv, hread⟩ := ih other hother
    exact ⟨v, List.mem_cons_of_mem _ hv, hread⟩

theorem Decoding.asText_eq_ok_iff {value : Json} {s : String} :
    asText value = .ok s ↔ value = .text s := by
  cases value <;> simp [asText, wrongType]

/-- A text is decoded if the value that it is read as is. -/
theorem Decoding.ofText_eq_ok_iff {isRead : List Json.Step → Bool} {text : String} {a : α} :
    ofText isRead read text = .ok a ↔
      ∃ value, Json.skim? isRead text = some value ∧ read value = .ok a := by
  rw [ofText]
  cases Json.skim? isRead text with
  | none => simp
  | some value =>
    cases hread : read value with
    | ok b => simp [hread]
    | error fault =>
      simp only [Option.some.injEq, exists_eq_left', hread, reduceCtorEq, iff_false]
      split <;> simp

end Fields

/-- A data type that is told from a label is canonical. -/
theorem DataType.canonical_ofLabel (label : String) : (ofLabel label).Canonical := by
  intro other hother
  unfold ofLabel at hother
  split_ifs at hother
  obtain rfl := DataType.other.inj hother
  simp_all [knownLabels, DataType.label]

/-- A data type that is found, or the one that stands for it, is canonical. -/
theorem DataType.canonical_of_found {source : Option Json} {found : Option DataType}
    (h : ifPresent asDataType source = .ok found) {default : DataType}
    (hdefault : default.Canonical) : (found.getD default).Canonical := by
  cases source with
  | none =>
    obtain rfl := Except.ok.inj h
    exact hdefault
  | some value =>
    obtain ⟨dataType, hvalue, rfl⟩ := Steps.map_eq_ok_iff.1 h
    obtain ⟨label, -, rfl⟩ := Steps.map_eq_ok_iff.1 hvalue
    exact canonical_ofLabel label

/-- A bound is raised to that of a requirement, unless it is larger. -/
theorem Requirement.minOccurs_le_max (requirement : Requirement) (bound : UInt32) :
    requirement.minOccurs ≤ max bound requirement.minOccurs := by
  change _ ≤ if bound ≤ requirement.minOccurs then requirement.minOccurs else bound
  split
  · exact UInt32.le_refl _
  · next hlt => exact UInt32.le_of_lt (UInt32.not_le.1 hlt)

section Records

variable {members : List (String × Json)}

/-- An element that is decoded from members has the code found there. -/
theorem Element.of_ofMembers {element : Element} (h : ofMembers members = .ok element) :
    Json.member? "Element" members = some (.text element.code) ∧ element.dataType.Canonical := by
  simp only [ofMembers, Steps.bind_eq_ok_iff, Steps.pure_eq_ok_iff, require_eq_ok_iff] at h
  obtain ⟨_, -, _, hcode, _, -, _, -, _, -, _, -, _, -, _, -, _, htype, code, rfl, rfl⟩ := h
  obtain ⟨value, hvalue, htext⟩ := member_eq_ok_some_iff.1 hcode
  obtain rfl := asText_eq_ok_iff.1 htext
  exact ⟨hvalue, DataType.canonical_of_found htype fun _ h => by cases h⟩

/-- An element that is decoded has a canonical data type, and was an object or an array. -/
theorem Element.of_ofJson {value : Json} {element : Element} (h : ofJson value = .ok element) :
    element.dataType.Canonical ∧ 1 ≤ value.nesting := by
  cases value with
  | object members => exact ⟨(of_ofMembers h).2, Nat.succ_pos _⟩
  | array items =>
    simp only [ofJson, ofItems, Steps.bind_eq_ok_iff, require_eq_ok_iff] at h
    obtain ⟨_, -, _, -, _, -, code, -, _, -, _, -, _, -, _, htype, _, -, _, -, hrest⟩ := h
    split at hrest
    · cases hrest
    · obtain rfl := Steps.pure_eq_ok_iff.1 hrest
      exact ⟨DataType.canonical_of_found htype (fun _ h => by cases h), Nat.succ_pos _⟩
  | null => cases h
  | bool b => cases h
  | number n => cases h
  | text s => cases h

/-- A composite that is decoded has the components that its list has. -/
theorem Composite.of_ofMembers {composite : Composite} (h : ofMembers members = .ok composite) :
    member members "Elements" (asList Element.ofJson) = .ok (some composite.components) ∧
      composite.dataType.Canonical := by
  simp only [ofMembers, Steps.bind_eq_ok_iff, Steps.pure_eq_ok_iff, require_eq_ok_iff] at h
  obtain ⟨_, -, _, -, components, hcomponents, _, -, _, -, _, -, _, -, _, htype, code, rfl, _, rfl,
    rfl⟩ := h
  exact ⟨hcomponents, DataType.canonical_of_found htype fun _ h => by cases h⟩

/-- A segment that is decoded has the tag that was found, a lower bound that its requirement allows,
and the items that its list has, if it has one. -/
theorem Segment.of_ofMembers {segment : Segment} (h : ofMembers members = .ok segment) :
    Json.member? "Segment" members = some (.text segment.tag) ∧
      segment.requirement.minOccurs ≤ segment.minOccurs ∧
      ∃ items, member members "Elements" (asList Item.ofJson) = .ok items ∧
        segment.items = items.getD [] := by
  simp only [ofMembers, Steps.bind_eq_ok_iff, Steps.pure_eq_ok_iff, require_eq_ok_iff] at h
  obtain ⟨_, -, items, hitems, _, -, _, -, _, -, _, -, _, -, _, -, _, htag, tag, rfl, rfl⟩ := h
  obtain ⟨value, hvalue, htext⟩ := member_eq_ok_some_iff.1 htag
  obtain rfl := asText_eq_ok_iff.1 htext
  exact ⟨hvalue, Requirement.minOccurs_le_max _ _, items, hitems, rfl⟩

/-- A group that is decoded has a lower bound that its requirement allows, and the children that
were read from its list. -/
theorem Group.of_ofMembers {children : Result (Option (List Node))} {node : Node}
    (h : ofMembers members children = .ok node) :
    ∃ group nodes, node = .group group nodes ∧ children = .ok (some nodes) ∧
      group.requirement.minOccurs ≤ group.minOccurs := by
  simp only [ofMembers, Steps.bind_eq_ok_iff, Steps.pure_eq_ok_iff, require_eq_ok_iff] at h
  obtain ⟨_, -, _, -, _, -, _, -, _, -, _, -, _, -, _, -, found, hchildren, code, -, nodes, rfl, rfl⟩ := h
  exact ⟨_, nodes, rfl, hchildren, Requirement.minOccurs_le_max _ _⟩

/-- The entries of an array are read like those of any list. -/
theorem Node.listOfJson_eq_asList (value : Json) : listOfJson value = asList ofJson value := by
  cases value with
  | array values =>
    change allOfJson values = values.mapM ofJson
    induction values with
    | nil => rfl
    | cons first rest ih =>
      rw [allOfJson, List.mapM_cons, ih]
  | null => rfl
  | bool b => rfl
  | number n => rfl
  | text s => rfl
  | object ms => rfl

/-- The child list of a group is its last member with the key. -/
theorem Node.childrenOf_eq_member (members : List (String × Json)) :
    childrenOf members = member members "Segments" (asList ofJson) := by
  induction members with
  | nil => rfl
  | cons first rest ih =>
    obtain ⟨key, value⟩ := first
    rw [childrenOf, ih, listOfJson_eq_asList, member, member, Json.member?]
    cases hrest : Json.member? "Segments" rest with
    | some later => simp
    | none =>
      by_cases hkey : key = "Segments"
      · simp [hkey, ifPresent]
      · simp [hkey, ifPresent]

theorem Node.toJsonAll_eq_map (nodes : List Node) : toJsonAll nodes = nodes.map toJson := by
  induction nodes with
  | nil => rfl
  | cons node rest ih => rw [toJsonAll, ih, List.map_cons]

end Records

namespace Message

/-- The list of the entries of a structure, where it is looked for. -/
def entries? : Json → Option Json
  | .object members => Json.member? "Segments" members
  | .array items => items[3]?
  | _ => none

/-- A member that is taken for another field leaves the entries as they are. -/
theorem Fields.nodes_of_bind {α : Type} {fields next : Fields} {found : Result α}
    {update : α → Fields} (h : (do let a ← found; return update a) = .ok next)
    (hupdate : ∀ a, (update a).nodes = fields.nodes) : next.nodes = fields.nodes := by
  obtain ⟨a, -, hnext⟩ := Steps.bind_eq_ok_iff.1 h
  rw [← Steps.pure_eq_ok_iff.1 hnext]
  exact hupdate a

/-- A member that is taken is the list of entries, or leaves the entries as they are. -/
theorem Fields.read_eq_ok {fields next : Fields} {key : String} {value : Json}
    (h : fields.read (key, value) = .ok next) :
    (key = "Segments" ∧ ∃ nodes, asList Node.ofJson value = .ok nodes ∧ next.nodes = some nodes) ∨
      (key ≠ "Segments" ∧ next.nodes = fields.nodes) := by
  simp only [read] at h
  split_ifs at h with hstandard hrevision hdocument hentries
  · exact .inr ⟨by simp [hstandard], nodes_of_bind h fun _ => rfl⟩
  · exact .inr ⟨by simp [hrevision], nodes_of_bind h fun _ => rfl⟩
  · exact .inr ⟨by simp [hdocument], nodes_of_bind h fun _ => rfl⟩
  · obtain ⟨found, honce, hnext⟩ := Steps.bind_eq_ok_iff.1 h
    obtain rfl := Steps.pure_eq_ok_iff.1 hnext
    refine .inl ⟨hentries, ?_⟩
    unfold once at honce
    split at honce
    · cases honce
    · obtain ⟨nodes, hnodes, rfl⟩ := Steps.map_eq_ok_iff.1 honce
      exact ⟨nodes, Node.listOfJson_eq_asList value ▸ hnodes, rfl⟩
  · obtain rfl := Steps.pure_eq_ok_iff.1 h
    exact .inr ⟨hentries, rfl⟩

/-- The entries of a decoded structure are those of its list, and it has none without a list. -/
theorem of_ofJson {value : Json} {m : Message} (h : ofJson value = .ok m) :
    (entries? value = none ∧ m.nodes = []) ∨
      ∃ list, entries? value = some list ∧ asList Node.ofJson list = .ok m.nodes := by
  cases value with
  | object members =>
    obtain ⟨fields, hfold, hfinish⟩ := Steps.bind_eq_ok_iff.1 h
    have hentries : (Json.member? "Segments" members = none ∧ fields.nodes = none) ∨
        ∃ list nodes, Json.member? "Segments" members = some list ∧
          asList Node.ofJson list = .ok nodes ∧ fields.nodes = some nodes := by
      refine Steps.foldlM_induct (motive := fun done fields =>
        (Json.member? "Segments" done = none ∧ fields.nodes = none) ∨
          ∃ list nodes, Json.member? "Segments" done = some list ∧
            asList Node.ofJson list = .ok nodes ∧ fields.nodes = some nodes)
        (.inl ⟨rfl, rfl⟩) ?_ hfold
      intro done member fields next hdone hread
      obtain ⟨key, value⟩ := member
      rw [Json.member?_concat]
      rcases Fields.read_eq_ok hread with ⟨hkey, found, hfound, hnext⟩ | ⟨hkey, hnext⟩
      · exact .inr ⟨value, found, if_pos hkey, hfound, hnext⟩
      · rwa [if_neg hkey, hnext]
    simp only [Fields.finish, Steps.bind_eq_ok_iff, Steps.pure_eq_ok_iff] at hfinish
    obtain ⟨_, -, _, -, _, -, rfl⟩ := hfinish
    rcases hentries with ⟨hnone, hnodes⟩ | ⟨list, nodes, hlist, hread, hnodes⟩
    · exact .inl ⟨hnone, by rw [hnodes]; rfl⟩
    · exact .inr ⟨list, hlist, by rw [hnodes]; exact hread⟩
  | array items =>
    simp only [ofJson, ofItems, Steps.bind_eq_ok_iff] at h
    obtain ⟨_, -, _, -, _, -, _, -, _, -, _, -, found, hfound, hrest⟩ := h
    split at hrest
    · cases hrest
    · obtain rfl := Steps.pure_eq_ok_iff.1 hrest
      cases hlist : items[3]? with
      | none =>
        rw [hlist] at hfound
        obtain rfl := Except.ok.inj hfound
        exact .inl ⟨hlist, rfl⟩
      | some list =>
        rw [hlist] at hfound
        obtain ⟨nodes, hnodes, rfl⟩ := Steps.map_eq_ok_iff.1 hfound
        exact .inr ⟨list, hlist, Node.listOfJson_eq_asList list ▸ hnodes⟩
  | null => cases h
  | bool b => cases h
  | number n => cases h
  | text s => cases h

end Message

end EdiSchema
