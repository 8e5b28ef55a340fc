import EdiSchema.Idoc.Codec
import EdiSchema.Proofs.Descriptor.Emission
import EdiSchema.Proofs.Json.Nesting
import EdiSchema.Proofs.Structure.Canonical
import EdiSchema.Proofs.Text.Scan

/-!
# Record lists that are read back

A record is written with some of the fields that a record may have, and its kind is told from these
again: by the end of a position, or by which of the other texts are not blank. A list is read back
without the records that are none of these, so it is read as it was written exactly if each of its
records is told as what it is.

The marks of groups always are, whatever the groups are called. In the record list of a message so
are the fields, whose names start with a letter and whose lengths have a default; only a segment
with a blank tag is lost.
-/

namespace EdiSchema

namespace Idoc

open Decoding Json

namespace Record

/-- The fields that a record is written with. -/
def fields : Record → Fields
  | .groupBegin group bound => { position := some (group ++ beginSuffix), maxOccurs := some bound }
  | .groupEnd group => { position := some (group ++ endSuffix) }
  | .segment tag typeName bound =>
    { maxOccurs := some bound, segment := some tag, typeName := some typeName }
  | .field name length description => { field := some name, length, description }

/-- A record that is told as what it is. -/
def Canonical : Record → Prop
  | .groupBegin _ _ => True
  | .groupEnd _ => True
  | .segment tag typeName _ => Text.isBlankText tag = false ∧ Text.isBlankText typeName = false
  | .field name length _ => Text.isBlankText name = false ∧ length ≠ 0

section Texts

theorem notBlank_none : notBlank none = none :=
  rfl

theorem notBlank_some (text : String) :
    notBlank (some text) = if Text.isBlankText text = false then some text else none := by
  rw [notBlank, Option.filter_some]
  cases Text.isBlankText text <;> rfl

/-- A text with a part that is not blank is not blank. -/
theorem isBlankText_append {front back : String}
    (h : Text.isBlankText front = false ∨ Text.isBlankText back = false) :
    Text.isBlankText (front ++ back) = false := by
  rw [Text.isBlankText, String.toList_append, List.all_append, Bool.and_eq_false_iff]
  exact h

/-- A position marks the group whose name stands in front of the suffix. -/
theorem groupMark?_eq_some_iff {suffix position group : String} :
    groupMark? suffix position = some group ↔ position = group ++ suffix := by
  rw [← String.toList_inj, String.toList_append, ← Text.dropSuffix?_eq_some_iff, groupMark?]
  cases Text.dropSuffix? suffix.toList position.toList with
  | none => simp
  | some rest =>
    rw [Option.map_some, Option.some.injEq, Option.some.injEq, ← String.toList_inj,
      String.toList_ofList]

end Texts

section Kinds

/-- The begin of a group is told from its position. -/
theorem ofFields_groupBegin (group : String) (bound : MaxOccurs) :
    ofFields (fields (.groupBegin group bound)) = .ok (.groupBegin group bound) := by
  have hblank : Text.isBlankText (group ++ beginSuffix) = false := isBlankText_append (.inr rfl)
  have hmark : groupMark? beginSuffix (group ++ beginSuffix) = some group :=
    groupMark?_eq_some_iff.2 rfl
  simp [ofFields, fields, notBlank_some, hblank, ofPosition?, hmark]

/-- The end of a group is told from its position, which is never that of a begin. -/
theorem ofFields_groupEnd (group : String) :
    ofFields (fields (.groupEnd group)) = .ok (.groupEnd group) := by
  have hblank : Text.isBlankText (group ++ endSuffix) = false := isBlankText_append (.inr rfl)
  have hmark : groupMark? endSuffix (group ++ endSuffix) = some group :=
    groupMark?_eq_some_iff.2 rfl
  have hother : groupMark? beginSuffix (group ++ endSuffix) = none := by
    rw [Option.eq_none_iff_forall_not_mem]
    intro other hbegin
    have hlast := congrArg (fun text => text.toList.getLast?) (groupMark?_eq_some_iff.1 hbegin)
    simp [beginSuffix, endSuffix] at hlast
  simp [ofFields, fields, notBlank_some, hblank, ofPosition?, hmark, hother]

/-- A segment is told from its tag, and a type that is blank repeats the tag. -/
theorem ofFields_segment (tag typeName : String) (bound : MaxOccurs) :
    ofFields (fields (.segment tag typeName bound)) =
      if Text.isBlankText tag = false then
        .ok (.segment tag (if Text.isBlankText typeName = false then typeName else tag) bound)
      else .error .notARecord := by
  simp only [ofFields, fields, notBlank_some, notBlank_none, Option.bind_none]
  by_cases htag : Text.isBlankText tag = false
  · by_cases htype : Text.isBlankText typeName = false
    · simp [htag, htype]
    · simp [htag, htype]
  · simp [htag]

/-- A field is told from its name, and a length of zero stands for the default. -/
theorem ofFields_field (name : String) (length : UInt32) (description : String) :
    ofFields (fields (.field name length description)) =
      if Text.isBlankText name = false then
        .ok (.field name (if length = 0 then defaultLength else length) description)
      else .error .notARecord := by
  simp only [ofFields, fields, notBlank_some, notBlank_none, Option.bind_none]
  by_cases hname : Text.isBlankText name = false
  · rw [if_pos hname, if_pos hname]
    rfl
  · rw [if_neg hname, if_neg hname]

/-- A record is told as what it is exactly if it is canonical. -/
theorem ofFields_fields_eq_ok_iff (record : Record) :
    ofFields record.fields = .ok record ↔ record.Canonical := by
  cases record with
  | groupBegin group bound => simp [ofFields_groupBegin, Canonical]
  | groupEnd group => simp [ofFields_groupEnd, Canonical]
  | segment tag typeName bound =>
    rw [ofFields_segment, Canonical]
    split_ifs with htag htype
    · simp [htag, htype]
    · have hne : tag ≠ typeName := fun h => htype (h ▸ htag)
      simp [htag, htype, hne]
    · simp [htag]
  | field name length description =>
    rw [ofFields_field, Canonical]
    split_ifs with hname hlength
    · subst hlength
      simp [defaultLength]
    · simp [hname, hlength]
    · simp [hname]

end Kinds

section Lists

/-- The fields of a record are found in its JSON. -/
theorem fieldsInList_toJson (record : Record) : fieldsInList record.toJson = .ok record.fields := by
  cases record with
  | groupBegin group bound =>
    simp [fieldsInList, toJson, Found.read, once, asNullable, Found.fields, fields]
  | groupEnd group =>
    simp [fieldsInList, toJson, Found.read, once, asNullable, Found.fields, fields]
  | segment tag typeName bound =>
    simp [fieldsInList, toJson, Found.read, once, asNullable, Found.fields, fields]
  | field name length description =>
    rw [toJson]
    split <;> split <;>
      simp_all [fieldsInList, Found.read, once, asNullable, Found.fields, fields]

/-- A record is written with texts for some of its keys. -/
theorem exists_toJson_eq (record : Record) :
    ∃ texts : List (String × String), record.toJson = .object (texts.map fun t => (t.1, .text t.2)) ∧
      ∀ t ∈ texts, t.1 ∈ keys := by
  cases record with
  | groupBegin group bound =>
    exact ⟨[("Position", group ++ beginSuffix), ("Max", bound.text)], rfl, by simp [keys]⟩
  | groupEnd group => exact ⟨[("Position", group ++ endSuffix)], rfl, by simp [keys]⟩
  | segment tag typeName bound =>
    exact ⟨[("Max", bound.text), ("Segment", tag), ("Type", typeName)], rfl, by simp [keys]⟩
  | field name length description =>
    refine ⟨[("Field", name)] ++
      (if length = 0 then [] else [("Length", Text.decimal length.toNat)]) ++
      (if description = "" then [] else [("Description", description)]), ?_, ?_⟩
    · rw [toJson]
      split <;> split <;> rfl
    · split <;> split <;> simp [keys]

/-- Every place in the text of a written record list is read. -/
theorem watched_list (records : List Record) :
    Watched isRead [] (.array (records.map toJson)) := by
  refine .array rfl ?_
  intro value hvalue
  obtain ⟨record, -, rfl⟩ := List.mem_map.1 hvalue
  obtain ⟨texts, htexts, hkeys⟩ := record.exists_toJson_eq
  rw [htexts]
  refine .object rfl ?_
  intro member hmember
  obtain ⟨t, ht, rfl⟩ := List.mem_map.1 hmember
  exact .text t.2 (by simpa [isRead] using hkeys t ht)

/-- A record is written as an object of texts. -/
theorem nesting_toJson (record : Record) : record.toJson.nesting = 1 := by
  cases record with
  | groupBegin group bound => rfl
  | groupEnd group => rfl
  | segment tag typeName bound => rfl
  | field name length description =>
    rw [toJson]
    split <;> split <;> rfl

/-- A record list is written as an array of objects. -/
theorem nesting_list_le (records : List Record) :
    (Json.array (records.map toJson)).nesting ≤ 2 := by
  rw [nesting]
  apply Nat.succ_le_succ
  apply nestingOfItems_map_le
  intro record _
  exact Nat.le_of_eq record.nesting_toJson

/-- A written record list is read back without the records that are told as nothing. -/
theorem listOfText_eq (records : List Record) {text : String}
    (htext : tokens? text.toList = some (tokens (.array (records.map toJson)))) :
    listOfText text = .ok (records.filterMap fun record => (ofFields record.fields).toOption) := by
  have hskim := (watched_list records).skim?_eq htext
  have hnesting : (Json.array (records.map toJson)).nesting ≤ depthLimit :=
    (nesting_list_le records).trans (by decide)
  have hlist : asList fieldsInList (.array (records.map toJson)) = .ok (records.map fields) := by
    rw [asList, List.mapM_map]
    simp only [Function.comp_def, fieldsInList_toJson]
    exact List.mapM_pure
  rw [if_pos hnesting] at hskim
  rw [listOfText, Decoding.ofText, hskim]
  simp only [hlist]
  exact congrArg Except.ok List.filterMap_map

/-- What leaves out some entries of a list and keeps it is what gives each entry as it is. -/
theorem filterMap_eq_self_iff {α : Type} {f : α → Option α} {l : List α} :
    l.filterMap f = l ↔ ∀ a ∈ l, f a = some a := by
  induction l with
  | nil => simp
  | cons a rest ih =>
    rw [List.forall_mem_cons, List.filterMap_cons]
    cases hfa : f a with
    | none =>
      have hlength := List.length_filterMap_le f rest
      constructor
      · intro h
        have hsame := congrArg List.length h
        simp only [List.length_cons] at hsame
        omega
      · intro h
        cases h.1
    | some b => rw [List.cons.injEq, ih, Option.some.injEq]

/-- A written record list is read back as it was exactly if its records are canonical. -/
theorem listOfText_eq_ok_iff (records : List Record) {text : String}
    (htext : tokens? text.toList = some (tokens (.array (records.map toJson)))) :
    listOfText text = .ok records ↔ ∀ record ∈ records, record.Canonical := by
  have htold : ∀ record : Record,
      (ofFields record.fields).toOption = some record ↔ record.Canonical := by
    intro record
    rw [← ofFields_fields_eq_ok_iff]
    cases ofFields record.fields <;> simp [Except.toOption]
  simp only [listOfText_eq records htext, Except.ok.injEq, filterMap_eq_self_iff, htold]

end Lists

end Record

section Messages

/-- The field of an element is told as what it is. -/
theorem canonical_fieldOf (e : Element) : (fieldOf e).Canonical := by
  refine ⟨Record.isBlankText_append (.inl rfl), ?_⟩
  split
  · decide
  · assumption

/-- The records of a segment are told as what they are if its tag is not blank. -/
theorem canonical_segmentRecords_iff (s : Segment) :
    (∀ record ∈ segmentRecords s, record.Canonical) ↔ Text.isBlankText s.tag = false := by
  have hitems : ∀ record ∈ s.items.flatMap itemRecords, record.Canonical := by
    intro record hrecord
    obtain ⟨item, -, hitem⟩ := List.mem_flatMap.1 hrecord
    cases item with
    | simple e =>
      rw [itemRecords, List.mem_singleton] at hitem
      exact hitem ▸ canonical_fieldOf e
    | composite c =>
      obtain ⟨e, -, rfl⟩ := List.mem_map.1 hitem
      exact canonical_fieldOf e
  rw [segmentRecords, List.forall_mem_cons, and_iff_left hitems, Record.Canonical, and_self]

mutual
/-- The records of an entry are told as what they are if no tag in it is blank. -/
theorem canonical_nodeRecords_iff (depth : ℕ) (node : Node) :
    (∀ record ∈ nodeRecords node, record.Canonical) ↔
      ∀ s d, (.segment s, d) ∈ node.walk depth → Text.isBlankText s.tag = false := by
  cases node with
  | segment s =>
    rw [nodeRecords, canonical_segmentRecords_iff]
    simp [Node.walk]
  | group g children =>
    rw [nodeRecords, List.forall_mem_cons, List.forall_mem_append,
      canonical_recordsOf_iff (depth + 1) children]
    simp [Node.walk, Record.Canonical]

/-- The records of some entries are told as what they are if no tag in these is blank. -/
theorem canonical_recordsOf_iff (depth : ℕ) (nodes : List Node) :
    (∀ record ∈ recordsOf nodes, record.Canonical) ↔
      ∀ s d, (.segment s, d) ∈ Node.walkAll depth nodes → Text.isBlankText s.tag = false := by
  cases nodes with
  | nil => simp [recordsOf, Node.walkAll]
  | cons node rest =>
    rw [recordsOf, List.forall_mem_append, canonical_nodeRecords_iff depth node,
      canonical_recordsOf_iff depth rest, Node.walkAll]
    simp only [List.mem_append, or_imp, forall_and]
end

end Messages

end Idoc

namespace Descriptor

open Idoc

/-- Let the record list of a message be written as JSON, without blanks or over several lines, and
read again. If no tag of a segment is blank, at any depth, then the records are those of the message
and have the descriptor that the message has with any options. If some tag is blank, the records are
others. -/
theorem ofRecords_reloaded (m : Message) {text : String}
    (htext : text = (Json.array ((linearize m).map Record.toJson)).compact ∨
      text = (Json.array ((linearize m).map Record.toJson)).pretty) :
    (m.nodes ≠ [] → (∀ s depth, (.segment s, depth) ∈ m.walk → Text.isBlankText s.tag = false) →
      ∃ records descriptor, Record.listOfText text = .ok records ∧
        ofRecords m.document records = .ok descriptor ∧
        ∀ options, ofMessage .idoc options m = .ok descriptor) ∧
    ((∃ s depth, (.segment s, depth) ∈ m.walk ∧ Text.isBlankText s.tag = true) →
      ∃ records, Record.listOfText text = .ok records ∧ records ≠ linearize m) := by
  have htextual := (Record.watched_list (linearize m)).textual
  have htokens : Json.tokens? text.toList =
      some (Json.tokens (.array ((linearize m).map Record.toJson))) := by
    rcases htext with rfl | rfl
    · exact htextual.tokens?_compact
    · exact htextual.tokens?_pretty
  have hsame : Record.listOfText text = .ok (linearize m) ↔
      ∀ s depth, (.segment s, depth) ∈ m.walk → Text.isBlankText s.tag = false := by
    rw [Record.listOfText_eq_ok_iff _ htokens]
    exact canonical_recordsOf_iff 0 m.nodes
  constructor
  · intro hne htags
    refine ⟨linearize m, _, hsame.2 htags, ofRecords_linearize m.document hne, ?_⟩
    intro options
    have hempty : ¬ m.isEmpty = true := by simpa [Message.isEmpty] using hne
    rw [ofMessage, if_neg hempty]
    exact ofRecords_linearize m.document hne
  · intro h
    obtain ⟨s, depth, hs, hblank⟩ := h
    refine ⟨_, Record.listOfText_eq _ htokens, ?_⟩
    intro hrecords
    have htags := hsame.1 (hrecords ▸ Record.listOfText_eq _ htokens)
    rw [htags s depth hs] at hblank
    cases hblank

/-- A group called like a begin, an element without code, length and name, and a segment called like
the end of a group are read back; a segment with the tag of a single space is not. -/
theorem ofRecords_reloaded_lookalikes :
    let m : Message := ⟨"SAP", "", "ORDERS", [.group { code := "SG1_GROUP_BEGIN" } [
      .segment { tag := "E1EDK01", items := [.simple { code := "" }] },
      .segment { tag := "SG1_GROUP_END" }]]⟩
    let blank : Message := { m with nodes := m.nodes ++ [.segment { tag := " " }] }
    (∃ records descriptor,
      Record.listOfText (Json.array ((linearize m).map Record.toJson)).compact = .ok records ∧
      ofRecords "ORDERS" records = .ok descriptor ∧ ofMessage .idoc {} m = .ok descriptor) ∧
    ∃ records,
      Record.listOfText (Json.array ((linearize blank).map Record.toJson)).pretty = .ok records ∧
      records ≠ linearize blank := by
  intro m blank
  have htags : ∀ s depth, (.segment s, depth) ∈ m.walk → Text.isBlankText s.tag = false := by
    intro s depth hs
    simp [m, Message.walk, Node.walkAll, Node.walk] at hs
    rcases hs with ⟨rfl, -⟩ | ⟨rfl, -⟩
    · rfl
    · rfl
  have hspace : (.segment { tag := " " }, 0) ∈ blank.walk := by
    simp [blank, m, Message.walk, Node.walkAll, Node.walk]
  obtain ⟨records, descriptor, hread, hdescriptor, hmessage⟩ :=
    (ofRecords_reloaded m (.inl rfl)).1 (by simp [m]) htags
  exact ⟨⟨records, descriptor, hread, hdescriptor, hmessage {}⟩,
    (ofRecords_reloaded blank (.inr rfl)).2 ⟨_, _, hspace, rfl⟩⟩

end Descriptor

end EdiSchema
