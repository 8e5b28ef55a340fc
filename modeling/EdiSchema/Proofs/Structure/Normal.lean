import EdiSchema.Proofs.Json.Depth
import EdiSchema.Proofs.Structure.Decode
import EdiSchema.Proofs.Structure.Depth

/-!
# Loading normalises once

Many texts are loaded as the same structure: counts may be numbers, fields may be missing, lower
bounds may have to be raised, members may be repeated. Whatever came in, the structure is one that
is read back from its own text, as long as entries and items are written as objects: the fields of
an array say nothing about the code, so an entry given as one may be loaded as a segment that has
the code of a group.

Saving adds one level of nesting at most, that of a list which the loaded text left out.
-/

namespace EdiSchema

open Decoding Json

/-- Entries that are written as objects, with everything in them: the entries of a group, and the
items of any other entry. -/
inductive Node.WrittenAsObject : Json → Prop
  | object {members : List (String × Json)}
      (hentries : ∀ values, Json.member? "Segments" members = some (.array values) →
        ∀ value ∈ values, WrittenAsObject value)
      (hitems : Json.member? "Segments" members = none →
        ∀ values, Json.member? "Elements" members = some (.array values) →
          ∀ value ∈ values, ∃ parts, value = .object parts) :
      WrittenAsObject (.object members)

theorem Json.nesting_of_member? {key : String} {members : List (String × Json)} {value : Json}
    (h : Json.member? key members = some value) : value.nesting + 1 ≤ (Json.object members).nesting := by
  rw [nesting]
  exact Nat.succ_le_succ (nesting_le_nestingOfMembers (mem_of_member? h))

/-- An item that is decoded from an object is read back, and its JSON is nested no deeper. -/
theorem Item.normal_of_ofJson {members : List (String × Json)} {item : Item}
    (h : ofJson (.object members) = .ok item) :
    item.Canonical ∧ item.toJson.nesting ≤ (Json.object members).nesting := by
  rw [ofJson] at h
  split_ifs at h with hcomposite
  · obtain ⟨composite, hdecode, rfl⟩ := Steps.map_eq_ok_iff.1 h
    obtain ⟨hcomponents, htype⟩ := Composite.of_ofMembers (locate_eq_ok_iff.1 hdecode)
    obtain ⟨list, hlist, hread⟩ := member_eq_ok_some_iff.1 hcomponents
    obtain ⟨values, rfl, hvalues⟩ := exists_of_mem_asList hread
    have hroom := nesting_of_member? hlist
    have hnested : nestingOfItems (composite.components.map Element.toJson) ≤
        nestingOfItems values := by
      apply nestingOfItems_map_le
      intro element helement
      obtain ⟨v, hv, hdecoded⟩ := hvalues element helement
      rw [element.nesting_toJson]
      exact Nat.le_trans (Element.of_ofJson hdecoded).2 (nesting_le_nestingOfItems hv)
    refine ⟨⟨htype, ?_⟩, ?_⟩
    · intro element helement
      obtain ⟨v, -, hdecoded⟩ := hvalues element helement
      exact (Element.of_ofJson hdecoded).1
    · rw [toJson, composite.nesting_toJson]
      rw [nesting] at hroom
      omega
  · obtain ⟨element, hdecode, rfl⟩ := Steps.map_eq_ok_iff.1 h
    obtain ⟨hcode, htype⟩ := Element.of_ofMembers (locate_eq_ok_iff.1 hdecode)
    refine ⟨⟨?_, htype⟩, ?_⟩
    · intro hform
      have htext : codeOf "Element" (.object members) = element.code := by
        simp [codeOf, hcode, text?]
      rw [← Composite.isCode_iff, ← htext] at hform
      simp [isComposite, hform] at hcomposite
    · rw [toJson, element.nesting_toJson, nesting]
      omega

/-- A segment that is decoded from an object is read back if its items are objects; its list of
items may be one level more. -/
theorem Segment.normal_of_ofMembers {members : List (String × Json)} {segment : Segment}
    (h : ofMembers members = .ok segment)
    (htag : Group.isCode (codeOf "Segment" (.object members)) = false)
    (hitems : ∀ values, Json.member? "Elements" members = some (.array values) →
      ∀ value ∈ values, ∃ parts, value = .object parts) :
    segment.Canonical ∧ segment.toJson.nesting ≤ (Json.object members).nesting + 1 := by
  obtain ⟨hfound, hmin, items, hread, hsame⟩ := of_ofMembers h
  have htext : codeOf "Segment" (.object members) = segment.tag := by
    simp [codeOf, hfound, text?]
  have hform : ¬ Group.IsCode segment.tag := by
    rw [← Group.isCode_iff, ← htext, htag]
    exact Bool.false_ne_true
  have hnesting := segment.nesting_toJson
  cases items with
  | none =>
    rw [Option.getD_none] at hsame
    refine ⟨⟨hform, hmin, by simp [hsame]⟩, ?_⟩
    rw [hnesting, hsame, List.map_nil, nestingOfItems, nesting]
    omega
  | some decoded =>
    rw [Option.getD_some] at hsame
    obtain ⟨list, hlist, hdecode⟩ := member_eq_ok_some_iff.1 hread
    obtain ⟨values, rfl, hvalues⟩ := exists_of_mem_asList hdecode
    have hroom := nesting_of_member? hlist
    have hnormal : ∀ item ∈ segment.items,
        item.Canonical ∧ item.toJson.nesting ≤ nestingOfItems values := by
      intro item hitem
      obtain ⟨v, hv, hitem⟩ := hvalues item (hsame ▸ hitem)
      obtain ⟨parts, rfl⟩ := hitems values hlist v hv
      obtain ⟨hcanonical, hle⟩ := Item.normal_of_ofJson hitem
      exact ⟨hcanonical, Nat.le_trans hle (nesting_le_nestingOfItems hv)⟩
    have hnested : nestingOfItems (segment.items.map Item.toJson) ≤ nestingOfItems values :=
      nestingOfItems_map_le fun item hitem => (hnormal item hitem).2
    refine ⟨⟨hform, hmin, fun item hitem => (hnormal item hitem).1⟩, ?_⟩
    rw [nesting] at hroom
    omega

/-- An entry that is read back, whose JSON is nested one level more than a value at most. -/
structure Node.Normal (value : Json) (node : Node) : Prop where
  readBack : ofJson node.toJson = .ok node
  nesting : node.toJson.nesting ≤ value.nesting + 1

/-- A list of entries is read back if what is decoded from its values is. -/
theorem Node.normal_of_asList {list : Json} {nodes : List Node}
    (h : asList ofJson list = .ok nodes)
    (hnormal : ∀ values, list = .array values → ∀ value ∈ values, ∀ node,
      ofJson value = .ok node → Normal value node) :
    allOfJson (toJsonAll nodes) = .ok nodes ∧ nestingOfItems (toJsonAll nodes) ≤ list.nesting := by
  obtain ⟨values, rfl, hvalues⟩ := exists_of_mem_asList h
  have hnodes : ∀ node ∈ nodes, ∃ value ∈ values, Normal value node := by
    intro node hnode
    obtain ⟨value, hvalue, hdecode⟩ := hvalues node hnode
    exact ⟨value, hvalue, hnormal values rfl value hvalue node hdecode⟩
  rw [toJsonAll_eq_map]
  constructor
  · change listOfJson (.array (nodes.map toJson)) = .ok nodes
    rw [listOfJson_eq_asList, asList_map_eq_ok_iff]
    intro node hnode
    obtain ⟨value, -, hnormal⟩ := hnodes node hnode
    exact hnormal.readBack
  · apply nestingOfItems_map_le
    intro node hnode
    obtain ⟨value, hvalue, hnormal⟩ := hnodes node hnode
    exact Nat.le_trans hnormal.nesting (Nat.succ_le_succ (nesting_le_nestingOfItems hvalue))

/-- An entry that is decoded from objects is read back, and saving adds one level at most. -/
theorem Node.normal_of_ofJson {value : Json} (hwritten : WrittenAsObject value) {node : Node}
    (h : ofJson value = .ok node) : Normal value node := by
  induction hwritten generalizing node with
  | @object members _ hitems ih =>
    rw [ofJson] at h
    split_ifs at h with hgroup
    · obtain ⟨g, nodes, rfl, hchildren, hmin⟩ := Group.of_ofMembers (locate_eq_ok_iff.1 h)
      rw [childrenOf_eq_member] at hchildren
      obtain ⟨list, hlist, hread⟩ := member_eq_ok_some_iff.1 hchildren
      obtain ⟨hback, hnested⟩ := normal_of_asList hread fun values hvalues value hvalue _ =>
        ih values (hlist.trans (congrArg some hvalues)) value hvalue
      have hroom := nesting_of_member? hlist
      refine ⟨(ofJson_toJson_group_eq_ok_iff g nodes).2 ⟨hmin, hback⟩, ?_⟩
      rw [toJson, g.nesting_toJson]
      omega
    · obtain ⟨segment, hdecode, rfl⟩ := Steps.map_eq_ok_iff.1 h
      rw [isGroup, Bool.or_eq_true, not_or, Bool.not_eq_true, Bool.not_eq_true] at hgroup
      have hnone : Json.member? "Segments" members = none := by simpa using hgroup.1
      obtain ⟨hcanonical, hle⟩ :=
        Segment.normal_of_ofMembers (locate_eq_ok_iff.1 hdecode) hgroup.2 (hitems hnone)
      exact ⟨(ofJson_toJson_segment_eq_ok_iff segment).2 hcanonical, hle⟩

namespace Message

/-- Whether the entries of a structure are written as objects. -/
def WrittenAsObjects (value : Json) : Prop :=
  ∀ entries, entries? value = some (.array entries) → ∀ entry ∈ entries, Node.WrittenAsObject entry

theorem nesting_pos_of_ofJson {value : Json} {m : Message} (h : ofJson value = .ok m) :
    0 < value.nesting := by
  cases value with
  | object members => exact Nat.succ_pos _
  | array items => exact Nat.succ_pos _
  | null => cases h
  | bool b => cases h
  | number n => cases h
  | text s => cases h

theorem nesting_of_entries? {value list : Json} (h : entries? value = some list) :
    list.nesting + 1 ≤ value.nesting := by
  cases value with
  | object members => exact nesting_of_member? h
  | array items => exact Nat.succ_le_succ (nesting_le_nestingOfItems (List.mem_of_getElem? h))
  | null => cases h
  | bool b => cases h
  | number n => cases h
  | text s => cases h

/-- A message that is decoded is read back from its own JSON, which is nested one level more than
what it was decoded from at most. -/
theorem normal_of_ofJson {value : Json} {m : Message} (h : ofJson value = .ok m)
    (hwritten : WrittenAsObjects value) :
    ofJson m.toJson = .ok m ∧ m.toJson.nesting ≤ value.nesting + 1 := by
  rw [ofJson_toJson_eq_ok_iff, walk, ← Node.allOfJson_toJsonAll_eq_ok_iff, m.nesting_toJson]
  rcases of_ofJson h with ⟨-, hnil⟩ | ⟨list, hlist, hread⟩
  · have hpos := nesting_pos_of_ofJson h
    rw [hnil]
    exact ⟨rfl, Nat.succ_le_succ hpos⟩
  · obtain ⟨hback, hnested⟩ := Node.normal_of_asList hread fun values hvalues value hvalue _ =>
      Node.normal_of_ofJson (hwritten values (hlist.trans (congrArg some hvalues)) value hvalue)
    have hroom := nesting_of_entries? hlist
    exact ⟨hback, by omega⟩

/-- The text that is left when a text is loaded and saved a number of times. -/
def resaved : ℕ → String → Except TextFault String
  | 0, saved => .ok saved
  | n + 1, saved => do
    let message ← ofText saved
    resaved n message.toText

/-- A structure that has been loaded is loaded from its own text again, so nothing changes any more
however often it is saved and loaded. -/
theorem ofText_normalises {text : String} {value : Json} {m : Message}
    (hvalue : skim? isRead text = some value)
    (hwritten : WrittenAsObjects value)
    (hdepth : depthOfText text ≤ 126) (hload : ofText text = .ok m) :
    ofText m.toText = .ok m ∧
      ∀ n, resaved n m.toText = .ok m.toText ∧ resaved (n + 1) text = .ok m.toText := by
  have hdecode : ofJson value = .ok m := by
    rw [ofText, Decoding.ofText, hvalue] at hload
    dsimp only at hload
    split at hload
    · next found hfound =>
      rw [hfound, Except.ok.inj hload]
    · split at hload <;> cases hload
  obtain ⟨hback, hnesting⟩ := normal_of_ofJson hdecode hwritten
  have hlimit : m.toJson.nesting ≤ depthLimit := by
    have hle := nesting_le_depthOfText hvalue
    rw [depthLimit]
    omega
  have hagain : ofText m.toText = .ok m := ofText_toText_of_ofJson hback hlimit
  have hsaved : ∀ n, resaved n m.toText = .ok m.toText := by
    intro n
    induction n with
    | zero => rfl
    | succ n ih =>
      rw [resaved, hagain]
      exact ih
  refine ⟨hagain, fun n => ⟨hsaved n, ?_⟩⟩
  rw [resaved, hload]
  exact hsaved n

/-- A structure as it may be written by hand: the members in another order, one that nobody reads, a
requirement in short, a count that is a number and is raised, and another behind points. -/
def handwritten (extra : Json) : Json :=
  .object [
    ("Document", .text "ORDERS"), ("Extra", extra), ("Revision", .text "D97A"),
    ("Standard", .text "EDIFACT"),
    ("Segments", .array [.object [
      ("Segment", .text "SG1"), ("Max", .null),
      ("Segments", .array [.object [
        ("Segment", .text "BGM"), ("Requirement", .text "M"), ("Min", .number (.natural 0)),
        ("Elements", .array [.object [("Element", .text "1225"), ("Max", .text "..3")]])]])]])]

theorem writtenAsObjects_handwritten (extra : Json) : WrittenAsObjects (handwritten extra) := by
  intro entries hentries entry hentry
  obtain rfl : _ = entries := by simpa [entries?, handwritten, Json.member?] using hentries
  obtain rfl := List.mem_singleton.1 hentry
  refine .object ?_ ?_
  · intro values hvalues value hvalue
    obtain rfl : _ = values := by simpa [Json.member?] using hvalues
    obtain rfl := List.mem_singleton.1 hvalue
    refine .object ?_ ?_
    · intro values hvalues
      simp [Json.member?] at hvalues
    · intro _ values hvalues value hvalue
      obtain rfl : _ = values := by simpa [Json.member?] using hvalues
      exact ⟨_, List.mem_singleton.1 hvalue⟩
  · intro hnone
    simp [Json.member?] at hnone

set_option maxRecDepth 20000 in
theorem skim?_handwritten :
    skim? isRead (handwritten (.array [.bool true])).compact = some (handwritten .null) := by
  rw [skim?, compact, String.toList_ofList]
  rfl

/-- The structure is loaded, and what is saved of it stays as it is. -/
theorem ofText_normalises_handwritten :
    let text := (handwritten (.array [.bool true])).compact
    depthOfText text ≤ 126 ∧
      ∃ m, ofText text = .ok m ∧ ofText m.toText = .ok m ∧ resaved 3 text = .ok m.toText := by
  intro text
  have hdepth : depthOfText (handwritten (.array [.bool true])).compact ≤ 126 := by
    rw [depthOfText, compact, String.toList_ofList]
    decide +kernel
  have hloads : (ofText (handwritten (.array [.bool true])).compact).isOk = true := by
    rw [ofText, Decoding.ofText, skim?_handwritten]
    decide +kernel
  cases hload : ofText text with
  | error fault =>
    rw [hload] at hloads
    cases hloads
  | ok m =>
    obtain ⟨hagain, hsaved⟩ := ofText_normalises skim?_handwritten
      (writtenAsObjects_handwritten .null) hdepth hload
    exact ⟨hdepth, m, rfl, hagain, (hsaved 2).2⟩

end Message

end EdiSchema
