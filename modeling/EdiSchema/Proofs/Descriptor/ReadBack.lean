import EdiSchema.Descriptor.Basic
import EdiSchema.Proofs.Xml.ReadBack
import EdiSchema.Structure.Walk

/-!
# Delimited bodies read back

A reader of XML finds in the body of a delimited message what the message says: its entries in
order and nesting, the items of its segments, by which text each part ends and how often it may
occur. The bounds that options give to groups may be arbitrary texts.

Codes have to consist of letters and digits, and the name of the message must not have three
hyphens in a row.
-/

namespace EdiSchema

section Codes

/-- Whether a code consists of letters and digits. -/
def IsPlainCode (code : String) : Prop :=
  code ≠ "" ∧ ∀ c ∈ code.toList, c.isAlphanum = true

/-- Whether a code consists of letters and digits and starts with a letter. -/
def IsPlainTag (code : String) : Prop :=
  IsPlainCode code ∧ code.toList.head?.any Char.isAlpha = true

/-- Whether the codes of an item are plain. -/
def Item.HasPlainCodes : Item → Prop
  | .composite c => IsPlainTag c.code ∧ ∀ e ∈ c.components, IsPlainCode e.code
  | .simple e => IsPlainCode e.code

/-- Whether the codes of an entry are plain, apart from those of the entries in it. -/
def Node.HasPlainCodes : Node → Prop
  | .segment s => IsPlainTag s.tag ∧ ∀ i ∈ s.items, i.HasPlainCodes
  | .group g _ => IsPlainTag g.code

/-- Whether all codes in a message are plain. -/
def Message.HasPlainCodes (m : Message) : Prop :=
  ∀ entry ∈ m.walk, entry.1.HasPlainCodes

instance (code : String) : Decidable (IsPlainCode code) :=
  decidable_of_iff (code ≠ "" ∧ code.toList.all Char.isAlphanum = true) (by simp [IsPlainCode])

instance (code : String) : Decidable (IsPlainTag code) :=
  inferInstanceAs (Decidable (_ ∧ _))

instance : DecidablePred Item.HasPlainCodes
  | .composite c => inferInstanceAs (Decidable (IsPlainTag c.code ∧ _))
  | .simple e => inferInstanceAs (Decidable (IsPlainCode e.code))

instance : DecidablePred Node.HasPlainCodes
  | .segment s => inferInstanceAs (Decidable (IsPlainTag s.tag ∧ _))
  | .group g _ => inferInstanceAs (Decidable (IsPlainTag g.code))

instance (m : Message) : Decidable m.HasPlainCodes :=
  inferInstanceAs (Decidable (∀ entry ∈ m.walk, _))

/-- Letters and digits may stand in a name. -/
theorem isNameChar_of_isAlphanum {c : Char} (hc : c.isAlphanum = true) :
    Xml.isNameChar c = true := by
  rw [Char.isAlphanum, Bool.or_eq_true] at hc
  rcases hc with hc | hc <;> simp [Xml.isNameChar, Xml.isNameStart, hc]

/-- A plain code that starts with a letter is a name. -/
theorem IsPlainTag.isName {code : String} (hcode : IsPlainTag code) : Xml.IsName code := by
  obtain ⟨⟨-, hchars⟩, hhead⟩ := hcode
  refine ⟨?_, fun c hc => isNameChar_of_isAlphanum (hchars c hc)⟩
  cases hcs : code.toList with
  | nil => simp [hcs] at hhead
  | cons c cs =>
    rw [hcs] at hhead
    simp_all [Xml.isNameStart]

/-- A plain code behind an `E` is a name. -/
theorem IsPlainCode.isName {code : String} (hcode : IsPlainCode code) :
    Xml.IsName ("E" ++ code) := by
  have hchars : ("E" ++ code).toList = 'E' :: code.toList := by simp
  rw [Xml.IsName, hchars]
  exact ⟨rfl, List.forall_mem_cons.2
    ⟨rfl, fun c hc => isNameChar_of_isAlphanum (hcode.2 c hc)⟩⟩

/-- A plain code is not blank. -/
theorem IsPlainCode.exists_not_isSpace {code : String} (hcode : IsPlainCode code) :
    ∃ c ∈ code.toList, Xml.isSpace c = false := by
  obtain ⟨hne, hchars⟩ := hcode
  obtain ⟨c, hc⟩ := List.exists_mem_of_ne_nil code.toList (by simpa using hne)
  exact ⟨c, hc, (Xml.ne_of_isNameChar (isNameChar_of_isAlphanum (hchars c hc))).1⟩

end Codes

section Shown

/-- Whether an element of a document shows a data element that ends by a text. -/
structure ShowsElement (ending : String) (e : Element) (tree : Xml.Tree) : Prop where
  name : tree.name = "E" ++ e.code
  ending : tree.attribute? "end" = some ending
  maxSize : tree.attribute? "maxSize" =
    if e.maxLength = 0 then none else some (Text.decimal e.maxLength.toNat)
  min : tree.attribute? "min" = if e.requirement = .mandatory then some "1" else none
  content : tree.content = []

/-- Whether an element of a document shows a composite. -/
structure ShowsComposite (separators : Separators) (c : Composite) (tree : Xml.Tree) : Prop where
  name : tree.name = c.code
  ending : tree.attribute? "end" = some separators.element
  min : tree.attribute? "min" = if c.requirement = .mandatory then some "1" else none
  components : List.Forall₂ (ShowsElement separators.component) c.components tree.content

/-- Whether an element of a document shows an item of a segment. -/
def ShowsItem (separators : Separators) : Item → Xml.Tree → Prop
  | .composite c => ShowsComposite separators c
  | .simple e => ShowsElement separators.element e

/-- Whether an element of a document shows the tag that a segment starts with. -/
structure ShowsTag (separators : Separators) (tag : String) (tree : Xml.Tree) : Prop where
  name : tree.name = "TAG"
  ending : tree.attribute? "end" = some separators.element
  content : tree.content = [.text tag]

/-- Whether an element of a document shows a segment. -/
structure ShowsSegment (separators : Separators) (s : Segment) (tree : Xml.Tree) : Prop where
  name : tree.name = s.tag
  ending : tree.attribute? "end" = some separators.segment
  min : tree.attribute? "min" = if s.requirement = .mandatory then some "1" else none
  max : tree.attribute? "max" =
    if s.maxOccurs = .one then none else some s.maxOccurs.descriptorText
  content : ∃ tag items, tree.content = tag :: items ∧ ShowsTag separators s.tag tag ∧
    List.Forall₂ (ShowsItem separators) s.items items

/-- Elements of a document that show an entry of a message with everything in it. -/
inductive ShowsNode (separators : Separators) (options : DescriptorOptions) :
    Node → Xml.Tree → Prop
  | segment {s : Segment} {tree : Xml.Tree} (shown : ShowsSegment separators s tree) :
      ShowsNode separators options (.segment s) tree
  | group {g : Group} {children : List Node} {tree : Xml.Tree} (name : tree.name = g.code)
      (max : tree.attribute? "max" =
        some (g.maxOccurs.elim options.groupMax MaxOccurs.descriptorText))
      (content : List.Forall₂ (ShowsNode separators options) children tree.content) :
      ShowsNode separators options (.group g children) tree

end Shown

namespace Body

variable (separators : Separators) (options : DescriptorOptions)

section Readable

/-- Attributes can stand in a tag if their names are among some that can. -/
theorem areAttributes_of_sublist {attributes : List (String × String)} (keys : List String)
    (hkeys : ∀ key ∈ keys, Xml.IsName key) (hnodup : keys.Nodup)
    (hsublist : (attributes.map Prod.fst).Sublist keys) : Xml.AreAttributes attributes :=
  ⟨fun _ hpair => hkeys _ (hsublist.subset (List.mem_map_of_mem hpair)), hnodup.sublist hsublist⟩

/-- Data elements are read back. -/
theorem readable_element {e : Element} (hcode : IsPlainCode e.code) (ending : String) :
    (element ending e).Readable := by
  refine .empty hcode.isName (areAttributes_of_sublist ["end", "maxSize", "min"]
    (by decide) (by decide) ?_)
  unfold sizeAttribute minAttribute
  split <;> split <;> simp

/-- Composites are read back. -/
theorem readable_composite {c : Composite} (hcode : IsPlainTag c.code)
    (hcomponents : ∀ e ∈ c.components, IsPlainCode e.code) :
    (composite separators c).Readable := by
  have hattributes : Xml.AreAttributes
      ([("end", separators.element)] ++ minAttribute c.requirement) := by
    apply areAttributes_of_sublist ["end", "min"] (by decide) (by decide)
    unfold minAttribute
    split <;> simp
  rw [composite]
  split
  · exact .empty hcode.isName hattributes
  · refine .element hcode.isName hattributes fun node hnode => ?_
    obtain ⟨e, he, rfl⟩ := List.mem_map.1 hnode
    exact readable_element (hcomponents e he) _

/-- Items of segments are read back. -/
theorem readable_item {i : Item} (hcodes : i.HasPlainCodes) : (item separators i).Readable := by
  cases i with
  | composite c => exact readable_composite separators hcodes.1 hcodes.2
  | simple e => exact readable_element hcodes _

/-- Segments are read back. -/
theorem readable_segment {s : Segment} (htag : IsPlainTag s.tag)
    (hitems : ∀ i ∈ s.items, i.HasPlainCodes) : (segment separators s).Readable := by
  refine .element htag.isName ?_ (List.forall_mem_cons.2 ⟨?_, fun node hnode => ?_⟩)
  · apply areAttributes_of_sublist
      ["end", "lastEnd", "emptyEnd", "errorLevel", "requirement", "min", "max"]
      (by decide) (by decide)
    unfold segmentAttributes minAttribute maxAttribute
    split <;> split <;> simp
  · exact .leaf (by decide)
      (areAttributes_of_sublist ["end", "key", "min"] (by decide) (by decide) (by simp))
      htag.1.exists_not_isSpace
  · obtain ⟨i, hi, rfl⟩ := List.mem_map.1 hnode
    exact readable_item separators (hitems i hi)

/-- Groups are read back with their children. -/
theorem readable_group {g : Group} (hcode : IsPlainTag g.code) {children : List Xml}
    (hchildren : ∀ node ∈ children, node.Readable) : (group options g children).Readable := by
  have hattributes : Xml.AreAttributes [("format", "none"), ("max", groupMax options g)] :=
    areAttributes_of_sublist ["format", "max"] (by decide) (by decide) (by simp)
  rw [group]
  split
  · exact .empty hcode.isName hattributes
  · exact .element hcode.isName hattributes hchildren

mutual
/-- Entries are read back. -/
theorem readable_node (depth : ℕ) {n : Node}
    (hcodes : ∀ entry ∈ n.walk depth, entry.1.HasPlainCodes) :
    (node separators options n).Readable := by
  cases n with
  | segment s =>
    have hown : (Node.segment s).HasPlainCodes := hcodes (.segment s, depth) (by simp [Node.walk])
    exact readable_segment separators hown.1 hown.2
  | group g children =>
    have hown : (Node.group g children).HasPlainCodes :=
      hcodes (.group g children, depth) (by simp [Node.walk])
    refine readable_group options hown (readable_nodes (depth + 1) fun entry hentry => ?_)
    exact hcodes entry (by rw [Node.walk]; exact List.mem_cons_of_mem _ hentry)

/-- The entries of a list are read back. -/
theorem readable_nodes (depth : ℕ) {ns : List Node}
    (hcodes : ∀ entry ∈ Node.walkAll depth ns, entry.1.HasPlainCodes) :
    ∀ node ∈ nodes separators options ns, node.Readable := by
  cases ns with
  | nil => exact fun _ hnode => absurd hnode (List.not_mem_nil)
  | cons n rest =>
    rw [Node.walkAll, List.forall_mem_append] at hcodes
    exact List.forall_mem_cons.2
      ⟨readable_node depth hcodes.1, readable_nodes depth hcodes.2⟩
end

end Readable

section Shown

/-- The attribute of an item that has to be present is found under its name alone. -/
theorem lookup_minAttribute (key : String) (requirement : Requirement) :
    (minAttribute requirement).lookup key =
      if key = "min" ∧ requirement = .mandatory then some "1" else none := by
  cases requirement <;> simp [minAttribute, Requirement.isMandatory]

/-- The attribute of an upper bound is found under its name alone. -/
theorem lookup_maxAttribute (key : String) (bound : MaxOccurs) :
    (maxAttribute bound).lookup key =
      if key = "max" ∧ bound ≠ .one then some bound.descriptorText else none := by
  by_cases hone : bound = .one <;> simp [maxAttribute, MaxOccurs.isOne, hone]

/-- The attribute of a maximal length is found under its name alone. -/
theorem lookup_sizeAttribute (key : String) (length : UInt32) :
    (sizeAttribute length).lookup key =
      if key = "maxSize" ∧ length ≠ 0 then some (Text.decimal length.toNat) else none := by
  by_cases hzero : length = 0 <;> simp [sizeAttribute, hzero]

/-- A data element is shown by what is written for it. -/
theorem exists_showsElement (ending : String) (e : Element) :
    ∃ tree, (element ending e).trees = [tree] ∧ ShowsElement ending e tree := by
  refine ⟨_, rfl, rfl, rfl, ?_, ?_, rfl⟩ <;>
    simp [Xml.Tree.attribute?, List.lookup_cons, List.lookup_append, lookup_sizeAttribute,
      lookup_minAttribute]

/-- Values are shown one after the other if each is shown by one element. -/
theorem forall₂_allTrees_map {α : Type} {write : α → Xml} {shows : α → Xml.Tree → Prop}
    {values : List α} (hshows : ∀ a ∈ values, ∃ tree, (write a).trees = [tree] ∧ shows a tree) :
    List.Forall₂ shows values (Xml.allTrees (values.map write)) := by
  induction values with
  | nil => exact .nil
  | cons a values ih =>
    obtain ⟨⟨tree, htree, hshown⟩, hrest⟩ := List.forall_mem_cons.1 hshows
    rw [List.map_cons, Xml.allTrees, htree, List.singleton_append]
    exact .cons hshown (ih hrest)

/-- A composite is shown by what is written for it. -/
theorem exists_showsComposite (c : Composite) :
    ∃ tree, (composite separators c).trees = [tree] ∧ ShowsComposite separators c tree := by
  have hcomponents : List.Forall₂ (ShowsElement separators.component) c.components
      (Xml.allTrees (c.components.map (element separators.component))) :=
    forall₂_allTrees_map fun e _ => exists_showsElement separators.component e
  have hmin : ([("end", separators.element)] ++ minAttribute c.requirement).lookup "min" =
      if c.requirement = .mandatory then some "1" else none := by
    simp [List.lookup_cons, lookup_minAttribute]
  rw [composite]
  split
  · next hempty =>
    rw [List.isEmpty_iff.1 hempty] at hcomponents
    exact ⟨_, rfl, rfl, rfl, hmin, by rwa [List.isEmpty_iff.1 hempty]⟩
  · exact ⟨_, rfl, rfl, rfl, hmin, hcomponents⟩

/-- An item of a segment is shown by what is written for it. -/
theorem exists_showsItem (i : Item) :
    ∃ tree, (item separators i).trees = [tree] ∧ ShowsItem separators i tree := by
  cases i with
  | composite c => exact exists_showsComposite separators c
  | simple e => exact exists_showsElement separators.element e

/-- A segment is shown by what is written for it. -/
theorem exists_showsSegment (s : Segment) :
    ∃ tree, (segment separators s).trees = [tree] ∧ ShowsSegment separators s tree := by
  have hitems : List.Forall₂ (ShowsItem separators) s.items
      (Xml.allTrees (s.items.map (item separators))) :=
    forall₂_allTrees_map fun i _ => exists_showsItem separators i
  refine ⟨_, rfl, rfl, rfl, ?_, ?_, _, _, rfl, ⟨rfl, rfl, rfl⟩, hitems⟩ <;>
    simp [Xml.Tree.attribute?, segmentAttributes, List.lookup_cons, List.lookup_append,
      lookup_minAttribute, lookup_maxAttribute]

/-- A group is shown by what is written for it if its children are. -/
theorem exists_shows_group (g : Group) {children : List Node}
    (hchildren : List.Forall₂ (ShowsNode separators options) children
      (Xml.allTrees (nodes separators options children))) :
    ∃ tree, (group options g (nodes separators options children)).trees = [tree] ∧
      ShowsNode separators options (.group g children) tree := by
  rw [group]
  split
  · next hempty =>
    rw [List.isEmpty_iff.1 hempty] at hchildren
    exact ⟨_, rfl, .group rfl rfl hchildren⟩
  · exact ⟨_, rfl, .group rfl rfl hchildren⟩

mutual
/-- An entry is shown by what is written for it. -/
theorem exists_shows_node (n : Node) :
    ∃ tree, (node separators options n).trees = [tree] ∧ ShowsNode separators options n tree := by
  cases n with
  | segment s =>
    obtain ⟨tree, htree, hshown⟩ := exists_showsSegment separators s
    exact ⟨tree, htree, .segment hshown⟩
  | group g children =>
    exact exists_shows_group separators options g (forall₂_shows_nodes children)

/-- The entries of a list are shown one after the other. -/
theorem forall₂_shows_nodes (ns : List Node) :
    List.Forall₂ (ShowsNode separators options) ns
      (Xml.allTrees (nodes separators options ns)) := by
  cases ns with
  | nil => exact .nil
  | cons n rest =>
    obtain ⟨tree, htree, hshown⟩ := exists_shows_node n
    rw [nodes, Xml.allTrees, htree, List.singleton_append]
    exact .cons hshown (forall₂_shows_nodes rest)
end

end Shown

/-- The body of a message is read back, apart from the comment that names the message. -/
theorem readable_ofMessage {m : Message} (hcodes : m.HasPlainCodes)
    (hname : ¬ ['-', '-', '-'] <:+: (title m).toList) :
    (ofMessage separators options m).Readable := by
  refine .element (by decide) (by decide)
    (List.forall_mem_cons.2 ⟨.comment hname, ?_⟩)
  exact readable_nodes separators options 0 hcodes

end Body

namespace Descriptor

/-- The body of a message for a delimited dialect is read as one element, in which the entries of
the message are shown in order and nesting. It is the body of the descriptor, which every message
with entries has. -/
theorem ofMessage_readsBack {dialect : Dialect} {interchange : Interchange}
    (hdialect : dialect.interchange? = some interchange) (options : DescriptorOptions) {m : Message}
    (hcodes : m.HasPlainCodes)
    (hname : ¬ ['-', '-', '-'] <:+:
      (m.standard ++ "-" ++ m.revision ++ "-" ++ m.document).toList) :
    let body := (Body.ofMessage interchange.separators options m).text
    (∃ attributes content, Xml.read? body = some (.element "MESSAGE" attributes content) ∧
      List.Forall₂ (ShowsNode interchange.separators options) m.nodes content) ∧
    (m.isEmpty = false → ∃ descriptor, ofMessage dialect options m = .ok descriptor ∧
      descriptor.body.map Fragment.content = some body) := by
  intro body
  refine ⟨⟨_, _, (Body.readable_ofMessage _ options hcodes hname).read?_text, ?_⟩, ?_⟩
  · exact Body.forall₂_shows_nodes interchange.separators options m.nodes
  · intro hempty
    refine ⟨delimited dialect interchange options m, ?_, rfl⟩
    simp [ofMessage, hempty, hdialect]

/-- Bounds that are made up of markup are read back, also of groups in groups. -/
theorem ofMessage_readsBack_markup :
    let interchange : Interchange := ⟨⟨"\\n", "|", ">"⟩, ["isa", "gs"], ["ge", "iea"], "x"⟩
    let options : DescriptorOptions := { groupMax := "\"/><!-- &amp; --><" }
    let segment : Segment := {
      tag := "BEG"
      requirement := .mandatory
      maxOccurs := .unbounded
      items := [
        .composite { code := "C002", components := [{ code := "1001", maxLength := 3 }] },
        .simple { code := "1225", requirement := .mandatory }] }
    let m : Message := {
      standard := "X12"
      revision := "40--10"
      document := "850"
      nodes := [.group { code := "SG1" } [.segment segment, .group { code := "SG2" } []]] }
    let body := (Body.ofMessage interchange.separators options m).text
    Dialect.interchange? .x12 = some interchange ∧ m.HasPlainCodes ∧
    ¬ ['-', '-', '-'] <:+: (m.standard ++ "-" ++ m.revision ++ "-" ++ m.document).toList ∧
    (∃ attributes content, Xml.read? body = some (.element "MESSAGE" attributes content) ∧
      List.Forall₂ (ShowsNode interchange.separators options) m.nodes content) ∧
    (m.isEmpty = false → ∃ descriptor, ofMessage .x12 options m = .ok descriptor ∧
      descriptor.body.map Fragment.content = some body) :=
  ⟨rfl, by decide, by decide,
    ofMessage_readsBack rfl _ (by decide) (by decide)⟩

end Descriptor

end EdiSchema
