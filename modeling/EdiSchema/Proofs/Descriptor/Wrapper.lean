import EdiSchema.Proofs.Descriptor.Naming
import EdiSchema.Proofs.Descriptor.ReadBack
import EdiSchema.Proofs.Xml.Entity

/-!
# Wrappers refer to what they declare

A reader of entities finds in the wrapper of a message the fragments of the interchange with the
body between them: all are declared, and each is referred to once in the same order, inside the
element of the interchange. The body has the name that the descriptor gives for it and the path of
the file that comes with the descriptor.

The names are different from each other unless the message is called like a fragment. A reader of
XML takes the first of two declarations of one name, so the interchange then has no body.
-/

namespace EdiSchema

namespace Wrapper

open Xml.Entities

/-- What a wrapper says about an entity. -/
def Entity.pair (entity : Entity) : String × String :=
  (entity.name, entity.path)

/-- Whether an entity can be read back. -/
structure Entity.Readable (entity : Entity) : Prop where
  name : ∀ c ∈ entity.name.toList, Xml.isNameChar c = true
  path : '"' ∉ entity.path.toList

/-- Some lines of a wrapper, each with its end. -/
def chars (lines : List String) : List Char :=
  lines.flatMap fun line => line.toList ++ ['\n']

section Lines

variable (opened : List String) (found : Xml.Entities)

/-- The line that declares an entity is read. -/
theorem run?_declare {entity : Entity} (hentity : entity.Readable) :
    (between opened found).run? ((declare entity).toList ++ ['\n']) =
      some (between opened { found with declared := found.declared ++ [entity.pair] }) := by
  have hspace : ' ' ∉ entity.name.toList := fun h => absurd (hentity.name ' ' h) (by decide)
  have hname : ∀ c ∈ entity.name.toList, c ∉ ['<', '>', '[', '"'] := by
    intro c hc hmem
    have hletter := hentity.name c hc
    simp only [List.mem_cons, List.not_mem_nil, or_false] at hmem
    rcases hmem with rfl | rfl | rfl | rfl <;> exact absurd hletter (by decide)
  have hline : (declare entity).toList ++ ['\n'] = "    <!ENTITY ".toList ++
      (entity.name.toList ++ (" SYSTEM \"".toList ++
        (entity.path.toList ++ ['"'] ++ ['>', '\n']))) := by
    unfold declare
    simp only [String.toList_append, List.append_assoc]
    rfl
  have hstart : (between opened found).run? "    <!ENTITY ".toList =
      some ⟨.markup, "!ENTITY ".toList.reverse, opened, found⟩ := rfl
  have hsystem : ∀ piece, (⟨.markup, piece, opened, found⟩ : State).run? " SYSTEM \"".toList =
      some ⟨.quoted, " SYSTEM \"".toList.reverse ++ piece, opened, found⟩ := fun _ => rfl
  rw [hline, State.run?_append, hstart, Option.bind_some, State.run?_append,
    State.run?_markup rfl hname, Option.bind_some, State.run?_append, hsystem, Option.bind_some,
    State.run?_append, State.run?_quoted rfl hentity.path, Option.bind_some]
  have htag : ('"' :: (entity.path.toList.reverse ++ (" SYSTEM \"".toList.reverse ++
      (entity.name.toList.reverse ++ "!ENTITY ".toList.reverse)))).reverse =
        "!ENTITY ".toList ++
          (entity.name.toList ++ " SYSTEM \"".toList ++ (entity.path.toList ++ ['"'])) := by
    simp
  have hentity := declaration?_eq_some hspace hentity.path
  rw [← htag, String.ofList_toList, String.ofList_toList] at hentity
  exact State.run?_declaration rfl hentity

/-- The line that refers to an entity is read. -/
theorem run?_refer {entity : Entity} (hentity : entity.Readable) :
    (between opened found).run? ((refer entity).toList ++ ['\n']) =
      some (between opened
        { found with referred := found.referred ++ [(opened, entity.name)] }) := by
  have hline : (refer entity).toList ++ ['\n'] =
      "        &".toList ++ (entity.name.toList ++ [';', '\n']) := by
    simp [refer]
  have hstart : (between opened found).run? "        &".toList =
      some ⟨.reference, [], opened, found⟩ := rfl
  have hend : ∀ piece, (⟨.reference, piece, opened, found⟩ : State).run? [';', '\n'] =
      some (between opened { found with
        referred := found.referred ++ [(opened, String.ofList piece.reverse)] }) := fun _ => rfl
  rw [hline, State.run?_append, hstart, Option.bind_some, State.run?_append,
    State.run?_reference rfl hentity.name, Option.bind_some, hend, List.append_nil,
    List.reverse_reverse, String.ofList_toList]

/-- Nothing is open behind the lines that open the declarations. -/
theorem run?_start : (between [] {}).run? (chars [Xml.declaration, "<!DOCTYPE doc ["]) =
    some (between [] {}) :=
  rfl

set_option maxRecDepth 4000 in
/-- The lines between the declarations and the references open two elements. -/
theorem run?_open {dialect : Dialect} {interchange : Interchange}
    (hdialect : dialect.interchange? = some interchange) :
    (between [] found).run? (chars ["]>", opening interchange.separators,
      "    <" ++ dialect.wrapperName ++ " format=\"none\" max=\"n\">"]) =
        some (between ["ixDOC", "INTERCHANGE"] found) := by
  cases dialect with
  | edifact =>
    cases hdialect
    rfl
  | x12 =>
    cases hdialect
    rfl
  | idoc => cases hdialect

/-- The last lines close both. -/
theorem run?_close {dialect : Dialect} {interchange : Interchange}
    (hdialect : dialect.interchange? = some interchange) :
    (between ["ixDOC", "INTERCHANGE"] found).run?
      (chars ["    </" ++ dialect.wrapperName ++ ">", "</ixDOC>"]) = some (between [] found) := by
  cases dialect with
  | edifact => rfl
  | x12 => rfl
  | idoc => cases hdialect

/-- The lines that declare some entities are read. -/
theorem run?_declareAll {entities : List Entity} (hentities : ∀ e ∈ entities, e.Readable) :
    (between opened found).run? (chars (entities.map declare)) =
      some (between opened
        { found with declared := found.declared ++ entities.map Entity.pair }) := by
  induction entities generalizing found with
  | nil => simp [chars, State.run?]
  | cons entity rest ih =>
    obtain ⟨hentity, hrest⟩ := List.forall_mem_cons.1 hentities
    rw [List.map_cons, chars, List.flatMap_cons, State.run?_append,
      run?_declare opened found hentity, Option.bind_some]
    exact (ih _ hrest).trans (by simp)

/-- The lines that refer to some entities are read. -/
theorem run?_referAll {entities : List Entity} (hentities : ∀ e ∈ entities, e.Readable) :
    (between opened found).run? (chars (entities.map refer)) =
      some (between opened { found with
        referred := found.referred ++ entities.map fun e => (opened, e.name) }) := by
  induction entities generalizing found with
  | nil => simp [chars, State.run?]
  | cons entity rest ih =>
    obtain ⟨hentity, hrest⟩ := List.forall_mem_cons.1 hentities
    rw [List.map_cons, chars, List.flatMap_cons, State.run?_append, run?_refer opened found hentity,
      Option.bind_some]
    exact (ih _ hrest).trans (by simp)

end Lines

/-- The entity of a fragment can be read back. -/
theorem readable_fragment (dialect : Dialect) {root name : String} (hroot : '"' ∉ root.toList)
    (hname : ∀ c ∈ name.toList, Xml.isNameChar c = true) :
    (fragment root dialect name).Readable := by
  have hquote : '"' ∉ name.toList := fun h => absurd (hname '"' h) (by decide)
  have hfolder : '"' ∉ dialect.folder.toList := by cases dialect <;> decide
  exact ⟨hname, by simp [fragment, hroot, hfolder, hquote]⟩

section Interchange

variable {dialect : Dialect} {interchange : Interchange}
  (hdialect : dialect.interchange? = some interchange)
include hdialect

/-- A wrapper is read as its entities, each declared and then referred to. -/
theorem read?_lines {entities : List Entity} (hentities : ∀ e ∈ entities, e.Readable) :
    Xml.Entities.read? (String.ofList (chars (lines dialect interchange.separators entities))) =
      some { declared := entities.map Entity.pair
             referred := entities.map fun e => (["ixDOC", "INTERCHANGE"], e.name) } := by
  have happend : ∀ first second, chars (first ++ second) = chars first ++ chars second :=
    fun _ _ => List.flatMap_append
  have hrun : (between [] {}).run? (chars (lines dialect interchange.separators entities)) =
      some (between [] {
        declared := entities.map Entity.pair
        referred := entities.map fun e => (["ixDOC", "INTERCHANGE"], e.name) }) := by
    simp only [lines, happend, State.run?_append, run?_start, Option.bind_some,
      run?_declareAll _ _ hentities, run?_open _ hdialect, run?_referAll _ _ hentities,
      run?_close _ hdialect, List.nil_append]
  rw [Xml.Entities.read?, String.toList_ofList, hrun]
  rfl

/-- The names of the fragments of an interchange and the lead of its body can be read back. -/
theorem forall_isNameChar :
    ∀ name ∈ interchange.lead :: (interchange.header ++ interchange.trailer),
      ∀ c ∈ name.toList, Xml.isNameChar c = true := by
  have hall : ∀ name ∈ interchange.lead :: (interchange.header ++ interchange.trailer),
      name.toList.all Xml.isNameChar = true := by
    cases dialect with
    | edifact =>
      cases hdialect
      decide
    | x12 =>
      cases hdialect
      decide
    | idoc => cases hdialect
  exact fun name hname => List.all_eq_true.1 (hall name hname)

/-- The entity of a body can be read back. -/
theorem readable_body {root revision document : String} (hroot : '"' ∉ root.toList)
    (hrevision : '"' ∉ revision.toList)
    (hdocument : ∀ c ∈ document.toList, Xml.isNameChar c = true) :
    (body root dialect revision document).Readable := by
  have hquote : '"' ∉ document.toList := fun h => absurd (hdocument '"' h) (by decide)
  have hlead := forall_isNameChar hdialect interchange.lead List.mem_cons_self
  refine ⟨?_, ?_⟩
  · intro c hc
    rw [body, Naming.bodyEntity_of_interchange hdialect, String.toList_append,
      List.mem_append] at hc
    exact hc.elim (hlead c) (hdocument c)
  · simp [body, hroot, Naming.quote_notMem_bodyPath hdialect hrevision hquote]

/-- The entities of an interchange can be read back. -/
theorem readable_of_mem_entities {root revision document : String} (hroot : '"' ∉ root.toList)
    (hrevision : '"' ∉ revision.toList)
    (hdocument : ∀ c ∈ document.toList, Xml.isNameChar c = true) :
    ∀ e ∈ entities dialect interchange root revision document, e.Readable := by
  have hnames : ∀ name ∈ interchange.header ++ interchange.trailer,
      ∀ c ∈ name.toList, Xml.isNameChar c = true :=
    fun name hname => forall_isNameChar hdialect name (List.mem_cons_of_mem _ hname)
  intro e he
  simp only [entities, List.mem_append, List.mem_map, List.mem_singleton] at he
  rcases he with (⟨name, hname, rfl⟩ | rfl) | ⟨name, hname, rfl⟩
  · exact readable_fragment dialect hroot (hnames name (List.mem_append_left _ hname))
  · exact readable_body hdialect hroot hrevision hdocument
  · exact readable_fragment dialect hroot (hnames name (List.mem_append_right _ hname))

end Interchange

/-- A path ends in slashes behind what is left without them. -/
theorem exists_eq_trimSlashes_append (path : String) :
    ∃ slashes, path = trimSlashes path ++ slashes ∧ (∀ c ∈ slashes.toList, c = '/') ∧
      (trimSlashes path).toList.getLast? ≠ some '/' := by
  refine ⟨String.ofList (path.toList.reverse.takeWhile (· == '/')).reverse, ?_, ?_, ?_⟩
  · rw [trimSlashes, ← String.ofList_append, ← List.reverse_append, List.takeWhile_append_dropWhile,
      List.reverse_reverse, String.ofList_toList]
  · intro c hc
    rw [String.toList_ofList, List.mem_reverse] at hc
    simpa using List.mem_takeWhile_imp hc
  · rw [trimSlashes, String.toList_ofList, List.getLast?_reverse]
    intro hhead
    have hnot := List.head?_dropWhile_not (· == '/') path.toList.reverse
    rw [hhead] at hnot
    simp at hnot

end Wrapper

namespace Descriptor

/-- The names of the entities of a wrapper are different unless the message is called like a
fragment of its interchange. -/
theorem nodup_names_iff {dialect : Dialect} {interchange : Interchange}
    (hdialect : dialect.interchange? = some interchange) (document : String) :
    (interchange.header ++ [Naming.bodyEntity dialect document] ++ interchange.trailer).Nodup ↔
      ¬ (dialect = .edifact ∧ document ∈ ["unb", "unz"]) := by
  rw [Naming.bodyEntity_of_interchange hdialect]
  cases dialect with
  | edifact =>
    cases hdialect
    simp [eq_comm]
  | x12 =>
    cases hdialect
    have hlead : ∀ name ∈ ["isa", "gs", "ge", "iea"], "x" ++ document ≠ name := by
      intro name hname h
      have hhead := congrArg (·.toList.head?) h
      simp only [List.mem_cons, List.not_mem_nil, or_false] at hname
      rcases hname with rfl | rfl | rfl | rfl <;> simp at hhead
    simp only [List.forall_mem_cons] at hlead
    simp [hlead, Ne.symm]
  | idoc => cases hdialect

/-- The wrapper of a message is read as the fragments of its interchange with the body between them,
each declared and referred to once in the same order, inside the element of the interchange. The
body has the name that the descriptor gives and the path that comes with it, below the root of
fragments without slashes at its end. The names are different unless the message is called like a
fragment. -/
theorem ofMessage_wraps {dialect : Dialect} {interchange : Interchange}
    (hdialect : dialect.interchange? = some interchange) (options : DescriptorOptions) {m : Message}
    (hne : m.nodes ≠ []) (hrevision : ∀ c ∈ m.revision.toList, c.isAlphanum = true)
    (hdocument : IsPlainCode m.document) (hroot : '"' ∉ options.fragmentRoot.toList) :
    ∃ descriptor body found root slashes,
      ofMessage dialect options m = .ok descriptor ∧ descriptor.body = some body ∧
      Xml.Entities.read? descriptor.content = some found ∧
      found.declared.map Prod.fst =
        interchange.header ++ [descriptor.reference] ++ interchange.trailer ∧
      found.referred =
        found.declared.map (fun entity => (["ixDOC", "INTERCHANGE"], entity.1)) ∧
      options.fragmentRoot = root ++ slashes ∧ (∀ c ∈ slashes.toList, c = '/') ∧
      root.toList.getLast? ≠ some '/' ∧
      found.declared[interchange.header.length]? =
        some (descriptor.reference, root ++ "/" ++ body.path) ∧
      ((found.declared.map Prod.fst).Nodup ↔
        ¬ (dialect = .edifact ∧ m.document ∈ ["unb", "unz"])) := by
  have hempty : m.isEmpty = false := by simpa [Message.isEmpty] using hne
  obtain ⟨slashes, hsplit, hslashes, hlast⟩ :=
    Wrapper.exists_eq_trimSlashes_append options.fragmentRoot
  have hquote : '"' ∉ (Wrapper.trimSlashes options.fragmentRoot).toList := by
    intro h
    rw [hsplit, String.toList_append] at hroot
    exact hroot (List.mem_append_left _ h)
  have hreadable := Wrapper.readable_of_mem_entities hdialect hquote
    (fun h => absurd (hrevision '"' h) (by decide))
    (fun c hc => isNameChar_of_isAlphanum (hdocument.2 c hc))
  have hnames : ((Wrapper.entities dialect interchange (Wrapper.trimSlashes options.fragmentRoot)
      m.revision m.document).map Wrapper.Entity.pair).map Prod.fst =
        interchange.header ++ [Naming.bodyEntity dialect m.document] ++ interchange.trailer := by
    simp [Wrapper.entities, Wrapper.Entity.pair, Wrapper.fragment, Wrapper.body, Function.comp_def]
  refine ⟨delimited dialect interchange options m, _, _, _, slashes, ?_, rfl,
    Wrapper.read?_lines hdialect hreadable, hnames, ?_, hsplit, hslashes, hlast, ?_, ?_⟩
  · simp [ofMessage, hempty, hdialect]
  · simp [Wrapper.Entity.pair]
  · simp [Wrapper.entities, Wrapper.Entity.pair, Wrapper.body, delimited]
  · rw [hnames]
    exact nodup_names_iff hdialect m.document

/-- The entities of a message are read below a root that ends in slashes and has brackets. -/
theorem ofMessage_wraps_brackets :
    let m : Message := {
      standard := "X12"
      revision := "4010"
      document := "850"
      nodes := [.segment { tag := "BEG" }] }
    (∀ c ∈ m.revision.toList, c.isAlphanum = true) ∧ IsPlainCode m.document ∧
    ∃ descriptor found, ofMessage .x12 { fragmentRoot := "[a]/<b>//" } m = .ok descriptor ∧
      Xml.Entities.read? descriptor.content = some found ∧
      found.declared.map Prod.fst = ["isa", "gs", "x850", "ge", "iea"] ∧
      (found.declared.map Prod.fst).Nodup ∧
      found.referred =
        found.declared.map (fun entity => (["ixDOC", "INTERCHANGE"], entity.1)) := by
  intro m
  have hrevision : ∀ c ∈ m.revision.toList, c.isAlphanum = true := List.all_eq_true.1 (by decide)
  have hdocument : IsPlainCode m.document := by decide
  have hne : m.nodes ≠ [] := List.cons_ne_nil _ _
  obtain ⟨descriptor, -, found, -, -, hok, -, hread, hnames, hreferred, -, -, -, -, hnodup⟩ :=
    ofMessage_wraps (rfl : Dialect.interchange? .x12 = _) { fragmentRoot := "[a]/<b>//" } hne
      hrevision hdocument (by decide)
  have hsame : ofMessage .x12 { fragmentRoot := "[a]/<b>//" } m =
    .ok (delimited .x12 _ { fragmentRoot := "[a]/<b>//" } m) := rfl
  obtain rfl := Except.ok.inj (hok.symm.trans hsame)
  exact ⟨hrevision, hdocument, _, found, hok, hread, hnames, hnodup.2 (by decide), hreferred⟩

/-- A message that is called like a fragment has a wrapper in which the name of its body stands for
the fragment first. -/
theorem ofMessage_wraps_fragment_twice :
    let m : Message := {
      standard := "EDIFACT"
      revision := "D97A"
      document := "unb"
      nodes := [.segment { tag := "BGM", requirement := .mandatory }] }
    ∃ descriptor body found, ofMessage .edifact {} m = .ok descriptor ∧
      descriptor.body = some body ∧ Xml.Entities.read? descriptor.content = some found ∧
      found.declared = [("unb", "./../../SFEDI/format/edifact/unb.xml"),
        ("unb", "./../../SFEDI/format/edifact/D97A/UNB.xml"),
        ("unz", "./../../SFEDI/format/edifact/unz.xml")] ∧
      descriptor.reference = "unb" ∧ body.path = "edifact/D97A/UNB.xml" ∧
      ¬ (found.declared.map Prod.fst).Nodup := by
  intro m
  have hreadable : ∀ entity ∈ Wrapper.entities .edifact ⟨⟨"'", "+", ":"⟩, ["unb"], ["unz"], ""⟩
      (Wrapper.trimSlashes ({} : DescriptorOptions).fragmentRoot) m.revision m.document,
      entity.Readable :=
    Wrapper.readable_of_mem_entities rfl (by decide) (by decide) (List.all_eq_true.1 (by decide))
  exact ⟨_, _, _, rfl, rfl, Wrapper.read?_lines rfl hreadable, by decide +kernel, by decide +kernel,
    by decide +kernel, by decide +kernel⟩

end Descriptor

end EdiSchema
