import EdiSchema.Descriptor.Basic
import EdiSchema.Proofs.Text.Scan

/-!
# Comments of descriptors

A descriptor has a single comment, which gives the name of what is described. In XML no two hyphens
may stand next to each other in a comment, and it may not end in a hyphen.

The blanks around the name keep the hyphens of the name from the end of the comment. Two hyphens in
a row are merged, but in one pass, so two are left of three. Hence the comment is one exactly if the
name has no three hyphens in a row, and the three parts that make up the name of a message may bring
these about together.
-/

namespace EdiSchema

namespace Xml

/-- Whether a text can stand between the marks of a comment. -/
structure IsCommentText (cs : List Char) : Prop where
  not_pair_infix : ¬ ['-', '-'] <:+: cs
  getLast?_ne : cs.getLast? ≠ some '-'

mutual
/-- The texts of the comments in a node. -/
def comments : Xml → List String
  | .element _ _ content => allComments content
  | .leaf _ _ _ => []
  | .empty _ _ => []
  | .comment text => [text]

/-- The texts of the comments in some nodes. -/
def allComments : List Xml → List String
  | [] => []
  | node :: rest => comments node ++ allComments rest
end

theorem allComments_append (nodes others : List Xml) :
    allComments (nodes ++ others) = allComments nodes ++ allComments others := by
  induction nodes with
  | nil => rfl
  | cons node rest ih => rw [List.cons_append, allComments, allComments, ih, List.append_assoc]

/-- There are no comments in nodes of which none has one. -/
theorem allComments_map_eq_nil {α : Type} {toXml : α → Xml} (h : ∀ a, comments (toXml a) = [])
    (as : List α) : allComments (as.map toXml) = [] := by
  induction as with
  | nil => rfl
  | cons a as ih => rw [List.map_cons, allComments, h a, ih]; rfl

/-- A blank ends the inside of a comment. -/
theorem getLast?_commentChars (text : String) : (commentChars text).getLast? = some ' ' := by
  rw [commentChars, List.getLast?_append_of_ne_nil _ (List.cons_ne_nil ' ' [])]
  rfl

/-- Two hyphens are left in a comment exactly if its text has three in a row. -/
theorem pair_infix_commentChars_iff (text : String) :
    ['-', '-'] <:+: commentChars text ↔ ['-', '-', '-'] <:+: text.toList := by
  have hblank : ∀ c ∈ [' '], c ≠ '-' := by simp
  rw [commentChars, Text.pair_infix_append_iff_left hblank, Text.pair_infix_append_iff hblank,
    Text.pair_infix_mergePairs_iff]

/-- What is written for a comment is the inside of one exactly if its text has no three hyphens in
a row. -/
theorem isCommentText_commentChars_iff (text : String) :
    IsCommentText (commentChars text) ↔ ¬ ['-', '-', '-'] <:+: text.toList := by
  rw [← pair_infix_commentChars_iff]
  refine ⟨IsCommentText.not_pair_infix, fun hpair => ⟨hpair, ?_⟩⟩
  rw [getLast?_commentChars]
  decide

/-- Whether the first comment that starts in a document has a text between its marks. -/
def StartsComment (document : String) (cs : List Char) : Prop :=
  ∃ front rest, document.toList = front ++ ("<!--".toList ++ cs ++ "-->".toList) ++ rest ∧
    ¬ "<!".toList <:+: front

end Xml

namespace Body

open Xml

/-- The items of a segment are described without comments. -/
theorem comments_item (separators : Separators) (item : Item) :
    comments (Body.item separators item) = [] := by
  cases item with
  | simple e => rfl
  | composite c =>
    rw [Body.item, composite]
    split
    · rfl
    · exact allComments_map_eq_nil (fun _ => rfl) c.components

variable (separators : Separators) (options : DescriptorOptions)

mutual
/-- An entry of a message is described without comments. -/
theorem comments_node (n : Node) : comments (node separators options n) = [] := by
  cases n with
  | segment s => exact allComments_map_eq_nil (comments_item separators) s.items
  | group g children =>
    rw [node, group]
    split
    · rfl
    · exact comments_nodes children

/-- The entries of a list are described without comments. -/
theorem comments_nodes (ns : List Node) : allComments (nodes separators options ns) = [] := by
  cases ns with
  | nil => rfl
  | cons n rest => rw [nodes, allComments, comments_node n, comments_nodes rest]; rfl
end

/-- The only comment of a body is the name of its message. -/
theorem comments_ofMessage (m : Message) :
    comments (ofMessage separators options m) = [title m] := by
  rw [ofMessage, comments, allComments, comments, comments_nodes, List.append_nil]

/-- A body starts with its comment. -/
theorem startsComment_ofMessage (m : Message) :
    StartsComment (ofMessage separators options m).text (commentChars (title m)) := by
  let front : List Char :=
    "<MESSAGE format=\"none\" max=\"n\" requirement=\"mandatory\">\n  ".toList
  refine ⟨front, '\n' :: (allChars 1 (nodes separators options m.nodes) ++
    line 0 (endTagChars "MESSAGE")), ?_, by decide⟩
  have hstart : line 0 (['<'] ++ tagChars "MESSAGE"
      [("format", "none"), ("max", "n"), ("requirement", "mandatory")] ++ ['>']) ++
        List.replicate 2 ' ' = front := rfl
  rw [← hstart]
  simp [text, ofMessage, chars, allChars, line]

end Body

namespace Idoc

open Xml

mutual
/-- A block is described without comments. -/
theorem comments_toXml (block : Block) : comments block.toXml = [] := by
  cases block with
  | segment tag typeName bound fields =>
    rw [Block.toXml, segmentXml, comments, allComments, allComments_append,
      allComments_map_eq_nil (fun _ => rfl), allComments_map_eq_nil (fun _ => rfl)]
    rfl
  | group name bound blocks => exact comments_allToXml blocks

/-- Blocks are described without comments. -/
theorem comments_allToXml (blocks : List Block) :
    allComments (Block.allToXml blocks) = [] := by
  cases blocks with
  | nil => rfl
  | cons block rest =>
    rw [Block.allToXml, allComments, comments_toXml block, comments_allToXml rest]
    rfl
end

/-- The only comment of a document of records is its title. -/
theorem comments_documentOf (title : String) (blocks : List Block) :
    comments (documentOf title blocks) = [title] := by
  have hcontrol : comments controlRecord = [] := by decide
  simp [documentOf, comments, allComments, hcontrol, comments_allToXml]

/-- A document of records starts with its comment. -/
theorem startsComment_documentOf (title : String) (blocks : List Block) :
    StartsComment (documentOf title blocks).document (commentChars title) := by
  let front : List Char :=
    (declaration ++ "\n<ixDOC format=\"variable\" end=\"\\r\\n or \\n\">\n  ").toList
  let transaction : Xml := .element Dialect.idoc.wrapperName [("format", "none"), ("max", "n")]
    (controlRecord :: Block.allToXml blocks)
  refine ⟨front, '\n' :: (chars 1 transaction ++ line 0 (endTagChars "ixDOC")), ?_,
    by decide +kernel⟩
  have hstart : (declaration ++ "\n").toList ++ (line 0 (['<'] ++ tagChars "ixDOC"
      [("format", "variable"), ("end", "\\r\\n or \\n")] ++ ['>']) ++
        List.replicate 2 ' ') = front := rfl
  rw [← hstart]
  simp [document, text, documentOf, chars, allChars, line, transaction]

end Idoc

namespace Descriptor

open Xml

/-- The text of a descriptor in which the message is described: its body, if it has one. -/
def description (descriptor : Descriptor) : String :=
  descriptor.body.elim descriptor.content Fragment.content

/-- Whether a descriptor is that of a message or record list of a name. -/
inductive IsOf : Descriptor → String → Prop
  | message {dialect : Dialect} {options : DescriptorOptions} {m : Message}
      {descriptor : Descriptor} (hdialect : dialect.isDelimited = true)
      (hok : ofMessage dialect options m = .ok descriptor) : IsOf descriptor (Body.title m)
  | records {document : String} {records : List Idoc.Record} {descriptor : Descriptor}
      (hok : ofRecords document records = .ok descriptor) :
      IsOf descriptor (Naming.reference document)

/-- What is described is written from a single node. -/
theorem IsOf.exists_node {descriptor : Descriptor} {name : String} (hname : IsOf descriptor name) :
    ∃ node : Xml, (descriptor.description = node.text ∨
        descriptor.description = node.document) ∧
      node.comments = [name] ∧ StartsComment descriptor.description (commentChars name) := by
  cases hname with
  | @message dialect options m _ hdialect hok =>
    obtain ⟨interchange, hinterchange⟩ := Option.isSome_iff_exists.1 hdialect
    unfold ofMessage at hok
    split at hok
    · cases hok
    · rw [hinterchange] at hok
      obtain rfl := Except.ok.inj hok
      exact ⟨_, .inl rfl, Body.comments_ofMessage interchange.separators options m,
        Body.startsComment_ofMessage interchange.separators options m⟩
  | @records document records _ hok =>
    unfold ofRecords at hok
    split at hok
    · cases hok
    · split at hok
      · next blocks _ =>
        obtain rfl := Except.ok.inj hok
        exact ⟨_, .inr rfl, Idoc.comments_documentOf _ blocks,
          Idoc.startsComment_documentOf _ blocks⟩
      · cases hok

/-- A descriptor has a single comment, with the name of what is described between blanks. It never
ends in a hyphen, and two hyphens stand next to each other in it exactly if three do in the name, so
it is a comment exactly if the name has no three in a row. -/
theorem comment_of_isOf {descriptor : Descriptor} {name : String}
    (hname : IsOf descriptor name) :
    (∃ node : Xml, (descriptor.description = node.text ∨
        descriptor.description = node.document) ∧ node.comments = [name]) ∧
    StartsComment descriptor.description (commentChars name) ∧
    (commentChars name).getLast? ≠ some '-' ∧
    (['-', '-'] <:+: commentChars name ↔ ['-', '-', '-'] <:+: name.toList) ∧
    (IsCommentText (commentChars name) ↔ ¬ ['-', '-', '-'] <:+: name.toList) := by
  obtain ⟨node, hnode, hcomments, hstarts⟩ := hname.exists_node
  refine ⟨⟨node, hnode, hcomments⟩, hstarts, ?_, pair_infix_commentChars_iff name,
    isCommentText_commentChars_iff name⟩
  rw [getLast?_commentChars]
  decide

/-- A message without a revision has two hyphens in a row in its name, which are merged. -/
theorem comment_of_isOf_without_revision :
    let m : Message := ⟨"EDIFACT", "", "ORDERS", [.segment { tag := "BGM" }]⟩
    ∃ descriptor, ofMessage .x12 {} m = .ok descriptor ∧
      IsOf descriptor (Body.title m) ∧
      StartsComment descriptor.description " EDIFACT-ORDERS ".toList ∧
      IsCommentText " EDIFACT-ORDERS ".toList := by
  intro m
  have hok : ofMessage .x12 {} m = .ok (delimited .x12 _ {} m) := rfl
  have hname : IsOf (delimited .x12 _ {} m) (Body.title m) := .message rfl hok
  have htext : commentChars (Body.title m) = " EDIFACT-ORDERS ".toList := by decide
  obtain ⟨-, hstarts, -, -, hiff⟩ := comment_of_isOf hname
  rw [htext] at hstarts hiff
  exact ⟨_, rfl, hname, hstarts, hiff.2 (by decide)⟩

/-- With a hyphen for a revision two hyphens are left in the comment. -/
theorem comment_keeps_hyphens :
    let m : Message := ⟨"EDIFACT", "-", "ORDERS", [.segment { tag := "BGM" }]⟩
    ∃ descriptor, ofMessage .edifact {} m = .ok descriptor ∧
      StartsComment descriptor.description " EDIFACT--ORDERS ".toList ∧
      ¬ IsCommentText " EDIFACT--ORDERS ".toList := by
  intro m
  have htext : commentChars (Body.title m) = " EDIFACT--ORDERS ".toList := by decide
  refine ⟨delimited .edifact _ {} m, rfl, ?_, fun h => h.not_pair_infix (by decide)⟩
  rw [← htext]
  exact Body.startsComment_ofMessage _ {} m

end Descriptor

end EdiSchema
