import Mathlib.Data.Nat.Notation
import EdiSchema.Xml.Node

/-!
# The tags of a document

A node is written line by line, each indented by the number of elements that are open there. When
the start and end tags are taken one after the other, every end tag ends the element that was
started last among those still open, and in the end none is open.
-/

namespace EdiSchema.Xml

/-- A line of a document. -/
inductive Line where
  | start (name : String) (attributes : List (String × String))
  | stop (name : String)
  /-- The start tag, the text and the end tag of an element. -/
  | leaf (name : String) (attributes : List (String × String)) (text : String)
  /-- The tag of an element without content, which is neither a start nor an end tag. -/
  | empty (name : String) (attributes : List (String × String))
  | comment (text : String)

/-- A start or an end tag, with the name of its element. -/
inductive Tag where
  | start (name : String)
  | stop (name : String)
  deriving DecidableEq

namespace Line

/-- The start and end tags on a line. -/
def tags : Line → List Tag
  | .start name _ => [.start name]
  | .stop name => [.stop name]
  | .leaf name _ _ => [.start name, .stop name]
  | .empty _ _ => []
  | .comment _ => []

/-- A line without indentation. -/
def chars : Line → List Char
  | .start name attributes => ['<'] ++ tagChars name attributes ++ ['>']
  | .stop name => endTagChars name
  | .leaf name attributes text =>
    ['<'] ++ tagChars name attributes ++ ['>'] ++ text.toList.flatMap escapeInText ++
      endTagChars name
  | .empty name attributes => ['<'] ++ tagChars name attributes ++ ['/', '>']
  | .comment text => "<!--".toList ++ commentChars text ++ "-->".toList

/-- Lines with their indentation, given the number of open elements; an end tag stands below its
start tag. -/
def write : ℕ → List Line → List Char
  | _, [] => []
  | level, line :: rest =>
    match line with
    | .start _ _ => Xml.line level line.chars ++ write (level + 1) rest
    | .stop _ => Xml.line (level - 1) line.chars ++ write (level - 1) rest
    | _ => Xml.line level line.chars ++ write level rest

end Line

mutual
/-- The lines of a node. -/
def lines : Xml → List Line
  | .element name attributes content =>
    .start name attributes :: (allLines content ++ [.stop name])
  | .leaf name attributes text => [.leaf name attributes text]
  | .empty name attributes => [.empty name attributes]
  | .comment text => [.comment text]

/-- The lines of nodes. -/
def allLines : List Xml → List Line
  | [] => []
  | node :: rest => lines node ++ allLines rest
end

/-- The elements that are open after some tags, innermost first, given those open before; nothing
if an end tag does not end the innermost one. -/
def openAfter : List String → List Tag → Option (List String)
  | opened, [] => some opened
  | opened, .start name :: rest => openAfter (name :: opened) rest
  | [], .stop _ :: _ => none
  | innermost :: outer, .stop name :: rest =>
    if innermost = name then openAfter outer rest else none

/-- Whether every end tag ends the innermost open element and no element stays open. -/
def ProperlyNested (tags : List Tag) : Prop :=
  openAfter [] tags = some []

instance (tags : List Tag) : Decidable (ProperlyNested tags) :=
  inferInstanceAs (Decidable (openAfter [] tags = some []))

mutual
/-- A node is written as its lines, whatever lines follow. -/
theorem write_lines_append (level : ℕ) (node : Xml) (rest : List Line) :
    Line.write level (lines node ++ rest) = chars level node ++ Line.write level rest := by
  cases node with
  | element name attributes content =>
    rw [lines, List.cons_append, List.append_assoc, Line.write, write_allLines_append]
    simp [Line.write, Line.chars, chars]
  | leaf name attributes text => rfl
  | empty name attributes => rfl
  | comment text => rfl

/-- Nodes are written as their lines, whatever lines follow. -/
theorem write_allLines_append (level : ℕ) (nodes : List Xml) (rest : List Line) :
    Line.write level (allLines nodes ++ rest) = allChars level nodes ++ Line.write level rest := by
  cases nodes with
  | nil => rfl
  | cons node nodes =>
    rw [allLines, List.append_assoc, write_lines_append, write_allLines_append, allChars,
      List.append_assoc]
end

/-- The text of a node consists of its lines. -/
theorem text_eq_write (node : Xml) : node.text = String.ofList (Line.write 0 node.lines) := by
  have hlines := write_lines_append 0 node []
  rw [List.append_nil] at hlines
  rw [text, hlines, Line.write, List.append_nil]

mutual
/-- Every element of a node is ended before the node is. -/
theorem openAfter_tags_append (opened : List String) (node : Xml) (rest : List Tag) :
    openAfter opened ((lines node).flatMap Line.tags ++ rest) = openAfter opened rest := by
  cases node with
  | element name attributes content =>
    have hcontent := openAfter_allTags_append (name :: opened) content (.stop name :: rest)
    simpa [lines, Line.tags, openAfter] using hcontent
  | leaf name attributes text => simp [lines, Line.tags, openAfter]
  | empty name attributes => rfl
  | comment text => rfl

/-- Every element of some nodes is ended before the last node is. -/
theorem openAfter_allTags_append (opened : List String) (nodes : List Xml) (rest : List Tag) :
    openAfter opened ((allLines nodes).flatMap Line.tags ++ rest) = openAfter opened rest := by
  cases nodes with
  | nil => rfl
  | cons node nodes =>
    rw [allLines, List.flatMap_append, List.append_assoc, openAfter_tags_append,
      openAfter_allTags_append]
end

/-- The tags of a node are properly nested. -/
theorem properlyNested_tags (node : Xml) : ProperlyNested (node.lines.flatMap Line.tags) := by
  have hnode := openAfter_tags_append [] node []
  rwa [List.append_nil] at hnode

end EdiSchema.Xml
