import EdiSchema.Text.Scan

/-!
# XML

The part of XML that descriptors are made of, and how it is written: one element or comment per
line, with two spaces for each level. In attribute values only what would end them or start
markup is escaped, so that separators stay readable.
-/

namespace EdiSchema

/-- A node of an XML document. -/
inductive Xml where
  /-- An element whose tags stand on lines of their own. -/
  | element (name : String) (attributes : List (String × String)) (content : List Xml)
  /-- An element that holds text, on one line. -/
  | leaf (name : String) (attributes : List (String × String)) (text : String)
  /-- An element without content. -/
  | empty (name : String) (attributes : List (String × String))
  | comment (text : String)

namespace Xml

/-- A character as it stands in an attribute value. -/
def escapeInValue (c : Char) : List Char :=
  if c = '&' then "&amp;".toList
  else if c = '<' then "&lt;".toList
  else if c = '"' then "&quot;".toList
  else [c]

/-- A character as it stands in text. -/
def escapeInText (c : Char) : List Char :=
  if c = '>' then "&gt;".toList
  else if c = '\'' then "&apos;".toList
  else escapeInValue c

/-- An attribute in a tag. -/
def attributeChars (pair : String × String) : List Char :=
  [' '] ++ pair.1.toList ++ ['=', '"'] ++ pair.2.toList.flatMap escapeInValue ++ ['"']

/-- The inside of a start tag. -/
def tagChars (name : String) (attributes : List (String × String)) : List Char :=
  name.toList ++ attributes.flatMap attributeChars

/-- An end tag. -/
def endTagChars (name : String) : List Char :=
  ['<', '/'] ++ name.toList ++ ['>']

/-- The inside of a comment; two hyphens in a row would end it. -/
def commentChars (text : String) : List Char :=
  [' '] ++ Text.mergePairs '-' text.toList ++ [' ']

/-- A line at a level. -/
def line (level : Nat) (content : List Char) : List Char :=
  List.replicate (2 * level) ' ' ++ content ++ ['\n']

mutual
/-- A node at a level, as lines. -/
def chars (level : Nat) : Xml → List Char
  | .element name attributes content =>
    line level (['<'] ++ tagChars name attributes ++ ['>']) ++ allChars (level + 1) content ++
      line level (endTagChars name)
  | .leaf name attributes text =>
    line level (['<'] ++ tagChars name attributes ++ ['>'] ++ text.toList.flatMap escapeInText ++
      endTagChars name)
  | .empty name attributes => line level (['<'] ++ tagChars name attributes ++ ['/', '>'])
  | .comment text => line level ("<!--".toList ++ commentChars text ++ "-->".toList)

/-- Nodes at a level, as lines. -/
def allChars (level : Nat) : List Xml → List Char
  | [] => []
  | node :: rest => chars level node ++ allChars level rest
end

/-- The line that declares a document. -/
def declaration : String := "<?xml version=\"1.0\" encoding=\"UTF-8\"?>"

/-- A node as text. -/
def text (node : Xml) : String :=
  String.ofList (chars 0 node)

/-- A node as a document with a declaration. -/
def document (node : Xml) : String :=
  declaration ++ "\n" ++ node.text

end Xml

end EdiSchema
