/-!
# Page trees

A page as a tree of elements and text. Names of elements and attributes are in lower case;
comments are left out, since nothing is read from them.
-/

namespace EdiSchema.Html

/-- The name of an element and its attributes, each name once. -/
structure Tag where
  name : String
  attributes : List (String × String) := []
  deriving DecidableEq

/-- A node of a page. -/
inductive Node where
  | element (tag : Tag) (children : List Node)
  | text (content : String)

namespace Node

mutual
/-- The text of a node and everything in it. -/
def textChars : Node → List Char
  | .element _ children => allTextChars children
  | .text content => content.toList

/-- The text of a list of nodes. -/
def allTextChars : List Node → List Char
  | [] => []
  | node :: rest => textChars node ++ allTextChars rest
end

end Node

end EdiSchema.Html
