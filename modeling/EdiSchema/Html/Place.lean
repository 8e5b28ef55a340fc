import EdiSchema.Html.Node
import EdiSchema.Text.Blank

/-!
# Places in a page

An element of a page together with where it stands: the elements around it and, for each of them
and itself, what comes before it under the same parent. Places are listed in the order in which
the elements start.
-/

namespace EdiSchema.Html

/-- The classes of an element. -/
def Tag.classes (tag : Tag) : List String :=
  match tag.attributes.lookup "class" with
  | some names => (Text.words names.toList).map String.ofList
  | none => []

/-- Whether an element has a class. -/
def Tag.hasClass (tag : Tag) (name : String) : Bool :=
  name ∈ tag.classes

/-- An element and the nodes before it under the same parent, the nearest first. -/
structure Level where
  tag : Tag
  before : List Node

/-- An element in a page, with the elements around it, innermost first. -/
structure Place where
  here : Level
  children : List Node
  above : List Level

mutual
/-- The places of a node and all in it, given the elements around it and the nodes before it. -/
def Node.places (above : List Level) (before : List Node) : Node → List Place
  | .text _ => []
  | .element tag children =>
    ⟨⟨tag, before⟩, children, above⟩ :: Node.allPlaces (⟨tag, before⟩ :: above) [] children

/-- The places of a list of nodes and all in them. -/
def Node.allPlaces (above : List Level) (before : List Node) : List Node → List Place
  | [] => []
  | node :: rest =>
    Node.places above before node ++ Node.allPlaces above (node :: before) rest
end

/-- The places of a whole page. -/
def Node.pagePlaces (page : Node) : List Place :=
  page.places [] []

namespace Place

/-- The name of the element. -/
def name (place : Place) : String := place.here.tag.name

/-- The element and the elements around it, innermost first. -/
def levels (place : Place) : List Level := place.here :: place.above

/-- The places inside an element. -/
def inside (place : Place) : List Place :=
  Node.allPlaces place.levels [] place.children

/-- The text inside an element. -/
def textChars (place : Place) : List Char :=
  Node.allTextChars place.children

end Place

/-- The name and text of the nearest element among some nodes. -/
def nearestElement? : List Node → Option (String × List Char)
  | [] => none
  | .text _ :: rest => nearestElement? rest
  | .element tag children :: _ => some (tag.name, Node.allTextChars children)

end EdiSchema.Html
