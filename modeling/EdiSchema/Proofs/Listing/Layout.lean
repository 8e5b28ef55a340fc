import Mathlib.Data.Nat.Notation
import EdiSchema.Attribute.Position
import EdiSchema.Listing.Entry
import EdiSchema.Structure.Basic

/-!
# The layout of a directory page

A directory page has one box for each segment and each group of a message. The box of a segment has
a deep heading with a link, a mark of how often the segment occurs, and a paragraph. The box of a
group has a plain heading with the code and a mark; it is followed by a heading with the code alone
and a region in which the children of the group are laid out.

The types admit what can be laid out and nothing else. Between elements there are blank texts, which
depend on the level as indentation does.
-/

namespace EdiSchema.Listing.Layout

/-- A blank text between two elements. -/
structure Gap where
  text : String
  isBlank_text : ∀ c ∈ text.toList, Text.isBlank c = true

/-- The nodes of a text; a page has no node for an empty one. -/
def textNodes (text : String) : List Html.Node :=
  if text = "" then [] else [.text text]

/-- A text in which words are separated by single spaces. -/
def IsCollapsed (text : String) : Prop :=
  Text.collapse text.toList = text.toList

/-- A segment of a message. -/
structure SegmentBox where
  tag : String
  requirement : Requirement
  count : UInt32
  description : String
  isSegmentTag_tag : isSegmentTag tag.toList = true
  isCollapsed_description : IsCollapsed description
  /-- The description does not look like the mark of a mandatory segment. -/
  mark_not_infix : ¬ ['M', '('] <:+: description.toList

/-- A group of a message, without its children. -/
structure GroupBox where
  digits : String
  count : UInt32
  description : String
  digits_ne_empty : digits ≠ ""
  isDigit_digits : ∀ c ∈ digits.toList, c.isDigit = true
  isCollapsed_description : IsCollapsed description

/-- The code of a group. -/
def GroupBox.code (box : GroupBox) : String :=
  "SG" ++ box.digits

/-- An entry of a message with everything in it. -/
inductive Outline where
  | segment (box : SegmentBox)
  | group (box : GroupBox) (children : List Outline)

section Markup

/-- A mark of how often an entry occurs. -/
def mark (flag : Char) (count : UInt32) : List Char :=
  [flag, '('] ++ (Text.decimal count.toNat).toList ++ [')']

/-- The flag of a requirement in a mark. -/
def flag : Requirement → Char
  | .mandatory => 'M'
  | .conditional => 'C'

/-- The tag of a box. -/
def boxTag : Html.Tag := ⟨"div", [("class", "isotope-container")]⟩

/-- The tag of the region of a group. -/
def regionTag : Html.Tag := ⟨"div", [("class", "collapse")]⟩

/-- The link that names a segment. -/
def link (tag : String) : Html.Node :=
  .element ⟨"a", [("href", "../segment/" ++ tag ++ ".html")]⟩ [.text tag]

variable (gap : ℕ → Gap)

/-- The blank text in front of an element at a level. -/
def gapNodes (level : ℕ) : List Html.Node :=
  textNodes (gap level).text

/-- What stands in the box of a segment. -/
def SegmentBox.content (box : SegmentBox) (level : ℕ) : List Html.Node :=
  gapNodes gap (level + 1) ++ [.element ⟨"h3", [("class", "deep")]⟩ [link box.tag]] ++
    gapNodes gap (level + 1) ++ [.element ⟨"span", [("class", "occurs")]⟩
      [.text (String.ofList (mark (flag box.requirement) box.count))]] ++
    gapNodes gap (level + 1) ++ [.element ⟨"p", []⟩ (textNodes box.description)] ++
    gapNodes gap level

/-- The heading in the box of a group. -/
def GroupBox.heading (box : GroupBox) : String :=
  String.ofList (box.code.toList ++ [' '] ++ mark 'C' box.count)

/-- What stands in the box of a group. -/
def GroupBox.content (box : GroupBox) (level : ℕ) : List Html.Node :=
  gapNodes gap (level + 1) ++ [.element ⟨"h3", []⟩ [.text box.heading]] ++
    gapNodes gap (level + 1) ++ [.element ⟨"p", []⟩ (textNodes box.description)] ++
    gapNodes gap level

mutual
/-- An entry at a level: its box, and for a group the heading and the region of its children. -/
def Outline.markup (level : ℕ) : Outline → List Html.Node
  | .segment box => gapNodes gap level ++ [.element boxTag (box.content gap level)]
  | .group box children =>
    gapNodes gap level ++ [.element boxTag (box.content gap level)] ++
      gapNodes gap level ++ [.element ⟨"h3", []⟩ [.text box.code]] ++
      gapNodes gap level ++ [.element regionTag
        (allMarkup (level + 1) children ++ gapNodes gap level)]

/-- The entries of a list at a level. -/
def Outline.allMarkup (level : ℕ) : List Outline → List Html.Node
  | [] => []
  | outline :: rest => Outline.markup level outline ++ allMarkup level rest
end

/-- The page of a message with a title. -/
def page (title : String) (outlines : List Outline) : Html.Node :=
  .element ⟨"html", []⟩ [
    .element ⟨"head", []⟩ [.element ⟨"title", []⟩ (textNodes title)],
    .element ⟨"body", []⟩
      (gapNodes gap 0 ++ [.element ⟨"div", [("class", "message-structure")]⟩
        (Outline.allMarkup gap 1 outlines ++ gapNodes gap 0)] ++ gapNodes gap 0)]

end Markup

section Message

mutual
/-- The number of boxes of an entry. -/
def Outline.size : Outline → ℕ
  | .segment _ => 1
  | .group _ children => 1 + sizeAll children

/-- The number of boxes of the entries of a list. -/
def Outline.sizeAll : List Outline → ℕ
  | [] => 0
  | outline :: rest => outline.size + sizeAll rest
end

mutual
/-- The codes of the groups of an entry, in the order in which their boxes start. -/
def Outline.codes : Outline → List String
  | .segment _ => []
  | .group box children => box.code :: allCodes children

/-- The codes of the groups of a list of entries, in the order in which their boxes start. -/
def Outline.allCodes : List Outline → List String
  | [] => []
  | outline :: rest => outline.codes ++ allCodes rest
end

/-- The segment of a box with a number. -/
def SegmentBox.segment (box : SegmentBox) (index : ℕ) (items : List Item) : Segment where
  minOccurs := box.requirement.minOccurs
  maxOccurs := .bounded box.count
  position := Position.listing index
  tag := box.tag
  name := box.tag
  description := box.description
  requirement := box.requirement
  items := items

/-- The group of a box with a number. -/
def GroupBox.group (box : GroupBox) (index : ℕ) : Group where
  maxOccurs := some (.bounded box.count)
  position := Position.listing index
  code := box.code
  name := box.code
  description := box.description

/-- The marker of a box with a number, in the group around it. -/
def SegmentBox.marker (box : SegmentBox) (index : ℕ) (site : Option String) : SegmentMarker :=
  ⟨box.tag, box.description, box.requirement, .bounded box.count, index, site⟩

/-- The marker of a box with a number. -/
def GroupBox.marker (box : GroupBox) (index : ℕ) : GroupMarker :=
  ⟨box.code, .bounded box.count, box.description, index⟩

mutual
/-- The entries of a listing for an entry of a message, given the number of its box and the group
around it. -/
def Outline.entries (index : ℕ) (site : Option String) : Outline → List Entry
  | .segment box => [.segment (box.marker index site)]
  | .group box children =>
    .group (box.marker index) site :: allEntries (index + 1) (some box.code) children

/-- The entries of a listing for the entries of a list. -/
def Outline.allEntries (index : ℕ) (site : Option String) : List Outline → List Entry
  | [] => []
  | outline :: rest =>
    Outline.entries index site outline ++ allEntries (index + outline.size) site rest
end

variable (items : String → List Item)

mutual
/-- The entry that is meant, given the number of its box and the items of each segment. -/
def Outline.node (index : ℕ) : Outline → Node
  | .segment box => .segment (box.segment index (items box.tag))
  | .group box children => .group (box.group index) (nodes (index + 1) children)

/-- The entries that are meant, numbered in the order in which their boxes start. -/
def Outline.nodes (index : ℕ) : List Outline → List Node
  | [] => []
  | outline :: rest => Outline.node index outline :: nodes (index + outline.size) rest
end

end Message

end EdiSchema.Listing.Layout
