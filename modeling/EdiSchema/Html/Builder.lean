import EdiSchema.Html.Node
import EdiSchema.Html.Vocabulary

/-!
# Pages under construction

A page is built from its tags with the elements that are still open, innermost first. Each holds
the children it has so far; closing it puts it among the children of the one below.

What stands in a table but does not belong there is put in front of the table. An open element of
that sort is marked, and goes to its place when it is closed. An element that is no longer open
although elements inside it are stays on as a hidden one, and is closed with the last of them.

Formatting that is cut short, say by the end of a paragraph, is opened again when text follows.
The list of formatting elements says which, the last opened first.
-/

namespace EdiSchema.Html

/-- An open element, its children in reverse. -/
structure Frame where
  id : Nat
  tag : Tag
  children : List Node := []
  /-- Whether the element goes in front of the table around it. -/
  beforeTable : Bool := false
  /-- Whether the element is only kept for the open elements inside it. -/
  hidden : Bool := false

namespace Frame

/-- The name of the element. -/
def name (frame : Frame) : String := frame.tag.name

/-- The element, closed. -/
def node (frame : Frame) : Node := .element frame.tag frame.children.reverse

/-- The element with one more child. -/
def add (frame : Frame) (child : Node) : Frame :=
  { frame with children := child :: frame.children }

/-- Whether the element is open under one of some names. -/
def isOneOf (frame : Frame) (names : List String) : Bool :=
  !frame.hidden && frame.name ∈ names

end Frame

/-- An element of the list of formatting elements, or a border that formatting does not cross. -/
inductive Formatting where
  | border
  | element (id : Nat) (tag : Tag)
  deriving DecidableEq

/-- What part of a page is being built. -/
inductive Mode where
  | initial
  | beforeHtml
  | beforeHead
  | inHead
  | afterHead
  | inBody
  /-- In an element whose content is text; the mode outside it. -/
  | text (outer : Mode)
  | inTable
  | inCaption
  | inColumns
  | inSection
  | inRow
  | inCell
  | inSelect
  | inSelectInTable
  | afterBody
  | afterHtml
  /-- In a set of frames, which a page may have in place of a body. -/
  | inFrameset
  | afterFrameset
  /-- After the root element of a page with a set of frames. -/
  | afterFrames
  deriving DecidableEq

/-- A page under construction. -/
structure Builder where
  mode : Mode := .initial
  frames : List Frame := []
  formatting : List Formatting := []
  nextId : Nat := 0
  /-- The form that is open. -/
  form : Option Nat := none
  /-- Whether a line feed at the start of the next text is dropped. -/
  dropsLineFeed : Bool := false
  /-- Whether the page is laid out by older rules. -/
  isOdd : Bool := false
  /-- Whether content inside a table goes in front of it. -/
  evicts : Bool := false
  /-- Whether the body has nothing yet that keeps it from giving way to a set of frames. -/
  mayHaveFrames : Bool := true

/-- Puts a node in front of the innermost table. -/
def addBeforeTable (node : Node) : List Frame → List Frame
  | [] => []
  | [frame] => [frame.add node]
  | frame :: below :: rest =>
    if frame.isOneOf ["table"] then frame :: below.add node :: rest
    else frame :: addBeforeTable node (below :: rest)

/-- Closes the innermost element, unless it is the only one. -/
def closeFrame : List Frame → List Frame
  | frame :: below :: rest =>
    if frame.beforeTable then addBeforeTable frame.node (below :: rest)
    else below.add frame.node :: rest
  | frames => frames

/-- Closes a number of elements. -/
def closeFrames : Nat → List Frame → List Frame
  | 0, frames => frames
  | n + 1, frames => closeFrames n (closeFrame frames)

/-- Closes the hidden elements inside which nothing is open. -/
def closeHidden (frames : List Frame) : List Frame :=
  closeFrames (frames.takeWhile (·.hidden)).length frames

/-- Whether one of some elements is open inside all elements where the search ends. -/
def isOpenWithin (stops targets : List String) : List Frame → Bool
  | [] => false
  | frame :: rest =>
    frame.isOneOf targets || (!frame.isOneOf stops && isOpenWithin stops targets rest)

/-- Gives the elements that pass a test the attributes that they lack. -/
def addAttributes (test : Frame → List Frame → Bool) (attributes : List (String × String)) :
    List Frame → List Frame
  | [] => []
  | frame :: rest =>
    let missing := attributes.filter fun a => (frame.tag.attributes.lookup a.1).isNone
    let full := { frame.tag with attributes := frame.tag.attributes ++ missing }
    (if test frame rest then { frame with tag := full } else frame) ::
      addAttributes test attributes rest

namespace Builder

/-- The name of the innermost open element. -/
def current (b : Builder) : String :=
  (b.frames.head?.map Frame.name).getD ""

/-- The page in another mode. -/
def inMode (mode : Mode) (b : Builder) : Builder :=
  { b with mode }

/-- The page with a body that has to stay. -/
def keepBody (b : Builder) : Builder :=
  { b with mayHaveFrames := false }

/-- Whether content goes in front of the table now. -/
def evictsHere (b : Builder) (frames : List Frame) : Bool :=
  b.evicts && frames.head?.any fun frame => frame.name ∈ tableFrameNames

/-- Adds a node where content goes. -/
def add (node : Node) (b : Builder) : Builder :=
  { b with frames :=
      if b.evictsHere b.frames then addBeforeTable node b.frames
      else match b.frames with
        | [] => []
        | frame :: rest => frame.add node :: rest }

/-- Adds text, unless there is none. -/
def addText (content : List Char) (b : Builder) : Builder :=
  if content.isEmpty then b else b.add (.text (String.ofList content))

/-- Opens an element where content goes. -/
def push (tag : Tag) (b : Builder) : Builder :=
  { b with
    frames := { id := b.nextId, tag, beforeTable := b.evictsHere b.frames } :: b.frames
    nextId := b.nextId + 1 }

/-- Opens an element without attributes. -/
def pushName (name : String) (b : Builder) : Builder :=
  b.push ⟨name, []⟩

/-- Adds an element that has no content. -/
def addEmpty (tag : Tag) (b : Builder) : Builder :=
  b.add (.element tag [])

/-- Closes a number of elements. -/
def close (n : Nat) (b : Builder) : Builder :=
  { b with frames := closeHidden (closeFrames n b.frames) }

/-- Closes the innermost element. -/
def pop (b : Builder) : Builder :=
  b.close 1

/-- Closes elements up to and with the innermost one that passes a test. -/
def popThrough (test : Frame → Bool) (b : Builder) : Builder :=
  b.close ((b.frames.takeWhile fun frame => !test frame).length + 1)

/-- Closes elements up to and with the innermost one of some names. -/
def popThroughNames (names : List String) (b : Builder) : Builder :=
  b.popThrough fun frame => frame.isOneOf names

/-- Closes elements down to the innermost one of some names. -/
def popTo (names : List String) (b : Builder) : Builder :=
  b.close (b.frames.takeWhile fun frame => !frame.isOneOf names).length

/-- Closes the elements at the top whose end tag may be left out, but for one name. -/
def closeImplied (but : String) (b : Builder) : Builder :=
  b.close (b.frames.takeWhile fun frame =>
    frame.hidden || (frame.name ∈ impliedEndNames && frame.name != but)).length

/-- Whether an element is open inside the usual limits. -/
def isOpen (targets : List String) (b : Builder) : Bool :=
  isOpenWithin scopeNames targets b.frames

/-- Whether a part of a table is open in the innermost table. -/
def isOpenInTable (targets : List String) (b : Builder) : Bool :=
  isOpenWithin tableScopeNames targets b.frames

/-- Whether a paragraph is open. -/
def isParagraphOpen (b : Builder) : Bool :=
  isOpenWithin paragraphScopeNames ["p"] b.frames

/-- Closes the open paragraph, if there is one. -/
def closeParagraph (b : Builder) : Builder :=
  if b.isParagraphOpen then (b.closeImplied "p").popThroughNames ["p"] else b

/-- Closes an open element of the names, with all inside it that may be left unclosed. -/
def closeElement (names : List String) (b : Builder) : Builder :=
  if b.isOpen names then (b.closeImplied "").popThroughNames names else b

/-- Closes elements for an end tag without rules of its own: the innermost element of the name,
unless a special element is inside it. -/
def closeNamed (name : String) (b : Builder) : Builder :=
  match b.frames.find? fun frame =>
      !frame.hidden && (frame.name == name || frame.name ∈ specialNames) with
  | some frame =>
    if frame.name = name then (b.closeImplied name).popThrough fun other => other.id == frame.id
    else b
  | none => b

/-- Closes the list item, or the term or description, that one of some names would end. -/
def closeItem (names : List String) (b : Builder) : Builder :=
  let test (frame : Frame) : Bool := !frame.hidden && (frame.name ∈ names ||
    (frame.name ∈ specialNames && !(frame.name ∈ ["address", "div", "p"])))
  match b.frames.find? test with
  | some frame =>
    if frame.name ∈ names then
      (b.closeImplied frame.name).popThrough fun other => other.id == frame.id
    else b
  | none => b

/-- Hides an open element. -/
def hide (id : Nat) (b : Builder) : Builder :=
  { b with frames := closeHidden (b.frames.map fun frame =>
      if frame.id = id then { frame with hidden := true } else frame) }

/-- Gives the outermost element the attributes that it lacks. -/
def addRootAttributes (attributes : List (String × String)) (b : Builder) : Builder :=
  let frames := addAttributes (fun _ below => below.isEmpty) attributes b.frames
  { b with frames }

/-- Gives the body the attributes that it lacks. -/
def addBodyAttributes (attributes : List (String × String)) (b : Builder) : Builder :=
  let isBody (frame : Frame) (below : List Frame) := frame.name == "body" && below.length == 1
  { b with frames := addAttributes isBody attributes b.frames }

/-- The mode that fits the innermost open element of a table, selection or body. -/
def modeOf : List Frame → Mode
  | [] => .inBody
  | frame :: rest =>
    if frame.hidden then modeOf rest
    else match frame.name with
      | "select" => if rest.any fun f => f.isOneOf ["table"] then .inSelectInTable else .inSelect
      | "td" => .inCell
      | "th" => .inCell
      | "tr" => .inRow
      | "tbody" => .inSection
      | "tfoot" => .inSection
      | "thead" => .inSection
      | "caption" => .inCaption
      | "colgroup" => .inColumns
      | "table" => .inTable
      | "head" => .inHead
      | "body" => .inBody
      | "frameset" => .inFrameset
      | "html" => .afterHead
      | _ => modeOf rest

/-- The page in the mode that fits its open elements. -/
def resetMode (b : Builder) : Builder :=
  b.inMode (modeOf b.frames)

/-- The whole page, with all its elements closed. -/
def finish (b : Builder) : Node :=
  match closeFrames b.frames.length b.frames with
  | frame :: _ => frame.node
  | [] => .element ⟨"html", []⟩ []

end Builder

end EdiSchema.Html
