import EdiSchema.Html.Builder

/-!
# Formatting across elements

Formatting such as bold text may be closed while elements inside it are still open, and may be
cut short by the end of an element around it. In both cases it is split: the part so far is
closed, and an equal element is opened for the rest.
-/

namespace EdiSchema.Html.Builder

/-- Whether two tags have the same name and the same attributes in some order. -/
def sameTag (a b : Tag) : Bool :=
  a.name == b.name && a.attributes.length == b.attributes.length &&
    a.attributes.all fun pair => b.attributes.lookup pair.1 == some pair.2

/-- Whether an element with a number is open. -/
def hasOpen (id : Nat) (b : Builder) : Bool :=
  b.frames.any fun frame => frame.id == id && !frame.hidden

/-- Whether an entry of the list is formatting that is not open. -/
def isClosed (b : Builder) : Formatting → Bool
  | .border => false
  | .element id _ => !b.hasOpen id

/-- Opens an element of the list of formatting elements again. -/
def reopen (b : Builder) : Formatting → Builder
  | .border => b
  | .element _ tag =>
    let entry := Formatting.element b.nextId tag
    let opened := b.push tag
    { opened with formatting := entry :: opened.formatting }

/-- Opens the formatting again that was cut short. -/
def reopenFormatting (b : Builder) : Builder :=
  let (closed, older) := b.formatting.span b.isClosed
  closed.reverse.foldl reopen { b with formatting := older }

/-- The list without the oldest of three elements of a tag behind the last border. -/
def limitEqual (tag : Tag) (entries : List Formatting) : List Formatting :=
  let isEqual : Formatting → Bool
    | .element _ other => sameTag tag other
    | .border => false
  let (recent, older) := entries.span (· != .border)
  if 3 ≤ recent.countP isEqual then
    let (before, after) := recent.reverse.span fun entry => !isEqual entry
    (before ++ after.tail).reverse ++ older
  else entries

/-- Opens a formatting element. -/
def pushFormatting (tag : Tag) (b : Builder) : Builder :=
  let entry := Formatting.element b.nextId tag
  let opened := b.push tag
  { opened with formatting := entry :: limitEqual tag opened.formatting }

/-- Opens an element that keeps its formatting to itself. -/
def pushBorder (b : Builder) : Builder :=
  { b with formatting := .border :: b.formatting }

/-- Forgets the formatting inside the last border. -/
def dropFormatting (b : Builder) : Builder :=
  { b with formatting := (b.formatting.dropWhile (· != .border)).tail }

/-- Forgets one formatting element. -/
def forget (id : Nat) (b : Builder) : Builder :=
  { b with formatting := b.formatting.filter fun
      | .element other _ => other != id
      | .border => true }

/-- The last formatting element of a name behind the last border. -/
def findFormatting? (name : String) (b : Builder) : Option (Nat × Tag) :=
  (b.formatting.takeWhile (· != .border)).findSome? fun
    | .element id tag => if tag.name = name then some (id, tag) else none
    | .border => none

/-- The list of formatting elements with an entry replaced by others. -/
def replaceEntry (id : Nat) (entries : List Formatting) (list : List Formatting) :
    List Formatting :=
  list.flatMap fun
    | .element other tag => if other = id then entries else [.element other tag]
    | .border => [.border]

/-- Elements between the two ends of a split, as far as they have been gone through: the
elements opened anew, innermost first, the list of formatting elements, the next number, and the
first element opened anew. -/
structure Split where
  opened : List Frame := []
  formatting : List Formatting
  nextId : Nat
  first : Option Nat := none

/-- Goes through one element between the two ends. Only the three innermost formatting elements
are opened anew. -/
def Split.step (split : Split) (frame : Frame) (index : Nat) : Split :=
  let listed := split.formatting.any fun
    | .element id _ => id == frame.id
    | .border => false
  if !listed then split
  else if 3 ≤ index then { split with formatting := replaceEntry frame.id [] split.formatting }
  else {
    opened := split.opened ++ [{ id := split.nextId, tag := frame.tag }]
    formatting := replaceEntry frame.id [.element split.nextId frame.tag] split.formatting
    nextId := split.nextId + 1
    first := split.first.or (some split.nextId) }

/-- Goes through the elements between the two ends, from the inside. -/
def Split.steps (split : Split) : Nat → List Frame → Split
  | _, [] => split
  | index, frame :: rest => (split.step frame index).steps (index + 1) rest

/-- The elements with the outermost one going in front of the table, or not. -/
def markLast (beforeTable : Bool) : List Frame → List Frame
  | [] => []
  | [frame] => [{ frame with beforeTable }]
  | frame :: rest => frame :: markLast beforeTable rest

/-- Splits an open formatting element at the outermost special element inside it. The elements
inside that one are `inside`, those between the two `between`, and those around the formatting
element `around`, each innermost first. -/
def splitAt (inside : List Frame) (block : Frame) (between : List Frame) (cut : Frame)
    (around : List Frame) (b : Builder) : Builder :=
  let split := Split.steps ⟨[], b.formatting, b.nextId, none⟩ 0 between
  let rest : Frame := { id := split.nextId, tag := cut.tag, children := block.children }
  let entry := Formatting.element rest.id rest.tag
  let formatting := match split.first with
    | none => replaceEntry cut.id [entry] split.formatting
    | some first => replaceEntry cut.id [] (split.formatting.flatMap fun e => match e with
      | .element id tag => if id = first then [entry, .element id tag] else [.element id tag]
      | .border => [.border])
  let closed := closeFrames (between.length + 1) (between ++ cut :: around)
  let kept := { block with children := [], beforeTable := false } :: split.opened
  { b with
    frames := inside ++ rest :: markLast (b.evictsHere closed) kept ++ closed
    formatting
    nextId := split.nextId + 1 }

/-- One step of ending the formatting of a name, and whether another is to follow. -/
def endFormattingOnce (name : String) (b : Builder) : Builder × Bool :=
  match b.findFormatting? name with
  | none => (b.closeNamed name, false)
  | some (id, _) =>
    if !b.hasOpen id then (b.forget id, false)
    else
      let (within, rest) := b.frames.span fun frame => frame.id != id
      match rest with
      | [] => (b, false)
      | cut :: around =>
        if within.any fun frame => frame.isOneOf scopeNames then (b, false)
        else
          let isSpecial (frame : Frame) : Bool := !frame.hidden && frame.name ∈ specialNames
          let (between, outer) := within.reverse.span fun frame => !isSpecial frame
          match outer with
          | [] => ((b.popThrough fun frame => frame.id == id).forget id, false)
          | block :: inside => (b.splitAt inside.reverse block between.reverse cut around, true)

/-- Ends the formatting of a name, in a number of steps at most. -/
def endFormattingIn (name : String) : Nat → Builder → Builder
  | 0, b => b
  | n + 1, b =>
    let (next, more) := b.endFormattingOnce name
    if more then endFormattingIn name n next else next

/-- Ends the formatting of a name. -/
def endFormatting (name : String) (b : Builder) : Builder :=
  let isListed := b.formatting.any fun
    | .element id _ => b.frames.head?.any fun frame => frame.id == id
    | .border => false
  if b.current = name ∧ !isListed then b.pop else endFormattingIn name 8 b

end EdiSchema.Html.Builder
