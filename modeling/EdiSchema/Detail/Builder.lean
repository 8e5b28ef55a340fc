import EdiSchema.Detail.Basic

/-!
# Items built line by line

The recognised lines of a detail text are taken one after the other. A composite gets its position
when its line is reached and stays open for the components on the lines below it; the next line at
level zero, or the end of the text, closes it and puts it behind the items before it. A counter has
the number of the next item and is left alone by lines that are left out.
-/

namespace EdiSchema.Detail

/-- Items that are being built. -/
structure Builder where
  /-- The items that are complete. -/
  items : List Item := []
  /-- The composites that are open, innermost first. -/
  opened : List Composite := []
  /-- The number of the next item. It has 32 bits in a text of fewer than 429496729 lines. -/
  number : Nat := Position.step
  skips : List Skip := []

namespace Builder

/-- Closes open composites, innermost first, until at most `count` are open. -/
def closeTo (count : Nat) (builder : Builder) : Builder :=
  let surplus := builder.opened.length - count
  { builder with
    items := builder.items ++ (builder.opened.take surplus).map .composite
    opened := builder.opened.drop surplus }

/-- Records a line that is left out. -/
def leaveOut (place : String) (number : Nat) (text : String) (reason : SkipReason)
    (builder : Builder) : Builder :=
  { builder with skips := builder.skips ++ [⟨place, number, Text.trimmed text, reason⟩] }

/-- Opens a composite with the next number. -/
def openComposite (composite : Composite) (builder : Builder) : Builder :=
  { builder with
    opened := { composite with position := Position.item builder.number } :: builder.opened
    number := builder.number + Position.step }

/-- Adds an element of the segment with the next number. -/
def addElement (element : Element) (builder : Builder) : Builder :=
  { builder with
    items := builder.items ++ [.simple { element with position := Position.item builder.number }]
    number := builder.number + Position.step }

/-- A composite with one more component. -/
def withComponent (parent : Composite) (element : Element) : Composite :=
  let position := Position.component parent.position parent.components.length
  { parent with components := parent.components ++ [{ element with position }] }

/-- Takes one more line, which is at a level above the base. -/
def push (place : String) (level : Nat) (builder : Builder) (line : Numbered Line) : Builder :=
  let closed := builder.closeTo level
  let ⟨number, line⟩ := line
  match line.kind with
  | .composite =>
    if level = 0 then closed.openComposite (composite line)
    else closed.leaveOut place number line.code .nestedComposite
  | .element =>
    match element? line with
    | none => closed.leaveOut place number (line.code ++ " " ++ line.payload) .malformedElement
    | some element =>
      if level = 0 then closed.addElement element
      else match closed.opened with
        | parent :: outer => { closed with opened := withComponent parent element :: outer }
        | [] => closed.leaveOut place number line.code .orphanElement

/-- Closes what is open at the end of a text. -/
def finish (builder : Builder) : Detail where
  items := (builder.closeTo 0).items
  skips := (builder.closeTo 0).skips

end Builder

/-- Builds the items of the segment with a tag from its detail text, line by line. -/
def build (tabWidth : Nat) (tag text : String) : Detail :=
  let place := "segment " ++ tag
  let lines := numberedLines text
  let known := recognised tabWidth lines
  let base := baseLevel known
  let start : Builder := { skips := (unrecognised tabWidth lines).map (unrecognisedSkip place) }
  (known.foldl (fun builder line => builder.push place (line.content.level - base) line)
    start).finish

end EdiSchema.Detail
