import EdiSchema.Attribute.Position
import EdiSchema.Detail.Payload
import EdiSchema.Skip
import EdiSchema.Text.Lines

/-!
# Segment details

Reading a detail text gives the items of a segment and a record of the lines left out. Levels are
counted from the shallowest recognised line, so a text may be indented as a whole.

Each recognised line has one outcome, which depends on the line itself and on whether the last
line at level zero above it was a composite.
-/

namespace EdiSchema

/-- The items of a segment and the lines of its detail text that were left out. -/
structure Detail where
  items : List Item := []
  skips : List Skip := []
  deriving DecidableEq

namespace Detail

/-- A line of a text with its number, counted from one. -/
structure Numbered (α : Type) where
  number : Nat
  content : α

/-- What becomes of a recognised line. -/
inductive Outcome where
  /-- A composite; its components follow. -/
  | composite (composite : Composite)
  /-- An element of the segment itself. -/
  | element (element : Element)
  /-- An element of the composite above it. -/
  | component (element : Element)
  /-- The line is left out. -/
  | skip (text : String) (reason : SkipReason)

/-- The lines of a text that are not blank, with their numbers. -/
def numberedLines (text : String) : List (Numbered String) :=
  ((Text.lines text.toList).mapIdx fun i line => ⟨i + 1, String.ofList line⟩).filter
    fun line => !Text.isBlankText line.content

/-- The recognised lines with their numbers. -/
def recognised (tabWidth : Nat) (lines : List (Numbered String)) : List (Numbered Line) :=
  lines.filterMap fun line => (Line.ofText? tabWidth line.content).map (⟨line.number, ·⟩)

/-- The lines that are not recognised. -/
def unrecognised (tabWidth : Nat) (lines : List (Numbered String)) : List (Numbered String) :=
  lines.filter fun line => (Line.ofText? tabWidth line.content).isNone

/-- The level of the shallowest line. -/
def baseLevel (lines : List (Numbered Line)) : Nat :=
  ((lines.map (·.content.level)).min?).getD 0

/-- What becomes of a line at a level above the base, given whether it is under a composite. -/
def outcome (underComposite : Bool) (level : Nat) (line : Line) : Outcome :=
  match line.kind with
  | .composite =>
    if level = 0 then .composite (composite line) else .skip line.code .nestedComposite
  | .element =>
    match element? line with
    | none => .skip (line.code ++ " " ++ line.payload) .malformedElement
    | some element =>
      if level = 0 then .element element
      else if underComposite then .component element
      else .skip line.code .orphanElement

/-- Whether the lines after a line are under a composite, given whether the line itself is. -/
def isUnderComposite (underComposite : Bool) (level : Nat) (line : Line) : Bool :=
  if level = 0 then line.kind == .composite else underComposite

/-- What becomes of every line, given whether the first is under a composite. -/
def outcomes (base : Nat) : Bool → List (Numbered Line) → List (Numbered Outcome)
  | _, [] => []
  | under, line :: rest =>
    let level := line.content.level - base
    ⟨line.number, outcome under level line.content⟩ ::
      outcomes base (isUnderComposite under level line.content) rest

/-- The components at the front of a list of outcomes, and the items after them. -/
def gather : List Outcome → List Element × List Item
  | [] => ([], [])
  | .component element :: rest =>
    let (components, items) := gather rest
    (element :: components, items)
  | .composite composite :: rest =>
    let (components, items) := gather rest
    ([], .composite { composite with components := components } :: items)
  | .element element :: rest => ([], .simple element :: (gather rest).2)
  | .skip _ _ :: rest => gather rest

/-- The components of the composite at a position, with their positions. -/
def placeComponents (parent : String) (components : List Element) : List Element :=
  components.mapIdx fun i component => { component with position := Position.component parent i }

/-- An item at a position, with the positions of its components. -/
def placeItem (position : String) : Item → Item
  | .composite c =>
    .composite { c with position, components := placeComponents position c.components }
  | .simple e => .simple { e with position }

/-- Items with their positions. -/
def placeItems (items : List Item) : List Item :=
  items.mapIdx fun i item => placeItem (Position.item ((i + 1) * Position.step)) item

/-- The record of a line that has been left out. -/
def skip? (place : String) (outcome : Numbered Outcome) : Option Skip :=
  match outcome.content with
  | .skip text reason => some ⟨place, outcome.number, Text.trimmed text, reason⟩
  | _ => none

/-- The record of a line that is not recognised. -/
def unrecognisedSkip (place : String) (line : Numbered String) : Skip :=
  ⟨place, line.number, Text.trimmed line.content, .unrecognizedLine⟩

/-- Reads the detail text of the segment with a tag. The lines that are not recognised are
recorded before the others that are left out. -/
def ofText (tabWidth : Nat) (tag text : String) : Detail :=
  let place := "segment " ++ tag
  let lines := numberedLines text
  let known := recognised tabWidth lines
  let results := outcomes (baseLevel known) false known
  { items := placeItems (gather (results.map (·.content))).2
    skips := (unrecognised tabWidth lines).map (unrecognisedSkip place) ++
      results.filterMap (skip? place) }

end Detail

end EdiSchema
