import EdiSchema.Html.Place
import EdiSchema.Listing.Marker
import EdiSchema.Skip
import EdiSchema.Text.Count
import EdiSchema.Text.Digit
import EdiSchema.Text.Scan

/-!
# Entries of a directory page

Each entry of a directory page is a box with a heading. A group is named in the heading by its
code; a segment is named by a link in a deep heading, and says outside its headings how often it
occurs, as in `M(1)`. Paragraphs hold the description.

An entry belongs to a group when it lies in a collapsible region whose heading, just before it,
names that group.
-/

namespace EdiSchema.Listing

open Html

/-- What an entry says. -/
inductive Entry where
  /-- A group, and the group around it. -/
  | group (marker : GroupMarker) (parent : Option String)
  | segment (marker : SegmentMarker)
  | skip (skip : Skip)

/-- The digits of a group code at the front of a text. -/
def codeDigits? : List Char → Option (List Char)
  | 'S' :: 'G' :: rest =>
    let digits := rest.takeWhile Text.isDigit
    if digits.isEmpty then none else some digits
  | _ => none

/-- The first group code in a text. -/
def groupCode? (cs : List Char) : Option String :=
  (Text.findSuffix? codeDigits? cs).map fun digits => String.ofList ('S' :: 'G' :: digits)

/-- The flag and digits of an occurrence annotation at the front of a text. -/
def annotation? (flags : List Char) : List Char → Option (Char × List Char)
  | flag :: '(' :: rest =>
    let (digits, after) := rest.span Text.isDigit
    if flag ∈ flags ∧ digits ≠ [] ∧ after.head? = some ')' then some (flag, digits) else none
  | _ => none

/-- The bound in an occurrence annotation; digits that are no 32-bit count mean one. -/
def boundOf (digits : List Char) : MaxOccurs :=
  match Text.readCount32 digits with
  | .ok count => .bounded count
  | .error _ => .one

/-- The text of some places one after the other, without blanks around it. -/
def joinedText (places : List Place) : List Char :=
  Text.trim (places.flatMap Place.textChars)

/-- The text of the headings of an entry. -/
def titleOf (entry : Place) : List Char :=
  joinedText (entry.inside.filter fun place => place.name == "h3")

/-- The description of an entry. -/
def descriptionOf (entry : Place) : String :=
  String.ofList (Text.collapse (joinedText (entry.inside.filter fun place => place.name == "p")))

/-- Whether an element is a link in a deep heading. -/
def isSegmentLink (place : Place) : Bool :=
  place.name == "a" &&
    place.above.any fun level => level.tag.name == "h3" && level.tag.hasClass "deep"

/-- The text of the segment links of an entry. -/
def tagOf (entry : Place) : List Char :=
  Text.collapse (joinedText (entry.inside.filter isSegmentLink))

/-- The group that an entry lies in. -/
def enclosingGroup? (entry : Place) : Option String := do
  let region ← entry.levels.find? fun level => level.tag.hasClass "collapse"
  let (name, heading) ← nearestElement? region.before
  if name = "h3" then groupCode? heading else none

/-- Whether a text is three capital letters. -/
def isSegmentTag (cs : List Char) : Bool :=
  cs.length == 3 && cs.all Char.isUpper

/-- The bound of the group that a heading names. -/
def groupBound (title : List Char) : MaxOccurs :=
  match Text.findSuffix? (annotation? ['C']) title with
  | some (_, digits) => boundOf digits
  | none => .one

/-- The requirement and bound of a segment, read from the text of its entry without the heading.
With an annotation, the segment is mandatory if any mark of a mandatory one is there. -/
def segmentOccurs (text : List Char) : Requirement × MaxOccurs :=
  match Text.findSuffix? (annotation? ['M', 'C']) text with
  | some (_, digits) =>
    (if Text.contains ['M', '('] text then .mandatory else .conditional, boundOf digits)
  | none => (.conditional, .one)

/-- The record of an entry that is left out. -/
def skipped (index : Nat) (text : List Char) (reason : SkipReason) : Entry :=
  .skip ⟨"listing", index, String.ofList text, reason⟩

/-- Reads the entry with an index. -/
def Entry.ofPlace (index : Nat) (entry : Place) : Entry :=
  let title := titleOf entry
  let description := descriptionOf entry
  let parent := enclosingGroup? entry
  match groupCode? title with
  | some code => .group ⟨code, groupBound title, description, index⟩ parent
  | none =>
    let tag := tagOf entry
    if tag.isEmpty then skipped index (Text.collapse title) .unrecognizedEntry
    else if !isSegmentTag tag then skipped index tag .invalidSegmentTag
    else
      let (requirement, bound) := segmentOccurs (Text.eraseFirst title entry.textChars)
      .segment ⟨String.ofList tag, description, requirement, bound, index, parent⟩

/-- The entries of a page in the order in which they start. -/
def entriesOf (page : Html.Node) : List Entry :=
  (page.pagePlaces.filter fun place => place.here.tag.hasClass "isotope-container").mapIdx
    Entry.ofPlace

end EdiSchema.Listing
