import EdiSchema.Text.Count
import EdiSchema.Text.Quoted

/-!
# Skipped input

A line of a detail text or an entry of a listing that cannot be used is left out, and the
extraction goes on. Each is recorded with its place, its text and the reason.
-/

namespace EdiSchema

/-- Why a line or entry was left out. -/
inductive SkipReason where
  /-- The line is neither a composite nor an element. -/
  | unrecognizedLine
  /-- The element has no requirement or no usable format. -/
  | malformedElement
  /-- The element is indented, but not under a composite. -/
  | orphanElement
  /-- The composite is indented under another item. -/
  | nestedComposite
  /-- The entry is neither a group nor a segment. -/
  | unrecognizedEntry
  /-- The tag of the segment is not three letters. -/
  | invalidSegmentTag
  deriving DecidableEq

/-- The wording of a reason. -/
def SkipReason.message : SkipReason → String
  | .unrecognizedLine => "unrecognized line"
  | .malformedElement => "malformed element line"
  | .orphanElement => "indented element outside a composite"
  | .nestedComposite => "composite nested under another item"
  | .unrecognizedEntry => "listing entry is neither a group nor a segment"
  | .invalidSegmentTag => "segment tag is not three letters"

/-- A line or entry that was left out. Lines are numbered from one, entries from zero. -/
structure Skip where
  place : String
  index : Nat
  text : String
  reason : SkipReason
  deriving DecidableEq

/-- The wording of a skip. -/
def Skip.message (skip : Skip) : String :=
  skip.place ++ " #" ++ Text.decimal skip.index ++ ": " ++ skip.reason.message ++ " (" ++
    Text.quoted skip.text ++ ")"

end EdiSchema
