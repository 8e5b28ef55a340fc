import EdiSchema.Text.Count

/-!
# Positions

Entries of a directory listing are numbered in steps of ten with four digits, the items of a
segment in steps of ten with three, and the components of a composite one by one after the
position of the composite. Numbers outgrow their width when they have to.
-/

namespace EdiSchema.Position

/-- The distance between neighbouring entries or items. -/
def step : Nat := 10

/-- The position of the listing entry with an index from zero. -/
def listing (index : Nat) : String :=
  Text.padded 4 ((index + 1) * step)

/-- The position of an item of a segment with a number. -/
def item (number : Nat) : String :=
  Text.padded 3 number

/-- The position of the component with an index from zero in the composite at `parent`. -/
def component (parent : String) (index : Nat) : String :=
  parent ++ Text.padded 3 (index + 1)

end EdiSchema.Position
