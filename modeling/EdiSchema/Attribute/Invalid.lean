/-!
# Attribute faults

The textual attributes of an item that can be wrong, and the fault that says which text was.
-/

namespace EdiSchema.Attribute

/-- An attribute that is read from text. -/
inductive Kind where
  | requirement
  | max
  deriving DecidableEq

/-- The name under which an attribute is written. -/
def Kind.name : Kind → String
  | .requirement => "Requirement"
  | .max => "Max"

/-- An attribute whose text cannot be read, with that text. -/
structure Invalid where
  kind : Kind
  value : String
  deriving DecidableEq

/-- The wording of the fault. -/
def Invalid.message (fault : Invalid) : String :=
  "Invalid attribute '" ++ fault.kind.name ++ "': " ++ fault.value

end EdiSchema.Attribute
