/-!
# Data types

The type of a data element comes from the letter class of its format and is written as a label.
Letter classes and labels outside the known ones are kept as they are.
-/

namespace EdiSchema

/-- The data type of an element or composite. -/
inductive DataType where
  | alphanumeric
  | numeric
  | alpha
  | composite
  | other (label : String)
  deriving DecidableEq

namespace DataType

/-- The type of a format's letter class. -/
def ofLetterClass (letters : String) : DataType :=
  if letters = "an" then .alphanumeric
  else if letters = "n" then .numeric
  else if letters = "a" then .alpha
  else .other letters

/-- The label written in a structure. -/
def label : DataType → String
  | .alphanumeric => "String (AN)"
  | .numeric => "Numeric (N)"
  | .alpha => "A"
  | .composite => "Composite (composite)"
  | .other label => label

/-- The type that a label stands for. -/
def ofLabel (label : String) : DataType :=
  if label = "String (AN)" then .alphanumeric
  else if label = "Numeric (N)" then .numeric
  else if label = "A" then .alpha
  else if label = "Composite (composite)" then .composite
  else .other label

end DataType

end EdiSchema
