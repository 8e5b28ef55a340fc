import EdiSchema.Attribute.Invalid
import EdiSchema.Text.Blank
import EdiSchema.Text.Case

/-!
# Requirement

Every segment, group, composite and element is either mandatory or conditional. A mandatory
segment appears at least once.
-/

namespace EdiSchema

/-- Whether an item must be present. -/
inductive Requirement where
  | mandatory
  | conditional
  deriving DecidableEq

namespace Requirement

/-- The requirement of a status flag: `M` is mandatory and every other flag conditional. -/
def ofFlag (flag : Char) : Requirement :=
  if flag.toUpper = 'M' then .mandatory else .conditional

/-- Whether the item must be present. -/
def isMandatory : Requirement → Bool
  | .mandatory => true
  | .conditional => false

/-- The least number of occurrences that the requirement implies. -/
def minOccurs : Requirement → UInt32
  | .mandatory => 1
  | .conditional => 0

/-- The name written in a structure. -/
def name : Requirement → String
  | .mandatory => "Mandatory"
  | .conditional => "Conditional"

/-- The name written in a descriptor. -/
def lowerName : Requirement → String
  | .mandatory => "mandatory"
  | .conditional => "conditional"

/-- Reads a requirement from its name or flag; a blank text is conditional. -/
def ofText (text : String) : Except Attribute.Invalid Requirement :=
  let word := String.ofList (Text.asciiLower (Text.trim text.toList))
  if word = "m" ∨ word = "mandatory" then .ok .mandatory
  else if word = "c" ∨ word = "conditional" ∨ word = "" then .ok .conditional
  else .error ⟨.requirement, text⟩

end Requirement

end EdiSchema
