import EdiSchema.Attribute.Invalid
import EdiSchema.Text.Blank
import EdiSchema.Text.Case
import EdiSchema.Text.Count

/-!
# Upper occurrence bounds

A segment or group may occur up to a 32-bit count of times, or without bound.
-/

namespace EdiSchema

/-- The upper bound on the occurrences of a segment or group. -/
inductive MaxOccurs where
  | bounded (count : UInt32)
  | unbounded
  deriving DecidableEq

namespace MaxOccurs

/-- The bound of an item that states none. -/
def one : MaxOccurs :=
  .bounded 1

/-- Whether the item occurs at most once. -/
def isOne (bound : MaxOccurs) : Bool :=
  bound == one

/-- The text written in a structure. -/
def text : MaxOccurs → String
  | .bounded count => Text.decimal count.toNat
  | .unbounded => "unbounded"

/-- The text written in a descriptor. -/
def descriptorText : MaxOccurs → String
  | .bounded count => Text.decimal count.toNat
  | .unbounded => "n"

/-- Reads a bound: a count, one of the words for no bound, or a blank text for one. -/
def ofText (text : String) : Except Attribute.Invalid MaxOccurs :=
  let word := Text.asciiLower (Text.trim text.toList)
  if word = [] then .ok one
  else if word = "unbounded".toList ∨ word = "n".toList ∨ word = "*".toList then .ok .unbounded
  else match Text.readCount32 word with
    | .ok count => .ok (.bounded count)
    | .error _ => .error ⟨.max, text⟩

end MaxOccurs

end EdiSchema
