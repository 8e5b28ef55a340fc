import EdiSchema.Number.Binary64

/-!
# JSON values

A JSON value keeps the members of an object in the order and number in which they were written,
since a reader may have to report the first one that it cannot use.

Most readers look a member up by its key; of several members with one key they see the last.
-/

namespace EdiSchema

/-- A JSON number: a natural below `2 ^ 64`, a negative integer down to `-2 ^ 63` by its
magnitude, or any other number as the nearest binary one. -/
inductive Json.Number where
  | natural (n : Nat)
  | negative (n : Nat)
  | binary (x : Number.Binary64)
  deriving DecidableEq

/-- A JSON value. -/
inductive Json where
  | null
  | bool (value : Bool)
  | number (value : Json.Number)
  | text (value : String)
  | array (items : List Json)
  | object (members : List (String × Json))

namespace Json

/-- The value of the last member with a key, since a later member replaces an earlier one. -/
def member? (key : String) : List (String × Json) → Option Json
  | [] => none
  | (other, value) :: rest => (member? key rest).or (if other = key then some value else none)

/-- The string that a value is. -/
def text? : Json → Option String
  | .text s => some s
  | _ => none

end Json

end EdiSchema
