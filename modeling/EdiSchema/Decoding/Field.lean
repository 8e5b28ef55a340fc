import EdiSchema.Attribute.DataType
import EdiSchema.Attribute.MaxOccurs
import EdiSchema.Attribute.Requirement
import EdiSchema.Decoding.Fault
import EdiSchema.Text.Blank

/-!
# Fields of records

How the value of a single field is read, and how a record finds its fields: by key in an object,
or by index in an array that gives the fields in a fixed order.
-/

namespace EdiSchema.Decoding

/-- The fault of a value of the wrong type. -/
def wrongType {α : Type} (value : Json) (expected : String) : Result α :=
  .error (.invalidType (described value) expected)

/-- Reads a text. -/
def asText : Json → Result String
  | .text s => .ok s
  | other => wrongType other "a string"

/-- Reads a requirement from its text. -/
def asRequirement (value : Json) : Result Requirement := do
  (Requirement.ofText (← asText value)).mapError .attribute

/-- Reads a data type from its label. -/
def asDataType (value : Json) : Result DataType :=
  DataType.ofLabel <$> asText value

/-- A natural number as a count; one that is too large has the same fault as in a text. -/
def countOfNat (n : Nat) : Result UInt32 :=
  if n ≤ Text.maxCount then .ok (UInt32.ofNat n) else .error (.count .tooLarge)

/-- A text as a count; points in front of the digits are left over from a range and nothing
after them means zero. -/
def countOfText (s : String) : Result UInt32 :=
  let digits := (Text.trim s.toList).dropWhile (· == '.')
  if digits = [] then .ok 0 else (Text.readCount32 digits).mapError .count

/-- Reads a count from a number or a text. -/
def asCount : Json → Result UInt32
  | .text s => countOfText s
  | .number (.natural n) => countOfNat n
  | _ => .error .notACount

/-- Reads an upper occurrence bound from a number or a text. -/
def asMaxOccurs : Json → Result MaxOccurs
  | .text s => (MaxOccurs.ofText s).mapError .attribute
  | .number (.natural n) => .bounded <$> countOfNat n
  | _ => .error .notACount

/-- Reads a value that may be `null` for nothing. -/
def asNullable {α : Type} (read : Json → Result α) : Json → Result (Option α)
  | .null => .ok none
  | value => some <$> read value

/-- Reads every item of an array, up to the first that fails. -/
def asList {α : Type} (read : Json → Result α) : Json → Result (List α)
  | .array values => values.mapM read
  | other => wrongType other "a sequence"

/-- Reads a value if there is one. -/
def ifPresent {α : Type} (read : Json → Result α) : Option Json → Result (Option α)
  | none => .ok none
  | some value => some <$> read value

/-- Reads the member of an object with a key, if it has one. -/
def member {α : Type} (members : List (String × Json)) (key : String) (read : Json → Result α) :
    Result (Option α) :=
  ifPresent read (Json.member? key members)

/-- The value of a field without a default. -/
def require {α : Type} (fault : Fault) : Option α → Result α
  | some value => .ok value
  | none => .error fault

/-- The code of an entry for the path of a fault: a text, or nothing. -/
def codeOf (key : String) : Json → String
  | .object members => ((Json.member? key members).bind Json.text?).getD ""
  | _ => ""

/-- Puts the place of an entry in front of a fault inside it. -/
def locate {α : Type} (place : Place) (code : String) (result : Result α) : Result α :=
  result.mapError (.within place code)

end EdiSchema.Decoding
