import EdiSchema.Attribute.DataType
import EdiSchema.Text.Blank
import EdiSchema.Text.Count

/-!
# Formats

A format such as `an..35` states the data type of an element by a letter class and the range of
its length: `..9` is at most nine, `2..9` between two and nine, and `9` alone counts like `..9`.
-/

namespace EdiSchema.Detail

/-- The data type of an element and the range of its length. -/
structure Format where
  dataType : DataType
  minLength : UInt32
  maxLength : UInt32
  deriving DecidableEq

namespace Format

/-- A run of digits as a length. -/
def length? (digits : List Char) : Option UInt32 :=
  if digits.isEmpty || !digits.all Char.isDigit then none
  else (Text.readCount32 digits).toOption

/-- The range of lengths after the letter class. -/
def range? (cs : List Char) : Option (UInt32 × UInt32) :=
  match cs.span Char.isDigit with
  | ([], '.' :: '.' :: max) => (length? max).map fun max => (1, max)
  | (min, '.' :: '.' :: max) => do return (← length? min, ← length? max)
  | (max, []) => (length? max).map fun max => (1, max)
  | _ => none

/-- The format of a text without blanks around it. -/
def ofChars? (cs : List Char) : Option Format :=
  match cs.span Char.isLower with
  | ([], _) => none
  | (letters, rest) => (range? rest).map fun (min, max) =>
    ⟨DataType.ofLetterClass (String.ofList letters), min, max⟩

/-- The format of a text. -/
def ofText? (text : String) : Option Format :=
  ofChars? (Text.trim text.toList)

end Format

end EdiSchema.Detail
