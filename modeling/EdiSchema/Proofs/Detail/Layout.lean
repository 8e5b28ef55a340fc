import EdiSchema.Detail.Basic
import EdiSchema.Proofs.Text.Lines

/-!
# The layout of a detail text

A detail text has one line for each item of a segment, and one for each component of a composite,
under it and indented by whole levels. A line is made of columns with spaces between them: the
code, the name, the flag and, if need be, a count; an element ends its line with a format.

The types admit what can be laid out and nothing else. A name is any text on one line without
blanks around it, so it may look like a flag, a count or a format. The widths of the gaps are free.
-/

namespace EdiSchema.Detail.Layout

/-- The spaces between two columns: one, and as many more as are asked for. -/
def gap (extra : ℕ) : List Char :=
  List.replicate (extra + 1) ' '

/-- The flag of a requirement. -/
def flag : Requirement → Char
  | .mandatory => 'M'
  | .conditional => 'C'

/-- The columns that composites and elements share. -/
structure Label where
  name : String
  requirement : Requirement
  count : Option ℕ
  nameGap : ℕ
  flagGap : ℕ
  countGap : ℕ
  name_ne_empty : name ≠ ""
  trimmed_name : Text.trimmed name = name
  newline_not_mem : '\n' ∉ name.toList

/-- The name and the flag. -/
def Label.stem (label : Label) : List Char :=
  label.name.toList ++ gap label.flagGap ++ [flag label.requirement]

/-- The name, the flag and the count, if there is one. -/
def Label.chars (label : Label) : List Char :=
  match label.count with
  | none => label.stem
  | some count => label.stem ++ gap label.countGap ++ (Text.decimal count).toList

/-- The lengths of an element in one of the three forms of a format. -/
inductive Lengths where
  /-- Two dots and the maximum. -/
  | upTo (max : UInt32)
  /-- The maximum alone. -/
  | plain (max : UInt32)
  /-- The minimum, two dots and the maximum. -/
  | between (min max : UInt32)

namespace Lengths

/-- The least length; it is one unless it is written. -/
def min : Lengths → UInt32
  | .upTo _ | .plain _ => 1
  | .between min _ => min

/-- The greatest length. -/
def max : Lengths → UInt32
  | .upTo max | .plain max | .between _ max => max

/-- The lengths as they are written. -/
def chars : Lengths → List Char
  | .upTo max => '.' :: '.' :: (Text.decimal max.toNat).toList
  | .plain max => (Text.decimal max.toNat).toList
  | .between min max =>
    (Text.decimal min.toNat).toList ++ '.' :: '.' :: (Text.decimal max.toNat).toList

end Lengths

/-- The format of an element: a letter class and lengths. -/
structure Token where
  letters : String
  lengths : Lengths
  letters_ne_empty : letters ≠ ""
  isLower_letters : ∀ c ∈ letters.toList, c.isLower = true

/-- The format as it is written. -/
def Token.chars (token : Token) : List Char :=
  token.letters.toList ++ token.lengths.chars

/-- What the format says. -/
def Token.format (token : Token) : Format where
  dataType := .ofLetterClass token.letters
  minLength := token.lengths.min
  maxLength := token.lengths.max

/-- The line of an element, whose code has four digits. -/
structure ElementRow where
  code : String
  label : Label
  token : Token
  tokenGap : ℕ
  length_code : code.toList.length = 4
  isDigit_code : ∀ c ∈ code.toList, Text.isDigit c = true

namespace ElementRow

/-- The line after its code. -/
def payload (row : ElementRow) : List Char :=
  row.label.chars ++ gap row.tokenGap ++ row.token.chars

/-- The line without indentation. -/
def chars (row : ElementRow) : List Char :=
  row.code.toList ++ gap row.label.nameGap ++ row.payload

/-- The element that the line is about. -/
def element (row : ElementRow) : Element where
  code := row.code
  name := row.label.name
  requirement := row.label.requirement
  dataType := row.token.format.dataType
  minLength := row.token.format.minLength
  maxLength := row.token.format.maxLength

end ElementRow

/-- The line of a component, with the levels it is indented by. -/
structure ComponentRow where
  level : ℕ
  row : ElementRow
  level_pos : 0 < level

/-- The indented line. -/
def ComponentRow.chars (tabWidth : ℕ) (component : ComponentRow) : List Char :=
  List.replicate (component.level * tabWidth) ' ' ++ component.row.chars

/-- The lines of a composite, whose code is `S` or `C` with three or four digits. -/
structure CompositeRow where
  letter : Char
  digits : String
  label : Label
  components : List ComponentRow
  letter_eq : letter = 'S' ∨ letter = 'C'
  length_digits : digits.toList.length = 3 ∨ digits.toList.length = 4
  isDigit_digits : ∀ c ∈ digits.toList, Text.isDigit c = true

namespace CompositeRow

/-- The code of the composite. -/
def code (row : CompositeRow) : String :=
  String.ofList (row.letter :: row.digits.toList)

/-- The line of the composite itself. -/
def chars (row : CompositeRow) : List Char :=
  row.code.toList ++ gap row.label.nameGap ++ row.label.chars

/-- The composite that the lines are about. -/
def composite (row : CompositeRow) : Composite where
  code := row.code
  name := row.label.name
  requirement := row.label.requirement
  components := row.components.map (·.row.element)

end CompositeRow

/-- The lines of an item of a segment. -/
inductive Row where
  | simple (row : ElementRow)
  | composite (row : CompositeRow)

/-- The item that the lines are about. -/
def Row.item : Row → Item
  | .simple row => .simple row.element
  | .composite row => .composite row.composite

/-- The lines of an item. -/
def Row.lines (tabWidth : ℕ) : Row → List (List Char)
  | .simple row => [row.chars]
  | .composite row => row.chars :: row.components.map (·.chars tabWidth)

/-- The detail text of some items; its last line may lack the line feed. -/
def text (tabWidth : ℕ) (closed : Bool) (rows : List Row) : String :=
  String.ofList (Text.joinLines closed (rows.flatMap (·.lines tabWidth)))

end EdiSchema.Detail.Layout
