import EdiSchema.Text.Blank
import EdiSchema.Text.Digit

/-!
# Lines of a detail text

The detail text of a segment lists its items one per line, the components of a composite
indented under it. A line starts with the code of the item, which may follow a column of
position numbers, and says the rest in its payload.
-/

namespace EdiSchema.Detail

/-- The kinds of lines that are recognised. -/
inductive LineKind where
  | composite
  | element
  deriving DecidableEq

/-- A recognised line with its level of indentation. -/
structure Line where
  kind : LineKind
  level : Nat
  code : String
  payload : String
  deriving DecidableEq

/-- The kind of line that a code starts: `S` or `C` with three or four digits is a composite,
four digits are an element. -/
def codeKind? (word : List Char) : Option LineKind :=
  match word with
  | [] => none
  | c :: digits =>
    if (c = 'S' ∨ c = 'C') ∧ (digits.length = 3 ∨ digits.length = 4) ∧ digits.all Text.isDigit then
      some .composite
    else if word.length = 4 ∧ word.all Text.isDigit then some .element
    else none

/-- Whether a word is a position number. -/
def isPosition (word : List Char) : Bool :=
  word.length == 3 && word.all Text.isDigit

/-- The kind, code and payload of a line without blanks around it, if its first word is a code. -/
def splitCode? (cs : List Char) : Option (LineKind × List Char × List Char) :=
  let (word, rest) := Text.splitWord cs
  (codeKind? word).map fun kind => (kind, word, Text.trimStart rest)

/-- The kind, code and payload of a line without blanks around it. -/
def splitLine? (cs : List Char) : Option (LineKind × List Char × List Char) :=
  let (word, rest) := Text.splitWord cs
  if isPosition word then splitCode? (Text.trimStart rest) else splitCode? cs

/-- The width of the blanks in front of a line; a tab is as wide as one level. -/
def blankWidth (tabWidth : Nat) : List Char → Nat
  | [] => 0
  | c :: cs =>
    if Text.isBlank c then (if c = '\t' then tabWidth else 1) + blankWidth tabWidth cs else 0

/-- The number of values of a word of 64 bits. -/
def wordSize : Nat := 18446744073709551616

/-- The width of the blanks in front of a line as it is added up in a word, which wide tabs overflow.
Without tabs it is a number of characters in memory, and a word has room for that. -/
def leadingWidth (tabWidth : Nat) (line : List Char) : Nat :=
  let width := blankWidth tabWidth line
  if '\t' ∈ line.takeWhile Text.isBlank then width % wordSize else width

/-- Recognises a line. A tab width of zero counts as one, and a payload stays on its line. -/
def Line.ofText? (tabWidth : Nat) (text : String) : Option Line :=
  let width := max tabWidth 1
  match splitLine? (Text.trim text.toList) with
  | none => none
  | some (kind, code, payload) =>
    if '\n' ∈ payload then none
    else some {
      kind := kind
      level := leadingWidth width text.toList / width
      code := String.ofList code
      payload := String.ofList payload }

end EdiSchema.Detail
