import EdiSchema.Yaml.Scalar

/-!
# Writing YAML

A flat mapping is written with one `key: value` line for each of its members. A text is written
plain where that reads back as the same text, else between single quotes; a text of several lines
becomes a literal block, and one that no other form can hold is written with escapes.
-/

namespace EdiSchema.Yaml

/-- A value of a flat mapping. -/
inductive Value where
  | count (value : Nat)
  | text (value : String)
  deriving DecidableEq

/-- Whether a character ends a line. -/
def isBreak (c : Char) : Bool :=
  c = '\n' || c = '\r' || c.toNat = 0x85 || c.toNat = 0x2028 || c.toNat = 0x2029

/-- Whether a character may be written as it is. -/
def isPrintable (c : Char) : Bool :=
  let n := c.toNat
  n = 0x0A || (0x20 ≤ n && n ≤ 0x7E) || (0xA0 ≤ n && n ≤ 0xFFFD && n ≠ 0xFEFF)

/-- Whether a character is a blank or ends a line, or the text ends. -/
def endsWord : Option Char → Bool
  | none => true
  | some c => c = ' ' || c = '\t' || isBreak c

/-- The characters that a plain text may not start with. -/
def indicators : List Char :=
  ['#', ',', '[', ']', '\x7b', '\x7d', '&', '*', '!', '|', '>', '\'', '"', '%', '@', '\x60']

/-- Whether a character stands for structure at the start of a text. -/
def isIndicator (c : Char) (next : Option Char) : Bool :=
  indicators.contains c || ((c = '?' || c = ':' || c = '-') && endsWord next)

/-- Whether structure shows inside a text: a colon at the end of a word, or a comment. -/
def hasInnerIndicator : List Char → Bool
  | [] => false
  | c :: cs =>
    (cs.head? = some '#' && endsWord (some c)) || (cs.head? = some ':' && endsWord cs.tail.head?)
      || hasInnerIndicator cs

/-- Whether a text starts like a document mark. -/
def startsLikeMark (cs : List Char) : Bool :=
  ['-', '-', '-'].isPrefixOf cs || ['.', '.', '.'].isPrefixOf cs

/-- Whether a text shows structure when it is written plain. -/
def hasIndicator : List Char → Bool
  | [] => false
  | c :: cs => startsLikeMark (c :: cs) || isIndicator c cs.head? || hasInnerIndicator (c :: cs)

/-- Whether a space stands right before a line end. -/
def hasSpaceBeforeBreak : List Char → Bool
  | [] => false
  | c :: cs => (c = ' ' && cs.head?.any isBreak) || hasSpaceBeforeBreak cs

/-- Whether a text of one line can be written plain. -/
def canBePlain (cs : List Char) : Bool :=
  !hasIndicator cs && cs.head? != some ' ' && cs.getLast? != some ' ' && !cs.any isBreak

/-- Whether a text of several lines can be a literal block. -/
def canBeLiteral (cs : List Char) : Bool :=
  cs.all isPrintable && cs.getLast? != some ' ' && !hasSpaceBeforeBreak cs

/-- A text between single quotes, where a quote is written twice. -/
def quoted (cs : List Char) : List Char :=
  '\'' :: cs.flatMap (fun c => if c = '\'' then ['\'', '\''] else [c]) ++ ['\'']

/-- A number in upper-case hexadecimal digits, at least `width` of them. -/
def hexadecimal (width n : Nat) : List Char :=
  let digits := (Nat.toDigits 16 n).map Char.toUpper
  List.replicate (width - digits.length) '0' ++ digits

/-- The letters of the short escapes. -/
def escapeLetters : List (Nat × Char) :=
  [(0x00, '0'), (0x07, 'a'), (0x08, 'b'), (0x09, 't'), (0x0A, 'n'), (0x0B, 'v'), (0x0C, 'f'),
   (0x0D, 'r'), (0x1B, 'e'), (0x22, '"'), (0x5C, '\\'), (0x85, 'N'), (0xA0, '_'), (0x2028, 'L'),
   (0x2029, 'P')]

/-- A character as it stands between double quotes. -/
def escaped (c : Char) : List Char :=
  if isPrintable c && !isBreak c && c != '"' && c != '\\' then [c]
  else
    match escapeLetters.lookup c.toNat with
    | some letter => ['\\', letter]
    | none =>
      if c.toNat ≤ 0xFF then '\\' :: 'x' :: hexadecimal 2 c.toNat
      else if c.toNat ≤ 0xFFFF then '\\' :: 'u' :: hexadecimal 4 c.toNat
      else '\\' :: 'U' :: hexadecimal 8 c.toNat

/-- The lines of a literal block, each indented by two spaces unless it is empty. -/
def indented (atStart : Bool) : List Char → List Char
  | [] => []
  | '\n' :: cs => '\n' :: indented true cs
  | c :: cs => if atStart then ' ' :: ' ' :: c :: indented false cs else c :: indented false cs

/-- The mark that says what becomes of the line ends at the end of a literal block. -/
def chomping (cs : List Char) : List Char :=
  match cs.reverse with
  | '\n' :: '\n' :: _ => ['+']
  | ['\n'] => ['+']
  | '\n' :: _ => []
  | _ => ['-']

/-- A text as a literal block. -/
def literal (cs : List Char) : List Char :=
  let indentation := if cs.head?.any fun c => c = ' ' || isBreak c then ['2'] else []
  let body := '\n' :: indented true cs
  '|' :: indentation ++ chomping cs ++ (if body.getLast? = some '\n' then body.dropLast else body)

/-- A text in the first form that can hold it. -/
def textForm (text : String) : List Char :=
  let cs := text.toList
  if cs.contains '\n' && canBeLiteral cs then literal cs
  else if cs.contains '\n' || !cs.all isPrintable then '"' :: cs.flatMap escaped ++ ['"']
  else if !isAmbiguous text && canBePlain cs then cs
  else quoted cs

/-- A value as it is written after its key. -/
def Value.form : Value → List Char
  | .count n => Nat.toDigits 10 n
  | .text s => textForm s

/-- A flat mapping as a document. -/
def print (members : List (String × Value)) : String :=
  String.ofList <| members.flatMap fun (key, value) =>
    key.toList ++ ':' :: ' ' :: value.form ++ ['\n']

end EdiSchema.Yaml
