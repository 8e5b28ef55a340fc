import EdiSchema.Html.ReferenceTable

/-!
# Character references

Text and attribute values of a page may name characters, as in `&lt;` or `&#60;`. A reference by
name takes the longest name that fits. In an attribute a name without its semicolon counts only
if no letter, digit or equals sign follows, so that the parameters of an address are left alone.
-/

namespace EdiSchema.Html

/-- The value of a hexadecimal digit. -/
def hexDigit? (c : Char) : Option Nat :=
  if c.isDigit then some (c.toNat - '0'.toNat)
  else if 'a' ≤ c.toLower ∧ c.toLower ≤ 'f' then some (c.toLower.toNat - 'a'.toNat + 10)
  else none

/-- The value of hexadecimal digits; other characters are passed over. -/
def hexValue (cs : List Char) : Nat :=
  cs.foldl (fun n c => match hexDigit? c with | some d => n * 16 + d | none => n) 0

/-- The parts of a text between separators, given the part in progress in reverse. -/
def splitFrom (separator : Char) : List Char → List Char → List (List Char)
  | [], part => [part.reverse]
  | c :: cs, part =>
    if c = separator then part.reverse :: splitFrom separator cs []
    else splitFrom separator cs (c :: part)

/-- A name and its characters, from their entry in the table. -/
def tableEntry (entry : List Char) : List Char × List Char :=
  let (name, codes) := entry.span (· != ':')
  (name, (splitFrom '+' codes.tail []).map fun code => Char.ofNat (hexValue code))

/-- The words in the lines of a table. -/
def tableWords (lines : List String) : List (List Char) :=
  lines.flatMap fun line => splitFrom ' ' line.toList []

/-- All names with their characters. -/
def references : List (List Char × List Char) :=
  (tableWords referenceLines).map tableEntry

/-- The names that may stand without a semicolon. -/
def bareNames : List (List Char) :=
  tableWords bareReferenceLines

/-- The characters that a name stands for. -/
def named? (name : List Char) : Option (List Char) :=
  references.lookup name

/-- The longest front of a word, of at most a length, that may stand without a semicolon, and
its characters. -/
def bareFront? (word : List Char) : Nat → Option (List Char × Nat)
  | 0 => none
  | n + 1 =>
    let name := word.take (n + 1)
    if name.length = n + 1 ∧ name ∈ bareNames then (named? name).map fun chars => (chars, n + 1)
    else bareFront? word n

/-- The greatest length of a name that may stand without a semicolon. -/
def maxBareLength : Nat := 6

/-- What the code points from 80 to 9F, which name no visible character, are taken for. -/
def controlReplacements : List Nat :=
  [0x20AC, 0x81, 0x201A, 0x192, 0x201E, 0x2026, 0x2020, 0x2021, 0x2C6, 0x2030, 0x160, 0x2039,
   0x152, 0x8D, 0x17D, 0x8F, 0x90, 0x2018, 0x2019, 0x201C, 0x201D, 0x2022, 0x2013, 0x2014, 0x2DC,
   0x2122, 0x161, 0x203A, 0x153, 0x9D, 0x17E, 0x178]

/-- The character that stands for what is no character. -/
def replacement : Char := Char.ofNat 0xFFFD

/-- The character of a reference by number. -/
def numbered (n : Nat) : Char :=
  if n = 0 ∨ 0x10FFFF < n ∨ (0xD800 ≤ n ∧ n ≤ 0xDFFF) then replacement
  else if 0x80 ≤ n then Char.ofNat (controlReplacements.getD (n - 0x80) n)
  else Char.ofNat n

/-- The number of characters of a semicolon at the front of a text. -/
def semicolonLength (cs : List Char) : Nat :=
  if cs.head? = some ';' then 1 else 0

/-- A reference by number after the ampersand: its character and its length. -/
def numberedReference? (cs : List Char) : Option (List Char × Nat) :=
  match cs with
  | '#' :: x :: rest =>
    if x = 'x' ∨ x = 'X' then
      let (digits, after) := rest.span fun c => (hexDigit? c).isSome
      if digits = [] then none
      else some ([numbered (hexValue digits)], 2 + digits.length + semicolonLength after)
    else
      let (digits, after) := (x :: rest).span Char.isDigit
      if digits = [] then none
      else
        let n := digits.foldl (fun n c => n * 10 + (c.toNat - '0'.toNat)) 0
        some ([numbered n], 1 + digits.length + semicolonLength after)
  | _ => none

/-- A reference by name after the ampersand: its characters and its length. -/
def namedReference? (inAttribute : Bool) (cs : List Char) : Option (List Char × Nat) :=
  let (word, after) := cs.span Char.isAlphanum
  let whole := if after.head? = some ';' then named? word else none
  match whole with
  | some chars => some (chars, word.length + 1)
  | none =>
    match bareFront? word maxBareLength with
    | none => none
    | some (chars, length) =>
      let goesOn := length < word.length || after.head? == some '='
      if inAttribute && goesOn then none else some (chars, length)

/-- A reference after the ampersand: its characters and its length. -/
def reference? (inAttribute : Bool) (cs : List Char) : Option (List Char × Nat) :=
  if cs.head? = some '#' then numberedReference? cs else namedReference? inAttribute cs

/-- A text with its references replaced, after a number of characters is passed over. -/
def decodeFrom (inAttribute : Bool) : Nat → List Char → List Char
  | _, [] => []
  | n + 1, _ :: cs => decodeFrom inAttribute n cs
  | 0, c :: cs =>
    if c = '&' then
      match reference? inAttribute cs with
      | some (chars, length) => chars ++ decodeFrom inAttribute length cs
      | none => c :: decodeFrom inAttribute 0 cs
    else c :: decodeFrom inAttribute 0 cs

/-- A text with its character references replaced. -/
def decode (inAttribute : Bool) (cs : List Char) : List Char :=
  decodeFrom inAttribute 0 cs

end EdiSchema.Html
