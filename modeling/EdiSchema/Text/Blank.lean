/-!
# Blank space

Directory pages are laid out with blanks: indentation, column gaps and line ends. This module
says which characters are blank and gives the ways of cutting text at them.

Blank means the Unicode property `White_Space`, so a no-break space or an ideographic space
separates words just as a space does.
-/

namespace EdiSchema.Text

/-- Whether a character has the property `White_Space`. -/
def isBlank (c : Char) : Bool :=
  let n := c.toNat
  (9 ≤ n && n ≤ 13) || n == 0x20 || n == 0x85 || n == 0xA0 || n == 0x1680 ||
    (0x2000 ≤ n && n ≤ 0x200A) || n == 0x2028 || n == 0x2029 || n == 0x202F || n == 0x205F ||
    n == 0x3000

/-- The text without its leading blanks. -/
def trimStart (cs : List Char) : List Char :=
  cs.dropWhile isBlank

/-- The text without its trailing blanks. -/
def trimEnd (cs : List Char) : List Char :=
  (cs.reverse.dropWhile isBlank).reverse

/-- The text without its leading and trailing blanks. -/
def trim (cs : List Char) : List Char :=
  trimEnd (trimStart cs)

/-- The maximal run of characters that are not blank at the front of a text, and what follows. -/
def splitWord (cs : List Char) : List Char × List Char :=
  cs.span (fun c => !isBlank c)

/-- The words of a text, given the word in progress in reverse. -/
def wordsFrom : List Char → List Char → List (List Char)
  | [], [] => []
  | [], word => [word.reverse]
  | c :: cs, word =>
    if isBlank c then
      if word.isEmpty then wordsFrom cs [] else word.reverse :: wordsFrom cs []
    else wordsFrom cs (c :: word)

/-- The maximal runs of characters that are not blank, in order. -/
def words (cs : List Char) : List (List Char) :=
  wordsFrom cs []

/-- The words of a text joined by single spaces. -/
def collapse (cs : List Char) : List Char :=
  [' '].intercalate (words cs)

/-- A string without its leading and trailing blanks. -/
def trimmed (s : String) : String :=
  String.ofList (trim s.toList)

/-- Whether a string has no character that is not blank. -/
def isBlankText (s : String) : Bool :=
  s.toList.all isBlank

end EdiSchema.Text
