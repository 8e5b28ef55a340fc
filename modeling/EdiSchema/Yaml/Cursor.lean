import EdiSchema.Yaml.Printer

/-!
# Places in a YAML text

Indentation is structure, so a reader keeps the line and the column of what it has not read yet.
This module also holds the two ways to move on that every part of the reader shares: over blanks and
comments, and over the gap between two words of a scalar, which folds into a space or line ends.
-/

namespace EdiSchema.Yaml

/-- What is left of a text, and where it stands. -/
structure Cursor where
  rest : List Char
  line : Nat := 0
  column : Nat := 0

/-- A text with every line end, also a pair of carriage return and line feed, as one line feed. -/
def unifyBreaks : List Char → List Char
  | [] => []
  | '\r' :: '\n' :: cs => '\n' :: unifyBreaks cs
  | c :: cs => (if isBreak c then '\n' else c) :: unifyBreaks cs

/-- Whether a character may occur in a text at all. -/
def isAllowed (c : Char) : Bool :=
  isPrintable c || c = '\t' || c = '\r' || c.toNat = 0x85 || 0x10000 ≤ c.toNat

/-- The start of a text, after a byte order mark; nothing if a character may not occur. -/
def Cursor.ofText? (text : String) : Option Cursor :=
  let cs := match text.toList with
    | '\uFEFF' :: cs => cs
    | cs => cs
  if cs.all isAllowed then some ⟨unifyBreaks cs, 0, 0⟩ else none

namespace Cursor

/-- The place after blanks, comments and line ends. Tabs are blanks only where `tabs` says so,
and on later lines only inside brackets. -/
def skim (flow : Bool) : (tabs comment : Bool) → List Char → Nat → Nat → Cursor
  | _, _, [], line, column => ⟨[], line, column⟩
  | tabs, comment, c :: cs, line, column =>
    if c = '\n' then skim flow flow false cs (line + 1) 0
    else if comment || c = ' ' || (c = '\t' && tabs) then skim flow tabs comment cs line (column + 1)
    else if c = '#' then skim flow tabs true cs line (column + 1)
    else ⟨c :: cs, line, column⟩

/-- The next place with something to read, from inside a line. -/
def toNext (flow : Bool) (here : Cursor) : Cursor :=
  skim flow true false here.rest here.line here.column

/-- The place `n` characters further on in the same line. -/
def skip (n : Nat) (here : Cursor) : Cursor :=
  { here with rest := here.rest.drop n, column := here.column + n }

/-- Whether a document mark stands here. -/
def isAtMark (here : Cursor) : Bool :=
  here.column = 0 && startsLikeMark here.rest && endsWord (here.rest.drop 3).head?

end Cursor

/-- The blanks and line ends between two words of a scalar. -/
inductive Gap where
  | none
  /-- Blanks inside a line, in reverse. -/
  | blanks (reversed : List Char)
  /-- This many line ends, where the first one may have been escaped. -/
  | breaks (escaped : Bool) (count : Nat)

namespace Gap

/-- A gap with one more blank; blanks at the start of a line do not count. -/
def push (c : Char) : Gap → Gap
  | .none => .blanks [c]
  | .blanks cs => .blanks (c :: cs)
  | .breaks escaped n => .breaks escaped n

/-- A gap with one more line end; blanks at the end of a line do not count. -/
def pushBreak : Gap → Gap
  | .breaks escaped n => .breaks escaped (n + 1)
  | _ => .breaks false 1

/-- Whether there is nothing between two characters. -/
def isNone : Gap → Bool
  | .none => true
  | _ => false

/-- Whether a gap reaches into another line. -/
def crossesLine : Gap → Bool
  | .breaks _ _ => true
  | _ => false

/-- What a gap folds into, in reverse: one line end becomes a space, and of more the first is
dropped, as is an escaped one. -/
def fold : Gap → List Char
  | .none => []
  | .blanks cs => cs
  | .breaks true n => List.replicate (n - 1) '\n'
  | .breaks false n => if n = 1 then [' '] else List.replicate (n - 1) '\n'

end Gap

end EdiSchema.Yaml
