/-!
# Lines

A line ends at a line feed, and one carriage return before that line feed belongs to the line end.
A last line without a line feed counts if it has any character.
-/

namespace EdiSchema.Text

/-- A line, given in reverse, without the carriage return of its line end. -/
def closeLine : List Char → List Char
  | '\r' :: line => line.reverse
  | line => line.reverse

/-- The lines of a text, given the line in progress in reverse. -/
def linesFrom : List Char → List Char → List (List Char)
  | [], [] => []
  | [], line => [line.reverse]
  | c :: cs, line =>
    if c = '\n' then closeLine line :: linesFrom cs [] else linesFrom cs (c :: line)

/-- The lines of a text. -/
def lines (cs : List Char) : List (List Char) :=
  linesFrom cs []

end EdiSchema.Text
