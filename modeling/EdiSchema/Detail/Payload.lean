import EdiSchema.Detail.Format
import EdiSchema.Detail.Line
import EdiSchema.Structure.Basic

/-!
# Payloads

The payload of a line is read from its end, since the name in front may contain words of any
form: first the format of an element, then an optional count, then the flag that says whether the
item is mandatory. What is left in front is the name.
-/

namespace EdiSchema.Detail

/-- The last word of a text without blanks at its end, and the text before it without blanks at
its end. -/
def splitLastWord (cs : List Char) : List Char × List Char :=
  let (word, front) := cs.reverse.span fun c => !Text.isBlank c
  ((front.dropWhile Text.isBlank).reverse, word.reverse)

/-- The name in front of a last word that is a flag, and the flag. -/
def splitFlag? (cs : List Char) : Option (List Char × Char) :=
  match splitLastWord cs with
  | (name, [flag]) =>
    if (flag = 'M' ∨ flag = 'C') ∧ name ≠ [] then some (name, flag) else none
  | _ => none

/-- The name in front of a flag that an all-digit count may follow, and the flag. -/
def splitStatus? (cs : List Char) : Option (List Char × Char) :=
  let (front, word) := splitLastWord cs
  if Text.isDigits word then splitFlag? front else splitFlag? cs

/-- The element of a line, if its payload has a name, a flag and a format. -/
def element? (line : Line) : Option Element :=
  let (front, word) := splitLastWord line.payload.toList
  match splitStatus? front, Format.ofChars? word with
  | some (name, flag), some format => some {
      code := line.code
      name := String.ofList name
      requirement := .ofFlag flag
      dataType := format.dataType
      minLength := format.minLength
      maxLength := format.maxLength }
  | _, _ => none

/-- The composite of a line, without components. A payload without a flag is all name. -/
def composite (line : Line) : Composite :=
  match splitStatus? line.payload.toList with
  | some (name, flag) =>
    { code := line.code, name := String.ofList name, requirement := .ofFlag flag }
  | none => { code := line.code, name := line.payload }

end EdiSchema.Detail
