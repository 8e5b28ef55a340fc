import EdiSchema.Text.CaseTable

/-!
# Letter case

Names of dialects and attributes are compared without regard to ASCII case, while file names take
the full upper case of Unicode, in which one letter may become several.
-/

namespace EdiSchema.Text

/-- The text with the letters `A` to `Z` made small. -/
def asciiLower (cs : List Char) : List Char :=
  cs.map Char.toLower

/-- Whether two strings agree up to the case of the letters `A` to `Z`. -/
def sameIgnoringCase (s t : String) : Bool :=
  asciiLower s.toList == asciiLower t.toList

/-- The upper-case letter that a run of the table gives, if the letter belongs to it. -/
def CaseRun.upper? (run : CaseRun) (n : Nat) : Option Nat :=
  if run.first ≤ n && n ≤ run.last && (n - run.first) % run.step == 0 then
    some (run.image + (n - run.first))
  else none

/-- The upper case of one character. -/
def upperChar (c : Char) : List Char :=
  if c.toNat < 0x80 then [c.toUpper]
  else match upperSequences.lookup c.toNat with
    | some letters => letters.map Char.ofNat
    | none => match upperRuns.findSome? (·.upper? c.toNat) with
      | some n => [Char.ofNat n]
      | none => [c]

/-- The upper case of a string. -/
def upper (s : String) : String :=
  String.ofList (s.toList.flatMap upperChar)

end EdiSchema.Text
