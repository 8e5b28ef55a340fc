import EdiSchema.Text.Count
import EdiSchema.Text.Scan

/-!
# Reports of faults

A fault is reported by a text and, if it is known, by the position at which it was noticed. Where a
report is made of a message alone, a position that the message states at its end counts as the
position of the fault. Lines are counted from one: a report with line zero has no position, and its
message is the text only.
-/

namespace EdiSchema.Decoding

/-- What is reported of a fault. -/
structure Report where
  text : String
  /-- The line of the fault, or zero. -/
  line : Nat := 0
  column : Nat := 0
  deriving DecidableEq

/-- The text in front of a label with a number behind it, and the number, if a message ends so. -/
def cutNumber? (label cs : List Char) : Option (List Char × Nat) :=
  let (digits, front) := cs.reverse.span Char.isDigit
  if digits = [] then none
  else match Text.readDigits Text.maxCount64 0 digits.reverse with
    | .error _ => none
    | .ok n => (Text.dropSuffix? label front.reverse).map fun text => (text, n)

/-- What stands in front of the line of a position. -/
def lineLabel : String := " at line "

/-- What stands in front of the column of a position. -/
def columnLabel : String := " column "

/-- The text in front of a position at the end of a message, and the line and column of it. -/
def cutPosition? (message : List Char) : Option (List Char × Nat × Nat) :=
  match cutNumber? columnLabel.toList message with
  | none => none
  | some (front, column) =>
    (cutNumber? lineLabel.toList front).map fun (text, line) => (text, line, column)

namespace Report

/-- The report that a message makes. -/
def ofMessage (message : String) : Report :=
  match cutPosition? message.toList with
  | some (text, line, column) => { text := String.ofList text, line, column }
  | none => { text := message }

/-- The message of a report, with the position at its end. -/
def message (report : Report) : String :=
  if report.line = 0 then report.text
  else report.text ++ lineLabel ++ Text.decimal report.line ++ columnLabel ++
    Text.decimal report.column

end Report

/-- A message as it is reported. -/
def restated (message : String) : String :=
  (Report.ofMessage message).message

end EdiSchema.Decoding
