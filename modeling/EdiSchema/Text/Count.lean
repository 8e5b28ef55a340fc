/-!
# Counts in decimal

Counts are written in ASCII decimal digits. Reading takes one leading plus sign and refuses a
value above a bound; the first place that cannot be read decides which fault is reported.
-/

namespace EdiSchema.Text

/-- Why a text is not a count. -/
inductive CountFault where
  /-- There is nothing to read. -/
  | empty
  /-- A character is not a digit. -/
  | notADigit
  /-- The digits so far already exceed the bound. -/
  | tooLarge
  deriving DecidableEq

/-- The wording of a fault. -/
def CountFault.message : CountFault → String
  | .empty => "cannot parse integer from empty string"
  | .notADigit => "invalid digit found in string"
  | .tooLarge => "number too large to fit in target type"

/-- The largest count that fits 32 bits. -/
def maxCount : Nat := 4294967295

/-- The largest count that fits 64 bits. -/
def maxCount64 : Nat := 18446744073709551615

/-- Reads digits from left to right onto the value so far. -/
def readDigits (bound : Nat) : Nat → List Char → Except CountFault Nat
  | value, [] => .ok value
  | value, c :: cs =>
    if !c.isDigit then .error .notADigit
    else
      let next := value * 10 + (c.toNat - '0'.toNat)
      if next ≤ bound then readDigits bound next cs else .error .tooLarge

/-- Reads a count of at most `bound`, after an optional plus sign. -/
def readCount (bound : Nat) : List Char → Except CountFault Nat
  | [] => .error .empty
  | ['+'] => .error .notADigit
  | '+' :: cs => readDigits bound 0 cs
  | cs => readDigits bound 0 cs

/-- Reads a count that fits 32 bits. -/
def readCount32 (cs : List Char) : Except CountFault UInt32 :=
  (readCount maxCount cs).map UInt32.ofNat

/-- A count in decimal, with zeros in front up to the width. -/
def padded (width n : Nat) : String :=
  let digits := Nat.toDigits 10 n
  String.ofList (List.replicate (width - digits.length) '0' ++ digits)

/-- A count in decimal. -/
def decimal (n : Nat) : String :=
  String.ofList (Nat.toDigits 10 n)

end EdiSchema.Text
