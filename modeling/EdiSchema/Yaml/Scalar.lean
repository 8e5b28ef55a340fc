import EdiSchema.Number.Binary64
import EdiSchema.Text.Count

/-!
# YAML scalars

A scalar is a text and whether it was written plain, without quotes or a block header. Only a plain
scalar can stand for something other than its text.

The rules here are those of the core schema: null, booleans, integers in four bases and decimal
numbers. A number with a needless leading zero is a text.
-/

namespace EdiSchema.Yaml

/-- A scalar as it was read. -/
structure Scalar where
  text : String
  plain : Bool
  deriving DecidableEq

/-- The value of a digit in a base up to sixteen. -/
def digit? (base : Nat) (c : Char) : Option Nat :=
  let value :=
    if c.isDigit then c.toNat - '0'.toNat
    else if 'a' ≤ c ∧ c ≤ 'f' then c.toNat - 'a'.toNat + 10
    else if 'A' ≤ c ∧ c ≤ 'F' then c.toNat - 'A'.toNat + 10
    else base
  if value < base then some value else none

/-- A run of digits in a base, at least one. -/
def digits? (base : Nat) (cs : List Char) : Option Nat :=
  if cs.isEmpty then none
  else cs.foldl (fun n c => do return (← n) * base + (← digit? base c)) (some 0)

/-- Whether a text is digits with a needless zero in front. -/
def hasSpareZero : List Char → Bool
  | '0' :: c :: cs => (c :: cs).all Char.isDigit
  | _ => false

/-- The magnitude of an integer without its sign. -/
def magnitude? : List Char → Option Nat
  | '0' :: 'x' :: cs => digits? 16 cs
  | '0' :: 'o' :: cs => digits? 8 cs
  | '0' :: 'b' :: cs => digits? 2 cs
  | cs => if hasSpareZero cs then none else digits? 10 cs

/-- A text without one plus sign in front. -/
def dropPlus : List Char → List Char
  | '+' :: cs => cs
  | cs => cs

/-- A text without one sign in front. -/
def dropSign : List Char → List Char
  | '-' :: cs => cs
  | cs => dropPlus cs

/-- The count that a scalar stands for. -/
def Scalar.count? (s : Scalar) : Option Nat :=
  if s.plain then (magnitude? (dropPlus s.text.toList)).filter (· ≤ Text.maxCount64) else none

/-- A decimal exponent, and nothing after it. -/
def exponent? : List Char → Option Int
  | [] => some 0
  | c :: cs =>
    if c = 'e' ∨ c = 'E' then
      (digits? 10 (dropSign cs)).map fun n => if cs.head? = some '-' then -(n : Int) else n
    else none

/-- Whether a text without its sign is a decimal number that is not too large. -/
def isDecimal (cs : List Char) : Bool :=
  let (whole, rest) := cs.span Char.isDigit
  let (fraction, rest) := match rest with
    | '.' :: rest => rest.span Char.isDigit
    | rest => ([], rest)
  match digits? 10 (whole ++ fraction), exponent? rest with
  | some n, some e => (Number.Binary64.ofDecimal? false n (e - fraction.length)).isSome
  | _, _ => false

/-- The words for the number that is above all others. -/
def infinityWords : List String := [".inf", ".Inf", ".INF"]

/-- The words for no number at all. -/
def undefinedWords : List String := [".nan", ".NaN", ".NAN"]

/-- Whether a plain text stands for a number. -/
def isNumber (text : String) : Bool :=
  let bare := dropSign text.toList
  (magnitude? bare).isSome || infinityWords.contains (String.ofList bare)
    || undefinedWords.contains text || (!hasSpareZero bare && isDecimal bare)

/-- Whether a text, in any case of its letters, is a word for null or for a boolean. -/
def isWord (text : String) : Bool :=
  ["null", "~", "true", "false"].contains (String.ofList (text.toList.map Char.toLower))

/-- Whether a text, written plain, could be taken for something other than a text. -/
def isAmbiguous (text : String) : Bool :=
  text.isEmpty || isWord text || hasSpareZero (dropSign text.toList) || isNumber text

end EdiSchema.Yaml
