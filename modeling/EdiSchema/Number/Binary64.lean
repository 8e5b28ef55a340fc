import EdiSchema.Text.Count

/-!
# Binary floating point

A JSON number with a fraction or an exponent, or outside the 64-bit integers, is kept as the
nearest 64-bit binary floating-point number. The arithmetic here is exact: numbers are quotients
of naturals until the one place where they are rounded, to the nearest and in a tie to the even
mantissa.

The text of such a number has the fewest digits that still determine it.
-/

namespace EdiSchema.Number

/-- The number `mantissa * 2 ^ exponent`, with a sign that zero has too. -/
structure Binary64 where
  negative : Bool
  mantissa : Nat
  exponent : Int
  deriving DecidableEq

namespace Binary64

/-- The quotient `num / den / 2 ^ e` as a pair of naturals. -/
def scaled (num den : Nat) (e : Int) : Nat × Nat :=
  if 0 ≤ e then (num, den * Nat.pow 2 e.toNat) else (num * Nat.pow 2 (-e).toNat, den)

/-- The quotient of two naturals rounded to the nearest natural, a tie to the even one. -/
def divNearest (num den : Nat) : Nat :=
  let q := num / den
  let twice := 2 * (num % den)
  if twice < den || (twice == den && q % 2 == 0) then q else q + 1

/-- The exponent at which a positive quotient has a mantissa of 53 bits, or the least exponent. -/
def exponentOf (num den : Nat) : Int :=
  let guess := (num.log2 : Int) - den.log2 - 52
  let (n, d) := scaled num den guess
  max (if n / d < Nat.pow 2 52 then guess - 1 else guess) (-1074)

/-- The number nearest to a quotient of naturals; nothing if it is too large. -/
def round? (negative : Bool) (num den : Nat) : Option Binary64 :=
  if num = 0 then some ⟨negative, 0, -1074⟩
  else
    let e := exponentOf num den
    let (n, d) := scaled num den e
    let m := divNearest n d
    let (m, e) := if m = Nat.pow 2 53 then (Nat.pow 2 52, e + 1) else (m, e)
    if 971 < e then none else some ⟨negative, m, e⟩

/-- The magnitude of a number as a quotient of naturals. -/
def quotient (x : Binary64) : Nat × Nat :=
  if 0 ≤ x.exponent then (x.mantissa * Nat.pow 2 x.exponent.toNat, 1)
  else (x.mantissa, Nat.pow 2 (-x.exponent).toNat)

/-- A number times a power of ten that is itself rounded first. -/
def timesPowerOfTen? (x : Binary64) (k : Nat) : Option Binary64 :=
  match round? false (Nat.pow 10 k) 1 with
  | none => none
  | some power =>
    let (n, d) := x.quotient
    let (pn, pd) := power.quotient
    round? x.negative (n * pn) (d * pd)

/-- A number divided by a power of ten that is itself rounded first. -/
def overPowerOfTen? (x : Binary64) (k : Nat) : Option Binary64 :=
  match round? false (Nat.pow 10 k) 1 with
  | none => none
  | some power =>
    let (n, d) := x.quotient
    let (pn, pd) := power.quotient
    round? x.negative (n * pd) (d * pn)

/-- The largest power of ten that is a finite number. -/
def largestPower : Nat := 308

/-- The number written as `significand * 10 ^ exponent`; nothing if it is too large. The powers
of ten beyond the largest finite one are divided out in steps. -/
def ofDecimal? (negative : Bool) (significand : Nat) (exponent : Int) : Option Binary64 :=
  (round? negative significand 1).bind fun x =>
    if 0 ≤ exponent then
      if exponent.toNat ≤ largestPower then x.timesPowerOfTen? exponent.toNat
      else if x.mantissa = 0 then some x else none
    else
      let down := (-exponent).toNat
      if down ≤ largestPower then x.overPowerOfTen? down
      else (x.overPowerOfTen? largestPower).bind fun y =>
        if down ≤ 2 * largestPower then y.overPowerOfTen? (down - largestPower)
        else some ⟨negative, 0, -1074⟩

/-- The number of digits before the decimal point of a positive quotient; zero or less if the
quotient is below one tenth. -/
def decimalLength (num den : Nat) : Int :=
  if den ≤ num then (Nat.toDigits 10 (num / den)).length
  else
    match (List.range 400).find? fun j => den ≤ num * Nat.pow 10 (j + 1) with
    | some j => -(j : Int)
    | none => 0

/-- Whether `digits * 10 ^ k` rounds to the number. -/
def determines (x : Binary64) (digits : Nat) (k : Int) : Bool :=
  let (num, den) := if 0 ≤ k then (digits * Nat.pow 10 k.toNat, 1) else (digits, Nat.pow 10 (-k).toNat)
  round? x.negative num den == some x

/-- Of the two decimals with `count` digits around a positive number, the nearer one that
determines it, as digits and exponent of ten. -/
def decimalOf? (x : Binary64) (count : Nat) : Option (Nat × Int) :=
  let (num, den) := x.quotient
  let k := decimalLength num den - count
  let (n, d) := if 0 ≤ k then (num, den * Nat.pow 10 k.toNat) else (num * Nat.pow 10 (-k).toNat, den)
  let low := n / d
  let nearer := if 2 * (n % d) ≤ d then [low, low + 1] else [low + 1, low]
  (nearer.find? (x.determines · k)).map fun digits => (digits, k)

/-- The fewest digits that determine a positive number, with their exponent of ten. -/
def shortest (x : Binary64) : Nat × Int :=
  ((List.range 17).findSome? fun i => x.decimalOf? (i + 1)).getD (0, 0)

/-- The digits and exponent of ten without trailing zeros of the digits. -/
def dropZeros : Nat → Nat → Int → Nat × Int
  | 0, digits, k => (digits, k)
  | fuel + 1, digits, k =>
    if digits ≠ 0 ∧ digits % 10 = 0 then dropZeros fuel (digits / 10) (k + 1) else (digits, k)

/-- The digits of a decimal with its point or exponent: positional from `0.00001` to below
`10 ^ 16`, always with a point there, and scientific elsewhere. -/
def layout (digits : List Char) (k : Int) : List Char :=
  let size : Int := digits.length
  let point := size + k
  if 0 ≤ k ∧ point ≤ 16 then digits ++ List.replicate k.toNat '0' ++ ['.', '0']
  else if 0 < point ∧ point ≤ 16 then
    digits.take point.toNat ++ ['.'] ++ digits.drop point.toNat
  else if -5 < point ∧ point ≤ 0 then
    ['0', '.'] ++ List.replicate (-point).toNat '0' ++ digits
  else
    let power := point - 1
    let exponent := (if power < 0 then ['-'] else []) ++ Nat.toDigits 10 power.natAbs
    match digits with
    | [d] => [d, 'e'] ++ exponent
    | d :: rest => [d, '.'] ++ rest ++ ['e'] ++ exponent
    | [] => []

/-- The text of a number. -/
def text (x : Binary64) : String :=
  let magnitude :=
    if x.mantissa = 0 then ['0', '.', '0']
    else
      let (digits, k) := x.shortest
      let (digits, k) := dropZeros 17 digits k
      layout (Nat.toDigits 10 digits) k
  String.ofList (if x.negative then '-' :: magnitude else magnitude)

end Binary64

end EdiSchema.Number
