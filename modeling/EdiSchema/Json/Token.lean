import EdiSchema.Json.Value
import EdiSchema.Text.Count

/-!
# JSON tokens

The tokens of a JSON text: brackets, commas, colons, words, numbers and strings. The scanner goes
over the text once, character by character.

A string with half of a surrogate pair, or a number too large for any number type, is a token but
has no value; whether that matters is for the reader of the tokens to say.
-/

namespace EdiSchema.Json

/-- A token of a JSON text. -/
inductive Token where
  | openArray
  | closeArray
  | openObject
  | closeObject
  | comma
  | colon
  | word (value : Json)
  | number (value : Option Json.Number)
  | text (value : Option String)

/-- Digits read onto a value for as long as they keep it at most `Text.maxCount64`, then the number
of digits read and the rest. -/
def readExact : Nat → Nat → List Char → Nat × Nat × List Char
  | value, count, [] => (value, count, [])
  | value, count, c :: cs =>
    let next := value * 10 + (c.toNat - '0'.toNat)
    if c.isDigit && next ≤ Text.maxCount64 then readExact next (count + 1) cs
    else (value, count, c :: cs)

/-- An exponent with its sign, if digits and nothing else are left. -/
def readExponent (cs : List Char) : Option Int :=
  let (negative, digits) := match cs with
    | '-' :: rest => (true, rest)
    | '+' :: rest => (false, rest)
    | rest => (false, rest)
  if digits.isEmpty || !digits.all Char.isDigit then none
  else
    let value : Int := digits.foldl (fun n c => n * 10 + (c.toNat - '0'.toNat)) 0
    some (if negative then -value else value)

/-- The number `significand * 10 ^ shift` with what may follow it, an exponent. -/
def readScaled (negative : Bool) (significand : Nat) (shift : Int) :
    List Char → Option (Option Json.Number)
  | [] => some ((Number.Binary64.ofDecimal? negative significand shift).map .binary)
  | c :: cs =>
    if c = 'e' ∨ c = 'E' then
      (readExponent cs).map fun exponent =>
        (Number.Binary64.ofDecimal? negative significand (shift + exponent)).map .binary
    else none

/-- A number that has digits after its point. -/
def readFraction (negative : Bool) (significand : Nat) (shift : Int) (cs : List Char) :
    Option (Option Json.Number) :=
  let (value, count, rest) := readExact significand 0 cs
  let (dropped, rest) := rest.span Char.isDigit
  if count = 0 ∧ dropped.isEmpty then none
  else readScaled negative value (shift - count) rest

/-- The number that a run of digits, signs, points and exponents stands for: nothing if it is
not a number, a number without a value if it is too large. -/
def readNumber (cs : List Char) : Option (Option Json.Number) :=
  let (negative, body) := match cs with
    | '-' :: rest => (true, rest)
    | rest => (false, rest)
  let (digits, _) := body.span Char.isDigit
  if digits.isEmpty || (digits.length > 1 && digits.head? == some '0') then none
  else
    let (value, _, rest) := readExact 0 0 body
    let (beyond, rest) := rest.span Char.isDigit
    match rest with
    | '.' :: fraction => readFraction negative value beyond.length fraction
    | [] =>
      if !beyond.isEmpty then readScaled negative value beyond.length []
      else if !negative then some (some (.natural value))
      else if value = 0 ∨ 9223372036854775808 < value then readScaled true value 0 []
      else some (some (.negative value))
    | rest => readScaled negative value beyond.length rest

/-- The value of a word. -/
def readWord (cs : List Char) : Option Json :=
  if cs = "null".toList then some .null
  else if cs = "true".toList then some (.bool true)
  else if cs = "false".toList then some (.bool false)
  else none

/-- A string as far as it has been read: its characters in reverse, whether all of them are
whole, and the first half of a surrogate pair that waits for its second half. -/
structure Partial where
  chars : List Char := []
  whole : Bool := true
  half : Option Nat := none

namespace Partial

/-- The string with one more character; a half pair before it stays unpaired. -/
def push (p : Partial) (c : Char) : Partial :=
  ⟨c :: p.chars, p.whole && p.half.isNone, none⟩

/-- The string with one more UTF-16 code unit. -/
def pushUnit (p : Partial) (unit : Nat) : Partial :=
  match p.half with
  | some high =>
    if 0xDC00 ≤ unit ∧ unit ≤ 0xDFFF then
      ⟨Char.ofNat (0x10000 + (high - 0xD800) * 0x400 + (unit - 0xDC00)) :: p.chars, p.whole, none⟩
    else if 0xD800 ≤ unit ∧ unit ≤ 0xDBFF then ⟨p.chars, false, some unit⟩
    else p.push (Char.ofNat unit)
  | none =>
    if 0xD800 ≤ unit ∧ unit ≤ 0xDBFF then { p with half := some unit }
    else if 0xDC00 ≤ unit ∧ unit ≤ 0xDFFF then { p with whole := false }
    else p.push (Char.ofNat unit)

/-- The finished string, if all of its characters are whole. -/
def finish (p : Partial) : Option String :=
  if p.whole && p.half.isNone then some (String.ofList p.chars.reverse) else none

end Partial

/-- The value of a hexadecimal digit. -/
def hexValue? (c : Char) : Option Nat :=
  if c.isDigit then some (c.toNat - '0'.toNat)
  else if 'a' ≤ c ∧ c ≤ 'f' then some (c.toNat - 'a'.toNat + 10)
  else if 'A' ≤ c ∧ c ≤ 'F' then some (c.toNat - 'A'.toNat + 10)
  else none

/-- The character that an escape of one letter stands for. -/
def escaped? (c : Char) : Option Char :=
  match c with
  | '"' => some '"'
  | '\\' => some '\\'
  | '/' => some '/'
  | 'b' => some '\x08'
  | 'f' => some '\x0c'
  | 'n' => some '\n'
  | 'r' => some '\r'
  | 't' => some '\t'
  | _ => none

/-- What the scanner is in the middle of: nothing, a word or number in reverse, a string, an
escape in it, or the hexadecimal digits of an escape with their count and value so far. -/
inductive Scan where
  | between
  | word (letters : List Char)
  | number (digits : List Char)
  | text (done : Partial)
  | escape (done : Partial)
  | hex (done : Partial) (count value : Nat)

/-- Whether a character belongs to a number token. -/
def isNumberChar (c : Char) : Bool :=
  c.isDigit || c == '-' || c == '+' || c == '.' || c == 'e' || c == 'E'

/-- Whether a character is blank between tokens. -/
def isSpace (c : Char) : Bool :=
  c == ' ' || c == '\t' || c == '\n' || c == '\r'

/-- A token of one character, if it is one. -/
def Token.ofChar? (c : Char) : Option Token :=
  if c = '[' then some .openArray
  else if c = ']' then some .closeArray
  else if c = '\x7b' then some .openObject
  else if c = '\x7d' then some .closeObject
  else if c = ',' then some .comma
  else if c = ':' then some .colon
  else none

/-- The scanner at a character that starts a token or lies between two; the tokens it completes
come before those of `done`, which are in reverse. -/
def scanStart (done : List Token) (c : Char) : Option (List Token × Scan) :=
  if isSpace c then some (done, .between)
  else if c = '"' then some (done, .text {})
  else if c = '-' || c.isDigit then some (done, .number [c])
  else if c.isLower then some (done, .word [c])
  else (Token.ofChar? c).map fun token => (token :: done, .between)

/-- One character of a JSON text. -/
def scanChar (done : List Token) (c : Char) : Scan → Option (List Token × Scan)
  | .between => scanStart done c
  | .word letters =>
    if c.isLower then some (done, .word (c :: letters))
    else (readWord letters.reverse).bind fun value => scanStart (.word value :: done) c
  | .number digits =>
    if isNumberChar c then some (done, .number (c :: digits))
    else (readNumber digits.reverse).bind fun value => scanStart (.number value :: done) c
  | .text s =>
    if c = '"' then some (.text s.finish :: done, .between)
    else if c = '\\' then some (done, .escape s)
    else if c.toNat < 0x20 then none
    else some (done, .text (s.push c))
  | .escape s =>
    if c = 'u' then some (done, .hex s 0 0)
    else (escaped? c).map fun char => (done, .text (s.push char))
  | .hex s count value =>
    (hexValue? c).map fun digit =>
      if count = 3 then (done, .text (s.pushUnit (value * 16 + digit)))
      else (done, .hex s (count + 1) (value * 16 + digit))

/-- Scans a text onto the tokens so far, which are in reverse. -/
def scanFrom : List Token → Scan → List Char → Option (List Token)
  | done, .between, [] => some done.reverse
  | done, .word letters, [] =>
    (readWord letters.reverse).map fun value => (Token.word value :: done).reverse
  | done, .number digits, [] =>
    (readNumber digits.reverse).map fun value => (Token.number value :: done).reverse
  | _, _, [] => none
  | done, scan, c :: cs =>
    (scanChar done c scan).bind fun (done, scan) => scanFrom done scan cs

/-- The tokens of a JSON text, if it consists of tokens. -/
def tokens? (cs : List Char) : Option (List Token) :=
  scanFrom [] .between cs

end EdiSchema.Json
