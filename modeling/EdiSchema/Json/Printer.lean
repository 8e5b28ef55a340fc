import EdiSchema.Json.Value
import EdiSchema.Text.Count

/-!
# Writing JSON

A value is written either compactly, without any blank, or over several lines with two spaces for
each level of nesting. Members keep their order, so equal values have equal texts.
-/

namespace EdiSchema.Json

/-- The text of a number. -/
def Number.text : Json.Number → String
  | .natural n => Text.decimal n
  | .negative n => "-" ++ Text.decimal n
  | .binary x => x.text

/-- A hexadecimal digit. -/
def hexDigit (n : Nat) : Char :=
  Nat.digitChar n

/-- A character as it stands in a JSON string. -/
def escapeChar (c : Char) : List Char :=
  if c = '"' then ['\\', '"']
  else if c = '\\' then ['\\', '\\']
  else if 0x20 ≤ c.toNat then [c]
  else if c = '\n' then ['\\', 'n']
  else if c = '\r' then ['\\', 'r']
  else if c = '\t' then ['\\', 't']
  else if c.toNat = 8 then ['\\', 'b']
  else if c.toNat = 12 then ['\\', 'f']
  else ['\\', 'u', '0', '0', hexDigit (c.toNat / 16), hexDigit (c.toNat % 16)]

/-- A string between quotes. -/
def quote (s : String) : List Char :=
  ['"'] ++ s.toList.flatMap escapeChar ++ ['"']

/-- A scalar value; nothing for arrays and objects. -/
def scalar : Json → List Char
  | .null => "null".toList
  | .bool true => "true".toList
  | .bool false => "false".toList
  | .number n => n.text.toList
  | .text s => quote s
  | .array _ => []
  | .object _ => []

mutual
/-- A value without blanks. -/
def compactChars : Json → List Char
  | .array items => ['['] ++ compactItems items ++ [']']
  | .object members => ['\x7b'] ++ compactMembers members ++ ['\x7d']
  | other => scalar other

/-- The items of an array, separated by commas. -/
def compactItems : List Json → List Char
  | [] => []
  | [item] => compactChars item
  | item :: rest => compactChars item ++ [','] ++ compactItems rest

/-- The members of an object, separated by commas. -/
def compactMembers : List (String × Json) → List Char
  | [] => []
  | [(key, value)] => quote key ++ [':'] ++ compactChars value
  | (key, value) :: rest =>
    quote key ++ [':'] ++ compactChars value ++ [','] ++ compactMembers rest
end

/-- The value without blanks. -/
def compact (value : Json) : String :=
  String.ofList (compactChars value)

/-- The start of a line at a level of nesting. -/
def lineStart (level : Nat) : List Char :=
  '\n' :: List.replicate (2 * level) ' '

mutual
/-- A value over several lines, standing at a level of nesting. -/
def prettyChars (level : Nat) : Json → List Char
  | .array [] => ['[', ']']
  | .array (item :: rest) => ['['] ++ prettyItems (level + 1) (item :: rest) ++ lineStart level ++ [']']
  | .object [] => ['\x7b', '\x7d']
  | .object (member :: rest) =>
    ['\x7b'] ++ prettyMembers (level + 1) (member :: rest) ++ lineStart level ++ ['\x7d']
  | other => scalar other

/-- The items of an array, each on lines of its own. -/
def prettyItems (level : Nat) : List Json → List Char
  | [] => []
  | [item] => lineStart level ++ prettyChars level item
  | item :: rest => lineStart level ++ prettyChars level item ++ [','] ++ prettyItems level rest

/-- The members of an object, each on lines of its own. -/
def prettyMembers (level : Nat) : List (String × Json) → List Char
  | [] => []
  | [(key, value)] => lineStart level ++ quote key ++ [':', ' '] ++ prettyChars level value
  | (key, value) :: rest =>
    lineStart level ++ quote key ++ [':', ' '] ++ prettyChars level value ++ [','] ++
      prettyMembers level rest
end

/-- The value over several lines, two spaces for each level. -/
def pretty (value : Json) : String :=
  String.ofList (prettyChars 0 value)

end EdiSchema.Json
