import EdiSchema.Text.HiddenTable

/-!
# Quoted text

Diagnostics show a piece of text between double quotes, on one line, with everything escaped that
would not be seen there.
-/

namespace EdiSchema.Text

/-- Whether a character would not be seen on a line. -/
def isHidden (c : Char) : Bool :=
  c.toNat < 0x20 || (0x7F ≤ c.toNat &&
    hiddenRanges.any fun (first, last) => first ≤ c.toNat && c.toNat ≤ last)

/-- A character as it stands between quotes. -/
def quoteChar : Char → List Char
  | '\x00' => ['\\', '0']
  | '\t' => ['\\', 't']
  | '\r' => ['\\', 'r']
  | '\n' => ['\\', 'n']
  | '"' => ['\\', '"']
  | '\\' => ['\\', '\\']
  | c =>
    if isHidden c then ['\\', 'u', '\x7b'] ++ Nat.toDigits 16 c.toNat ++ ['\x7d'] else [c]

/-- A string between double quotes, with hidden characters, quotes and backslashes escaped. -/
def quoted (s : String) : String :=
  String.ofList (['"'] ++ s.toList.flatMap quoteChar ++ ['"'])

end EdiSchema.Text
