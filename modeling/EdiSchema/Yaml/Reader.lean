import EdiSchema.Yaml.Cursor

/-!
# Reading a flat mapping

Settings are one mapping from keys to scalars, in block form or between braces. This module reads
such a document with every form of scalar: plain, quoted, literal and folded, on one line or several,
also behind an anchor or a tag, or named by an alias.

A text that is no such document has no reading; an empty document is an empty mapping.
-/

namespace EdiSchema.Yaml

/-- Scalars by the names of their anchors, the latest first. -/
abbrev Anchors := List (String × Scalar)

/-- Whether a plain scalar may start with a character, given the one after it. -/
def startsPlain (flow : Bool) (c : Char) (next : Option Char) : Bool :=
  if c = '-' then !endsWord next
  else if c = '?' ∨ c = ':' then !flow && !endsWord next
  else !indicators.contains c && !endsWord (some c)

/-- A plain scalar that ends at a place, from its text in reverse. -/
def endPlain (text : List Char) (here : Cursor) : Option (Scalar × Cursor) :=
  some (⟨String.ofList text.reverse, true⟩, here)

/-- Reads a plain scalar, with its text so far in reverse. It ends before a comment, a document
mark, a colon that ends a word, a line that is not indented enough or, between braces, at what
separates members. -/
def readPlain (flow : Bool) (indent : Nat) :
    List Char → (line column : Nat) → Gap → (text : List Char) → Option (Scalar × Cursor)
  | [], line, column, _, text => endPlain text ⟨[], line, column⟩
  | c :: cs, line, column, gap, text =>
    let here : Cursor := ⟨c :: cs, line, column⟩
    let outside := gap.crossesLine && !flow && column < indent
    if c = '\n' then readPlain flow indent cs (line + 1) 0 gap.pushBreak text
    else if c = ' ' ∨ c = '\t' then
      if c = '\t' && gap.crossesLine && column < indent then none
      else readPlain flow indent cs line (column + 1) (gap.push c) text
    else if outside || here.isAtMark || (c = '#' && !gap.isNone) then endPlain text here
    else if c = ':' && flow && cs.head?.any [',', '?', '[', ']', '\x7b', '\x7d'].contains then none
    else if (c = ':' && endsWord cs.head?) || (flow && [',', '[', ']', '\x7b', '\x7d'].contains c) then
      endPlain text here
    else readPlain flow indent cs line (column + 1) .none (c :: (gap.fold ++ text))

/-- Reads the rest of a scalar between single quotes. -/
def readSingle :
    List Char → (line column : Nat) → Gap → (text : List Char) → Option (Scalar × Cursor)
  | [], _, _, _, _ => none
  | '\'' :: '\'' :: cs, line, column, gap, text =>
    readSingle cs line (column + 2) .none ('\'' :: (gap.fold ++ text))
  | '\'' :: cs, line, column, gap, text =>
    some (⟨String.ofList (gap.fold ++ text).reverse, false⟩, ⟨cs, line, column + 1⟩)
  | c :: cs, line, column, gap, text =>
    if (⟨c :: cs, line, column⟩ : Cursor).isAtMark then none
    else if c = '\n' then readSingle cs (line + 1) 0 gap.pushBreak text
    else if c = ' ' ∨ c = '\t' then readSingle cs line (column + 1) (gap.push c) text
    else readSingle cs line (column + 1) .none (c :: (gap.fold ++ text))

/-- The character that a short escape stands for. -/
def shortEscape? (c : Char) : Option Char :=
  if c = ' ' ∨ c = '/' then some c
  else if c = '\t' then some '\t'
  else (escapeLetters.find? fun entry => entry.2 == c).map fun entry => Char.ofNat entry.1

/-- The character with a number in hexadecimal digits, unless it is half of a surrogate pair or
beyond the last one. -/
def codePoint? (digits : List Char) : Option Char :=
  (digits? 16 digits).bind fun n =>
    if n.isValidChar then some (Char.ofNat n) else none

/-- Reads the rest of a scalar between double quotes. -/
def readDouble :
    List Char → (line column : Nat) → Gap → (text : List Char) → Option (Scalar × Cursor)
  | [], _, _, _, _ => none
  | '"' :: cs, line, column, gap, text =>
    some (⟨String.ofList (gap.fold ++ text).reverse, false⟩, ⟨cs, line, column + 1⟩)
  | '\\' :: '\n' :: cs, line, _, gap, text =>
    readDouble cs (line + 1) 0 (.breaks true 1) (gap.fold ++ text)
  | '\\' :: 'x' :: a :: b :: cs, line, column, gap, text =>
    (codePoint? [a, b]).bind fun c =>
      readDouble cs line (column + 4) .none (c :: (gap.fold ++ text))
  | '\\' :: 'u' :: a :: b :: c :: d :: cs, line, column, gap, text =>
    (codePoint? [a, b, c, d]).bind fun c =>
      readDouble cs line (column + 6) .none (c :: (gap.fold ++ text))
  | '\\' :: 'U' :: a :: b :: c :: d :: e :: f :: g :: h :: cs, line, column, gap, text =>
    (codePoint? [a, b, c, d, e, f, g, h]).bind fun c =>
      readDouble cs line (column + 10) .none (c :: (gap.fold ++ text))
  | '\\' :: c :: cs, line, column, gap, text =>
    (shortEscape? c).bind fun c =>
      readDouble cs line (column + 2) .none (c :: (gap.fold ++ text))
  | c :: cs, line, column, gap, text =>
    if c = '\\' || (⟨c :: cs, line, column⟩ : Cursor).isAtMark then none
    else if c = '\n' then readDouble cs (line + 1) 0 gap.pushBreak text
    else if c = ' ' ∨ c = '\t' then readDouble cs line (column + 1) (gap.push c) text
    else readDouble cs line (column + 1) .none (c :: (gap.fold ++ text))

/-- What becomes of the line ends at the end of a block scalar. -/
inductive Chomping where
  | strip
  | clip
  | keep
  deriving DecidableEq

/-- The header of a block scalar. -/
structure BlockHeader where
  folded : Bool
  chomping : Chomping := .clip
  indentation : Option Nat := none

/-- The chomping that a mark asks for. -/
def chompingOf? (c : Char) : Option Chomping :=
  if c = '+' then some .keep else if c = '-' then some .strip else none

/-- The indentation that a digit asks for. -/
def indentationOf? (c : Char) : Option Nat :=
  if '1' ≤ c ∧ c ≤ '9' then some (c.toNat - '0'.toNat) else none

/-- Reads the marks of a block header, in either order, each at most once. -/
def BlockHeader.read (folded : Bool) (cs : List Char) : BlockHeader × List Char :=
  match cs with
  | a :: b :: rest =>
    match chompingOf? a, indentationOf? b, indentationOf? a, chompingOf? b with
    | some chomping, some n, _, _ => (⟨folded, chomping, some n⟩, rest)
    | _, _, some n, some chomping => (⟨folded, chomping, some n⟩, rest)
    | some chomping, _, _, _ => (⟨folded, chomping, none⟩, b :: rest)
    | _, _, some n, _ => (⟨folded, .clip, some n⟩, b :: rest)
    | _, _, _, _ => (⟨folded, .clip, none⟩, cs)
  | [a] =>
    match chompingOf? a, indentationOf? a with
    | some chomping, _ => (⟨folded, chomping, none⟩, [])
    | _, some n => (⟨folded, .clip, some n⟩, [])
    | _, _ => (⟨folded, .clip, none⟩, cs)
  | [] => (⟨folded, .clip, none⟩, [])

/-- The rest of a text after the header line of a block scalar, which may end in a comment. -/
def afterHeader? (cs : List Char) : Option (List Char) :=
  let rest := cs.dropWhile fun c => c = ' ' || c = '\t'
  match rest with
  | [] => some []
  | '\n' :: rest => some rest
  | '#' :: rest => some ((rest.dropWhile (· != '\n')).drop 1)
  | _ => none

/-- The indentation that the first lines of a block scalar show: that of the first line with text,
unless a blank line before it is longer. A tab in front of the text is refused. -/
def shownIndentation : Nat → List (List Char) → Option Nat
  | deepest, [] => some deepest
  | deepest, line :: lines =>
    let depth := (line.takeWhile (· == ' ')).length
    match line.drop depth with
    | [] => shownIndentation (max deepest depth) lines
    | c :: _ => if c = '\t' then none else some (max deepest depth)

/-- A block scalar as far as it has been read: its text in reverse, the number of line ends since
then, and whether the last line started with a blank. -/
structure BlockText where
  text : List Char := []
  broken : Bool := false
  empty : Nat := 0
  wasBlank : Bool := false

/-- A block scalar with one more line that has text. -/
def BlockText.push (folded : Bool) (b : BlockText) (line : List Char) (closed : Bool) : BlockText :=
  let isBlank := line.head?.any fun c => c = ' ' || c = '\t'
  let first :=
    if !b.broken then []
    else if folded && !b.wasBlank && !isBlank then (if b.empty = 0 then [' '] else [])
    else ['\n']
  ⟨line.reverse ++ List.replicate b.empty '\n' ++ first ++ b.text, closed, 0, isBlank⟩

/-- The finished text of a block scalar. -/
def BlockText.finish (chomping : Chomping) (b : BlockText) : String :=
  let last := if b.broken && chomping != .strip then ['\n'] else []
  let more := if chomping = .keep then List.replicate b.empty '\n' else []
  String.ofList (more ++ last ++ b.text).reverse

/-- Reads the lines of a block scalar up to one that is not indented enough, and counts them. A line
with nothing but spaces is empty; the last line of a text has no line end. -/
def readBlockLines (folded : Bool) (indent : Nat) :
    (count : Nat) → BlockText → List (List Char) → Option (BlockText × Nat)
  | count, b, [] => some (b, count)
  | count, b, line :: lines =>
    let depth := min indent (line.takeWhile (· == ' ')).length
    match line.drop depth with
    | [] =>
      if lines.isEmpty then some (b, count)
      else readBlockLines folded indent (count + 1) { b with empty := b.empty + 1 } lines
    | c :: cs =>
      if depth = indent then
        readBlockLines folded indent (count + 1) (b.push folded (c :: cs) !lines.isEmpty) lines
      else if c = '\t' then none
      else some (b, count)

/-- Reads a block scalar inside a mapping at column `indent`, from its mark on. -/
def readBlock (indent : Nat) (here : Cursor) : Option (Scalar × Cursor) := do
  let (header, rest) := BlockHeader.read (here.rest.head? = some '>') (here.rest.drop 1)
  let rest ← afterHeader? rest
  let lines := rest.splitOn '\n'
  let depth ← match header.indentation with
    | some n => some (indent + n)
    | none => (shownIndentation 0 lines).map (max (indent + 1))
  let (text, count) ← readBlockLines header.folded depth 0 {} lines
  let left := List.intercalate ['\n'] (lines.drop count)
  return (⟨text.finish header.chomping, false⟩, ⟨left, here.line + 1 + count, 0⟩)

/-- Reads a scalar without properties. Block scalars occur outside braces only. -/
def readScalar (flow : Bool) (indent : Nat) (here : Cursor) : Option (Scalar × Cursor) :=
  match here.rest with
  | [] => none
  | '\'' :: cs => readSingle cs here.line (here.column + 1) .none []
  | '"' :: cs => readDouble cs here.line (here.column + 1) .none []
  | c :: cs =>
    if !flow && (c = '|' || c = '>') then readBlock indent here
    else if startsPlain flow c cs.head? then
      readPlain flow (if flow then 0 else indent + 1) (c :: cs) here.line here.column .none []
    else none

/-- Whether a character may occur in the name of an anchor. -/
def isNameChar (c : Char) : Bool :=
  c.isAlphanum || c = '_' || c = '-'

/-- The characters that may follow a name although they are no blanks. -/
def nameEnds : List Char :=
  ['?', ':', ',', ']', '\x7d', '%', '@', '\x60']

/-- Reads the name of an anchor or alias after its mark. -/
def readName (here : Cursor) : Option (String × Cursor) :=
  let (name, rest) := (here.rest.drop 1).span isNameChar
  let ends := endsWord rest.head? || rest.head?.any nameEnds.contains
  if name.isEmpty || !ends then none else some (String.ofList name, here.skip (1 + name.length))

/-- The properties in front of a scalar. -/
structure Properties where
  anchor : Option String := none
  tagged : Bool := false

/-- Reads the properties in front of a scalar, an anchor and a tag at most; `fuel` bounds them. -/
def readProperties (flow : Bool) :
    (fuel : Nat) → Properties → Cursor → Option (Properties × Cursor)
  | 0, found, here => some (found, here)
  | fuel + 1, found, here =>
    match here.rest with
    | '&' :: _ =>
      if found.anchor.isSome then none
      else (readName here).bind fun (name, rest) =>
        readProperties flow fuel { found with anchor := some name } (rest.toNext flow)
    | '!' :: cs =>
      if found.tagged then none
      else
        let tag := cs.takeWhile fun c => !endsWord (some c) && !(flow && c = ',')
        let rest := here.skip (1 + tag.length)
        readProperties flow fuel { found with tagged := true } (rest.toNext flow)
    | _ => some (found, here)

/-- Reads the value of a key, after its colon: an alias, or a scalar behind its properties, or
nothing before the member ends, which is an empty plain scalar. -/
def readValue (flow : Bool) (indent : Nat) (anchors : Anchors) (here : Cursor) :
    Option (Scalar × Anchors × Cursor) := do
  let (found, start) ← readProperties flow 2 {} (here.toNext flow)
  let ends := start.rest.isEmpty || start.isAtMark
    || (if flow then start.rest.head?.any [',', '\x7d'].contains
        else start.column ≤ indent)
  let (value, rest) ←
    if ends then some (⟨"", true⟩, start)
    else if start.rest.head? = some '*' then
      if found.anchor.isSome || found.tagged then none
      else (readName start).bind fun (name, rest) => (anchors.lookup name).map (·, rest)
    else readScalar flow indent start
  return (value, (found.anchor.map (·, value)).toList ++ anchors, rest)

/-- Reads a key and its colon, which stand on one line. Between braces a key may lack its colon and
its value. -/
def readKey (flow : Bool) (here : Cursor) : Option (String × Cursor) := do
  let (key, rest) ← readScalar flow 0 here
  let rest := rest.toNext flow
  match rest.rest with
  | ':' :: cs =>
    if rest.line = here.line && (flow || endsWord cs.head?) then return (key.text, rest.skip 1)
    else none
  | c :: _ => if flow && (c = ',' || c = '\x7d') then return (key.text, rest) else none
  | [] => none

/-- Reads the members of a mapping in block form, whose keys stand at column `indent`. -/
def readBlockMapping (indent : Nat) :
    (fuel : Nat) → Anchors → Cursor → Option (List (String × Scalar) × Cursor)
  | 0, _, _ => none
  | fuel + 1, anchors, here =>
    let start := here.toNext false
    if start.rest.isEmpty || start.isAtMark then some ([], start)
    else if start.column ≠ indent then none
    else do
      let (key, rest) ← readKey false start
      let (value, anchors, rest) ← readValue false indent anchors rest
      let (members, rest) ← readBlockMapping indent fuel anchors rest
      return ((key, value) :: members, rest)

/-- Reads the members of a mapping between braces, after the opening one. -/
def readFlowMapping :
    (fuel : Nat) → Anchors → Cursor → Option (List (String × Scalar) × Cursor)
  | 0, _, _ => none
  | fuel + 1, anchors, here =>
    let start := here.toNext true
    if start.rest.head? = some '\x7d' then some ([], start.skip 1)
    else do
      let (key, rest) ← readKey true start
      let (value, anchors, rest) ← readValue true 0 anchors rest
      let next := rest.toNext true
      match next.rest with
      | ',' :: _ =>
        let (members, rest) ← readFlowMapping fuel anchors (next.skip 1)
        return ((key, value) :: members, rest)
      | '\x7d' :: _ => return ([(key, value)], next.skip 1)
      | _ => none

/-- Whether nothing but marks for the end of a document is left. -/
def isOver : (fuel : Nat) → Cursor → Bool
  | 0, _ => false
  | fuel + 1, here =>
    let next := here.toNext false
    next.rest.isEmpty || (next.isAtMark && next.rest.head? = some '.' && isOver fuel (next.skip 3))

/-- Reads the one document of a text; `marked` is the line of its start mark, if it has one. -/
def readDocument (marked : Option Nat) (start : Cursor) : Option (List (String × Scalar)) := do
  let fuel := start.rest.length + 1
  let (members, rest) ←
    match start.rest with
    | [] => some ([], start)
    | '\x7b' :: _ => readFlowMapping fuel [] (start.skip 1)
    | _ =>
      if start.isAtMark then some ([], start)
      else if marked = some start.line then none
      else readBlockMapping start.column fuel [] start
  if isOver fuel rest then return members else none

/-- The members of a flat mapping in the order of a text, repeated keys included; nothing if the
text is not one document that holds such a mapping, or none. -/
def read (text : String) : Option (List (String × Scalar)) := do
  let start ← Cursor.ofText? text
  let first := Cursor.skim false false false start.rest 0 0
  if first.isAtMark && first.rest.head? = some '-' then
    readDocument (some first.line) ((first.skip 3).toNext false)
  else readDocument none first

end EdiSchema.Yaml
