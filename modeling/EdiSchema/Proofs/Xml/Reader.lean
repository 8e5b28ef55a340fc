import Mathlib.Data.Nat.Notation

/-!
# Reading XML

A reader for the part of XML that has elements, attributes between double quotes, text, comments
and the five predefined references. It knows nothing of how documents are written: a document is
cut into tokens character by character, and tokens are put together over a stack of open elements.

Comments vanish, and so does text that consists of blanks. Everything else is kept as it stands,
line ends in attribute values included.
-/

namespace EdiSchema.Xml

/-- A piece of a document. -/
inductive Tree where
  | element (name : String) (attributes : List (String × String)) (content : List Tree)
  | text (text : String)

namespace Tree

/-- The name of an element. -/
def name : Tree → String
  | .element name _ _ => name
  | .text _ => ""

/-- The value of an attribute of an element. -/
def attribute? (key : String) : Tree → Option String
  | .element _ attributes _ => attributes.lookup key
  | .text _ => none

/-- What stands in an element. -/
def content : Tree → List Tree
  | .element _ _ content => content
  | .text _ => []

end Tree

/-- A token of a document: a tag, or the text between two tags. -/
inductive Token where
  | start (name : String) (attributes : List (String × String))
  | stop (name : String)
  /-- The tag of an element without content. -/
  | empty (name : String) (attributes : List (String × String))
  | text (text : String)

section Characters

/-- Whether a character is white space. -/
def isSpace (c : Char) : Bool :=
  c == ' ' || c == '\t' || c == '\n' || c == '\r'

/-- Whether a name may start with a character; only names in ASCII are read. -/
def isNameStart (c : Char) : Bool :=
  c.isAlpha || c == '_' || c == ':'

/-- Whether a character may stand in a name. -/
def isNameChar (c : Char) : Bool :=
  isNameStart c || c.isDigit || c == '-' || c == '.'

/-- A text with its references replaced, if each is one of the predefined. -/
def unescape? : List Char → Option (List Char)
  | [] => some []
  | '&' :: 'a' :: 'm' :: 'p' :: ';' :: cs => (unescape? cs).map ('&' :: ·)
  | '&' :: 'l' :: 't' :: ';' :: cs => (unescape? cs).map ('<' :: ·)
  | '&' :: 'g' :: 't' :: ';' :: cs => (unescape? cs).map ('>' :: ·)
  | '&' :: 'q' :: 'u' :: 'o' :: 't' :: ';' :: cs => (unescape? cs).map ('"' :: ·)
  | '&' :: 'a' :: 'p' :: 'o' :: 's' :: ';' :: cs => (unescape? cs).map ('\'' :: ·)
  | '&' :: _ => none
  | c :: cs => (unescape? cs).map (c :: ·)

end Characters

section Tokens

/-- A tag as far as it has been read, its attributes in reverse. -/
structure OpenTag where
  name : String
  attributes : List (String × String) := []

/-- A tag with one more attribute, whose name and value are in reverse and as they are written. -/
def OpenTag.push? (tag : OpenTag) (key value : List Char) : Option OpenTag :=
  (unescape? value.reverse).map fun value =>
    { tag with attributes :=
        (String.ofList key.reverse, String.ofList value) :: tag.attributes }

/-- The token of a tag, unless an attribute stands there twice. -/
def OpenTag.token? (tag : OpenTag) (token : String → List (String × String) → Token) :
    Option Token :=
  if (tag.attributes.map Prod.fst).Nodup then some (token tag.name tag.attributes.reverse)
  else none

/-- What the scanner is in the middle of. Names, values and texts that are being read are in
reverse. -/
inductive Scan where
  /-- Between two tags. -/
  | content (text : List Char)
  /-- Behind the character that opens a tag or comment. -/
  | markup
  | startName (name : List Char)
  | stopName (name : List Char)
  /-- In a tag, where an attribute may start. -/
  | inTag (tag : OpenTag)
  | key (tag : OpenTag) (key : List Char)
  /-- Behind the name of an attribute and the equals sign. -/
  | equals (tag : OpenTag) (key : List Char)
  | value (tag : OpenTag) (key value : List Char)
  /-- Behind the value of an attribute. -/
  | behindValue (tag : OpenTag)
  /-- Behind the slash in the tag of an element without content. -/
  | slash (tag : OpenTag)
  /-- Before a comment, behind the exclamation mark and some hyphens. -/
  | opening (hyphens : ℕ)
  /-- In a comment, behind some hyphens. -/
  | comment (hyphens : ℕ)

/-- The tokens so far with the text before a tag, which does not count if it is blank. -/
def flush? (done : List Token) (text : List Char) : Option (List Token) :=
  if text.all isSpace then some done
  else (unescape? text.reverse).map fun text => .text (String.ofList text) :: done

/-- A character behind the name or an attribute of a tag. -/
def scanTag (done : List Token) (tag : OpenTag) (c : Char) : Option (List Token × Scan) :=
  if isSpace c then some (done, .inTag tag)
  else if c = '/' then some (done, .slash tag)
  else if c = '>' then (tag.token? .start).map fun token => (token :: done, .content [])
  else none

/-- One character of a document; the tokens it completes come before those of `done`, which are in
reverse. -/
def scanChar (done : List Token) (c : Char) : Scan → Option (List Token × Scan)
  | .content text =>
    if c = '<' then (flush? done text).map fun done => (done, .markup)
    else some (done, .content (c :: text))
  | .markup =>
    if c = '/' then some (done, .stopName [])
    else if c = '!' then some (done, .opening 0)
    else if isNameStart c then some (done, .startName [c])
    else none
  | .startName name =>
    if isNameChar c then some (done, .startName (c :: name))
    else scanTag done { name := String.ofList name.reverse } c
  | .stopName name =>
    if isNameChar c then some (done, .stopName (c :: name))
    else if c = '>' then some (.stop (String.ofList name.reverse) :: done, .content [])
    else none
  | .inTag tag =>
    if isNameStart c then some (done, .key tag [c]) else scanTag done tag c
  | .key tag key =>
    if isNameChar c then some (done, .key tag (c :: key))
    else if c = '=' then some (done, .equals tag key)
    else none
  | .equals tag key => if c = '"' then some (done, .value tag key []) else none
  | .value tag key value =>
    if c = '"' then (tag.push? key value).map fun tag => (done, .behindValue tag)
    else if c = '<' then none
    else some (done, .value tag key (c :: value))
  | .behindValue tag => scanTag done tag c
  | .slash tag =>
    if c = '>' then (tag.token? .empty).map fun token => (token :: done, .content []) else none
  | .opening hyphens =>
    if c = '-' then some (done, if hyphens = 0 then .opening 1 else .comment 0) else none
  | .comment hyphens =>
    if hyphens = 2 then if c = '>' then some (done, .content []) else none
    else some (done, .comment (if c = '-' then hyphens + 1 else 0))

/-- Scans a document onto the tokens so far, which are in reverse. -/
def scanFrom : List Token → Scan → List Char → Option (List Token)
  | done, .content text, [] => (flush? done text).map List.reverse
  | _, _, [] => none
  | done, scan, c :: cs => (scanChar done c scan).bind fun (done, scan) => scanFrom done scan cs

/-- The tokens of a document, if it consists of tokens. -/
def tokens? (cs : List Char) : Option (List Token) :=
  scanFrom [] (.content []) cs

end Tokens

section Trees

/-- An element that is still open, with what stands before it in the element around it, in
reverse. -/
structure Frame where
  name : String
  attributes : List (String × String)
  before : List Tree

/-- Puts tokens together, given the open elements, innermost first, and the content of the
innermost one so far, in reverse. -/
def build : List Frame → List Tree → List Token → Option (List Tree)
  | [], content, [] => some content.reverse
  | _ :: _, _, [] => none
  | opened, content, .start name attributes :: rest =>
    build (⟨name, attributes, content⟩ :: opened) [] rest
  | opened, content, .empty name attributes :: rest =>
    build opened (.element name attributes [] :: content) rest
  | opened, content, .text text :: rest => build opened (.text text :: content) rest
  | [], _, .stop _ :: _ => none
  | innermost :: outer, content, .stop name :: rest =>
    if innermost.name = name then
      build outer (.element name innermost.attributes content.reverse :: innermost.before) rest
    else none

/-- The only element that a document consists of. -/
def root? : List Tree → Option Tree
  | [.element name attributes content] => some (.element name attributes content)
  | _ => none

/-- Reads a document of one element. -/
def read? (document : String) : Option Tree :=
  ((tokens? document.toList).bind (build [] [])).bind root?

end Trees

end EdiSchema.Xml
