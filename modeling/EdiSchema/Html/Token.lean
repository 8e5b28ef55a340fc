import EdiSchema.Html.Doctype
import EdiSchema.Html.Node
import EdiSchema.Html.Reference

/-!
# Page tokens

The tags and texts of a page in order. The scanner goes over the page once, character by
character, and never fails: what is no tag is text, and what is never finished is dropped.

The content of some elements is not scanned for tags: it is text up to the end tag of the
element, and only in a title or text area are character references replaced. Whether a start tag
opens such an element depends on where it stands, so this is not for the scanner to say: it goes on
as it is told after each start tag.
-/

namespace EdiSchema.Html

/-- A token of a page. -/
inductive Token where
  /-- A document type; a page with an odd one is laid out by older rules. -/
  | doctype (isOdd : Bool)
  | startTag (tag : Tag) (selfClosing : Bool)
  | endTag (name : String)
  | comment
  | text (content : List Char)
  | endOfPage

/-- Whether a script has opened a comment, and in it another script. -/
inductive ScriptDepth where
  | plain
  | comment
  | nested
  deriving DecidableEq

/-- How text is scanned. -/
inductive TextMode where
  /-- Text between tags. -/
  | data
  /-- Text up to an end tag, with character references. -/
  | escapable (name : String)
  /-- Text up to an end tag. -/
  | raw (name : String)
  /-- Text up to the end tag of a script. -/
  | script (depth : ScriptDepth)
  /-- Text up to the end of the page. -/
  | plain

/-- How the content of an element is scanned. -/
def TextMode.inside (name : String) : TextMode :=
  if name ∈ ["title", "textarea"] then .escapable name
  else if name ∈ ["style", "xmp", "iframe", "noembed", "noframes", "noscript"] then .raw name
  else if name = "script" then .script .plain
  else if name = "plaintext" then .plain
  else .data

/-- A tag as far as it has been scanned, its name and attributes in reverse. -/
structure OpenTag where
  isEnd : Bool
  name : List Char
  attributes : List (String × String) := []

/-- What the scanner is in the middle of. Characters seen so far are in reverse. -/
inductive Scan where
  | text (mode : TextMode) (seen : List Char)
  /-- After `<`, which is text again unless a tag follows. -/
  | less (before : List Char)
  /-- After `</`, which is text again if the page ends. -/
  | lessSlash (before : List Char)
  | tagName (tag : OpenTag)
  | beforeAttribute (tag : OpenTag)
  | attributeName (tag : OpenTag) (name : List Char)
  | afterAttributeName (tag : OpenTag) (name : List Char)
  | beforeValue (tag : OpenTag) (name : List Char)
  | value (tag : OpenTag) (name : List Char) (quote : Option Char) (seen : List Char)
  | afterValue (tag : OpenTag)
  /-- After a slash in a tag. -/
  | slash (tag : OpenTag)
  /-- After `<!`, as long as it may still become a comment or a document type. -/
  | declaration (seen : List Char)
  | comment (seen : List Char)
  /-- A declaration of another kind, which ends at the first `>`. -/
  | otherDeclaration
  | doctype (seen : List Char)

/-- Text as a token, unless there is none. -/
def textTokens (mode : TextMode) (seen : List Char) : List Token :=
  let noNull := seen.reverse.map fun c => if c = '\x00' then replacement else c
  let content := match mode with
    | .data => decode false (seen.reverse.filter (· != '\x00'))
    | .escapable _ => decode false noNull
    | _ => noNull
  if content.isEmpty then [] else [.text content]

/-- A character of a name, in lower case. -/
def nameChar (c : Char) : Char :=
  if c = '\x00' then replacement else c.toLower

/-- The tag with one more attribute, unless it has one of that name. -/
def OpenTag.add (tag : OpenTag) (name value : List Char) : OpenTag :=
  let key := String.ofList name.reverse
  if (tag.attributes.lookup key).isSome then tag
  else { tag with attributes := (key, String.ofList (decode true value.reverse)) :: tag.attributes }

/-- The token of a tag. -/
def OpenTag.token (tag : OpenTag) (selfClosing : Bool) : Token :=
  let name := String.ofList tag.name.reverse
  if tag.isEnd then .endTag name else .startTag ⟨name, tag.attributes.reverse⟩ selfClosing

/-- A tag is complete. -/
def finishTag (tag : OpenTag) (selfClosing : Bool) : List Token × Scan :=
  ([tag.token selfClosing], .text .data [])

/-- Whether the characters seen end in a tag with a name that is not finished yet. -/
def endsInTag (start : List Char) (name : String) (seen : List Char) : Bool :=
  let tail := (start ++ name.toList).reverse
  (seen.take tail.length).map Char.toLower == tail

/-- Whether a character finishes the name of a tag. -/
def finishesName (c : Char) : Bool :=
  isSpace c || c == '/' || c == '>'

/-- The scanner after the name of a tag, at the character that finishes it. -/
def scanNameEnd (c : Char) (tag : OpenTag) : List Token × Scan :=
  if c = '>' then finishTag tag false
  else if c = '/' then ([], .slash tag)
  else ([], .beforeAttribute tag)

/-- The end tag of an element whose content is text, at the character that finishes its name. -/
def scanTextEnd (c : Char) (mode : TextMode) (name : String) (seen : List Char) :
    List Token × Scan :=
  let (tokens, scan) := scanNameEnd c { isEnd := true, name := name.toList.reverse }
  (textTokens mode (seen.drop (name.length + 2)) ++ tokens, scan)

/-- The depth in a script after one more character. -/
def ScriptDepth.next (depth : ScriptDepth) (seen : List Char) (c : Char) : ScriptDepth :=
  match depth with
  | .plain => if c = '-' ∧ ['-', '!', '<'].isPrefixOf seen then .comment else .plain
  | .comment =>
    if c = '>' ∧ ['-', '-'].isPrefixOf seen then .plain
    else if finishesName c ∧ endsInTag ['<'] "script" seen then .nested
    else .comment
  | .nested =>
    if c = '>' ∧ ['-', '-'].isPrefixOf seen then .plain
    else if finishesName c ∧ endsInTag ['<', '/'] "script" seen then .comment
    else .nested

/-- One character of text. -/
def scanText (c : Char) (mode : TextMode) (seen : List Char) : List Token × Scan :=
  match mode with
  | .data => ([], if c = '<' then .less seen else .text .data (c :: seen))
  | .plain => ([], .text .plain (c :: seen))
  | .escapable name | .raw name =>
    if finishesName c && endsInTag ['<', '/'] name seen then scanTextEnd c mode name seen
    else ([], .text mode (c :: seen))
  | .script depth =>
    if depth != .nested && finishesName c && endsInTag ['<', '/'] "script" seen then
      scanTextEnd c mode "script" seen
    else ([], .text (.script (depth.next seen c)) (c :: seen))

/-- The scanner between the attributes of a tag. -/
def scanAttribute (c : Char) (tag : OpenTag) : List Token × Scan :=
  if isSpace c then ([], .beforeAttribute tag)
  else if c = '/' then ([], .slash tag)
  else if c = '>' then finishTag tag false
  else ([], .attributeName tag [nameChar c])

/-- One character of the value of an attribute. -/
def scanValue (c : Char) (tag : OpenTag) (name : List Char) (quote : Option Char)
    (seen : List Char) : List Token × Scan :=
  match quote with
  | some q =>
    ([], if c = q then .afterValue (tag.add name seen) else .value tag name quote (c :: seen))
  | none =>
    if isSpace c then ([], .beforeAttribute (tag.add name seen))
    else if c = '>' then finishTag (tag.add name seen) false
    else ([], .value tag name none (c :: seen))

/-- Whether a comment with the characters seen ends at a `>`. -/
def endsComment (seen : List Char) : Bool :=
  seen.isEmpty || seen == ['-'] || ['-', '-'].isPrefixOf seen || ['!', '-', '-'].isPrefixOf seen

/-- One character after `<!`. -/
def scanDeclaration (c : Char) (seen : List Char) : List Token × Scan :=
  let word := (c.toLower :: seen).reverse
  if word = ['-', '-'] then ([], .comment [])
  else if word = "doctype".toList then ([], .doctype [])
  else if word.isPrefixOf ['-', '-'] || word.isPrefixOf "doctype".toList then
    ([], .declaration (c.toLower :: seen))
  else if c = '>' then ([.comment], .text .data [])
  else ([], .otherDeclaration)

/-- One character of a page: the tokens that it finishes, and what the scanner is in then. -/
def scanChar (c : Char) : Scan → List Token × Scan
  | .text mode seen => scanText c mode seen
  | .less before =>
    if c.isAlpha then
      (textTokens .data before, .tagName { isEnd := false, name := [c.toLower] })
    else if c = '/' then ([], .lessSlash before)
    else if c = '!' then (textTokens .data before, .declaration [])
    else if c = '?' then (textTokens .data before, .otherDeclaration)
    else scanText c .data ('<' :: before)
  | .lessSlash before =>
    if c.isAlpha then
      (textTokens .data before, .tagName { isEnd := true, name := [c.toLower] })
    else if c = '>' then ([], .text .data before)
    else (textTokens .data before, .otherDeclaration)
  | .tagName tag =>
    if finishesName c then scanNameEnd c tag
    else ([], .tagName { tag with name := nameChar c :: tag.name })
  | .beforeAttribute tag => scanAttribute c tag
  | .attributeName tag name =>
    if isSpace c then ([], .afterAttributeName tag name)
    else if c = '=' then ([], .beforeValue tag name)
    else if finishesName c then scanNameEnd c (tag.add name [])
    else ([], .attributeName tag (nameChar c :: name))
  | .afterAttributeName tag name =>
    if isSpace c then ([], .afterAttributeName tag name)
    else if c = '=' then ([], .beforeValue tag name)
    else scanAttribute c (tag.add name [])
  | .beforeValue tag name =>
    if isSpace c then ([], .beforeValue tag name)
    else if c = '"' ∨ c = '\'' then ([], .value tag name (some c) [])
    else if c = '>' then finishTag (tag.add name []) false
    else ([], .value tag name none [c])
  | .value tag name quote seen => scanValue c tag name quote seen
  | .afterValue tag => scanAttribute c tag
  | .slash tag => if c = '>' then finishTag tag true else scanAttribute c tag
  | .declaration seen => scanDeclaration c seen
  | .comment seen =>
    if c = '>' && endsComment seen then ([.comment], .text .data [])
    else ([], .comment (c :: seen))
  | .otherDeclaration =>
    if c = '>' then ([.comment], .text .data []) else ([], .otherDeclaration)
  | .doctype seen =>
    if c = '>' then ([.doctype (isOddDoctype seen.reverse)], .text .data [])
    else ([], .doctype (c :: seen))

/-- The last tokens of a page that ends while the scanner is in the middle of something. -/
def finishScan : Scan → List Token
  | .text mode seen => textTokens mode seen ++ [.endOfPage]
  | .less before => textTokens .data ('<' :: before) ++ [.endOfPage]
  | .lessSlash before => textTokens .data ('/' :: '<' :: before) ++ [.endOfPage]
  | .declaration _ => [.comment, .endOfPage]
  | .comment _ => [.comment, .endOfPage]
  | .otherDeclaration => [.comment, .endOfPage]
  | .doctype _ => [.doctype true, .endOfPage]
  | _ => [.endOfPage]

/-- A page with every line end as a line feed. -/
def unifyLineEnds : List Char → List Char
  | [] => []
  | '\r' :: '\n' :: cs => '\n' :: unifyLineEnds cs
  | c :: cs => (if c = '\r' then '\n' else c) :: unifyLineEnds cs

/-- A page without the mark of byte order that may stand in front of it. -/
def dropByteOrderMark : List Char → List Char
  | [] => []
  | c :: cs => if c = Char.ofNat 0xFEFF then cs else c :: cs

/-- The characters of a page as they are scanned. -/
def scanned (page : String) : List Char :=
  unifyLineEnds (dropByteOrderMark page.toList)

end EdiSchema.Html
