import EdiSchema.Html.Table

/-!
# Reading a page

A page is read token by token into its tree. Whatever is written, the tree has a root element
with a head, and a body or a set of frames.

Drawings, formulas and templates have no rules of their own here: what is in them is read as it is
elsewhere in a body.
-/

namespace EdiSchema.Html

namespace Builder

/-- A token before the root element or the head: blank text is dropped, and any other token is
looked at again once the element has been opened. -/
def beforeElement (name : String) (next : Mode) (token : Token) (b : Builder) : Step :=
  let opened := (b.pushName name).inMode next
  match token with
  | .text content =>
    let rest := content.dropWhile isSpace
    if rest.isEmpty then b.done else (opened, some (.text rest))
  | .startTag tag _ =>
    if tag.name = name then ((b.push tag).inMode next).done else (opened, some token)
  | .endTag other =>
    if other ∈ ["head", "body", "html", "br"] then (opened, some token) else b.done
  | .endOfPage => (opened, some token)
  | _ => b.done

/-- A token before the head. -/
def beforeHead (token : Token) (b : Builder) : Step :=
  match token with
  | .startTag tag _ =>
    if tag.name = "html" then inBody token b else b.beforeElement "head" .inHead token
  | _ => b.beforeElement "head" .inHead token

/-- A token in the head, or after it and before the body; `leave` goes on to what follows. -/
def inHead (leave : Builder → Builder) (token : Token) (b : Builder) : Step :=
  match token with
  | .text content =>
    let (blank, rest) := content.span isSpace
    let b := b.addText blank
    if rest.isEmpty then b.done else (leave b, some (.text rest))
  | .startTag tag _ =>
    if tag.name = "html" then inBody token b
    else if tag.name = "head" then b.done
    else if tag.name ∈ emptyHeadNames then (b.addEmpty tag).done
    else if tag.name ∈ textHeadNames then (b.pushText tag).done
    else (leave b, some token)
  | .endTag name =>
    if name ∈ ["body", "html", "br"] then (leave b, some token) else b.done
  | .endOfPage => (leave b, some token)
  | _ => b.done

/-- Goes on from the head. -/
def leaveHead (b : Builder) : Builder :=
  b.pop.inMode .afterHead

/-- Goes on to the body. -/
def enterBody (b : Builder) : Builder :=
  (b.pushName "body").inMode .inBody

/-- A token after the head and before the body. -/
def afterHead (token : Token) (b : Builder) : Step :=
  match token with
  | .startTag tag _ =>
    if tag.name = "body" then ((b.keepBody.push tag).inMode .inBody).done
    else if tag.name = "frameset" then ((b.push tag).inMode .inFrameset).done
    else inHead enterBody token b
  | _ => inHead enterBody token b

/-- A token after the body or after the root element; content still goes into the body. -/
def afterBody (token : Token) (b : Builder) : Step :=
  match token with
  | .text content =>
    if content.all isSpace then inBody token b else (b.inMode .inBody, some token)
  | .startTag tag _ =>
    if tag.name = "html" then inBody token b else (b.inMode .inBody, some token)
  | .endTag name =>
    if name = "html" ∧ b.mode = .afterBody then (b.inMode .afterHtml).done
    else (b.inMode .inBody, some token)
  | _ => b.done

/-- A token in a set of frames, of which only blank text, frames and further sets are kept. -/
def inFrameset (token : Token) (b : Builder) : Step :=
  match token with
  | .text content => (b.addText (content.filter isSpace)).done
  | .startTag tag _ =>
    if tag.name = "html" then inBody token b
    else if tag.name = "frameset" then (b.push tag).done
    else if tag.name = "frame" then (b.addEmpty tag).done
    else if tag.name = "noframes" then (b.pushText tag).done
    else b.done
  | .endTag name =>
    if name = "frameset" ∧ 1 < b.frames.length then
      let outer := b.pop
      (if outer.current = "frameset" then outer else outer.inMode .afterFrameset).done
    else b.done
  | _ => b.done

/-- A token after the outermost set of frames, or after the root element around it; `text` says what
becomes of blank text. -/
def afterFrameset (text : List Char → Builder) (token : Token) (b : Builder) : Step :=
  match token with
  | .text content => (text (content.filter isSpace)).done
  | .startTag tag _ =>
    if tag.name = "html" then inBody token b
    else if tag.name = "noframes" then (b.pushText tag).done
    else b.done
  | .endTag name => (if name = "html" then b.inMode .afterFrames else b).done
  | _ => b.done

/-- One token in the mode of the page. -/
def step (token : Token) (b : Builder) : Step :=
  match b.mode with
  | .initial =>
    match token with
    | .comment => b.done
    | .doctype isOdd => { b with isOdd, mode := .beforeHtml }.done
    | .text content =>
      if content.all isSpace then b.done
      else ({ b with isOdd := true, mode := .beforeHtml }, some token)
    | _ => ({ b with isOdd := true, mode := .beforeHtml }, some token)
  | .beforeHtml => b.beforeElement "html" .beforeHead token
  | .beforeHead => b.beforeHead token
  | .inHead =>
    match token with
    | .endTag "head" => b.leaveHead.done
    | _ => inHead leaveHead token b
  | .afterHead => b.afterHead token
  | .inBody => inBody token b
  | .text outer => inText outer token b
  | .inTable => inTable token b
  | .inCaption => inCaption token b
  | .inColumns => inColumns token b
  | .inSection => inSection token b
  | .inRow => inRow token b
  | .inCell => inCell token b
  | .inSelect => inSelect token b
  | .inSelectInTable => inSelectInTable token b
  | .afterBody => b.afterBody token
  | .afterHtml => b.afterBody token
  | .inFrameset => b.inFrameset token
  | .afterFrameset => b.afterFrameset b.addText token
  | .afterFrames => b.afterFrameset b.reopenFormatting.addText token

/-- A token that is looked at up to a number of times. -/
def steps : Nat → Token → Builder → Builder
  | 0, _, b => b
  | n + 1, token, b =>
    match b.step token with
    | (b, none) => b
    | (b, some again) => steps n again b

/-- How often a token may be looked at: more than the longest way from one mode to another. -/
def stepLimit : Nat := 32

/-- A page with one more token. -/
def feed (b : Builder) (token : Token) : Builder :=
  let fresh := { b with dropsLineFeed := false }
  match b.dropsLineFeed, token with
  | true, .text ('\n' :: rest) => if rest.isEmpty then fresh else steps stepLimit (.text rest) fresh
  | _, _ => steps stepLimit token fresh

/-- How the content of the innermost open element is scanned. -/
def textMode (b : Builder) : TextMode :=
  match b.mode with
  | .text _ => .inside b.current
  | _ => if b.current = "plaintext" then .plain else .data

end Builder

/-- A page that is being read. -/
structure Reading where
  builder : Builder := {}
  scan : Scan := .text .data []

/-- A page of which one more character is read. After a start tag the scanner goes on as the content
of the element asks for, if the tag has opened one. -/
def Reading.next (reading : Reading) (c : Char) : Reading :=
  let (tokens, scan) := scanChar c reading.scan
  let builder := tokens.foldl Builder.feed reading.builder
  match tokens with
  | [.startTag ..] => { builder, scan := .text builder.textMode [] }
  | _ => { builder, scan }

/-- The tree of a page. -/
def Node.ofPage (page : String) : Node :=
  let reading := (scanned page).foldl Reading.next {}
  ((finishScan reading.scan).foldl Builder.feed reading.builder).finish

end EdiSchema.Html
