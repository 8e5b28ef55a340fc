import EdiSchema.Html.Formatting
import EdiSchema.Html.Token

/-!
# The body of a page

What a tag or text does in the body. The rules of tables and selections fall back on these.
-/

namespace EdiSchema.Html.Builder

/-- A page after a token, and the token if it is to be looked at again. -/
abbrev Step := Builder × Option Token

/-- A token is done with. -/
def done (b : Builder) : Step := (b, none)

/-- Opens an element whose content is text. -/
def pushText (tag : Tag) (b : Builder) : Builder :=
  (b.push tag).inMode (.text b.mode)

/-- Opens an element, with a line feed at the start of its text dropped. -/
def pushDropping (tag : Tag) (b : Builder) : Builder :=
  { b.push tag with dropsLineFeed := true }

/-- Opens a heading. -/
def startHeading (tag : Tag) (b : Builder) : Builder :=
  let b := b.closeParagraph
  (if b.current ∈ headingNames then b.pop else b).push tag

/-- Opens a form, unless one is open. -/
def startForm (tag : Tag) (b : Builder) : Builder :=
  if b.form.isSome then b
  else
    let b := b.closeParagraph
    { b.push tag with form := some b.nextId }

/-- Closes the form that is open. -/
def endForm (b : Builder) : Builder :=
  match b.form with
  | none => b
  | some id =>
    let b := { b with form := none }
    if !b.isOpen ["form"] then b
    else
      let b := b.closeImplied ""
      if b.frames.head?.any fun frame => frame.id == id then b.pop else b.hide id

/-- Opens a link; an open one is ended first. -/
def startLink (tag : Tag) (b : Builder) : Builder :=
  let b := match b.findFormatting? "a" with
    | none => b
    | some (id, _) => ((b.endFormatting "a").forget id).hide id
  b.reopenFormatting.pushFormatting tag

/-- Opens text that is not to be broken; open text of that sort is ended first. -/
def startUnbroken (tag : Tag) (b : Builder) : Builder :=
  let b := b.reopenFormatting
  let b := if b.isOpen ["nobr"] then (b.endFormatting "nobr").reopenFormatting else b
  b.pushFormatting tag

/-- Opens a button; an open one is ended first. -/
def startButton (tag : Tag) (b : Builder) : Builder :=
  (b.closeElement ["button"]).reopenFormatting.push tag

/-- Opens a selection. -/
def startSelect (tag : Tag) (b : Builder) : Builder :=
  let mode := if b.mode ∈ [.inTable, .inCaption, .inSection, .inRow, .inCell]
    then Mode.inSelectInTable else .inSelect
  (b.reopenFormatting.push tag).inMode mode

/-- Opens an option or a group of options. -/
def startOption (tag : Tag) (b : Builder) : Builder :=
  (if b.current = "option" then b.pop else b).reopenFormatting.push tag

/-- Opens a part of an annotation. -/
def startAnnotation (but : String) (tag : Tag) (b : Builder) : Builder :=
  (if b.isOpen ["ruby"] then b.closeImplied but else b).push tag

/-- Opens an element without rules of its own. Only in a drawing or formula may it close
itself. -/
def startOther (tag : Tag) (selfClosing : Bool) (b : Builder) : Builder :=
  let inDrawing := b.frames.any fun frame => frame.isOneOf ["svg", "math"]
  let b := b.reopenFormatting
  if selfClosing && (inDrawing || tag.name ∈ ["svg", "math"]) then b.addEmpty tag else b.push tag

/-- Whether a tag is that of an input field that is not shown. -/
def isHiddenInput (tag : Tag) : Bool :=
  tag.name == "input" && (tag.attributes.lookup "type").any fun type =>
    type.toList.map Char.toLower == "hidden".toList

/-- Opens a set of frames in place of the body, with all that is in it, if the body may give way. -/
def startFrameset (tag : Tag) (b : Builder) : Builder :=
  match b.frames.reverse with
  | root :: body :: _ =>
    if b.mayHaveFrames ∧ body.name = "body" then
      ({ b with frames := [root] }.push tag).inMode .inFrameset
    else b
  | _ => b

/-- A start tag in the body. -/
def startInBody (tag : Tag) (selfClosing : Bool) (b : Builder) : Builder :=
  let name := tag.name
  if name = "html" then b.addRootAttributes tag.attributes
  else if name = "body" then b.addBodyAttributes tag.attributes
  else if name ∈ emptyHeadNames then b.addEmpty tag
  else if name ∈ textHeadNames then b.pushText tag
  else if name = "p" ∨ name = "plaintext" ∨ name ∈ blockNames then b.closeParagraph.push tag
  else if name ∈ headingNames then b.startHeading tag
  else if name = "pre" ∨ name = "listing" then b.closeParagraph.pushDropping tag
  else if name = "form" then b.startForm tag
  else if name = "li" then (b.closeItem ["li"]).closeParagraph.push tag
  else if name = "dd" ∨ name = "dt" then (b.closeItem ["dd", "dt"]).closeParagraph.push tag
  else if name = "button" then b.startButton tag
  else if name = "a" then b.startLink tag
  else if name ∈ formattingNames then b.reopenFormatting.pushFormatting tag
  else if name = "nobr" then b.startUnbroken tag
  else if name ∈ embeddedNames then (b.reopenFormatting.push tag).pushBorder
  else if name = "table" then ((if b.isOdd then b else b.closeParagraph).push tag).inMode .inTable
  else if name ∈ emptyTextNames then b.reopenFormatting.addEmpty tag
  else if name = "image" then b.reopenFormatting.addEmpty { tag with name := "img" }
  else if name ∈ emptyPartNames then b.addEmpty tag
  else if name = "hr" then b.closeParagraph.addEmpty tag
  else if name = "textarea" then (b.pushDropping tag).inMode (.text b.mode)
  else if name = "xmp" then b.closeParagraph.reopenFormatting.pushText tag
  else if name = "iframe" ∨ name = "noembed" then b.pushText tag
  else if name = "select" then b.startSelect tag
  else if name = "option" ∨ name = "optgroup" then b.startOption tag
  else if name = "rb" ∨ name = "rtc" then b.startAnnotation "" tag
  else if name = "rp" ∨ name = "rt" then b.startAnnotation "rtc" tag
  else if name = "frameset" then b.startFrameset tag
  else if name ∈ tablePartNames ∨ name = "frame" ∨ name = "head" then b
  else b.startOther tag selfClosing

/-- An end tag in the body. -/
def endInBody (name : String) (b : Builder) : Step :=
  if name = "body" then (if b.isOpen ["body"] then b.inMode .afterBody else b, none)
  else if name = "html" then
    if b.isOpen ["body"] then (b.inMode .afterBody, some (.endTag name)) else b.done
  else if name ∈ blockNames ∨ name ∈ ["button", "listing", "pre"] then
    (b.closeElement [name]).done
  else if name = "form" then b.endForm.done
  else if name = "p" then
    (if b.isParagraphOpen then b else b.pushName "p").closeParagraph.done
  else if name = "li" then
    (if isOpenWithin itemScopeNames ["li"] b.frames then
      (b.closeImplied "li").popThroughNames ["li"] else b).done
  else if name = "dd" ∨ name = "dt" then
    (if b.isOpen [name] then (b.closeImplied name).popThroughNames [name] else b).done
  else if name ∈ headingNames then (b.closeElement headingNames).done
  else if name = "a" ∨ name = "nobr" ∨ name ∈ formattingNames then (b.endFormatting name).done
  else if name ∈ embeddedNames then
    (if b.isOpen [name] then (b.closeElement [name]).dropFormatting else b).done
  else if name = "br" then (b.keepBody.reopenFormatting.addEmpty ⟨"br", []⟩).done
  else (b.closeNamed name).done

/-- A token in the body. -/
def inBody (token : Token) (b : Builder) : Step :=
  match token with
  | .startTag tag selfClosing =>
    let keeps := tag.name ∈ keepingNames ∧ !isHiddenInput tag
    ((if keeps then b.keepBody else b).startInBody tag selfClosing).done
  | .endTag name => b.endInBody name
  | .text content =>
    ((if content.all isSpace then b else b.keepBody).reopenFormatting.addText content).done
  | _ => b.done

/-- A token in an element whose content is text. -/
def inText (outer : Mode) (token : Token) (b : Builder) : Step :=
  match token with
  | .text content => (b.addText content).done
  | .endTag _ => (b.pop.inMode outer).done
  | other => (b.pop.inMode outer, some other)

end EdiSchema.Html.Builder
