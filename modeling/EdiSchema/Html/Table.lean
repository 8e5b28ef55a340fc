import EdiSchema.Html.Body

/-!
# Tables and selections

What a tag or text does inside a table or a selection of options. Missing sections and rows of a
table are supplied, and content between its parts goes in front of it.
-/

namespace EdiSchema.Html.Builder

/-- A token in the body, whose content goes in front of the table. -/
def inBodyBeforeTable (token : Token) (b : Builder) : Step :=
  let (b, again) := inBody token { b with evicts := true }
  ({ b with evicts := false }, again)

/-- Text between the parts of a table; blanks stay, other text goes in front. -/
def textInTable (content : List Char) (b : Builder) : Step :=
  if b.current ∈ tableFrameNames && content.all isSpace then (b.addText content).done
  else b.inBodyBeforeTable (.text content)

/-- A start tag between the parts of a table. -/
def startInTable (tag : Tag) (selfClosing : Bool) (b : Builder) : Step :=
  let name := tag.name
  let token := Token.startTag tag selfClosing
  let inside := b.popTo tableScopeNames
  if name = "caption" then ((inside.pushBorder.push tag).inMode .inCaption).done
  else if name = "colgroup" then ((inside.push tag).inMode .inColumns).done
  else if name = "col" then ((inside.pushName "colgroup").inMode .inColumns, some token)
  else if name ∈ sectionNames then ((inside.push tag).inMode .inSection).done
  else if name = "tr" ∨ name ∈ cellNames then
    ((inside.pushName "tbody").inMode .inSection, some token)
  else if name = "table" then
    if b.isOpenInTable ["table"] then ((b.popThroughNames ["table"]).resetMode, some token)
    else b.done
  else if name = "style" ∨ name = "script" then (b.pushText tag).done
  else if isHiddenInput tag then (b.addEmpty tag).done
  else if name = "form" then
    (if b.form.isSome then b else { (b.push tag).pop with form := some b.nextId }).done
  else b.inBodyBeforeTable token

/-- A token between the parts of a table. -/
def inTable (token : Token) (b : Builder) : Step :=
  match token with
  | .startTag tag selfClosing => b.startInTable tag selfClosing
  | .endTag name =>
    if name = "table" then
      (if b.isOpenInTable ["table"] then (b.popThroughNames ["table"]).resetMode else b).done
    else if name ∈ tablePartNames ∨ name = "body" ∨ name = "html" then b.done
    else b.inBodyBeforeTable token
  | .text content => b.textInTable content
  | other => inBody other b

/-- The end of a caption. -/
def closeCaption (b : Builder) : Builder :=
  (((b.closeImplied "").popThroughNames ["caption"]).dropFormatting).inMode .inTable

/-- A token in a caption. -/
def inCaption (token : Token) (b : Builder) : Step :=
  let isOpen := b.isOpenInTable ["caption"]
  match token with
  | .startTag tag _ =>
    if tag.name ∈ tablePartNames then (if isOpen then (b.closeCaption, some token) else b.done)
    else inBody token b
  | .endTag name =>
    if name = "caption" then (if isOpen then b.closeCaption else b).done
    else if name = "table" then (if isOpen then (b.closeCaption, some token) else b.done)
    else if name ∈ tablePartNames ∨ name = "body" ∨ name = "html" then b.done
    else inBody token b
  | _ => inBody token b

/-- The end of a group of columns, at a token that is not for it. -/
def leaveColumns (token : Token) (b : Builder) : Step :=
  if b.current = "colgroup" then (b.pop.inMode .inTable, some token) else b.done

/-- A token in a group of columns. -/
def inColumns (token : Token) (b : Builder) : Step :=
  match token with
  | .startTag tag _ =>
    if tag.name = "col" then (b.addEmpty tag).done
    else if tag.name = "html" then inBody token b
    else b.leaveColumns token
  | .endTag name =>
    if name = "colgroup" then
      (if b.current = "colgroup" then b.pop.inMode .inTable else b).done
    else if name = "col" then b.done
    else b.leaveColumns token
  | .text content =>
    let (blank, rest) := content.span isSpace
    let b := b.addText blank
    if rest.isEmpty then b.done else b.leaveColumns (.text rest)
  | .endOfPage => inBody token b
  | _ => b.done

/-- The end of a section of a table. -/
def closeSection (b : Builder) : Builder :=
  ((b.popTo (sectionNames ++ tableScopeNames)).pop).inMode .inTable

/-- A token in a section of a table. -/
def inSection (token : Token) (b : Builder) : Step :=
  let inside := b.popTo (sectionNames ++ tableScopeNames)
  let leave := if b.isOpenInTable sectionNames then (b.closeSection, some token) else b.done
  match token with
  | .startTag tag _ =>
    if tag.name = "tr" then ((inside.push tag).inMode .inRow).done
    else if tag.name ∈ cellNames then ((inside.pushName "tr").inMode .inRow, some token)
    else if tag.name ∈ tablePartNames then leave
    else inTable token b
  | .endTag name =>
    if name ∈ sectionNames then
      (if b.isOpenInTable [name] then b.closeSection else b).done
    else if name = "table" then leave
    else if name ∈ tablePartNames ∨ name = "body" ∨ name = "html" then b.done
    else inTable token b
  | _ => inTable token b

/-- The end of a row. -/
def closeRow (b : Builder) : Builder :=
  ((b.popTo ("tr" :: tableScopeNames)).pop).inMode .inSection

/-- A token in a row. -/
def inRow (token : Token) (b : Builder) : Step :=
  let leave := if b.isOpenInTable ["tr"] then (b.closeRow, some token) else b.done
  match token with
  | .startTag tag _ =>
    if tag.name ∈ cellNames then
      ((((b.popTo ("tr" :: tableScopeNames)).push tag).inMode .inCell).pushBorder).done
    else if tag.name ∈ tablePartNames then leave
    else inTable token b
  | .endTag name =>
    if name = "tr" then (if b.isOpenInTable ["tr"] then b.closeRow else b).done
    else if name = "table" then leave
    else if name ∈ sectionNames then (if b.isOpenInTable [name] then leave else b.done)
    else if name ∈ tablePartNames ∨ name = "body" ∨ name = "html" then b.done
    else inTable token b
  | _ => inTable token b

/-- The end of a cell. -/
def closeCell (names : List String) (b : Builder) : Builder :=
  (((b.closeImplied "").popThroughNames names).dropFormatting).inMode .inRow

/-- A token in a cell. -/
def inCell (token : Token) (b : Builder) : Step :=
  match token with
  | .startTag tag _ =>
    if tag.name ∈ tablePartNames then
      if b.isOpenInTable cellNames then (b.closeCell cellNames, some token) else b.done
    else inBody token b
  | .endTag name =>
    if name ∈ cellNames then
      (if b.isOpenInTable [name] then b.closeCell [name] else b).done
    else if name ∈ tableFrameNames then
      if b.isOpenInTable [name] then (b.closeCell cellNames, some token) else b.done
    else if name ∈ tablePartNames ∨ name = "body" ∨ name = "html" then b.done
    else inBody token b
  | _ => inBody token b

/-- Whether a selection is open. Only options may be inside it. -/
def isSelectOpen (b : Builder) : Bool :=
  (b.frames.find? fun frame => !frame.isOneOf ["option", "optgroup"]).any
    fun frame => frame.isOneOf ["select"]

/-- The end of a selection. -/
def closeSelect (b : Builder) : Builder :=
  if b.isSelectOpen then (b.popThroughNames ["select"]).resetMode else b

/-- Closes the innermost element if it has a name. -/
def popIf (name : String) (b : Builder) : Builder :=
  if b.current = name then b.pop else b

/-- A token in a selection. -/
def inSelect (token : Token) (b : Builder) : Step :=
  match token with
  | .startTag tag _ =>
    if tag.name = "option" then ((b.popIf "option").push tag).done
    else if tag.name = "optgroup" then (((b.popIf "option").popIf "optgroup").push tag).done
    else if tag.name = "select" then b.closeSelect.done
    else if tag.name ∈ ["input", "keygen", "textarea"] then
      if b.isSelectOpen then (b.closeSelect, some token) else b.done
    else if tag.name = "script" then (b.pushText tag).done
    else b.done
  | .endTag name =>
    if name = "option" then (b.popIf "option").done
    else if name = "optgroup" then
      let isInside := ((b.frames[1]?).map Frame.name) == some "optgroup"
      ((if isInside then b.popIf "option" else b).popIf "optgroup").done
    else if name = "select" then b.closeSelect.done
    else b.done
  | .text content => (b.addText content).done
  | _ => inBody token b

/-- A token in a selection inside a table. -/
def inSelectInTable (token : Token) (b : Builder) : Step :=
  let isPart (name : String) : Bool := name ∈ "caption" :: "td" :: "th" :: tableFrameNames
  match token with
  | .startTag tag _ =>
    if isPart tag.name then ((b.popThroughNames ["select"]).resetMode, some token)
    else inSelect token b
  | .endTag name =>
    if isPart name then
      if b.isOpenInTable [name] then ((b.popThroughNames ["select"]).resetMode, some token)
      else b.done
    else inSelect token b
  | _ => inSelect token b

end EdiSchema.Html.Builder
