/-!
# Kinds of elements

Which elements end each other, and which limit how far an end tag reaches.
-/

namespace EdiSchema.Html

/-- Elements that an unmatched end tag inside them does not reach through. -/
def specialNames : List String := [
  "address", "applet", "area", "article", "aside", "base", "basefont", "bgsound", "blockquote",
  "body", "br", "button", "caption", "center", "col", "colgroup", "dd", "details", "dir", "div",
  "dl", "dt", "embed", "fieldset", "figcaption", "figure", "footer", "form", "frame", "frameset",
  "h1", "h2", "h3", "h4", "h5", "h6", "head", "header", "hgroup", "hr", "html", "iframe", "img",
  "input", "li", "link", "listing", "main", "marquee", "menu", "meta", "nav", "noembed",
  "noframes", "noscript", "object", "ol", "p", "param", "plaintext", "pre", "script", "section",
  "select", "source", "style", "summary", "table", "tbody", "td", "template", "textarea", "tfoot",
  "th", "thead", "title", "tr", "track", "ul", "wbr", "xmp"]

/-- Elements that start below an open paragraph and end it. -/
def blockNames : List String := [
  "address", "article", "aside", "blockquote", "center", "details", "dialog", "dir", "div", "dl",
  "fieldset", "figcaption", "figure", "footer", "header", "hgroup", "main", "menu", "nav", "ol",
  "section", "summary", "ul"]

/-- Headings, of which one ends another. -/
def headingNames : List String := ["h1", "h2", "h3", "h4", "h5", "h6"]

/-- Elements whose end tag may be left out. -/
def impliedEndNames : List String :=
  ["dd", "dt", "li", "optgroup", "option", "p", "rb", "rp", "rt", "rtc"]

/-- Elements that set off their text and are opened again after they were cut short. -/
def formattingNames : List String := [
  "b", "big", "code", "em", "font", "i", "s", "small", "strike", "strong", "tt", "u"]

/-- Elements that are embedded and keep formatting to themselves. -/
def embeddedNames : List String := ["applet", "marquee", "object"]

/-- Elements in text that have no content. -/
def emptyTextNames : List String := ["area", "br", "embed", "img", "input", "keygen", "wbr"]

/-- Elements whose start keeps a body from giving way to a set of frames. -/
def keepingNames : List String :=
  ["body", "pre", "listing", "li", "dd", "dt", "button", "table", "hr", "image", "textarea", "xmp",
    "iframe", "select"] ++ embeddedNames ++ emptyTextNames

/-- Other elements that have no content. -/
def emptyPartNames : List String := ["param", "source", "track"]

/-- Elements of the head that have no content. -/
def emptyHeadNames : List String := ["base", "basefont", "bgsound", "link", "meta"]

/-- Elements of the head whose content is text. -/
def textHeadNames : List String := ["title", "noscript", "noframes", "style", "script"]

/-- Elements in which the search for an open element ends. -/
def scopeNames : List String :=
  ["applet", "caption", "html", "table", "td", "th", "marquee", "object", "template"]

/-- Elements in which the search for an open paragraph ends. -/
def paragraphScopeNames : List String := "button" :: scopeNames

/-- Elements in which the search for an open list item ends. -/
def itemScopeNames : List String := "ol" :: "ul" :: scopeNames

/-- Elements in which the search for an open part of a table ends. -/
def tableScopeNames : List String := ["html", "table", "template"]

/-- The sections of a table. -/
def sectionNames : List String := ["tbody", "tfoot", "thead"]

/-- The cells of a table. -/
def cellNames : List String := ["td", "th"]

/-- Parts of a table that hold no text of their own. -/
def tableFrameNames : List String := ["table", "tbody", "tfoot", "thead", "tr"]

/-- Parts of a table other than the table itself. -/
def tablePartNames : List String :=
  ["caption", "col", "colgroup", "tbody", "td", "tfoot", "th", "thead", "tr"]

end EdiSchema.Html
