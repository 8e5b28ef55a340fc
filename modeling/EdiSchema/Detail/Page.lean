import EdiSchema.Html.Page
import EdiSchema.Html.Place
import EdiSchema.Text.Scan

/-!
# The detail text of a page

The page of a segment carries its detail text in a preformatted block. Text that mentions no such
block is taken for the detail text itself.
-/

namespace EdiSchema.Detail

open Html

/-- Whether an element is a preformatted block. -/
def isBlock (place : Place) : Bool :=
  place.name == "pre"

/-- Whether an element is inside the content of a segment page. -/
def isInContent (place : Place) : Bool :=
  place.above.any fun level => level.tag.hasClass "segment-content"

/-- The preformatted block of a page: the first in the content, or else the first. -/
def block? (page : Html.Node) : Option Place :=
  let blocks := page.pagePlaces.filter isBlock
  (blocks.find? isInContent).or blocks.head?

/-- The text of the preformatted block of a page, or nothing. -/
def blockText (page : Html.Node) : String :=
  match block? page with
  | some block => String.ofList block.textChars
  | none => ""

/-- The detail text in a page as some parser reads it, or the text itself if it mentions no
preformatted block. -/
def textBy (parse : String → Html.Node) (markup : String) : String :=
  if Text.contains "<pre".toList markup.toList then blockText (parse markup) else markup

/-- The detail text in a page. -/
def textOfPage (markup : String) : String :=
  textBy Html.Node.ofPage markup

end EdiSchema.Detail
