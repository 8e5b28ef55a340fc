/-!
# Sources of directory pages

Extraction fetches nothing itself: a source supplies the directory page of a message and the
detail page of a segment, or says why it cannot.
-/

namespace EdiSchema

/-- Why a page cannot be supplied. -/
structure SourceFault where
  resource : String
  reason : String
  deriving DecidableEq

/-- The wording of a fault. -/
def SourceFault.message (fault : SourceFault) : String :=
  "Source error for " ++ fault.resource ++ ": " ++ fault.reason

/-- A supplier of pages. Each is asked for by revision, and by document or by tag. -/
structure Source where
  listing : (revision document : String) → Except SourceFault String
  detail : (revision tag : String) → Except SourceFault String

/-- A page under a revision and a name. -/
structure Source.Page where
  revision : String
  name : String
  markup : String

namespace Source

/-- The markup of the last page under a revision and a name. -/
def findPage? (pages : List Page) (revision name : String) : Option String :=
  (pages.reverse.find? fun page => page.revision == revision && page.name == name).map Page.markup

/-- A source that has its pages at hand. -/
def ofPages (listings details : List Page) : Source where
  listing revision document :=
    match findPage? listings revision document with
    | some markup => .ok markup
    | none => .error ⟨revision ++ "/" ++ document, "no listing"⟩
  detail revision tag :=
    match findPage? details revision tag with
    | some markup => .ok markup
    | none => .error ⟨revision ++ "/" ++ tag, "no segment detail"⟩

end Source

end EdiSchema
