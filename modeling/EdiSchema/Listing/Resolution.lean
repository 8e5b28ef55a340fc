import EdiSchema.Detail.Basic
import EdiSchema.Detail.Page
import EdiSchema.Listing.Basic
import EdiSchema.Source

/-!
# Resolving a listing

The segments of a listing get their items from the detail pages of a source. Each page is asked
for once, even if it cannot be supplied; a segment without a page has no items.
-/

namespace EdiSchema

/-- A listing whose segments have their items, and the tags that the source was asked for. -/
structure Resolution where
  markers : List ResolvedMarker
  hierarchy : Hierarchy
  skips : List Skip
  asked : List String

/-- The detail of a segment, empty if the source cannot supply its page. -/
def Source.detailOf (source : Source) (tabWidth : Nat) (revision tag : String) : Detail :=
  match source.detail revision tag with
  | .ok markup => Detail.ofText tabWidth tag (Detail.textOfPage markup)
  | .error _ => {}

namespace Listing

/-- The tag of a segment marker. -/
def tag? : Marker → Option String
  | .group _ => none
  | .segment s => some s.tag

/-- The tags of a list in the order of their first places. -/
def distinct : List String → List String
  | [] => []
  | tag :: rest => tag :: (distinct rest).filter (· != tag)

/-- The tags of a listing, each once, in the order of their first segments. -/
def tags (listing : Listing) : List String :=
  distinct (listing.markers.filterMap tag?)

/-- A marker with the items that details give it. -/
def resolveMarker (details : List (String × Detail)) : Marker → ResolvedMarker
  | .group g => .group g
  | .segment s => .segment s ((details.lookup s.tag).getD {}).items

/-- The listing with the items of its segments. -/
def resolve (listing : Listing) (source : Source) (tabWidth : Nat) (revision : String) :
    Resolution :=
  let details := listing.tags.map fun tag => (tag, source.detailOf tabWidth revision tag)
  { markers := listing.markers.map (resolveMarker details)
    hierarchy := listing.hierarchy
    skips := listing.skips ++ details.flatMap fun entry => entry.2.skips
    asked := listing.tags }

end Listing

end EdiSchema
