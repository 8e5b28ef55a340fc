import EdiSchema.Batch.Inquiry

/-!
# Resolving a listing with a cache

The markers of a listing are resolved one after the other. The first segment with a tag asks for the
detail page of the tag; the segments after it find its items in a cache, which has an entry also for
a page that could not be supplied.
-/

namespace EdiSchema.Listing

/-- A listing that is being resolved. -/
structure Resolving where
  /-- The items of the tags that have been asked for. -/
  cache : List (String × List Item) := []
  markers : List ResolvedMarker := []
  skips : List Skip

namespace Resolving

/-- Asks for the detail of a tag, unless the cache has an entry for it. -/
def fetch (tabWidth : Nat) (revision : String) (state : Resolving) (tag : String) :
    Inquiry Resolving :=
  match state.cache.lookup tag with
  | some _ => return state
  | none => do
    let detail ← Detail.inquiry tabWidth revision tag
    return { state with
      cache := state.cache ++ [(tag, detail.items)]
      skips := state.skips ++ detail.skips }

/-- Resolves one more marker. -/
def resolveNext (tabWidth : Nat) (revision : String) (state : Resolving) :
    Marker → Inquiry Resolving
  | .group g => return { state with markers := state.markers ++ [.group g] }
  | .segment s => do
    let fetched ← state.fetch tabWidth revision s.tag
    let items := (fetched.cache.lookup s.tag).getD []
    return { fetched with markers := fetched.markers ++ [.segment s items] }

end Resolving

/-- Asks for the detail pages of a listing where they are first needed, and gives its segments their
items. -/
def cachedInquiry (listing : Listing) (tabWidth : Nat) (revision : String) :
    Inquiry Resolution := do
  let last ← listing.markers.foldlM (Resolving.resolveNext tabWidth revision)
    { skips := listing.skips }
  return {
    markers := last.markers
    hierarchy := listing.hierarchy
    skips := last.skips
    asked := last.cache.map Prod.fst }

end EdiSchema.Listing
