import EdiSchema.Html.Page
import EdiSchema.Listing.Entry
import EdiSchema.Listing.Hierarchy

/-!
# Directory listings

The listing of a message: its usable entries in order, the hierarchy of its groups, and the
entries left out. A group may be listed once only, and its links must form a hierarchy.
-/

namespace EdiSchema

/-- The directory listing of a message. -/
structure Listing where
  markers : List Marker := []
  hierarchy : Hierarchy := .empty
  skips : List Skip := []
  deriving DecidableEq

namespace Listing

/-- The marker of an entry that can be used. -/
def Entry.marker? : Entry → Option Marker
  | .group g _ => some (.group g)
  | .segment s => some (.segment s)
  | .skip _ => none

/-- The record of an entry that is left out. -/
def Entry.skip? : Entry → Option Skip
  | .skip s => some s
  | _ => none

/-- Adds the links of entries to a hierarchy, given the groups listed before and the indices of
their entries. -/
def linkEntries : List (String × Nat) → Hierarchy → List Entry → Except Violation Hierarchy
  | _, hierarchy, [] => .ok hierarchy
  | seen, hierarchy, .group g parent :: rest =>
    match seen.lookup g.code with
    | some first => .error ⟨g.code, .listedAt first g.index⟩
    | none => do
      let linked ← match parent with
        | some parent => hierarchy.link parent g.code
        | none => .ok hierarchy
      linkEntries ((g.code, g.index) :: seen) linked rest
  | seen, hierarchy, _ :: rest => linkEntries seen hierarchy rest

/-- The listing with some entries. -/
def ofEntries (entries : List Entry) : Except Violation Listing := do
  let hierarchy ← linkEntries [] .empty entries
  return {
    markers := entries.filterMap Entry.marker?
    hierarchy
    skips := entries.filterMap Entry.skip? }

/-- The listing on a page, given as a tree. -/
def ofPageTree (page : Html.Node) : Except Violation Listing :=
  ofEntries (entriesOf page)

/-- The listing on a page. -/
def ofPage (markup : String) : Except Violation Listing :=
  ofPageTree (Html.Node.ofPage markup)

end Listing

end EdiSchema
