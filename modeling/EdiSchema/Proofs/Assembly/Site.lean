import EdiSchema.Assembly
import EdiSchema.Proofs.Listing.Hierarchy

/-!
# Where markers belong

What a list of markers and a hierarchy say about the place of each node, without regard to how the
tree is built: the listed group that a group or segment hangs under, the groups above a listed
group, and the segments of a place.

The chain of listed groups above a group may go round in a circle. It is said to end if some number
of steps leads out of the listing.
-/

namespace EdiSchema.Assembly

/-- The codes of the listed groups, in marker order. -/
def listed (markers : List ResolvedMarker) : List String :=
  (markers.filterMap group?).map GroupMarker.code

section Chain

variable (markers : List ResolvedMarker) (hierarchy : Hierarchy)

/-- The listed group that a group is nested under. -/
def home? (code : String) : Option String :=
  (hierarchy.parent? code).filter (· ∈ listed markers)

/-- The listed group at a number of steps above a group, if the steps stay in the listing. -/
def above? : ℕ → String → Option String
  | 0, code => some code
  | steps + 1, code => (home? markers hierarchy code).bind (above? steps)

/-- Whether finitely many steps from a group to its listed parent lead out of the listing. -/
def ChainEnds (code : String) : Prop :=
  ∃ steps, above? markers hierarchy steps code = none

variable {markers hierarchy}

/-- A listed parent is linked as a parent and has an entry. -/
theorem home?_eq_some_iff (code parent : String) :
    home? markers hierarchy code = some parent ↔
      hierarchy.parent? code = some parent ∧ parent ∈ listed markers := by
  simp [home?, Option.filter_eq_some_iff]

/-- A group has a listed parent exactly when some parent of it is listed. -/
theorem any_listed_iff (code : String) :
    (hierarchy.parent? code).any (· ∈ listed markers) = true ↔
      home? markers hierarchy code ≠ none := by
  cases hparent : hierarchy.parent? code with
  | none => simp [home?, hparent]
  | some parent => simp [home?, hparent, Option.filter]

/-- The chain of a group without a listed parent ends at once. -/
theorem ChainEnds.of_top {code : String} (htop : home? markers hierarchy code = none) :
    ChainEnds markers hierarchy code :=
  ⟨1, by simp [above?, htop]⟩

/-- The chain of a group ends if that of its listed parent does. -/
theorem ChainEnds.of_home {code parent : String}
    (hhome : home? markers hierarchy code = some parent)
    (hparent : ChainEnds markers hierarchy parent) : ChainEnds markers hierarchy code := by
  obtain ⟨steps, hsteps⟩ := hparent
  exact ⟨steps + 1, by simpa [above?, hhome] using hsteps⟩

/-- What holds of groups without a listed parent and passes from a listed parent to the groups
below it holds of every group whose chain ends. -/
theorem ChainEnds.induct {motive : String → Prop}
    (top : ∀ code, home? markers hierarchy code = none → motive code)
    (below : ∀ code parent, home? markers hierarchy code = some parent → motive parent → motive code)
    {code : String} (hends : ChainEnds markers hierarchy code) : motive code := by
  obtain ⟨steps, hsteps⟩ := hends
  induction steps generalizing code with
  | zero => simp [above?] at hsteps
  | succ steps ih =>
    cases hhome : home? markers hierarchy code with
    | none => exact top code hhome
    | some parent => exact below code parent hhome (ih (by simpa [above?, hhome] using hsteps))

end Chain

section Segments

/-- The listed group of the region that a segment lies in. -/
def segmentSite? (listed : List String) (segment : SegmentMarker) : Option String :=
  segment.parent.filter (· ∈ listed)

/-- The nodes of those segments that hang under a group, or at the top level, in marker order. -/
def segmentsAt (listed : List String) (segments : List (SegmentMarker × List Item))
    (site : Option String) : List Placed :=
  (segments.filter fun s => segmentSite? listed s.1 = site).map fun s => segmentNode s.1 s.2

/-- The group that a marker's node hangs under; nothing at the top level. -/
def site? (markers : List ResolvedMarker) (hierarchy : Hierarchy) :
    ResolvedMarker → Option String
  | .group g => home? markers hierarchy g.code
  | .segment s _ => segmentSite? (listed markers) s

end Segments

end EdiSchema.Assembly
