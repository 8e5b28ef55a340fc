import EdiSchema.Attribute.Position
import EdiSchema.Listing.Hierarchy
import EdiSchema.Listing.Marker

/-!
# Assembly

Markers become the tree of a message. Every listed group waits with the segments of its region
until it is attached; attaching a group takes it out of those that wait and attaches the listed
groups below it. What is attached from the top level, with the segments of no listed group, is the
tree. Siblings stand in the order of their entries, wherever the entries of their parents are.

Attaching ends because fewer groups wait at each level, whatever the hierarchy says. Groups that
still wait when the top level is complete are nested in a circle, or below one.
-/

namespace EdiSchema

namespace Assembly

/-- A node and the index of its entry. -/
structure Placed where
  index : Nat
  node : Node

/-- Nodes in the order of their indices; equal indices keep their order. -/
def inOrder (nodes : List Placed) : List Node :=
  (nodes.mergeSort fun a b => a.index ≤ b.index).map Placed.node

/-- The marker of a group. -/
def group? : ResolvedMarker → Option GroupMarker
  | .group g => some g
  | .segment _ _ => none

/-- The marker of a segment and its items. -/
def segment? : ResolvedMarker → Option (SegmentMarker × List Item)
  | .group _ => none
  | .segment s items => some (s, items)

/-- The node of a segment. -/
def segmentNode (s : SegmentMarker) (items : List Item) : Placed where
  index := s.index
  node := .segment {
    minOccurs := s.requirement.minOccurs
    maxOccurs := s.maxOccurs
    position := Position.listing s.index
    tag := s.tag
    name := s.tag
    description := s.description
    requirement := s.requirement
    items := items }

/-- The node of a group with its children. -/
def groupNode (g : GroupMarker) (children : List Placed) : Placed where
  index := g.index
  node := .group {
    maxOccurs := some g.maxOccurs
    position := Position.listing g.index
    code := g.code
    name := g.code
    description := g.description } (inOrder children)

/-- A listed group that waits to be attached, with the children that it has so far. -/
structure Pending where
  marker : GroupMarker
  children : List Placed := []

/-- The code of a group that waits. -/
def Pending.code (group : Pending) : String :=
  group.marker.code

/-- Lets the listed groups wait, each of which may be listed only once. -/
def openGroups : List Pending → List GroupMarker → Except Violation (List Pending)
  | pending, [] => .ok pending
  | pending, g :: rest =>
    if g.code ∈ pending.map Pending.code then .error ⟨g.code, .listedTwice⟩
    else openGroups (pending ++ [{ marker := g }]) rest

/-- Gives one more child to the group with a code. -/
def addChild (code : String) (child : Placed) (pending : List Pending) : List Pending :=
  pending.map fun group =>
    if group.code = code then { group with children := group.children ++ [child] } else group

/-- Puts a segment under the group of its region if that is listed, and else at the top level;
`placed` holds the groups that wait and the nodes of the top level. -/
def placeSegment (placed : List Pending × List Placed) (segment : SegmentMarker × List Item) :
    List Pending × List Placed :=
  let node := segmentNode segment.1 segment.2
  match segment.1.parent with
  | some code =>
    if code ∈ placed.1.map Pending.code then (addChild code node placed.1, placed.2)
    else (placed.1, placed.2 ++ [node])
  | none => (placed.1, placed.2 ++ [node])

/-- The groups that still wait, and the codes of those that are attached. -/
structure Progress where
  pending : List Pending
  attached : List String := []

namespace Progress

/-- The codes of the groups that still wait. -/
def codes (progress : Progress) : List String :=
  progress.pending.map Pending.code

/-- The progress after a group is taken out to be attached. -/
def take (progress : Progress) (code : String) : Progress where
  pending := progress.pending.filter fun group => group.code ≠ code
  attached := code :: progress.attached

/-- Taking out a group that waits leaves fewer of them. -/
theorem take_length_lt {progress : Progress} {code : String} {group : Pending}
    (hfound : progress.pending.find? (fun group => group.code = code) = some group) :
    (progress.take code).pending.length < progress.pending.length := by
  have hmem := List.mem_of_find?_eq_some hfound
  have hcode := List.find?_some hfound
  exact List.length_filter_lt_length_iff_exists.2 ⟨group, hmem, by simpa using hcode⟩

/-- Takes out a group that waits. -/
def take? (progress : Progress) (code : String) :
    Option (Pending × { rest : Progress // rest.pending.length < progress.pending.length }) :=
  match hfound : progress.pending.find? (fun group => group.code = code) with
  | some group => some (group, ⟨progress.take code, take_length_lt hfound⟩)
  | none => none

end Progress

mutual
/-- Attaches a group with all that is below it. -/
def attach (hierarchy : Hierarchy) (code : String) (progress : Progress) :
    Except Violation
      (Placed × { rest : Progress // rest.pending.length < progress.pending.length }) :=
  if code ∈ progress.attached then .error ⟨code, .attachedTwice⟩
  else match progress.take? code with
    | none => .error ⟨code, .notListed⟩
    | some (group, ⟨taken, htaken⟩) => do
      let (below, ⟨rest, hrest⟩) ← attachAll hierarchy (hierarchy.children code) taken
      return (groupNode group.marker (group.children ++ below), ⟨rest, by omega⟩)
termination_by (progress.pending.length, 0)

/-- Attaches the groups of a list that have entries, one after the other. -/
def attachAll (hierarchy : Hierarchy) (codes : List String) (progress : Progress) :
    Except Violation
      (List Placed × { rest : Progress // rest.pending.length ≤ progress.pending.length }) :=
  match codes with
  | [] => .ok ([], ⟨progress, Nat.le_refl _⟩)
  | code :: more =>
    if code ∉ progress.codes ∧ code ∉ progress.attached then attachAll hierarchy more progress
    else do
      let (first, ⟨next, hnext⟩) ← attach hierarchy code progress
      let (others, ⟨rest, hrest⟩) ← attachAll hierarchy more next
      return (first :: others, ⟨rest, by omega⟩)
termination_by (progress.pending.length, codes.length + 1)
end

/-- Attaches those groups of a list that belong to the top level, given the listed ones: the
groups without a parent, or whose parent is not listed. -/
def attachTop (hierarchy : Hierarchy) (listed : List String) :
    List String → Progress → Except Violation (List Placed × Progress)
  | [], progress => .ok ([], progress)
  | code :: more, progress =>
    if code ∈ progress.attached then attachTop hierarchy listed more progress
    else if (hierarchy.parent? code).any (· ∈ listed) then
      attachTop hierarchy listed more progress
    else do
      let (first, ⟨next, _⟩) ← attach hierarchy code progress
      let (others, rest) ← attachTop hierarchy listed more next
      return (first :: others, rest)

/-- The smaller of a code and the smallest so far. -/
def smaller (code : String) : Option String → String
  | none => code
  | some other => if code < other then code else other

/-- The smallest code of a list. -/
def smallest? (codes : List String) : Option String :=
  codes.foldr (fun code least => some (smaller code least)) none

/-- The top level of the tree that markers form. -/
def assemble (markers : List ResolvedMarker) (hierarchy : Hierarchy) :
    Except Violation (List Node) := do
  let groups := markers.filterMap group?
  let pending ← openGroups [] groups
  let (pending, top) := (markers.filterMap segment?).foldl placeSegment (pending, [])
  let listed := groups.map GroupMarker.code
  let (attached, rest) ← attachTop hierarchy listed listed { pending }
  match smallest? rest.codes with
  | some code => .error ⟨code, .unreachable⟩
  | none => return inOrder (top ++ attached)

end Assembly

/-- The message with the tree that markers form in place of its entries. -/
def Message.assemble (base : Message) (markers : List ResolvedMarker) (hierarchy : Hierarchy) :
    Except Violation Message := do
  return { base with nodes := ← Assembly.assemble markers hierarchy }

end EdiSchema
