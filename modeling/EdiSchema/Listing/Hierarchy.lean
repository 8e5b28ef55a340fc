import EdiSchema.Listing.Violation

/-!
# Group hierarchies

Which groups are nested directly under which, kept as links in the order in which they were
found. A group has at most one parent, and is not its own; a link that would break this is
refused, and repeating a link changes nothing.
-/

namespace EdiSchema

/-- A group and the group it is nested under. -/
structure GroupLink where
  child : String
  parent : String
  deriving DecidableEq

/-- The links between groups. -/
structure Hierarchy where
  links : List GroupLink := []
  unique : (links.map GroupLink.child).Nodup := by decide
  proper : ∀ link ∈ links, link.child ≠ link.parent := by decide
  deriving DecidableEq

namespace Hierarchy

/-- The hierarchy without links. -/
def empty : Hierarchy := {}

/-- The link of a child. -/
def find? (hierarchy : Hierarchy) (child : String) : Option GroupLink :=
  hierarchy.links.find? fun link => link.child == child

/-- The group that a child is nested under. -/
def parent? (hierarchy : Hierarchy) (child : String) : Option String :=
  (hierarchy.find? child).map GroupLink.parent

/-- The groups nested under a parent, in the order in which they were linked. -/
def children (hierarchy : Hierarchy) (parent : String) : List String :=
  (hierarchy.links.filter fun link => link.parent == parent).map GroupLink.child

/-- The number of links. -/
def size (hierarchy : Hierarchy) : Nat :=
  hierarchy.links.length

/-- Links a child that has no parent yet. -/
def append (hierarchy : Hierarchy) (parent child : String) (new : hierarchy.find? child = none)
    (other : child ≠ parent) : Hierarchy where
  links := hierarchy.links ++ [⟨child, parent⟩]
  unique := by
    rw [List.map_append, List.nodup_append]
    refine ⟨hierarchy.unique, by simp, ?_⟩
    intro a ha b hb heq
    obtain ⟨link, hmem, rfl⟩ := List.mem_map.1 ha
    have hne := List.find?_eq_none.1 new link hmem
    simp_all
  proper := by
    intro link hmem
    rcases List.mem_append.1 hmem with h | h
    · exact hierarchy.proper link h
    · rw [List.mem_singleton.1 h]
      exact other

/-- Nests a child under a parent. -/
def link (hierarchy : Hierarchy) (parent child : String) : Except Violation Hierarchy :=
  if h : child = parent then .error ⟨child, .underItself⟩
  else match found : hierarchy.find? child with
    | some known =>
      if known.parent = parent then .ok hierarchy
      else .error ⟨child, .underTwo known.parent parent⟩
    | none => .ok (hierarchy.append parent child found h)

end Hierarchy

end EdiSchema
