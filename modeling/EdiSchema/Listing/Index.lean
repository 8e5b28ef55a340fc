import EdiSchema.Listing.Hierarchy

/-!
# Indices of groups

The links of a hierarchy as they are looked up. One table has the parent of each child, another the
children of each parent in the order in which they were linked. A call that nests a child under a
parent fills the two tables one after the other, unless it is refused.
-/

namespace EdiSchema.Hierarchy

/-- The two tables of a hierarchy. Each has one entry for a key. -/
structure Index where
  /-- The parents by their children. -/
  above : List (String × String) := []
  /-- The children by their parents. -/
  below : List (String × List String) := []

namespace Index

/-- The parent of a child. -/
def parent? (index : Index) (child : String) : Option String :=
  index.above.lookup child

/-- The children of a parent. -/
def children (index : Index) (parent : String) : List String :=
  (index.below.lookup parent).getD []

/-- The parents that have an entry. -/
def parents (index : Index) : List String :=
  index.below.map Prod.fst

/-- The number of children that have a parent. -/
def size (index : Index) : Nat :=
  index.above.length

/-- The index with a parent for a child, in place of one that it had. -/
def setParent (child parent : String) (index : Index) : Index :=
  { index with above := (child, parent) :: index.above.filter (·.1 != child) }

/-- The entries with one more child of a parent, which gets an entry if it has none. -/
def pushChild (parent child : String) : List (String × List String) → List (String × List String)
  | [] => [(parent, [child])]
  | (other, children) :: rest =>
    if other = parent then (other, children ++ [child]) :: rest
    else (other, children) :: pushChild parent child rest

/-- The index with one more child of a parent. -/
def addChild (parent child : String) (index : Index) : Index :=
  { index with below := pushChild parent child index.below }

/-- Nests a child under a parent. -/
def link (parent child : String) : ExceptT Violation (StateM Index) Unit := do
  if child = parent then throw ⟨child, .underItself⟩
  match (← get).parent? child with
  | some known => unless known = parent do throw ⟨child, .underTwo known parent⟩
  | none =>
    modify (addChild parent child)
    modify (setParent child parent)

/-- The answer to a call, and the index after it. -/
def call (index : Index) (parent child : String) : Except Violation Unit × Index :=
  (link parent child).run.run index

/-- Makes calls one after the other, however many are refused: those that succeed, and the index
after all of them. -/
def linkAll (index : Index) : List GroupLink → List GroupLink × Index
  | [] => ([], index)
  | wanted :: rest =>
    match index.call wanted.parent wanted.child with
    | (.ok (), after) =>
      let (taken, last) := after.linkAll rest
      (wanted :: taken, last)
    | (.error _, after) => after.linkAll rest

end Index

/-- The hierarchy after some links are added one after the other, without those that are refused. -/
def linkAll (hierarchy : Hierarchy) : List GroupLink → Hierarchy
  | [] => hierarchy
  | wanted :: rest =>
    ((hierarchy.link wanted.parent wanted.child).toOption.getD hierarchy).linkAll rest

end EdiSchema.Hierarchy
