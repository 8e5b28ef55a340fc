import Mathlib.Data.List.Perm.Basic
import EdiSchema.Structure.Walk

/-!
# Families of entries

The entries of a message seen in two ways: one by one, each with the group right above it, or as
families of siblings under one group. Both hold every entry of the tree once.
-/

namespace EdiSchema

namespace Node

/-- An entry without its children. -/
def bare : Node → Node
  | .segment s => .segment s
  | .group g _ => .group g []

/-- The position of an entry does not depend on its children. -/
@[simp] theorem position_bare (node : Node) : node.bare.position = node.position := by
  cases node <;> rfl

mutual
/-- The codes of the groups in a tree, depth first. -/
def groupCodes : Node → List String
  | .segment _ => []
  | .group g children => g.code :: groupCodesAll children

/-- The codes of the groups in a list of trees, depth first. -/
def groupCodesAll : List Node → List String
  | [] => []
  | node :: rest => groupCodes node ++ groupCodesAll rest
end

mutual
/-- The entries of a tree without their children, each with the code of the group right above it;
above the tree itself is `site`. -/
def placements (site : Option String) : Node → List (Option String × Node)
  | .segment s => [(site, .segment s)]
  | .group g children => (site, .group g []) :: placementsAll (some g.code) children

/-- The entries of a list of trees without their children, each with the group above it. -/
def placementsAll (site : Option String) : List Node → List (Option String × Node)
  | [] => []
  | node :: rest => placements site node ++ placementsAll site rest
end

mutual
/-- The children of each group in a tree, with the code of the group. -/
def families : Node → List (Option String × List Node)
  | .segment _ => []
  | .group g children => (some g.code, children) :: familiesAll children

/-- The children of each group in a list of trees, with the code of the group. -/
def familiesAll : List Node → List (Option String × List Node)
  | [] => []
  | node :: rest => families node ++ familiesAll rest
end

/-- The group codes of a list of trees are those of the trees one after the other. -/
theorem groupCodesAll_eq_flatMap (nodes : List Node) :
    groupCodesAll nodes = nodes.flatMap groupCodes := by
  induction nodes with
  | nil => rfl
  | cons node rest ih => simp [groupCodesAll, ih]

/-- The families of a list of trees are those of the trees one after the other. -/
theorem familiesAll_eq_flatMap (nodes : List Node) :
    familiesAll nodes = nodes.flatMap families := by
  induction nodes with
  | nil => rfl
  | cons node rest ih => simp [familiesAll, ih]

/-- The members of a family with the group above them. -/
def members (family : Option String × List Node) : List (Option String × Node) :=
  family.2.map fun node => (family.1, node.bare)

mutual
/-- The entries of a tree are its root and the members of its families. -/
theorem placements_perm (site : Option String) (node : Node) :
    (placements site node).Perm ((site, node.bare) :: (families node).flatMap members) := by
  cases node with
  | segment s => simp [placements, families, bare]
  | group g children =>
    simpa [placements, families, bare, members] using
      (placementsAll_perm (some g.code) children).cons (site, .group g [])

/-- The entries of a list of trees are the roots and the members of the families. -/
theorem placementsAll_perm (site : Option String) (nodes : List Node) :
    (placementsAll site nodes).Perm
      ((((site, nodes) : Option String × List Node) :: familiesAll nodes).flatMap members) := by
  cases nodes with
  | nil => simp [placementsAll, familiesAll, members]
  | cons node rest =>
    have hnode := placements_perm site node
    have hrest := placementsAll_perm site rest
    rw [List.flatMap_cons] at hrest ⊢
    rw [placementsAll, familiesAll, List.flatMap_append]
    refine (hnode.append hrest).trans ?_
    simp only [members, List.map_cons, List.cons_append]
    refine List.Perm.cons _ ?_
    rw [← List.append_assoc, ← List.append_assoc]
    exact List.perm_append_comm.append_right _
end

mutual
/-- Each group of a tree has one family. -/
theorem families_fst (node : Node) :
    (families node).map Prod.fst = (groupCodes node).map some := by
  cases node with
  | segment s => rfl
  | group g children => simp [families, groupCodes, familiesAll_fst children]

/-- Each group of a list of trees has one family. -/
theorem familiesAll_fst (nodes : List Node) :
    (familiesAll nodes).map Prod.fst = (groupCodesAll nodes).map some := by
  cases nodes with
  | nil => rfl
  | cons node rest =>
    simp [familiesAll, groupCodesAll, families_fst node, familiesAll_fst rest]
end

mutual
/-- The entries of a tree are as many as `count` says. -/
theorem length_placements (site : Option String) (node : Node) :
    (placements site node).length = count node := by
  cases node with
  | segment s => rfl
  | group g children =>
    simp [placements, count, length_placementsAll (some g.code) children, Nat.add_comm]

/-- The entries of a list of trees are as many as `countAll` says. -/
theorem length_placementsAll (site : Option String) (nodes : List Node) :
    (placementsAll site nodes).length = countAll nodes := by
  cases nodes with
  | nil => rfl
  | cons node rest =>
    simp [placementsAll, countAll, length_placements site node, length_placementsAll site rest]
end

mutual
/-- The entries that are visited in a tree are those placed in it, in the same order. -/
theorem map_bare_walk (site : Option String) (depth : ℕ) (node : Node) :
    (walk depth node).map (fun entry => entry.1.bare) = (placements site node).map Prod.snd := by
  cases node with
  | segment s => rfl
  | group g children =>
    rw [walk, placements, List.map_cons, List.map_cons,
      map_bare_walkAll (some g.code) (depth + 1) children]
    rfl

/-- The entries that are visited in a list of trees are those placed in it, in the same order. -/
theorem map_bare_walkAll (site : Option String) (depth : ℕ) (nodes : List Node) :
    (walkAll depth nodes).map (fun entry => entry.1.bare) =
      (placementsAll site nodes).map Prod.snd := by
  cases nodes with
  | nil => rfl
  | cons node rest =>
    rw [walkAll, placementsAll, List.map_append, List.map_append, map_bare_walk site depth node,
      map_bare_walkAll site depth rest]
end

/-- As many entries are visited as `countAll` says. -/
theorem length_walkAll (depth : ℕ) (nodes : List Node) :
    (walkAll depth nodes).length = countAll nodes := by
  have hlength := congrArg List.length (map_bare_walkAll none depth nodes)
  rw [List.length_map, List.length_map, length_placementsAll] at hlength
  exact hlength

end Node

namespace Message

/-- The entries of a message without their children, each with the code of the group right above
it, or nothing at the top level. -/
def placements (message : Message) : List (Option String × Node) :=
  Node.placementsAll none message.nodes

/-- The lists of siblings in a message: the top level, and the children of each group with its
code. -/
def families (message : Message) : List (Option String × List Node) :=
  (none, message.nodes) :: Node.familiesAll message.nodes

/-- The codes of the groups in a message, depth first. -/
def groupCodes (message : Message) : List String :=
  Node.groupCodesAll message.nodes

end Message

end EdiSchema
