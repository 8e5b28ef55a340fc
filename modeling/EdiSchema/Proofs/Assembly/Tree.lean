import EdiSchema.Proofs.Assembly.Site
import EdiSchema.Proofs.Structure.Families

/-!
# Complete trees of listed groups

The tree that a listed group should have: the segments of its region and the trees of all listed
groups below it. A relation is used, since a group in a circle has no such tree.

The groups of complete trees are closed under going to a listed group below, and under going to
the listed parent as far as the roots of the trees.
-/

namespace EdiSchema.Assembly

/-- The codes of the groups in the trees of placed nodes. -/
def codesOf (placed : List Placed) : List String :=
  placed.flatMap fun p => p.node.groupCodes

/-- The group codes of a list of placed nodes are those of the first and those of the others. -/
@[simp] theorem codesOf_cons (first : Placed) (others : List Placed) :
    codesOf (first :: others) = first.node.groupCodes ++ codesOf others :=
  List.flatMap_cons

/-- Group codes of placed nodes can be collected in two parts. -/
@[simp] theorem codesOf_append (first second : List Placed) :
    codesOf (first ++ second) = codesOf first ++ codesOf second :=
  List.flatMap_append

/-- Sorting nodes leads to the same group codes. -/
theorem groupCodesAll_inOrder (placed : List Placed) :
    (Node.groupCodesAll (inOrder placed)).Perm (codesOf placed) := by
  rw [Node.groupCodesAll_eq_flatMap, inOrder, List.flatMap_map]
  exact (List.mergeSort_perm placed _).flatMap_right _

/-- Segments contribute no group codes. -/
@[simp] theorem codesOf_segmentsAt (listed : List String)
    (segments : List (SegmentMarker × List Item)) (site : Option String) :
    codesOf (segmentsAt listed segments site) = [] := by
  rw [codesOf, segmentsAt, List.flatMap_map, List.flatMap_eq_nil_iff]
  intro s _
  rfl

section

variable (markers : List ResolvedMarker) (hierarchy : Hierarchy)

/-- The nodes of the segments under a listed group, in marker order. -/
def segmentsUnder (code : String) : List Placed :=
  segmentsAt (listed markers) (markers.filterMap segment?) (some code)

/-- The listed groups below a group, in the order of the hierarchy. -/
def listedChildren (code : String) : List String :=
  (hierarchy.children code).filter (· ∈ listed markers)

/-- The complete trees of the listed groups with the codes of a list. -/
inductive Grown : List String → List Placed → Prop
  | nil : Grown [] []
  | cons (g : GroupMarker) {below : List Placed} {codes : List String} {others : List Placed}
      (hg : g ∈ markers.filterMap group?)
      (hbelow : Grown (listedChildren markers hierarchy g.code) below)
      (hothers : Grown codes others) :
      Grown (g.code :: codes) (groupNode g (segmentsUnder markers g.code ++ below) :: others)

variable {markers hierarchy}

/-- The listed groups below a listed group are those that have it as their listed parent. -/
theorem mem_listedChildren_iff {parent : String} (hparent : parent ∈ listed markers)
    (code : String) :
    code ∈ listedChildren markers hierarchy parent ↔
      code ∈ listed markers ∧ home? markers hierarchy code = some parent := by
  simp only [listedChildren, List.mem_filter, decide_eq_true_eq, hierarchy.mem_children_iff,
    home?_eq_some_iff]
  tauto

/-- The group codes of a node are its own and those of the trees below it. -/
theorem groupCodes_groupNode (g : GroupMarker) (below : List Placed) :
    (groupNode g (segmentsUnder markers g.code ++ below)).node.groupCodes.Perm
      (g.code :: codesOf below) := by
  simpa [groupNode, Node.groupCodes, segmentsUnder] using
    groupCodesAll_inOrder (segmentsUnder markers g.code ++ below)

/-- A code occurs in a tree at its root, in the trees below the root, or beside the tree. -/
theorem mem_codesOf_cons {g : GroupMarker} {below others : List Placed} {code : String} :
    code ∈ codesOf (groupNode g (segmentsUnder markers g.code ++ below) :: others) ↔
      (code = g.code ∨ code ∈ codesOf below) ∨ code ∈ codesOf others := by
  rw [codesOf_cons, List.mem_append, (groupCodes_groupNode g below).mem_iff, List.mem_cons]

/-- Complete trees contain the groups that they are of. -/
theorem Grown.mem_codesOf {roots : List String} {placed : List Placed}
    (hgrown : Grown markers hierarchy roots placed) {code : String} (hcode : code ∈ roots) :
    code ∈ codesOf placed := by
  induction hgrown with
  | nil => simp at hcode
  | cons g hg hbelow hothers _ ih =>
    rcases List.mem_cons.1 hcode with rfl | hrest
    · exact mem_codesOf_cons.2 (Or.inl (Or.inl rfl))
    · exact mem_codesOf_cons.2 (Or.inr (ih hrest))

/-- A group in complete trees is one of their roots, or its listed parent is in the trees too. -/
theorem Grown.root_or_home {roots : List String} {placed : List Placed}
    (hgrown : Grown markers hierarchy roots placed) {code : String}
    (hcode : code ∈ codesOf placed) :
    code ∈ roots ∨ ∃ parent ∈ codesOf placed, home? markers hierarchy code = some parent := by
  induction hgrown with
  | nil => simp [codesOf] at hcode
  | cons g hg hbelow hothers ihBelow ihOthers =>
    have hlisted : g.code ∈ listed markers := List.mem_map_of_mem hg
    rcases mem_codesOf_cons.1 hcode with (rfl | hcode) | hcode
    · exact Or.inl List.mem_cons_self
    · right
      rcases ihBelow hcode with hchild | ⟨parent, hparent, hhome⟩
      · exact ⟨g.code, mem_codesOf_cons.2 (Or.inl (Or.inl rfl)),
          ((mem_listedChildren_iff hlisted code).1 hchild).2⟩
      · exact ⟨parent, mem_codesOf_cons.2 (Or.inl (Or.inr hparent)), hhome⟩
    · rcases ihOthers hcode with hroot | ⟨parent, hparent, hhome⟩
      · exact Or.inl (List.mem_cons_of_mem _ hroot)
      · exact Or.inr ⟨parent, mem_codesOf_cons.2 (Or.inr hparent), hhome⟩

/-- Complete trees contain the listed groups below their groups. -/
theorem Grown.mem_of_home {roots : List String} {placed : List Placed}
    (hgrown : Grown markers hierarchy roots placed) {code parent : String}
    (hparent : parent ∈ codesOf placed) (hcode : code ∈ listed markers)
    (hhome : home? markers hierarchy code = some parent) : code ∈ codesOf placed := by
  induction hgrown with
  | nil => simp [codesOf] at hparent
  | cons g hg hbelow hothers ihBelow ihOthers =>
    have hlisted : g.code ∈ listed markers := List.mem_map_of_mem hg
    rcases mem_codesOf_cons.1 hparent with (rfl | hparent) | hparent
    · have hchild := (mem_listedChildren_iff hlisted code).2 ⟨hcode, hhome⟩
      exact mem_codesOf_cons.2 (Or.inl (Or.inr (hbelow.mem_codesOf hchild)))
    · exact mem_codesOf_cons.2 (Or.inl (Or.inr (ihBelow hparent)))
    · exact mem_codesOf_cons.2 (Or.inr (ihOthers hparent))

/-- Complete trees side by side are complete trees. -/
theorem Grown.append {roots more : List String} {placed others : List Placed}
    (hgrown : Grown markers hierarchy roots placed) (hmore : Grown markers hierarchy more others) :
    Grown markers hierarchy (roots ++ more) (placed ++ others) := by
  induction hgrown with
  | nil => exact hmore
  | cons g hg hbelow hothers _ ih => exact .cons g hg hbelow ih

end

end EdiSchema.Assembly
