import EdiSchema.Proofs.Structure.Families

/-!
# What a walk tells

A walk through a message shows how its entries nest: the entries behind an entry, up to the next one
that is no deeper, are those below it. So counting a tree is counting a stretch of the walk, and a
search that stops at the first group with a code stops where the walk first meets it.

What stands behind a tree in a walk starts no deeper than the tree itself. The induction over the
tree carries such a rest along, since the stretch below an entry may end outside of the tree.
-/

namespace EdiSchema

namespace Node

/-- The entries right below an entry. -/
def children : Node → List Node
  | .segment _ => []
  | .group _ nodes => nodes

/-- A walk through a tree visits its root before everything below it. -/
theorem walk_eq_cons (depth : ℕ) (node : Node) :
    walk depth node = (node, depth) :: walkAll (depth + 1) node.children := by
  cases node with
  | segment s => rfl
  | group g nodes => rfl

/-- An entry counts itself and everything below it. -/
theorem count_eq (node : Node) : count node = 1 + countAll node.children := by
  cases node with
  | segment s => rfl
  | group g nodes => rfl

mutual
/-- Nothing in a tree is less deep than its root. -/
theorem depth_le_of_mem_walk {depth : ℕ} {node : Node} {entry : Node × ℕ}
    (hentry : entry ∈ walk depth node) : depth ≤ entry.2 := by
  cases node with
  | segment s =>
    obtain rfl := List.mem_singleton.1 hentry
    exact Nat.le_refl depth
  | group g nodes =>
    rcases List.mem_cons.1 hentry with rfl | hbelow
    · exact Nat.le_refl depth
    · exact Nat.le_of_succ_le (depth_le_of_mem_walkAll hbelow)

/-- Nothing in a list of trees is less deep than their roots. -/
theorem depth_le_of_mem_walkAll {depth : ℕ} {nodes : List Node} {entry : Node × ℕ}
    (hentry : entry ∈ walkAll depth nodes) : depth ≤ entry.2 := by
  cases nodes with
  | nil => cases hentry
  | cons node rest =>
    rcases List.mem_append.1 hentry with hnode | hrest
    · exact depth_le_of_mem_walk hnode
    · exact depth_le_of_mem_walkAll hrest
end

/-- The entries at the front of a walk that are deeper than some depth. -/
def deeper (depth : ℕ) (entries : List (Node × ℕ)) : List (Node × ℕ) :=
  entries.takeWhile fun entry => depth < entry.2

/-- Whether a walk goes on no deeper than some depth, if it goes on. -/
def Surfaces (depth : ℕ) (entries : List (Node × ℕ)) : Prop :=
  ∀ entry ∈ entries.head?, entry.2 ≤ depth

section Stretches

variable {depth level : ℕ} {rest : List (Node × ℕ)}

theorem Surfaces.mono (hrest : Surfaces depth rest) (hle : depth ≤ level) :
    Surfaces level rest :=
  fun entry hentry => Nat.le_trans (hrest entry hentry) hle

/-- What follows a tree is the next tree, or else what follows them all. -/
theorem Surfaces.walkAll_append (hrest : Surfaces depth rest) (nodes : List Node) :
    Surfaces depth (walkAll depth nodes ++ rest) := by
  cases nodes with
  | nil => exact hrest
  | cons node others =>
    intro entry hentry
    rw [walkAll, walk_eq_cons] at hentry
    obtain rfl := Option.some.inj hentry
    exact Nat.le_refl depth

/-- All trees below a depth are deeper, and the stretch ends with them. -/
theorem deeper_walkAll_append (nodes : List Node) (hrest : Surfaces depth rest) :
    deeper depth (walkAll (depth + 1) nodes ++ rest) = walkAll (depth + 1) nodes := by
  have hall : ∀ entry ∈ walkAll (depth + 1) nodes, decide (depth < entry.2) = true :=
    fun entry hentry => decide_eq_true (depth_le_of_mem_walkAll hentry)
  have hnone : deeper depth rest = [] := by
    cases rest with
    | nil => rfl
    | cons entry others =>
      have hle : ¬ depth < entry.2 := Nat.not_lt.2 (hrest entry rfl)
      exact List.takeWhile_cons_of_neg (by simpa using hle)
  rw [deeper, List.takeWhile_append_of_pos hall]
  exact (congrArg _ hnone).trans (List.append_nil _)

mutual
/-- The deeper entries right behind an entry of a tree are those below it, whatever follows the
tree. -/
theorem deeper_of_walk {depth level : ℕ} {rest before after : List (Node × ℕ)} {node other : Node}
    (hsplit : walk depth node = before ++ (other, level) :: after) (hrest : Surfaces depth rest) :
    deeper level (after ++ rest) = walkAll (level + 1) other.children := by
  rw [walk_eq_cons] at hsplit
  rcases List.cons_eq_append_iff.1 hsplit with ⟨-, hself⟩ | ⟨inner, -, hbelow⟩
  · obtain ⟨hsame, rfl⟩ := List.cons.inj hself
    obtain ⟨rfl, rfl⟩ := Prod.mk.inj hsame
    exact deeper_walkAll_append other.children hrest
  · cases node with
    | segment s => simp [children, walkAll] at hbelow
    | group g nodes => exact deeper_of_walkAll hbelow (hrest.mono (Nat.le_succ depth))

/-- The deeper entries right behind an entry of a list of trees are those below it, whatever follows
the trees. -/
theorem deeper_of_walkAll {depth level : ℕ} {rest before after : List (Node × ℕ)} {nodes : List Node}
    {other : Node} (hsplit : walkAll depth nodes = before ++ (other, level) :: after)
    (hrest : Surfaces depth rest) :
    deeper level (after ++ rest) = walkAll (level + 1) other.children := by
  cases nodes with
  | nil => simp [walkAll] at hsplit
  | cons node others =>
    rw [walkAll] at hsplit
    rcases List.append_eq_append_iff.1 hsplit with ⟨inner, -, hothers⟩ | ⟨inner, hnode, hafter⟩
    · exact deeper_of_walkAll hothers hrest
    · cases inner with
      | nil =>
        have hothers : walkAll depth others = [] ++ (other, level) :: after := hafter.symm
        exact deeper_of_walkAll hothers hrest
      | cons entry inner =>
        rw [List.cons_append, List.cons.injEq] at hafter
        obtain ⟨rfl, rfl⟩ := hafter
        rw [List.append_assoc]
        exact deeper_of_walk hnode (hrest.walkAll_append others)
end

end Stretches

section Search

variable (code : String)

/-- Whether an entry is a group with a code. -/
def IsGroupWith (node : Node) : Prop :=
  ∃ g nodes, node = .group g nodes ∧ g.code = code

/-- The group with a code that an entry is, with its children. -/
def asGroup? : Node → Option (Group × List Node)
  | .segment _ => none
  | .group g nodes => if g.code = code then some (g, nodes) else none

theorem asGroup?_eq_some_iff {node : Node} {g : Group} {nodes : List Node} :
    asGroup? code node = some (g, nodes) ↔ node = .group g nodes ∧ g.code = code := by
  cases node with
  | segment s => simp [asGroup?]
  | group h others =>
    simp only [asGroup?, Option.ite_none_right_eq_some, Option.some.injEq, Prod.mk.injEq,
      Node.group.injEq]
    constructor
    · intro h
      obtain ⟨hcode, rfl, rfl⟩ := h
      exact ⟨⟨rfl, rfl⟩, hcode⟩
    · intro h
      obtain ⟨⟨rfl, rfl⟩, hcode⟩ := h
      exact ⟨hcode, rfl, rfl⟩

theorem asGroup?_eq_none_iff {node : Node} :
    asGroup? code node = none ↔ ¬ IsGroupWith code node := by
  rw [Option.eq_none_iff_forall_ne_some]
  constructor
  · intro hnone hgroup
    obtain ⟨g, nodes, hnode⟩ := hgroup
    exact hnone (g, nodes) ((asGroup?_eq_some_iff code).2 hnode)
  · intro hnot found hfound
    exact hnot ⟨found.1, found.2, (asGroup?_eq_some_iff code).1 hfound⟩

mutual
/-- A group that is searched for in a tree is the first that a walk meets. -/
theorem findGroup?_eq_findSome? (depth : ℕ) (node : Node) :
    findGroup? code node = (walk depth node).findSome? fun entry => asGroup? code entry.1 := by
  cases node with
  | segment s => rfl
  | group g nodes =>
    rw [findGroup?, walk, List.findSome?_cons, findGroupIn?_eq_findSome? (depth + 1) nodes]
    by_cases hcode : g.code = code
    · simp [asGroup?, hcode]
    · simp [asGroup?, hcode]

/-- A group that is searched for in a list of trees is the first that a walk meets. -/
theorem findGroupIn?_eq_findSome? (depth : ℕ) (nodes : List Node) :
    findGroupIn? code nodes =
      (walkAll depth nodes).findSome? fun entry => asGroup? code entry.1 := by
  cases nodes with
  | nil => rfl
  | cons node rest =>
    rw [findGroupIn?, walkAll, List.findSome?_append, findGroup?_eq_findSome? depth node,
      findGroupIn?_eq_findSome? depth rest]
end

end Search

end Node

namespace Message

open Node (IsGroupWith deeper)

variable (message : Message)

/-- The deeper entries right behind an entry of a message are those below it. -/
theorem deeper_walk {before after : List (Node × ℕ)} {node : Node} {depth : ℕ}
    (hsplit : message.walk = before ++ (node, depth) :: after) :
    deeper depth after = Node.walkAll (depth + 1) node.children := by
  have hend : Node.Surfaces 0 [] := fun entry hentry => by cases hentry
  have hdeeper := Node.deeper_of_walkAll hsplit hend
  rwa [List.append_nil] at hdeeper

/-- The group that is found is the first one with the code that is visited. -/
theorem findGroup?_eq_some_iff {code : String} {g : Group} {nodes : List Node} :
    message.findGroup? code = some (g, nodes) ↔
      g.code = code ∧ ∃ before depth after,
        message.walk = before ++ (.group g nodes, depth) :: after ∧
          ∀ entry ∈ before, ¬ IsGroupWith code entry.1 := by
  rw [findGroup?, Node.findGroupIn?_eq_findSome? code 0, List.findSome?_eq_some_iff]
  constructor
  · intro h
    obtain ⟨before, ⟨node, depth⟩, after, hsplit, hfound, hbefore⟩ := h
    obtain ⟨rfl, hcode⟩ := (Node.asGroup?_eq_some_iff code).1 hfound
    exact ⟨hcode, before, depth, after, hsplit,
      fun entry hentry => (Node.asGroup?_eq_none_iff code).1 (hbefore entry hentry)⟩
  · intro h
    obtain ⟨hcode, before, depth, after, hsplit, hbefore⟩ := h
    exact ⟨before, (.group g nodes, depth), after, hsplit,
      (Node.asGroup?_eq_some_iff code).2 ⟨rfl, hcode⟩,
      fun entry hentry => (Node.asGroup?_eq_none_iff code).2 (hbefore entry hentry)⟩

/-- No group is found exactly if none with the code is visited. -/
theorem findGroup?_eq_none_iff {code : String} :
    message.findGroup? code = none ↔ ∀ entry ∈ message.walk, ¬ IsGroupWith code entry.1 := by
  rw [findGroup?, Node.findGroupIn?_eq_findSome? code 0, List.findSome?_eq_none_iff]
  simp only [Node.asGroup?_eq_none_iff]
  rfl

/-- A message has as many entries as are visited in it. The entries behind an entry that are deeper,
up to the first that is not, are its descendants, visited as in a tree of their own, and the entry
counts itself and them. The group that is found for a code is the first visited group with the code,
with its children, whatever the codes of segments are and wherever else the code occurs; none is
found exactly if no visited group has the code. -/
theorem walk_agrees :
    message.count = message.walk.length ∧
    (∀ before node depth after, message.walk = before ++ (node, depth) :: after →
      let below := after.takeWhile fun entry => depth < entry.2
      node.walk depth = (node, depth) :: below ∧ node.count = 1 + below.length) ∧
    (∀ code g nodes, message.findGroup? code = some (g, nodes) ↔
      g.code = code ∧ ∃ before depth after,
        message.walk = before ++ (.group g nodes, depth) :: after ∧
          ∀ entry ∈ before, ¬ IsGroupWith code entry.1) ∧
    ∀ code, message.findGroup? code = none ↔
      ∀ entry ∈ message.walk, ¬ IsGroupWith code entry.1 := by
  refine ⟨(Node.length_walkAll 0 message.nodes).symm, ?_,
    fun code g nodes => message.findGroup?_eq_some_iff,
    fun code => message.findGroup?_eq_none_iff⟩
  intro before node depth after hsplit below
  have hbelow : below = Node.walkAll (depth + 1) node.children := message.deeper_walk hsplit
  constructor
  · rw [hbelow, Node.walk_eq_cons]
  · rw [hbelow, Node.length_walkAll, Node.count_eq]

/-- A segment that carries a group code is passed over, and of two groups with one code the first
visited is found, though it is the deeper one. -/
theorem walk_agrees_recurring :
    let contact : Node := .segment { tag := "CTA" }
    let inner : Node := .group { code := "SG2" } [contact]
    let outer : Node := .group { code := "SG1" } [.segment { tag := "NAD" }, inner]
    let message : Message := {
      standard := "EDIFACT", revision := "D97A", document := "ORDERS"
      nodes := [.segment { tag := "SG2" }, outer, .group { code := "SG2" } []] }
    message.walk = [(.segment { tag := "SG2" }, 0)] ++ (outer, 0) :: [(.segment { tag := "NAD" }, 1),
      (inner, 1), (contact, 2), (.group { code := "SG2" } [], 0)] ∧
    outer.count = 4 ∧ message.findGroup? "SG2" = some ({ code := "SG2" }, [contact]) := by
  intro contact inner outer message
  have hsplit : message.walk = [(.segment { tag := "SG2" }, 0)] ++ (outer, 0) ::
      [(.segment { tag := "NAD" }, 1), (inner, 1), (contact, 2), (.group { code := "SG2" } [], 0)] :=
    rfl
  obtain ⟨-, hcount, hfind, -⟩ := walk_agrees message
  refine ⟨hsplit, (hcount _ _ _ _ hsplit).2, (hfind _ _ _).2 ⟨rfl, ?_⟩⟩
  refine ⟨[(.segment { tag := "SG2" }, 0), (outer, 0), (.segment { tag := "NAD" }, 1)], 1,
    [(contact, 2), (.group { code := "SG2" } [], 0)], rfl, ?_⟩
  simp [IsGroupWith, outer]

end Message

end EdiSchema
