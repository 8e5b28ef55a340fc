import Mathlib.Algebra.BigOperators.Group.List.Lemmas
import Mathlib.Algebra.GroupWithZero.Nat
import EdiSchema.Listing.Index
import EdiSchema.Proofs.Listing.Distinct
import EdiSchema.Proofs.Listing.Hierarchy
import EdiSchema.Proofs.Table

/-!
# Two tables that stay inverse

An index shows a hierarchy if it says the same of every group. A call on the index is refused when
the same link is refused by the hierarchy, and then nothing has been written; otherwise both tables
are filled, and the index shows the hierarchy with the link. So the tables stay inverse over any
calls, since a hierarchy keeps each link only once.

The calls that succeed are recorded along with the run. The children of a group stand in the order
in which they first occur among these calls.
-/

namespace EdiSchema.Hierarchy

namespace Index

section Tables

variable (index : Index) (parent child group : String)

/-- The parents after one of them is set. -/
theorem parent?_setParent :
    (index.setParent child parent).parent? group =
      if group = child then some parent else index.parent? group := by
  rw [parent?, setParent, List.lookup_cons]
  by_cases hgroup : group = child
  · simp [hgroup]
  · rw [beq_eq_false_iff_ne.2 hgroup, if_neg hgroup]
    exact Table.lookup_filter_ne hgroup index.above

/-- A parent that is set for a new child is counted. -/
theorem size_setParent (hnew : index.parent? child = none) :
    (index.setParent child parent).size = index.size + 1 := by
  rw [size, setParent, Table.filter_of_lookup_eq_none hnew, List.length_cons]
  rfl

/-- An entry that has one more child is looked up under its parent. -/
theorem lookup_pushChild (entries : List (String × List String)) :
    (pushChild parent child entries).lookup group =
      if group = parent then some ((entries.lookup parent).getD [] ++ [child])
      else entries.lookup group := by
  induction entries with
  | nil =>
    by_cases hgroup : group = parent
    · simp [pushChild, hgroup]
    · simp [pushChild, List.lookup_cons, beq_eq_false_iff_ne.2 hgroup, hgroup]
  | cons entry rest ih =>
    obtain ⟨other, known⟩ := entry
    rw [pushChild]
    by_cases hother : other = parent
    · subst hother
      by_cases hgroup : group = other
      · simp [hgroup]
      · simp [List.lookup_cons, beq_eq_false_iff_ne.2 hgroup, hgroup]
    · have hparent : parent ≠ other := fun h => hother h.symm
      rw [if_neg hother, List.lookup_cons, ih, List.lookup_cons, List.lookup_cons,
        beq_eq_false_iff_ne.2 hparent]
      by_cases hgroup : group = parent
      · simp [hgroup, beq_eq_false_iff_ne.2 hparent]
      · simp [hgroup]

/-- A child is pushed behind those that its parent has. -/
theorem children_addChild :
    (index.addChild parent child).children group =
      index.children group ++ if group = parent then [child] else [] := by
  rw [children, addChild, lookup_pushChild]
  by_cases hgroup : group = parent
  · simp [hgroup, children]
  · simp [hgroup, children]

/-- A parent gets an entry if it has none. -/
theorem keys_pushChild (entries : List (String × List String)) :
    (pushChild parent child entries).map Prod.fst =
      if parent ∈ entries.map Prod.fst then entries.map Prod.fst
      else entries.map Prod.fst ++ [parent] := by
  induction entries with
  | nil => rfl
  | cons entry rest ih =>
    obtain ⟨other, known⟩ := entry
    rw [pushChild]
    by_cases hother : other = parent
    · simp [hother]
    · have hparent : parent ≠ other := fun h => hother h.symm
      rw [if_neg hother, List.map_cons, ih, List.map_cons]
      by_cases hmem : parent ∈ rest.map Prod.fst
      · rw [if_pos hmem, if_pos (List.mem_cons_of_mem _ hmem)]
      · have hnone : parent ∉ other :: rest.map Prod.fst := by simp [hparent, hmem]
        rw [if_neg hmem, if_neg hnone, List.cons_append]

end Tables

/-- An index that says of every group what a hierarchy says of it, and has entries for the parents
that have children. -/
structure Shows (index : Index) (hierarchy : Hierarchy) : Prop where
  parent? : ∀ group, index.parent? group = hierarchy.parent? group
  children : ∀ group, index.children group = hierarchy.children group
  size : index.size = hierarchy.size
  nodup : index.parents.Nodup
  mem_parents : ∀ group, group ∈ index.parents ↔ index.children group ≠ []

/-- What a call does to an index. -/
theorem call_eq (index : Index) (parent child : String) :
    index.call parent child =
      if child = parent then (.error ⟨child, .underItself⟩, index)
      else match index.parent? child with
        | some known =>
          if known = parent then (.ok (), index)
          else (.error ⟨child, .underTwo known parent⟩, index)
        | none => (.ok (), (index.addChild parent child).setParent child parent) := by
  rw [call, link]
  by_cases hself : child = parent
  · rw [if_pos hself, if_pos hself]
    rfl
  · rw [if_neg hself, if_neg hself]
    -- the call looks at the index as it is, and goes on with what it finds there
    change ((match index.parent? child with
      | some known =>
        if known = parent then pure () else throw ⟨child, .underTwo known parent⟩
      | none => do
        modify (addChild parent child)
        modify (setParent child parent)) : ExceptT Violation (StateM Index) Unit).run.run index = _
    cases index.parent? child with
    | none => rfl
    | some known =>
      dsimp only
      split
      · rfl
      · rfl

/-- The empty index shows the hierarchy without links. -/
theorem shows_empty : Shows {} .empty where
  parent? _ := rfl
  children _ := rfl
  size := rfl
  nodup := List.nodup_nil
  mem_parents _ := ⟨fun h => absurd h List.not_mem_nil, fun h => absurd rfl h⟩

namespace Shows

variable {index : Index} {hierarchy next : Hierarchy} {parent child : String}

/-- Both tables filled show the hierarchy with the link. -/
theorem fill (h : index.Shows hierarchy) (hnew : hierarchy.parent? child = none)
    (hlinks : next.links = hierarchy.links ++ [⟨child, parent⟩]) :
    ((index.addChild parent child).setParent child parent).Shows next where
  parent? group := by
    rw [parent?_setParent, parent?_of_links hnew hlinks, ← h.parent?]
    rfl
  children group := by
    rw [children_of_links hlinks, ← h.children]
    exact children_addChild index parent child group
  size := by
    have hfree : (index.addChild parent child).parent? child = none := (h.parent? child).trans hnew
    rw [size_setParent _ _ _ hfree, Hierarchy.size, hlinks, List.length_append]
    exact congrArg (· + 1) h.size
  nodup := by
    change ((pushChild parent child index.below).map Prod.fst).Nodup
    rw [keys_pushChild]
    split
    · exact h.nodup
    · next hmem =>
      rw [← List.concat_eq_append]
      exact h.nodup.concat hmem
  mem_parents group := by
    change group ∈ (pushChild parent child index.below).map Prod.fst ↔
      (index.addChild parent child).children group ≠ []
    rw [keys_pushChild, children_addChild]
    have hbefore := h.mem_parents group
    rw [parents] at hbefore
    by_cases hgroup : group = parent
    · subst hgroup
      split <;> simp_all
    · split <;> simp_all

/-- A call is refused like the link, with nothing written, or it leads to the index that shows the
hierarchy with the link. -/
theorem call (h : index.Shows hierarchy) (parent child : String) :
    (∃ violation, hierarchy.link parent child = .error violation ∧
      index.call parent child = (.error violation, index)) ∨
    ∃ next after, hierarchy.link parent child = .ok next ∧
      index.call parent child = (.ok (), after) ∧ after.Shows next := by
  rw [call_eq, h.parent?]
  by_cases hself : child = parent
  · subst hself
    rw [if_pos rfl]
    exact .inl ⟨_, link_self hierarchy child, rfl⟩
  rw [if_neg hself]
  cases hknown : hierarchy.parent? child with
  | none =>
    obtain ⟨next, hlink, hlinks⟩ := link_of_new hself hknown
    exact .inr ⟨next, _, hlink, rfl, h.fill hknown hlinks⟩
  | some known =>
    rw [link_of_known hself hknown]
    by_cases hsame : known = parent
    · rw [if_pos hsame]
      exact .inr ⟨hierarchy, index, rfl, by simp [hsame], h⟩
    · rw [if_neg hsame]
      exact .inl ⟨_, rfl, by simp [hsame]⟩

/-- The children of all parents together are those that have a parent. -/
theorem sum_children (h : index.Shows hierarchy) :
    (index.parents.map fun parent => (index.children parent).length).sum = index.size := by
  have hcount : ∀ parent,
      (index.children parent).length = (hierarchy.links.map GroupLink.parent).count parent := by
    intro parent
    rw [h.children, Hierarchy.children, List.length_map, ← List.countP_eq_length_filter,
      List.count_eq_countP, List.countP_map]
    rfl
  have hparents : index.parents.Perm (hierarchy.links.map GroupLink.parent).dedup := by
    refine (List.perm_ext_iff_of_nodup h.nodup (List.nodup_dedup _)).2 fun parent => ?_
    rw [h.mem_parents, List.mem_dedup, ← List.count_pos_iff, ← hcount, List.length_pos_iff]
  simp only [hcount]
  rw [(hparents.map _).sum_eq, List.sum_map_count_dedup_eq_length, List.length_map, h.size]
  rfl

end Shows

section Calls

variable (index : Index) (parent child : String)

/-- A call is refused, and then writes nothing, exactly if it nests a group under itself or under a
second parent. -/
theorem refused_iff :
    (∃ violation, index.call parent child = (.error violation, index)) ↔
      child = parent ∨ ∃ known, index.parent? child = some known ∧ known ≠ parent := by
  rw [call_eq]
  by_cases hself : child = parent
  · simp [hself]
  cases hknown : index.parent? child with
  | none => simp [hself]
  | some known => by_cases hsame : known = parent <;> simp [hself, hsame]

/-- Every other call succeeds, and changes nothing when it is repeated. -/
theorem succeeds_iff :
    (∃ after, index.call parent child = (.ok (), after) ∧
        after.call parent child = (.ok (), after)) ↔
      ¬ (child = parent ∨ ∃ known, index.parent? child = some known ∧ known ≠ parent) := by
  by_cases hself : child = parent
  · simp [call_eq, hself]
  cases hknown : index.parent? child with
  | none =>
    have hset : ((index.addChild parent child).setParent child parent).parent? child =
        some parent := by
      rw [parent?_setParent, if_pos rfl]
    simp [call_eq, hself, hknown, hset]
  | some known => by_cases hsame : known = parent <;> simp [call_eq, hself, hknown, hsame]

/-- A call succeeds without a change exactly if the child has the parent already. -/
theorem call_eq_self_iff (hproper : index.parent? child ≠ some child) :
    index.call parent child = (.ok (), index) ↔ index.parent? child = some parent := by
  rw [call_eq]
  by_cases hself : child = parent
  · subst hself
    simp [hproper]
  cases hknown : index.parent? child with
  | none =>
    -- a call that fills the tables is seen from the size
    have hsize : ((index.addChild parent child).setParent child parent).size = index.size + 1 :=
      size_setParent (index.addChild parent child) parent child hknown
    have hgrown : (index.addChild parent child).setParent child parent ≠ index := by
      intro hsame
      rw [hsame] at hsize
      exact Nat.succ_ne_self index.size hsize.symm
    simp [hself, hgrown]
  | some known => by_cases hsame : known = parent <;> simp [hself, hsame]

end Calls

end Index

section Histories

variable {hierarchy next : Hierarchy} {taken : List GroupLink}

/-- Whether the children of every group are those that some links name, each once and in the order
in which they are first named. -/
def Orders (hierarchy : Hierarchy) (taken : List GroupLink) : Prop :=
  ∀ group, hierarchy.children group =
    ((taken.filter fun call => call.parent = group).map GroupLink.child).eraseDups

/-- The children of a group are those that the links name. -/
theorem Orders.mem_iff (h : hierarchy.Orders taken) (parent child : String) :
    ⟨child, parent⟩ ∈ taken ↔ hierarchy.parent? child = some parent := by
  rw [← mem_children_iff, h parent, List.mem_eraseDups]
  constructor
  · intro hmem
    exact List.mem_map.2 ⟨⟨child, parent⟩, List.mem_filter.2 ⟨hmem, by simp⟩, rfl⟩
  · intro hmem
    obtain ⟨call, hfound, rfl⟩ := List.mem_map.1 hmem
    obtain ⟨hcall, hparent⟩ := List.mem_filter.1 hfound
    obtain rfl : call.parent = parent := of_decide_eq_true hparent
    exact hcall

/-- A link that is not refused comes last among the children of its parent, unless it was there. -/
theorem Orders.link (h : hierarchy.Orders taken) {parent child : String}
    (hlink : hierarchy.link parent child = .ok next) : next.Orders (taken ++ [⟨child, parent⟩]) := by
  intro group
  rw [List.filter_append, List.map_append]
  by_cases hgroup : group = parent
  · subst hgroup
    have hmem : child ∈ (taken.filter fun call => call.parent = group).map GroupLink.child ↔
        hierarchy.parent? child = some group := by
      rw [← mem_children_iff, h group, List.mem_eraseDups]
    rw [List.filter_singleton, decide_eq_true rfl, cond_true, List.map_singleton,
      Listing.eraseDups_concat, ← h group]
    rcases links_of_link hlink with ⟨hknown, rfl⟩ | ⟨hnew, hlinks⟩
    · rw [if_pos (hmem.2 hknown)]
    · have hfirst : ¬ hierarchy.parent? child = some group := by simp [hnew]
      rw [if_neg (mt hmem.1 hfirst), children_of_links hlinks, if_pos rfl]
  · have hother : decide (parent = group) = false := decide_eq_false fun h => hgroup h.symm
    rw [List.filter_singleton, hother, cond_false, List.map_nil, List.append_nil, ← h group]
    rcases links_of_link hlink with ⟨-, rfl⟩ | ⟨-, hlinks⟩
    · rfl
    · rw [children_of_links hlinks, if_neg hgroup, List.append_nil]

/-- Over any calls the index goes on showing the hierarchy, whose children stand in the order in
which they are named by the calls that succeed. -/
theorem Index.Shows.linkAll {index : Index} (hshows : index.Shows hierarchy)
    (horders : hierarchy.Orders taken) (calls : List GroupLink) :
    ∃ more after, index.linkAll calls = (more, after) ∧
      after.Shows (hierarchy.linkAll calls) ∧ (hierarchy.linkAll calls).Orders (taken ++ more) := by
  induction calls generalizing index hierarchy taken with
  | nil =>
    refine ⟨[], index, rfl, hshows, ?_⟩
    rwa [List.append_nil]
  | cons wanted rest ih =>
    rw [Hierarchy.linkAll, Index.linkAll]
    rcases hshows.call wanted.parent wanted.child with
      ⟨violation, hlink, hrun⟩ | ⟨next, after, hlink, hrun, hnext⟩
    · rw [hlink, hrun]
      exact ih hshows horders
    · obtain ⟨more, last, hmore, hlast, hordered⟩ := ih hnext (horders.link hlink)
      rw [hlink, hrun]
      refine ⟨wanted :: more, last, ?_, hlast, ?_⟩
      · dsimp only
        rw [hmore]
      · rw [List.append_assoc] at hordered
        exact hordered

end Histories

/-- Let any calls be made on the empty index, of which some succeed. Then a group is among the
children of another exactly if that is its parent; the children of a group are distinct, and stand
in the order in which the successful calls first name them; as many groups are counted as all
parents have children; and no group is its own parent. A further call is refused exactly if it nests
a group under itself or under a second parent, and then changes nothing. Any other call succeeds,
and changes nothing when it is repeated; so it is with a call that has succeeded before, however
many came after it. All this is what the hierarchy of the same calls says, and the answer to a
further call is the one that the hierarchy gives. -/
theorem Index.linkAll_inverse (calls : List GroupLink) :
    ∃ taken index, Index.linkAll {} calls = (taken, index) ∧
      (∀ parent child, child ∈ index.children parent ↔ index.parent? child = some parent) ∧
      (∀ parent, (index.children parent).Nodup ∧ index.children parent =
        ((taken.filter fun call => call.parent = parent).map GroupLink.child).eraseDups) ∧
      (index.parents.Nodup ∧ (∀ parent, parent ∈ index.parents ↔ index.children parent ≠ []) ∧
        index.size = (index.parents.map fun parent => (index.children parent).length).sum) ∧
      (∀ group, index.parent? group ≠ some group) ∧
      (∀ parent child,
        ((∃ violation, index.call parent child = (.error violation, index)) ↔
          child = parent ∨ ∃ known, index.parent? child = some known ∧ known ≠ parent) ∧
        ((∃ after, index.call parent child = (.ok (), after) ∧
            after.call parent child = (.ok (), after)) ↔
          ¬ (child = parent ∨ ∃ known, index.parent? child = some known ∧ known ≠ parent)) ∧
        (index.call parent child = (.ok (), index) ↔ ⟨child, parent⟩ ∈ taken)) ∧
      index.Shows (Hierarchy.empty.linkAll calls) ∧
      ∀ parent child, (index.call parent child).1 =
        ((Hierarchy.empty.linkAll calls).link parent child).map fun _ => () := by
  have hstart : Orders .empty [] := fun _ => rfl
  obtain ⟨taken, index, hrun, hshows, horders⟩ := shows_empty.linkAll hstart calls
  rw [List.nil_append] at horders
  have hproper : ∀ group, index.parent? group ≠ some group := by
    intro group
    rw [hshows.parent?]
    exact parent?_ne_self _ group
  refine ⟨taken, index, hrun, ?_, ?_, ⟨hshows.nodup, hshows.mem_parents, hshows.sum_children.symm⟩,
    hproper, ?_, hshows, ?_⟩
  · intro parent child
    rw [hshows.children, hshows.parent?]
    exact mem_children_iff _ parent child
  · intro parent
    rw [hshows.children]
    exact ⟨children_nodup _ parent, horders parent⟩
  · intro parent child
    refine ⟨refused_iff index parent child, succeeds_iff index parent child, ?_⟩
    rw [call_eq_self_iff index parent child (hproper child), horders.mem_iff, hshows.parent?]
  · intro parent child
    rcases hshows.call parent child with
      ⟨violation, hlink, hcall⟩ | ⟨next, after, hlink, hcall, -⟩
    · rw [hlink, hcall]
      rfl
    · rw [hlink, hcall]
      rfl

/-- A second parent is refused, and a link that is repeated is not counted again. -/
example :
    let (taken, index) := Index.linkAll {} [⟨"SG2", "SG1"⟩, ⟨"SG2", "SG3"⟩, ⟨"SG4", "SG1"⟩,
      ⟨"SG2", "SG1"⟩]
    taken = [⟨"SG2", "SG1"⟩, ⟨"SG4", "SG1"⟩, ⟨"SG2", "SG1"⟩] ∧
      index.children "SG1" = ["SG2", "SG4"] ∧ index.size = 2 := by
  decide

end EdiSchema.Hierarchy
