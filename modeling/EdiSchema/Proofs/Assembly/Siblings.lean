import EdiSchema.Proofs.Assembly.Tree

/-!
# The order of siblings

Siblings are sorted by the index of their entries, with a sort that keeps equal indices in order.
What a list of siblings should be is said by the markers that they stand for: those of the site,
sorted, and at each index the segments of the site in marker order before any group.
-/

namespace EdiSchema.Assembly

section Sorting

variable {α β : Type*}

/-- Whether a first value has no larger index than a second. -/
def indexLe (index : α → ℕ) (a b : α) : Bool :=
  index a ≤ index b

/-- Comparing by an index is transitive. -/
theorem indexLe_trans (index : α → ℕ) (a b c : α) (hab : indexLe index a b = true)
    (hbc : indexLe index b c = true) : indexLe index a c = true := by
  simp only [indexLe, decide_eq_true_eq] at *
  omega

/-- Comparing by an index is total. -/
theorem indexLe_total (index : α → ℕ) (a b : α) :
    (indexLe index a b || indexLe index b a) = true := by
  simp only [indexLe, Bool.or_eq_true, decide_eq_true_eq]
  omega

/-- Sorting by an index leaves the indices in order. -/
theorem pairwise_sorted (index : α → ℕ) (values : List α) :
    (values.mergeSort (indexLe index)).Pairwise fun a b => index a ≤ index b := by
  have hsorted : (values.mergeSort (indexLe index)).Pairwise fun a b => indexLe index a b :=
    List.pairwise_mergeSort (indexLe_trans index) (indexLe_total index) values
  simpa [indexLe] using hsorted

/-- Sorting by an index keeps the values of each index in order. -/
theorem filter_sorted (index : α → ℕ) (values : List α) (i : ℕ) :
    (values.mergeSort (indexLe index)).filter (fun a => index a = i) =
      values.filter fun a => index a = i := by
  have hpairwise : (values.filter fun a => index a = i).Pairwise fun a b => indexLe index a b := by
    refine List.pairwise_of_forall_mem_list fun a ha b hb => ?_
    simp only [List.mem_filter, decide_eq_true_eq] at ha hb
    simp [indexLe, ha.2, hb.2]
  have hsublist : (values.filter fun a => index a = i).Sublist
      (values.mergeSort (indexLe index)) :=
    List.sublist_mergeSort (indexLe_trans index) (indexLe_total index) hpairwise
      List.filter_sublist
  have hinner := hsublist.filter fun a => index a = i
  simp only [List.filter_filter, Bool.and_self] at hinner
  refine (hinner.eq_of_length ?_).symm
  exact ((List.mergeSort_perm values _).filter _).length_eq.symm

/-- Sorting by an index commutes with a function that keeps it. -/
theorem map_sorted {f : α → β} {index : α → ℕ} {index' : β → ℕ} {values : List α}
    (hindex : ∀ a ∈ values, index' (f a) = index a) :
    (values.mergeSort (indexLe index)).map f = (values.map f).mergeSort (indexLe index') := by
  refine List.map_mergeSort fun a ha b hb => ?_
  rw [indexLe, indexLe, hindex a ha, hindex b hb]

/-- A list falls into the parts that belong to the keys. -/
theorem perm_flatMap_filter [DecidableEq β] (key : α → β) (keys : List β) (hnodup : keys.Nodup)
    (values : List α) (hkeys : ∀ a ∈ values, key a ∈ keys) :
    (keys.flatMap fun k => values.filter fun a => key a = k).Perm values := by
  induction keys generalizing values with
  | nil =>
    cases values with
    | nil => exact List.Perm.refl _
    | cons a _ => simpa using hkeys a List.mem_cons_self
  | cons k keys ih =>
    obtain ⟨hfresh, hnodup⟩ := List.nodup_cons.1 hnodup
    have hothers : ∀ k' ∈ keys, (values.filter fun a => key a = k') =
        (values.filter fun a => !decide (key a = k)).filter fun a => key a = k' := by
      intro k' hk'
      rw [List.filter_filter]
      refine List.filter_congr fun a _ => ?_
      have hne : k' ≠ k := fun h => hfresh (h ▸ hk')
      by_cases hkey : key a = k' <;> simp [hkey, hne]
    rw [List.flatMap_cons, List.flatMap_congr hothers]
    have hrest := ih hnodup (values.filter fun a => !decide (key a = k)) fun a ha => by
      obtain ⟨hmem, hne⟩ := List.mem_filter.1 ha
      exact (List.mem_cons.1 (hkeys a hmem)).resolve_left (by simpa using hne)
    exact (hrest.append_left _).trans (List.filter_append_perm _ values)

end Sorting

/-- Whether a marker is of a segment. -/
def isSegment (marker : ResolvedMarker) : Bool :=
  (segment? marker).isSome

/-- The marker of a group is not of a segment. -/
@[simp] theorem isSegment_group (g : GroupMarker) : isSegment (.group g) = false :=
  rfl

/-- The marker of a segment is of a segment. -/
@[simp] theorem isSegment_segment (s : SegmentMarker) (items : List Item) :
    isSegment (.segment s items) = true :=
  rfl

/-- The node of a marker, without children. -/
def nodeOf : ResolvedMarker → Node
  | .group g => (groupNode g []).node
  | .segment s items => (segmentNode s items).node

/-- What siblings should be, given the site under which they hang and the markers that they stand
for. -/
structure Arranged (markers : List ResolvedMarker) (hierarchy : Hierarchy) (site : Option String)
    (siblings : List Node) (own : List ResolvedMarker) : Prop where
  nodes : siblings.map Node.bare = own.map nodeOf
  positions : siblings.map Node.position = own.map fun m => Position.listing m.index
  members : own.Perm (markers.filter fun m => site? markers hierarchy m = site)
  ordered : own.Pairwise fun a b => a.index ≤ b.index
  /-- Of the markers with one index, the segments come first, in marker order. -/
  ties : ∀ index, ∃ groups : List GroupMarker,
    own.filter (fun m => m.index = index) =
      (markers.filter fun m => (isSegment m ∧ site? markers hierarchy m = site) ∧ m.index = index) ++
        groups.map .group

/-- Whether a node is that of a marker, up to its children, and sorted by the marker's index. -/
def StandsFor (placed : Placed) (marker : ResolvedMarker) : Prop :=
  placed.index = marker.index ∧ placed.node.bare = nodeOf marker

/-- The node of a group stands for its marker. -/
theorem groupNode_standsFor (g : GroupMarker) (children : List Placed) :
    StandsFor (groupNode g children) (.group g) :=
  ⟨rfl, by simp [groupNode, nodeOf, Node.bare, inOrder]⟩

/-- The node of a marker has the position of its index. -/
theorem position_nodeOf (marker : ResolvedMarker) :
    (nodeOf marker).position = Position.listing marker.index := by
  cases marker <;> rfl

section

variable {markers : List ResolvedMarker} {hierarchy : Hierarchy} {site : Option String}

/-- The segments of a site with all its groups are the markers of the site. -/
theorem perm_of_site {own : List ResolvedMarker} {groups : List GroupMarker}
    (hown : own = (markers.filter fun m => isSegment m ∧ site? markers hierarchy m = site) ++
      groups.map .group)
    (hgroups : (groups.map ResolvedMarker.group).Perm
      (markers.filter fun m => ¬ isSegment m ∧ site? markers hierarchy m = site)) :
    own.Perm (markers.filter fun m => site? markers hierarchy m = site) := by
  rw [hown]
  refine (hgroups.append_left _).trans ?_
  have hsplit := List.filter_append_perm isSegment
    (markers.filter fun m => site? markers hierarchy m = site)
  simpa [List.filter_filter, Bool.decide_and] using hsplit

/-- Sorted nodes are arranged if they stand for the segments of the site in marker order and then
for its groups. -/
theorem arranged_inOrder (pairs : List (Placed × ResolvedMarker))
    (hpairs : ∀ pair ∈ pairs, StandsFor pair.1 pair.2) (groups : List GroupMarker)
    (hmarkers : pairs.map Prod.snd =
      (markers.filter fun m => isSegment m ∧ site? markers hierarchy m = site) ++
        groups.map .group)
    (hgroups : (groups.map ResolvedMarker.group).Perm
      (markers.filter fun m => ¬ isSegment m ∧ site? markers hierarchy m = site)) :
    Arranged markers hierarchy site (inOrder (pairs.map Prod.fst))
      ((pairs.map Prod.snd).mergeSort (indexLe ResolvedMarker.index)) := by
  have hfst : (pairs.map Prod.fst).mergeSort (indexLe Placed.index) =
      (pairs.mergeSort (indexLe fun pair => pair.2.index)).map Prod.fst :=
    (map_sorted fun pair hpair => (hpairs pair hpair).1).symm
  have hsnd : (pairs.map Prod.snd).mergeSort (indexLe ResolvedMarker.index) =
      (pairs.mergeSort (indexLe fun pair => pair.2.index)).map Prod.snd :=
    (map_sorted fun _ _ => rfl).symm
  have hnodes : (inOrder (pairs.map Prod.fst)).map Node.bare =
      ((pairs.map Prod.snd).mergeSort (indexLe ResolvedMarker.index)).map nodeOf := by
    change (((pairs.map Prod.fst).mergeSort (indexLe Placed.index)).map Placed.node).map _ = _
    rw [hfst, hsnd, List.map_map, List.map_map, List.map_map]
    refine List.map_congr_left fun pair hpair => ?_
    exact (hpairs pair (List.mem_mergeSort.1 hpair)).2
  refine ⟨hnodes, ?_, (List.mergeSort_perm _ _).trans (perm_of_site hmarkers hgroups),
    pairwise_sorted _ _, fun index => ?_⟩
  · calc (inOrder (pairs.map Prod.fst)).map Node.position
        = ((inOrder (pairs.map Prod.fst)).map Node.bare).map Node.position := by
          simp [Function.comp_def]
      _ = _ := by
          rw [hnodes, List.map_map]
          exact List.map_congr_left fun marker _ => position_nodeOf marker
  · refine ⟨groups.filter fun g => g.index = index, ?_⟩
    rw [filter_sorted, hmarkers, List.filter_append, List.filter_filter, List.filter_map]
    congr 1
    exact List.filter_congr fun m _ => by rw [Bool.and_comm, ← Bool.decide_and]

end

end EdiSchema.Assembly
