import EdiSchema.Proofs.Assembly.Placement
import EdiSchema.Proofs.Structure.Placements

/-!
# Trees restored from their entries

A tree whose groups have distinct codes is assembled again from the markers of its entries, if they
come in the order in which the tree is walked, are numbered in that order, and each belongs to the
group above its entry.

Assembly succeeds since the groups of a tree are in no circle. Its result has under each group the
nodes of the markers that belong to it, as the tree has, so the two are equal.
-/

namespace EdiSchema.Assembly

section

variable {markers : List ResolvedMarker} {hierarchy : Hierarchy}

/-- Markers with increasing indices are already in the order of siblings. -/
theorem Arranged.own_eq {site : Option String} {siblings : List Node} {own : List ResolvedMarker}
    (harranged : Arranged markers hierarchy site siblings own)
    (hindices : markers.Pairwise fun a b => a.index < b.index) :
    own = markers.filter fun m => site? markers hierarchy m = site := by
  have hdistinct : (markers.map ResolvedMarker.index).Nodup :=
    List.pairwise_map.2 (hindices.imp Nat.ne_of_lt)
  refine harranged.members.eq_of_pairwise ?_ harranged.ordered
    ((hindices.imp Nat.le_of_lt).filter _)
  intro a b ha hb hab hba
  have ha := (List.mem_filter.1 (harranged.members.mem_iff.1 ha)).1
  exact List.inj_on_of_nodup_map hdistinct ha (List.mem_filter.1 hb).1 (hab.antisymm hba)

mutual
/-- The chains of the groups in a tree end if that of the group above it does. -/
theorem chainEnds_of_placements {site : Option String} {node : Node}
    (hsite : ∀ code ∈ site, ChainEnds markers hierarchy code)
    (hhome : ∀ entry ∈ Node.placements site node, ∀ code ∈ Node.groupCode? entry.2,
      home? markers hierarchy code = entry.1) :
    ∀ code ∈ Node.groupCodes node, ChainEnds markers hierarchy code := by
  cases node with
  | segment s => exact List.forall_mem_nil _
  | group g children =>
    rw [Node.placements, List.forall_mem_cons] at hhome
    have hroot : home? markers hierarchy g.code = site := hhome.1 g.code rfl
    have hends : ChainEnds markers hierarchy g.code := by
      cases site with
      | none => exact .of_top hroot
      | some parent => exact .of_home hroot (hsite parent rfl)
    refine List.forall_mem_cons.2 ⟨hends, chainEnds_of_placementsAll ?_ hhome.2⟩
    rintro code hcode
    rwa [← Option.some.inj hcode]

/-- The chains of the groups in a list of trees end if that of the group above them does. -/
theorem chainEnds_of_placementsAll {site : Option String} {nodes : List Node}
    (hsite : ∀ code ∈ site, ChainEnds markers hierarchy code)
    (hhome : ∀ entry ∈ Node.placementsAll site nodes, ∀ code ∈ Node.groupCode? entry.2,
      home? markers hierarchy code = entry.1) :
    ∀ code ∈ Node.groupCodesAll nodes, ChainEnds markers hierarchy code := by
  cases nodes with
  | nil => exact List.forall_mem_nil _
  | cons node rest =>
    rw [Node.placementsAll, List.forall_mem_append] at hhome
    exact List.forall_mem_append.2
      ⟨chainEnds_of_placements hsite hhome.1, chainEnds_of_placementsAll hsite hhome.2⟩
end

/-- The groups that are listed are those whose markers have a group as their node. -/
theorem listed_eq (markers : List ResolvedMarker) :
    listed markers = markers.filterMap fun m => Node.groupCode? (nodeOf m) := by
  induction markers with
  | nil => rfl
  | cons marker rest ih =>
    cases marker with
    | group g => exact congrArg (g.code :: ·) ih
    | segment s items => exact ih

/-- A marker whose node is a group belongs to the listed parent of the group. -/
theorem home?_of_mem_groupCode? {marker : ResolvedMarker} {code : String}
    (hcode : code ∈ Node.groupCode? (nodeOf marker)) :
    home? markers hierarchy code = site? markers hierarchy marker := by
  cases marker with
  | group g => rw [← Option.some.inj hcode]; rfl
  | segment s items => cases hcode

end

/-- A tree with distinct groups is assembled from the markers of its entries. -/
theorem assemble_of_placements {markers : List ResolvedMarker} {hierarchy : Hierarchy}
    {nodes : List Node}
    (hplacements : Node.placementsAll none nodes =
      markers.map fun m => (site? markers hierarchy m, nodeOf m))
    (hnodup : (Node.groupCodesAll nodes).Nodup)
    (hindices : markers.Pairwise fun a b => a.index < b.index) :
    assemble markers hierarchy = .ok nodes := by
  have hlisted : listed markers = Node.groupCodesAll nodes := by
    rw [listed_eq, ← Node.filterMap_placementsAll none, hplacements, List.filterMap_map]
    rfl
  have hends : ∀ code ∈ listed markers, ChainEnds markers hierarchy code := by
    have htop : ∀ code ∈ (none : Option String), ChainEnds markers hierarchy code := by simp
    rw [hlisted]
    apply chainEnds_of_placementsAll htop
    rw [hplacements]
    intro entry hentry code hcode
    obtain ⟨marker, -, rfl⟩ := List.mem_map.1 hentry
    exact home?_of_mem_groupCode? hcode
  obtain ⟨placed, hassemble, -⟩ := assemble_of_chainEnds (hlisted ▸ hnodup) hends
  rw [hassemble]
  -- Under each group both trees have the nodes of its markers.
  let placedAt (site : Option String) : List Node :=
    Node.placedUnder site (Node.placementsAll none nodes)
  have hplacedAt (site : Option String) : placedAt site =
      (markers.filter fun m => site? markers hierarchy m = site).map nodeOf := by
    change Node.placedUnder site (Node.placementsAll none nodes) = _
    rw [hplacements, Node.placedUnder, List.filter_map, List.map_map]
    rfl
  have hresult : ∀ family ∈ (none, inOrder (topSegments markers ++ placed)) ::
      Node.familiesAll (inOrder (topSegments markers ++ placed)),
      family.2.map Node.bare = placedAt family.1 := by
    intro family hfamily
    obtain ⟨own, harranged⟩ := (families_assemble hassemble).1 family hfamily
    rw [harranged.nodes, harranged.own_eq hindices, hplacedAt]
  have htop : ∀ code ∈ Node.groupCodesAll nodes, some code ≠ none := by simp
  rw [List.forall_mem_cons] at hresult
  refine congrArg Except.ok
    (Node.eq_of_familiesAll placedAt ?_ hresult.2 fun family hfamily => ?_)
  · exact hresult.1.trans (Node.placedUnder_placementsAll_self htop)
  · exact (Node.placedUnder_placementsAll hnodup htop hfamily).symm

end EdiSchema.Assembly
