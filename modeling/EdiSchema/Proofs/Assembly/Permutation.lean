import EdiSchema.Proofs.Assembly.Placement

/-!
# The order of markers

Markers with distinct indices and distinct groups lead to the same result in whatever order they
are given. Everything that decides a tree, or the violation in place of it, depends on which groups
are listed and not on their order, except for the order of siblings before they are sorted; and
siblings with distinct indices have one sorted order.
-/

namespace EdiSchema.Assembly

/-- Nodes with distinct indices have one sorted order. -/
theorem inOrder_eq_of_perm {first second : List Placed} (hperm : second.Perm first)
    (hindices : (first.map Placed.index).Nodup) : inOrder second = inOrder first := by
  have hsorted : second.mergeSort (indexLe Placed.index) =
      first.mergeSort (indexLe Placed.index) := by
    refine List.Perm.eq_of_pairwise ?_ (pairwise_sorted _ _) (pairwise_sorted _ _) ?_
    · intro a b ha hb hab hba
      have ha := hperm.mem_iff.1 (List.mem_mergeSort.1 ha)
      exact List.inj_on_of_nodup_map hindices ha (List.mem_mergeSort.1 hb) (hab.antisymm hba)
    · exact (List.mergeSort_perm _ _).trans (hperm.trans (List.mergeSort_perm _ _).symm)
  exact congrArg (List.map Placed.node) hsorted

section

variable {markers other : List ResolvedMarker} {hierarchy : Hierarchy}

/-- The same markers in another order list the same groups. -/
theorem listed_perm (hperm : other.Perm markers) : (listed other).Perm (listed markers) :=
  (hperm.filterMap group?).map GroupMarker.code

/-- The order of markers does not matter for the listed parents of groups. -/
theorem home?_perm (hperm : other.Perm markers) :
    home? other hierarchy = home? markers hierarchy := by
  funext code
  simp only [home?, (listed_perm hperm).mem_iff]

/-- The order of markers does not matter for the chains of groups. -/
theorem chainEnds_perm (hperm : other.Perm markers) (code : String) :
    ChainEnds other hierarchy code ↔ ChainEnds markers hierarchy code := by
  have habove : ∀ steps code, above? other hierarchy steps code =
      above? markers hierarchy steps code := by
    intro steps
    induction steps with
    | zero => exact fun code => rfl
    | succ steps ih => simp [above?, home?_perm hperm, ih]
  exact exists_congr fun steps => by rw [habove]

/-- The order of markers does not matter for the listed groups below a group, which come in the
order of the hierarchy. -/
theorem listedChildren_perm (hperm : other.Perm markers) (code : String) :
    listedChildren other hierarchy code = listedChildren markers hierarchy code := by
  simp only [listedChildren, (listed_perm hperm).mem_iff]

/-- The groups at the top level come in marker order. -/
theorem topCodes_perm (hperm : other.Perm markers) :
    (topCodes other hierarchy).Perm (topCodes markers hierarchy) := by
  rw [topCodes, topCodes, home?_perm hperm]
  exact (listed_perm hperm).filter _

/-- The segments of a site come in marker order. -/
theorem segmentsAt_perm (hperm : other.Perm markers) (site : Option String) :
    (segmentsAt (listed other) (other.filterMap segment?) site).Perm
      (segmentsAt (listed markers) (markers.filterMap segment?) site) := by
  simp only [segmentsAt, segmentSite?, (listed_perm hperm).mem_iff]
  exact ((hperm.filterMap segment?).filter _).map _

/-- Complete trees follow their roots to other places. -/
theorem Grown.exists_of_perm {roots moved : List String} {placed : List Placed}
    (hgrown : Grown markers hierarchy roots placed) (hroots : roots.Perm moved) :
    ∃ after, Grown markers hierarchy moved after ∧ placed.Perm after := by
  induction hroots generalizing placed with
  | nil => exact ⟨placed, hgrown, List.Perm.refl placed⟩
  | cons code _ ih =>
    cases hgrown with
    | cons g hg hbelow hothers =>
      obtain ⟨after, hafter, hperm⟩ := ih hothers
      exact ⟨_, .cons g hg hbelow hafter, hperm.cons _⟩
  | swap second first codes =>
    cases hgrown with
    | cons g hg hbelow hothers =>
      cases hothers with
      | cons h hh hunder hothers =>
        exact ⟨_, .cons h hh hunder (.cons g hg hbelow hothers), List.Perm.swap _ _ _⟩
  | trans _ _ ihFirst ihSecond =>
    obtain ⟨between, hbetween, hfirst⟩ := ihFirst hgrown
    obtain ⟨after, hafter, hsecond⟩ := ihSecond hbetween
    exact ⟨after, hafter, hfirst.trans hsecond⟩

/-- The siblings of a site have distinct indices if the markers do. -/
theorem Grown.index_nodup {site : Option String} {roots : List String} {placed : List Placed}
    (hgrown : Grown markers hierarchy roots placed) (hnodup : (listed markers).Nodup)
    (hdistinct : roots.Nodup)
    (hroots : ∀ code, code ∈ roots ↔ code ∈ listed markers ∧ home? markers hierarchy code = site)
    (hindices : (markers.map ResolvedMarker.index).Nodup) :
    ((segmentsAt (listed markers) (markers.filterMap segment?) site ++ placed).map
      Placed.index).Nodup := by
  obtain ⟨pairs, groups, hnodes, hpairs, hmarkers, hgroups⟩ :=
    hgrown.exists_pairs hnodup hdistinct hroots
  have hindex : (pairs.map Prod.fst).map Placed.index =
      (pairs.map Prod.snd).map ResolvedMarker.index := by
    rw [List.map_map, List.map_map]
    exact List.map_congr_left fun pair hpair => (hpairs pair hpair).1
  rw [← hnodes, hindex, ((perm_of_site hmarkers hgroups).map _).nodup_iff]
  exact hindices.sublist (List.filter_sublist.map _)

/-- The same markers in another order have the same complete trees. -/
theorem Grown.eq_of_perm {roots : List String} {placed others : List Placed}
    (hgrown : Grown markers hierarchy roots placed) (hother : Grown other hierarchy roots others)
    (hperm : other.Perm markers) (hnodup : (listed markers).Nodup)
    (hindices : (markers.map ResolvedMarker.index).Nodup) : others = placed := by
  induction hgrown generalizing others with
  | nil => cases hother; rfl
  | @cons g below codes rest hg hbelow hrest ihBelow ihRest =>
    generalize hroots : g.code :: codes = roots at hother
    cases hother with
    | nil => simp at hroots
    | cons h hh hunder hbeside =>
      obtain ⟨hcode, rfl⟩ := List.cons.inj hroots
      obtain rfl : g = h :=
        List.inj_on_of_nodup_map hnodup hg ((hperm.filterMap group?).mem_iff.1 hh) hcode
      rw [listedChildren_perm hperm] at hunder
      obtain rfl := ihBelow hunder
      obtain rfl := ihRest hbeside
      have hdistinct := hbelow.index_nodup hnodup ((hierarchy.children_nodup g.code).filter _)
        (mem_listedChildren_iff (List.mem_map_of_mem hg)) hindices
      have hchildren := inOrder_eq_of_perm
        ((segmentsAt_perm hperm (some g.code)).append_right _) hdistinct
      simp only [groupNode, segmentsUnder, hchildren]

/-- Markers that form a tree form the same tree in every order. -/
theorem assemble_eq_of_chainEnds (hperm : other.Perm markers) (hnodup : (listed markers).Nodup)
    (hindices : (markers.map ResolvedMarker.index).Nodup)
    (hends : ∀ code ∈ listed markers, ChainEnds markers hierarchy code) :
    assemble other hierarchy = assemble markers hierarchy := by
  obtain ⟨placed, hassemble, hgrown, -⟩ := assemble_of_chainEnds hnodup hends
  obtain ⟨others, hother, hothers, -⟩ :=
    assemble_of_chainEnds ((listed_perm hperm).nodup_iff.2 hnodup) fun code hcode =>
      (chainEnds_perm hperm code).2 (hends code ((listed_perm hperm).mem_iff.1 hcode))
  obtain ⟨after, hafter, hmoved⟩ := hothers.exists_of_perm (topCodes_perm hperm)
  obtain rfl := hgrown.eq_of_perm hafter hperm hnodup hindices
  rw [hassemble, hother]
  refine congrArg Except.ok (inOrder_eq_of_perm ((segmentsAt_perm hperm none).append hmoved) ?_)
  exact hgrown.index_nodup hnodup (hnodup.filter _) (fun code => by simp [topCodes]) hindices

/-- Markers that are nested in a circle lead to the same violation in every order. -/
theorem assemble_eq_of_not_chainEnds (hperm : other.Perm markers)
    (hnodup : (listed markers).Nodup)
    (hcircle : ∃ code ∈ listed markers, ¬ ChainEnds markers hierarchy code) :
    assemble other hierarchy = assemble markers hierarchy := by
  have hstuck : {code | code ∈ listed other ∧ ¬ ChainEnds other hierarchy code} =
      {code | code ∈ listed markers ∧ ¬ ChainEnds markers hierarchy code} := by
    ext code
    exact and_congr (listed_perm hperm).mem_iff (not_congr (chainEnds_perm hperm code))
  obtain ⟨code, hassemble, hleast⟩ := assemble_of_not_chainEnds hnodup hcircle
  obtain ⟨same, hother, hsame⟩ := assemble_of_not_chainEnds
    ((listed_perm hperm).nodup_iff.2 hnodup) ⟨code, hstuck.ge hleast.1⟩
  rw [hstuck] at hsame
  rw [hassemble, hother, hsame.unique hleast]

/-- The result of assembly does not depend on the order of markers with distinct indices and
distinct groups. If a group is listed twice, all orders fail for that reason. -/
theorem assemble_perm (base : Message) (hierarchy : Hierarchy)
    {markers other : List ResolvedMarker} (hperm : other.Perm markers) :
    ((markers.map ResolvedMarker.index).Nodup → (listed markers).Nodup →
      base.assemble other hierarchy = base.assemble markers hierarchy) ∧
    (¬ (listed markers).Nodup → ∃ code, 2 ≤ (listed markers).count code ∧
      base.assemble other hierarchy = .error ⟨code, .listedTwice⟩) := by
  simp only [message_assemble_eq]
  constructor
  · intro hindices hnodup
    by_cases hends : ∀ code ∈ listed markers, ChainEnds markers hierarchy code
    · rw [assemble_eq_of_chainEnds hperm hnodup hindices hends]
    · rw [assemble_eq_of_not_chainEnds hperm hnodup (by simpa using hends)]
  · intro hrepeat
    obtain ⟨code, herror, hcount⟩ :=
      assemble_of_not_nodup hierarchy (mt (listed_perm hperm).nodup_iff.1 hrepeat)
    exact ⟨code, (listed_perm hperm).count_eq code ▸ hcount, by rw [herror]; rfl⟩

/-- Two nested groups form the same tree in both orders; a group that is listed twice is refused. -/
theorem assemble_perm_pair :
    let outer : GroupMarker := { code := "SG1", maxOccurs := .one, description := "", index := 0 }
    let inner : GroupMarker := { code := "SG2", maxOccurs := .one, description := "", index := 1 }
    let hierarchy : Hierarchy := { links := [⟨"SG2", "SG1"⟩] }
    let base : Message := ⟨"UN/EDIFACT", "D96A", "ORDERS", []⟩
    base.assemble [.group inner, .group outer] hierarchy =
        base.assemble [.group outer, .group inner] hierarchy ∧
      ∃ code, base.assemble [.group outer, .group outer] hierarchy =
        .error ⟨code, .listedTwice⟩ := by
  intro outer inner hierarchy base
  have hswap : List.Perm [ResolvedMarker.group inner, .group outer] [.group outer, .group inner] :=
    List.Perm.swap _ _ _
  obtain ⟨code, -, hrepeat⟩ := (assemble_perm base hierarchy
    (List.Perm.refl [ResolvedMarker.group outer, .group outer])).2 (by decide)
  exact ⟨(assemble_perm base hierarchy hswap).1 (by decide) (by decide), code, hrepeat⟩

end

end EdiSchema.Assembly
