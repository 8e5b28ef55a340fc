import EdiSchema.Proofs.Assembly.Outcome
import EdiSchema.Proofs.Assembly.Siblings

/-!
# Where assembly puts each marker

In an assembled message every marker has one node, and there are no others. A node hangs directly
under the listed group that its marker belongs to, or stands at the top level if there is none, and
siblings stand in the order of their entries.

Complete trees are shown to have arranged families. As each listed group has one family, the
families together hold the markers of all sites, which are all markers.
-/

open scoped List

namespace EdiSchema.Assembly

section

variable {markers : List ResolvedMarker} {hierarchy : Hierarchy} {site : Option String}

/-- The node of a marker with its index. -/
def placedOf (marker : ResolvedMarker) : Placed where
  index := marker.index
  node := nodeOf marker

/-- The nodes of the segments of a site are those of its segment markers. -/
theorem segmentsAt_eq_map (hierarchy : Hierarchy) (part : List ResolvedMarker) :
    segmentsAt (listed markers) (part.filterMap segment?) site =
      (part.filter fun m => isSegment m ∧ site? markers hierarchy m = site).map
        placedOf := by
  induction part with
  | nil => rfl
  | cons marker rest ih =>
    cases marker with
    | group g =>
      change segmentsAt _ (rest.filterMap segment?) site = _
      simpa using ih
    | segment s items =>
      change segmentsAt _ ((s, items) :: rest.filterMap segment?) site = _
      rw [segmentsAt_cons, ih]
      by_cases hsite : segmentSite? (listed markers) s = site
      · simp [hsite, site?, placedOf, nodeOf, segmentNode, ResolvedMarker.index]
      · simp [hsite, site?]

/-- Segments have a tree without groups and without families. -/
theorem families_segmentsAt {family : Option String × List Node}
    (segments : List (SegmentMarker × List Item)) {placed : Placed}
    (hplaced : placed ∈ segmentsAt (listed markers) segments site) :
    family ∉ placed.node.families := by
  obtain ⟨s, -, rfl⟩ := List.mem_map.1 hplaced
  simp [segmentNode, Node.families]

/-- The roots of complete trees stand for markers of listed groups. -/
theorem Grown.exists_markers {roots : List String} {placed : List Placed}
    (hgrown : Grown markers hierarchy roots placed) :
    ∃ pairs : List (Placed × GroupMarker), pairs.map Prod.fst = placed ∧
      (pairs.map fun pair => pair.2.code) = roots ∧
      ∀ pair ∈ pairs, pair.2 ∈ markers.filterMap group? ∧ StandsFor pair.1 (.group pair.2) := by
  induction hgrown with
  | nil => exact ⟨[], rfl, rfl, by simp⟩
  | @cons g below _ _ hg _ _ _ ih =>
    obtain ⟨pairs, hplaced, hcodes, hpairs⟩ := ih
    refine ⟨(groupNode g (segmentsUnder markers g.code ++ below), g) :: pairs, by simp [hplaced],
      by simp [hcodes], ?_⟩
    exact List.forall_mem_cons.2 ⟨⟨hg, groupNode_standsFor g _⟩, hpairs⟩

/-- The markers that are not of segments are those of the groups. -/
theorem filter_not_isSegment (site : Option String) (part : List ResolvedMarker) :
    (part.filter fun m => ¬ isSegment m ∧ site? markers hierarchy m = site) =
      ((part.filterMap group?).filter fun g => home? markers hierarchy g.code = site).map
        .group := by
  induction part with
  | nil => rfl
  | cons marker rest ih =>
    cases marker with
    | segment s items =>
      change _ = ((rest.filterMap group?).filter _).map _
      simpa using ih
    | group g =>
      change _ = ((g :: rest.filterMap group?).filter _).map _
      by_cases hsite : home? markers hierarchy g.code = site
      · simpa [site?, hsite] using ih
      · simpa [site?, hsite] using ih

/-- The segments of a site and complete trees of all its groups stand for the markers of the site,
those of the segments in marker order. -/
theorem Grown.exists_pairs {roots : List String} {placed : List Placed}
    (hgrown : Grown markers hierarchy roots placed) (hnodup : (listed markers).Nodup)
    (hdistinct : roots.Nodup)
    (hroots : ∀ code, code ∈ roots ↔ code ∈ listed markers ∧ home? markers hierarchy code = site) :
    ∃ (pairs : List (Placed × ResolvedMarker)) (groups : List GroupMarker),
      pairs.map Prod.fst =
        segmentsAt (listed markers) (markers.filterMap segment?) site ++ placed ∧
      (∀ pair ∈ pairs, StandsFor pair.1 pair.2) ∧
      pairs.map Prod.snd =
        (markers.filter fun m => isSegment m ∧ site? markers hierarchy m = site) ++
          groups.map .group ∧
      (groups.map ResolvedMarker.group).Perm
        (markers.filter fun m => ¬ isSegment m ∧ site? markers hierarchy m = site) := by
  obtain ⟨pairs, rfl, rfl, hpairs⟩ := hgrown.exists_markers
  let segments := markers.filter fun m => isSegment m ∧ site? markers hierarchy m = site
  refine ⟨(segments.map fun m => (placedOf m, m)) ++ pairs.map fun pair => (pair.1, .group pair.2),
    pairs.map Prod.snd, ?_, ?_, ?_, ?_⟩
  · rw [segmentsAt_eq_map hierarchy]
    simp [segments, Function.comp_def]
  · intro pair hpair
    rcases List.mem_append.1 hpair with hpair | hpair
    · obtain ⟨m, hm, rfl⟩ := List.mem_map.1 hpair
      cases m with
      | group g => simp [segments] at hm
      | segment s items => exact ⟨rfl, rfl⟩
    · obtain ⟨source, hsource, rfl⟩ := List.mem_map.1 hpair
      exact (hpairs source hsource).2
  · simp [segments, Function.comp_def]
  · have hcodes : ((pairs.map Prod.snd).map GroupMarker.code).Nodup := by
      simpa [Function.comp_def] using hdistinct
    rw [filter_not_isSegment]
    refine List.Perm.map _ ?_
    refine (List.perm_ext_iff_of_nodup hcodes.of_map (hnodup.of_map.filter _)).2 fun g => ?_
    simp only [List.mem_map, List.mem_filter, decide_eq_true_eq] at hroots ⊢
    constructor
    · rintro ⟨pair, hpair, rfl⟩
      exact ⟨(hpairs pair hpair).1, ((hroots _).1 ⟨pair, hpair, rfl⟩).2⟩
    · rintro ⟨hg, hsite⟩
      obtain ⟨pair, hpair, hcode⟩ := (hroots g.code).2 ⟨List.mem_map_of_mem hg, hsite⟩
      exact ⟨pair, hpair, List.inj_on_of_nodup_map hnodup (hpairs pair hpair).1 hg hcode⟩

/-- The segments of a site with complete trees of all its groups are arranged. -/
theorem Grown.arranged {roots : List String} {placed : List Placed}
    (hgrown : Grown markers hierarchy roots placed) (hnodup : (listed markers).Nodup)
    (hdistinct : roots.Nodup)
    (hroots : ∀ code, code ∈ roots ↔ code ∈ listed markers ∧ home? markers hierarchy code = site) :
    ∃ own, Arranged markers hierarchy site
      (inOrder (segmentsAt (listed markers) (markers.filterMap segment?) site ++ placed)) own := by
  obtain ⟨pairs, groups, hnodes, hpairs, hmarkers, hgroups⟩ :=
    hgrown.exists_pairs hnodup hdistinct hroots
  rw [← hnodes]
  exact ⟨_, arranged_inOrder pairs hpairs groups hmarkers hgroups⟩

/-- The families in sorted trees are those in the trees. -/
theorem mem_familiesAll_inOrder (placed : List Placed) (family : Option String × List Node) :
    family ∈ Node.familiesAll (inOrder placed) ↔ ∃ p ∈ placed, family ∈ p.node.families := by
  simp [Node.familiesAll_eq_flatMap, inOrder]

/-- Every family in complete trees is arranged. -/
theorem Grown.arranged_families {roots : List String} {placed : List Placed}
    (hgrown : Grown markers hierarchy roots placed) (hnodup : (listed markers).Nodup) {p : Placed}
    (hp : p ∈ placed) {family : Option String × List Node} (hfamily : family ∈ p.node.families) :
    ∃ own, Arranged markers hierarchy family.1 family.2 own := by
  induction hgrown generalizing p with
  | nil => simp at hp
  | @cons g below _ _ hg hbelow _ ihBelow ihOthers =>
    rcases List.mem_cons.1 hp with rfl | hp
    · have hlisted : g.code ∈ listed markers := List.mem_map_of_mem hg
      rcases List.mem_cons.1 hfamily with rfl | hfamily
      · exact hbelow.arranged hnodup ((hierarchy.children_nodup g.code).filter _)
          (mem_listedChildren_iff hlisted)
      · obtain ⟨q, hq, hfamily⟩ := (mem_familiesAll_inOrder _ family).1 hfamily
        rcases List.mem_append.1 hq with hsegment | hq
        · exact absurd hfamily (families_segmentsAt _ hsegment)
        · exact ihBelow hq hfamily
    · exact ihOthers hp hfamily

/-- Every list of siblings in an assembled tree is arranged, and its groups are the listed ones. -/
theorem families_assemble {nodes : List Node} (hok : assemble markers hierarchy = .ok nodes) :
    (∀ family ∈ (none, nodes) :: Node.familiesAll nodes,
      ∃ own, Arranged markers hierarchy family.1 family.2 own) ∧
    (Node.groupCodesAll nodes).Perm (listed markers) := by
  obtain ⟨hnodup, hends⟩ := chainEnds_of_assemble hok
  obtain ⟨placed, hassemble, hgrown, hcodes⟩ := assemble_of_chainEnds hnodup hends
  obtain rfl := Except.ok.inj (hassemble.symm.trans hok)
  constructor
  · rintro family (_ | ⟨_, hfamily⟩)
    · exact hgrown.arranged hnodup (hnodup.filter _) fun code => by simp [topCodes]
    · obtain ⟨p, hp, hfamily⟩ := (mem_familiesAll_inOrder _ family).1 hfamily
      rcases List.mem_append.1 hp with hsegment | hp
      · exact absurd hfamily (families_segmentsAt _ hsegment)
      · exact hgrown.arranged_families hnodup hp hfamily
  · refine (groupCodesAll_inOrder _).trans ?_
    simpa [topSegments] using hcodes

/-- The entries of arranged siblings are those of the markers of the site. -/
theorem Arranged.members_perm {siblings : List Node} {own : List ResolvedMarker}
    (harranged : Arranged markers hierarchy site siblings own) :
    (Node.members (site, siblings)).Perm
      ((markers.filter fun m => site? markers hierarchy m = site).map
        fun m => (site? markers hierarchy m, nodeOf m)) := by
  have hmembers : Node.members (site, siblings) = own.map fun m => (site, nodeOf m) := by
    have hpairs := congrArg (List.map (Prod.mk site)) harranged.nodes
    simpa [Node.members, Function.comp_def] using hpairs
  rw [hmembers]
  refine (harranged.members.map _).trans (List.Perm.of_eq (List.map_congr_left fun m hm => ?_))
  rw [show site? markers hierarchy m = site by simpa using (List.mem_filter.1 hm).2]

/-- A site is the top level or a listed group. -/
theorem site?_mem (marker : ResolvedMarker) :
    site? markers hierarchy marker ∈ none :: (listed markers).map some := by
  have hfilter : ∀ code : Option String,
      code.filter (· ∈ listed markers) ∈ none :: (listed markers).map some := by
    rintro (_ | code)
    · exact List.mem_cons_self
    · by_cases hlisted : code ∈ listed markers <;> simp [Option.filter, hlisted]
  cases marker with
  | group g => exact hfilter _
  | segment s _ => exact hfilter _

/-- The entries of an assembled tree are the nodes of the markers, each at its site. -/
theorem placementsAll_assemble {nodes : List Node} (hok : assemble markers hierarchy = .ok nodes) :
    (Node.placementsAll none nodes).Perm
      (markers.map fun m => (site? markers hierarchy m, nodeOf m)) := by
  obtain ⟨harranged, hcodes⟩ := families_assemble hok
  let entries : Option String → List (Option String × Node) := fun site =>
    (markers.filter fun m => site? markers hierarchy m = site).map
      fun m => (site? markers hierarchy m, nodeOf m)
  have hsites : (((none, nodes) :: Node.familiesAll nodes).map Prod.fst).Perm
      (none :: (listed markers).map some) := by
    rw [List.map_cons, Node.familiesAll_fst]
    exact (hcodes.map some).cons none
  have hdistinct : (none :: (listed markers).map some).Nodup :=
    List.nodup_cons.2 ⟨by simp, (chainEnds_of_assemble hok).1.map (Option.some_injective _)⟩
  calc (Node.placementsAll none nodes)
    _ ~ (((none, nodes) : Option String × List Node) :: Node.familiesAll nodes).flatMap
          Node.members := Node.placementsAll_perm none nodes
    _ ~ ((((none, nodes) : Option String × List Node) :: Node.familiesAll nodes).map
          Prod.fst).flatMap entries := by
        rw [List.flatMap_map]
        refine List.Perm.flatMap_left _ fun family hfamily => ?_
        obtain ⟨own, harranged⟩ := harranged family hfamily
        exact harranged.members_perm
    _ ~ (none :: (listed markers).map some).flatMap entries := hsites.flatMap_right _
    _ ~ markers.map fun m => (site? markers hierarchy m, nodeOf m) := by
        have hsplit := perm_flatMap_filter (site? markers hierarchy) _ hdistinct markers
          fun m _ => site?_mem m
        simpa [entries, List.map_flatMap] using
          hsplit.map fun m => (site? markers hierarchy m, nodeOf m)

/-- The entries visited in an assembled tree are the nodes of the markers. -/
theorem map_bare_walkAll_assemble {nodes : List Node}
    (hok : assemble markers hierarchy = .ok nodes) :
    ((Node.walkAll 0 nodes).map fun entry => entry.1.bare).Perm (markers.map nodeOf) := by
  have hplacements := (placementsAll_assemble hok).map Prod.snd
  rw [List.map_map] at hplacements
  rw [Node.map_bare_walkAll none 0 nodes]
  exact hplacements

/-- A group among arranged siblings belongs to their site. -/
theorem Arranged.home?_eq {siblings : List Node} {own : List ResolvedMarker}
    (harranged : Arranged markers hierarchy site siblings own) {g : Group} {children : List Node}
    (hgroup : .group g children ∈ siblings) : home? markers hierarchy g.code = site := by
  have hbare : Node.group g [] ∈ own.map nodeOf := by
    rw [← harranged.nodes]
    exact List.mem_map_of_mem (f := Node.bare) hgroup
  obtain ⟨marker, hmarker, hnode⟩ := List.mem_map.1 hbare
  have hsite := (List.mem_filter.1 (harranged.members.mem_iff.1 hmarker)).2
  cases marker with
  | segment s items => simp [nodeOf, segmentNode] at hnode
  | group marker =>
    simp only [nodeOf, groupNode, Node.group.injEq] at hnode
    simpa [← hnode.1, site?] using of_decide_eq_true hsite

/-- In an assembled message each marker has one node and there are no others; the node hangs under
the listed group that the marker belongs to, or stands at the top level if there is none, and all
lists of siblings are arranged. A group with a listed parent occurs once, and not at the top. -/
theorem assemble_placement (base : Message) (markers : List ResolvedMarker)
    (hierarchy : Hierarchy) {message : Message}
    (hok : base.assemble markers hierarchy = .ok message) :
    message = { base with nodes := message.nodes } ∧
    (message.placements ~ markers.map fun m => (site? markers hierarchy m, nodeOf m)) ∧
    message.count = markers.length ∧
    ((listed markers).Nodup ∧ message.groupCodes ~ listed markers) ∧
    (∀ family ∈ message.families, ∃ own, Arranged markers hierarchy family.1 family.2 own) ∧
    ∀ code ∈ listed markers, home? markers hierarchy code ≠ none →
      message.groupCodes.count code = 1 ∧
        ∀ g children, .group g children ∈ message.nodes → g.code ≠ code := by
  rw [message_assemble_eq] at hok
  cases hassemble : assemble markers hierarchy with
  | error violation => simp [hassemble, Except.map] at hok
  | ok nodes =>
    obtain rfl : { base with nodes } = message := by simpa [hassemble, Except.map] using hok
    obtain ⟨harranged, hcodes⟩ := families_assemble hassemble
    have hplacements := placementsAll_assemble hassemble
    have hnodup := (chainEnds_of_assemble hassemble).1
    refine ⟨rfl, hplacements, ?_, ⟨hnodup, hcodes⟩, harranged, fun code hlisted hhome => ⟨?_, ?_⟩⟩
    · calc Node.countAll nodes
        _ = (Node.placementsAll none nodes).length := (Node.length_placementsAll none nodes).symm
        _ = markers.length := by rw [hplacements.length_eq, List.length_map]
    · exact (hcodes.count_eq code).trans (List.count_eq_one_of_mem hnodup hlisted)
    · rintro g children hgroup rfl
      obtain ⟨own, htop⟩ := harranged (none, nodes) List.mem_cons_self
      exact hhome (htop.home?_eq hgroup)

/-- A group whose entry comes before that of the group above it, and a segment of its region before
both, are nested all the same. -/
theorem assemble_placement_inverted :
    let inner : GroupMarker := { code := "SG2", maxOccurs := .one, description := "", index := 1 }
    let outer : GroupMarker := { code := "SG1", maxOccurs := .one, description := "", index := 2 }
    let segment : SegmentMarker := {
      tag := "NAD"
      description := ""
      requirement := .mandatory
      maxOccurs := .one
      index := 0
      parent := some "SG2" }
    let markers : List ResolvedMarker := [.segment segment [], .group inner, .group outer]
    let hierarchy : Hierarchy := { links := [⟨"SG2", "SG1"⟩] }
    let base : Message := ⟨"UN/EDIFACT", "D96A", "ORDERS", []⟩
    ∃ message, base.assemble markers hierarchy = .ok message ∧ message.count = 3 ∧
      message.groupCodes.count "SG2" = 1 := by
  intro inner outer segment markers hierarchy base
  have hends : ∀ code ∈ listed markers, ChainEnds markers hierarchy code := by
    have houter : ChainEnds markers hierarchy "SG1" := .of_top (by decide)
    have hinner : ChainEnds markers hierarchy "SG2" := .of_home (by decide) houter
    exact List.forall_mem_cons.2 ⟨hinner, List.forall_mem_cons.2 ⟨houter, by simp⟩⟩
  obtain ⟨placed, hassemble, -⟩ := assemble_of_chainEnds (by decide) hends
  have hok : base.assemble markers hierarchy =
      .ok { base with nodes := inOrder (topSegments markers ++ placed) } := by
    rw [message_assemble_eq, hassemble]
    rfl
  have hplacement := assemble_placement base markers hierarchy hok
  have hinner := hplacement.2.2.2.2.2 "SG2" (by decide) (by decide)
  exact ⟨_, hok, hplacement.2.2.1, hinner.1⟩

end

end EdiSchema.Assembly
