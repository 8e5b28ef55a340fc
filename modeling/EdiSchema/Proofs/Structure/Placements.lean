import Mathlib.Data.List.Nodup
import EdiSchema.Proofs.Structure.Families

/-!
# Trees that are told by their siblings

When the groups of a message have distinct codes, the entries placed under a group are its children
and no others, in the order of the message. So a message is determined by what is placed under each
group.
-/

namespace EdiSchema.Node

mutual
/-- What is placed in a tree stands under a group of the tree, apart from its root. -/
theorem site_of_mem_placements {site : Option String} {node : Node}
    {entry : Option String × Node} (hentry : entry ∈ placements site node) :
    entry.1 = site ∨ ∃ code ∈ groupCodes node, entry.1 = some code := by
  cases node with
  | segment s =>
    obtain rfl := List.mem_singleton.1 hentry
    exact .inl rfl
  | group g children =>
    rw [placements, List.mem_cons] at hentry
    rw [groupCodes]
    rcases hentry with rfl | hentry
    · exact .inl rfl
    · rcases site_of_mem_placementsAll hentry with hsite | ⟨code, hcode, hsite⟩
      · exact .inr ⟨g.code, List.mem_cons_self, hsite⟩
      · exact .inr ⟨code, List.mem_cons_of_mem _ hcode, hsite⟩

/-- What is placed in a list of trees stands under a group of the trees, apart from their roots. -/
theorem site_of_mem_placementsAll {site : Option String} {nodes : List Node}
    {entry : Option String × Node} (hentry : entry ∈ placementsAll site nodes) :
    entry.1 = site ∨ ∃ code ∈ groupCodesAll nodes, entry.1 = some code := by
  cases nodes with
  | nil => simp [placementsAll] at hentry
  | cons node rest =>
    rw [placementsAll, List.mem_append] at hentry
    simp only [groupCodesAll, List.mem_append]
    rcases hentry with hentry | hentry
    · rcases site_of_mem_placements hentry with hsite | ⟨code, hcode, hsite⟩
      · exact .inl hsite
      · exact .inr ⟨code, .inl hcode, hsite⟩
    · rcases site_of_mem_placementsAll hentry with hsite | ⟨code, hcode, hsite⟩
      · exact .inl hsite
      · exact .inr ⟨code, .inr hcode, hsite⟩
end

/-- The code of an entry that is a group. -/
def groupCode? : Node → Option String
  | .segment _ => none
  | .group g _ => some g.code

mutual
/-- The groups of a tree are those that are placed in it. -/
theorem filterMap_placements (site : Option String) (node : Node) :
    (placements site node).filterMap (fun entry => groupCode? entry.2) = groupCodes node := by
  cases node with
  | segment s => rfl
  | group g children =>
    rw [placements, List.filterMap_cons, filterMap_placementsAll, groupCodes]
    rfl

/-- The groups of a list of trees are those that are placed in them. -/
theorem filterMap_placementsAll (site : Option String) (nodes : List Node) :
    (placementsAll site nodes).filterMap (fun entry => groupCode? entry.2) =
      groupCodesAll nodes := by
  cases nodes with
  | nil => rfl
  | cons node rest =>
    rw [placementsAll, List.filterMap_append, filterMap_placements, filterMap_placementsAll,
      groupCodesAll]
end

mutual
/-- No group of a tree with distinct groups stands under itself. -/
theorem outer_ne_of_mem_placements {site : Option String} {node : Node}
    (hnodup : (groupCodes node).Nodup) (hsite : ∀ code ∈ groupCodes node, site ≠ some code)
    {entry : Option String × Node} (hentry : entry ∈ placements site node) {code : String}
    (hcode : groupCode? entry.2 = some code) : entry.1 ≠ some code := by
  cases node with
  | segment s =>
    obtain rfl := List.mem_singleton.1 hentry
    cases hcode
  | group g children =>
    obtain ⟨hfresh, hnodup⟩ := List.nodup_cons.1 hnodup
    rw [placements, List.mem_cons] at hentry
    rcases hentry with rfl | hentry
    · obtain rfl := Option.some.inj hcode
      exact hsite g.code List.mem_cons_self
    · apply outer_ne_of_mem_placementsAll hnodup _ hentry hcode
      intro code hcode heq
      exact hfresh (Option.some.inj heq ▸ hcode)

/-- No group of trees with distinct groups stands under itself. -/
theorem outer_ne_of_mem_placementsAll {site : Option String} {nodes : List Node}
    (hnodup : (groupCodesAll nodes).Nodup) (hsite : ∀ code ∈ groupCodesAll nodes, site ≠ some code)
    {entry : Option String × Node} (hentry : entry ∈ placementsAll site nodes) {code : String}
    (hcode : groupCode? entry.2 = some code) : entry.1 ≠ some code := by
  cases nodes with
  | nil => simp [placementsAll] at hentry
  | cons node rest =>
    obtain ⟨hnode, hrest, -⟩ := List.nodup_append.1 hnodup
    rw [groupCodesAll, List.forall_mem_append] at hsite
    rw [placementsAll, List.mem_append] at hentry
    rcases hentry with hentry | hentry
    · exact outer_ne_of_mem_placements hnode hsite.1 hentry hcode
    · exact outer_ne_of_mem_placementsAll hrest hsite.2 hentry hcode
end

/-- The entries that are placed under a group. -/
def placedUnder (site : Option String) (entries : List (Option String × Node)) : List Node :=
  (entries.filter fun entry => entry.1 = site).map Prod.snd

/-- What is placed under a group is found part by part. -/
theorem placedUnder_append (site : Option String) (first second : List (Option String × Node)) :
    placedUnder site (first ++ second) = placedUnder site first ++ placedUnder site second := by
  rw [placedUnder, List.filter_append, List.map_append]
  rfl

section

variable {site other : Option String}

/-- Nothing is placed under a group that is above none of the entries. -/
theorem placedUnder_eq_nil {entries : List (Option String × Node)}
    (hentries : ∀ entry ∈ entries, entry.1 ≠ other) : placedUnder other entries = [] := by
  rw [placedUnder, List.map_eq_nil_iff, List.filter_eq_nil_iff]
  intro entry hentry
  simpa using hentries entry hentry

/-- Nothing is placed in a tree under a group from elsewhere. -/
theorem placedUnder_placements_eq_nil {node : Node} (hsite : site ≠ other)
    (hother : ∀ code ∈ groupCodes node, some code ≠ other) :
    placedUnder other (placements site node) = [] := by
  apply placedUnder_eq_nil
  intro entry hentry
  rcases site_of_mem_placements hentry with heq | ⟨code, hcode, heq⟩
  · rwa [heq]
  · rw [heq]
    exact hother code hcode

/-- Nothing is placed in a list of trees under a group from elsewhere. -/
theorem placedUnder_placementsAll_eq_nil {nodes : List Node} (hsite : site ≠ other)
    (hother : ∀ code ∈ groupCodesAll nodes, some code ≠ other) :
    placedUnder other (placementsAll site nodes) = [] := by
  apply placedUnder_eq_nil
  intro entry hentry
  rcases site_of_mem_placementsAll hentry with heq | ⟨code, hcode, heq⟩
  · rwa [heq]
  · rw [heq]
    exact hother code hcode

/-- Only its root is placed directly where a tree stands. -/
theorem placedUnder_placements_self {node : Node}
    (hsite : ∀ code ∈ groupCodes node, some code ≠ site) :
    placedUnder site (placements site node) = [node.bare] := by
  cases node with
  | segment s => simp [placements, placedUnder, bare]
  | group g children =>
    rw [groupCodes, List.forall_mem_cons] at hsite
    have hchildren := placedUnder_placementsAll_eq_nil hsite.1 hsite.2
    rw [placements, ← List.singleton_append, placedUnder_append, hchildren, List.append_nil]
    simp [placedUnder, bare]

/-- Only their roots are placed directly where trees stand. -/
theorem placedUnder_placementsAll_self {nodes : List Node}
    (hsite : ∀ code ∈ groupCodesAll nodes, some code ≠ site) :
    placedUnder site (placementsAll site nodes) = nodes.map bare := by
  induction nodes with
  | nil => rfl
  | cons node rest ih =>
    rw [groupCodesAll, List.forall_mem_append] at hsite
    rw [placementsAll, placedUnder_append, placedUnder_placements_self hsite.1, ih hsite.2]
    rfl

end

/-- A family in a tree is that of one of its groups. -/
theorem exists_code_of_mem_families {node : Node} {family : Option String × List Node}
    (hfamily : family ∈ families node) : ∃ code ∈ groupCodes node, some code = family.1 := by
  rw [← List.mem_map, ← families_fst]
  exact List.mem_map_of_mem hfamily

/-- A family in a list of trees is that of one of their groups. -/
theorem exists_code_of_mem_familiesAll {nodes : List Node} {family : Option String × List Node}
    (hfamily : family ∈ familiesAll nodes) :
    ∃ code ∈ groupCodesAll nodes, some code = family.1 := by
  rw [← List.mem_map, ← familiesAll_fst]
  exact List.mem_map_of_mem hfamily

mutual
/-- What is placed under a group of a tree are the children of the group. -/
theorem placedUnder_placements {site : Option String} {node : Node}
    (hnodup : (groupCodes node).Nodup) (hsite : ∀ code ∈ groupCodes node, some code ≠ site)
    {family : Option String × List Node} (hfamily : family ∈ families node) :
    placedUnder family.1 (placements site node) = family.2.map bare := by
  obtain ⟨code, hcode, hfirst⟩ := exists_code_of_mem_families hfamily
  have helsewhere : site ≠ family.1 := fun h => hsite code hcode (hfirst.trans h.symm)
  cases node with
  | segment s => simp [families] at hfamily
  | group g children =>
    obtain ⟨hfresh, hnodup⟩ := List.nodup_cons.1 hnodup
    have hbelow : ∀ code ∈ groupCodesAll children, some code ≠ some g.code := by
      intro code hcode heq
      exact hfresh (Option.some.inj heq ▸ hcode)
    rw [placements, ← List.singleton_append, placedUnder_append,
      placedUnder_eq_nil (by simpa using helsewhere), List.nil_append]
    rcases List.mem_cons.1 hfamily with rfl | hfamily
    · exact placedUnder_placementsAll_self hbelow
    · exact placedUnder_placementsAll hnodup hbelow hfamily

/-- What is placed under a group of a list of trees are the children of the group. -/
theorem placedUnder_placementsAll {site : Option String} {nodes : List Node}
    (hnodup : (groupCodesAll nodes).Nodup) (hsite : ∀ code ∈ groupCodesAll nodes, some code ≠ site)
    {family : Option String × List Node} (hfamily : family ∈ familiesAll nodes) :
    placedUnder family.1 (placementsAll site nodes) = family.2.map bare := by
  obtain ⟨code, hcode, hfirst⟩ := exists_code_of_mem_familiesAll hfamily
  have helsewhere : site ≠ family.1 := fun h => hsite code hcode (hfirst.trans h.symm)
  cases nodes with
  | nil => simp [familiesAll] at hfamily
  | cons node rest =>
    rw [groupCodesAll, List.forall_mem_append] at hsite
    obtain ⟨hnode, hrest, hdisjoint⟩ := List.nodup_append.1 hnodup
    rw [placementsAll, placedUnder_append]
    rcases List.mem_append.1 hfamily with hfamily | hfamily
    · obtain ⟨code, hcode, hfirst⟩ := exists_code_of_mem_families hfamily
      have hnone : placedUnder family.1 (placementsAll site rest) = [] :=
        placedUnder_placementsAll_eq_nil helsewhere fun other hother heq =>
          hdisjoint code hcode other hother (Option.some.inj (hfirst.trans heq.symm))
      rw [hnone, List.append_nil, placedUnder_placements hnode hsite.1 hfamily]
    · obtain ⟨code, hcode, hfirst⟩ := exists_code_of_mem_familiesAll hfamily
      have hnone : placedUnder family.1 (placements site node) = [] :=
        placedUnder_placements_eq_nil helsewhere fun other hother heq =>
          hdisjoint other hother code hcode (Option.some.inj (heq.trans hfirst.symm))
      rw [hnone, List.nil_append, placedUnder_placementsAll hrest hsite.2 hfamily]
end

mutual
/-- Two trees are equal if their roots are and each group has the same children in both. -/
theorem eq_of_families (placed : Option String → List Node) {first second : Node}
    (hroot : first.bare = second.bare)
    (hfirst : ∀ family ∈ families first, family.2.map bare = placed family.1)
    (hsecond : ∀ family ∈ families second, family.2.map bare = placed family.1) :
    first = second := by
  cases first with
  | segment s =>
    cases second with
    | segment t => exact hroot
    | group h others => simp [bare] at hroot
  | group g children =>
    cases second with
    | segment t => simp [bare] at hroot
    | group h others =>
      obtain rfl : g = h := by simpa [bare] using hroot
      rw [families, List.forall_mem_cons] at hfirst hsecond
      have hchildren : children.map bare = others.map bare := hfirst.1.trans hsecond.1.symm
      rw [eq_of_familiesAll placed hchildren hfirst.2 hsecond.2]

/-- Two lists of trees are equal if their roots are and each group has the same children in
both. -/
theorem eq_of_familiesAll (placed : Option String → List Node) {first second : List Node}
    (hroots : first.map bare = second.map bare)
    (hfirst : ∀ family ∈ familiesAll first, family.2.map bare = placed family.1)
    (hsecond : ∀ family ∈ familiesAll second, family.2.map bare = placed family.1) :
    first = second := by
  cases first with
  | nil => exact (List.map_eq_nil_iff.1 hroots.symm).symm
  | cons node rest =>
    cases second with
    | nil => simp at hroots
    | cons other others =>
      rw [List.map_cons, List.map_cons, List.cons.injEq] at hroots
      rw [familiesAll, List.forall_mem_append] at hfirst hsecond
      rw [eq_of_families placed hroots.1 hfirst.1 hsecond.1,
        eq_of_familiesAll placed hroots.2 hfirst.2 hsecond.2]
end

end EdiSchema.Node
