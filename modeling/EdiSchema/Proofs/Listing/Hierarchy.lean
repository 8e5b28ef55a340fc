import Mathlib.Data.List.Nodup
import EdiSchema.Listing.Hierarchy

/-!
# Parents and children of groups

The links of a hierarchy answer two questions, which group is above a group and which groups are
below it. The two answers agree for every hierarchy, since a group has one link at most.

A link that is added stands behind the others. One that is there already changes nothing, and one
that would give a group a second parent, or itself as its parent, is refused.
-/

namespace EdiSchema.Hierarchy

/-- A link of a hierarchy is the one that its child is found by. -/
theorem find?_eq_some_iff (hierarchy : Hierarchy) (child : String) (link : GroupLink) :
    hierarchy.find? child = some link ↔ link ∈ hierarchy.links ∧ link.child = child := by
  constructor
  · intro hfound
    exact ⟨List.mem_of_find?_eq_some hfound, by simpa using List.find?_some hfound⟩
  · rintro ⟨hlink, rfl⟩
    cases hfound : hierarchy.find? link.child with
    | none => simpa using List.find?_eq_none.1 hfound link hlink
    | some other =>
      have hother := List.mem_of_find?_eq_some hfound
      have hchild : other.child = link.child := by simpa using List.find?_some hfound
      exact congrArg some (List.inj_on_of_nodup_map hierarchy.unique hother hlink hchild)

/-- A group is below another exactly when that one is above it. -/
theorem mem_children_iff (hierarchy : Hierarchy) (parent child : String) :
    child ∈ hierarchy.children parent ↔ hierarchy.parent? child = some parent := by
  simp only [children, List.mem_map, List.mem_filter, beq_iff_eq, parent?, Option.map_eq_some_iff,
    find?_eq_some_iff]
  constructor
  · rintro ⟨link, ⟨hlink, hparent⟩, hchild⟩
    exact ⟨link, ⟨hlink, hchild⟩, hparent⟩
  · rintro ⟨link, ⟨hlink, hchild⟩, hparent⟩
    exact ⟨link, ⟨hlink, hparent⟩, hchild⟩

/-- No group is twice below the same group. -/
theorem children_nodup (hierarchy : Hierarchy) (parent : String) :
    (hierarchy.children parent).Nodup :=
  hierarchy.unique.sublist (List.filter_sublist.map GroupLink.child)

/-- No group is below itself. -/
theorem parent?_ne_self (hierarchy : Hierarchy) (group : String) :
    hierarchy.parent? group ≠ some group := by
  intro hself
  obtain ⟨link, hfound, hparent⟩ := Option.map_eq_some_iff.1 hself
  obtain ⟨hlink, hchild⟩ := (hierarchy.find?_eq_some_iff group link).1 hfound
  exact hierarchy.proper link hlink (hchild.trans hparent.symm)

section Links

variable {hierarchy next : Hierarchy} {parent child : String}

/-- A group is not linked to itself. -/
theorem link_self (hierarchy : Hierarchy) (group : String) :
    hierarchy.link group group = .error ⟨group, .underItself⟩ :=
  dif_pos rfl

/-- A group that has a parent is linked to no other one. -/
theorem link_of_known {known : String} (hother : child ≠ parent)
    (hknown : hierarchy.parent? child = some known) :
    hierarchy.link parent child =
      if known = parent then .ok hierarchy else .error ⟨child, .underTwo known parent⟩ := by
  obtain ⟨link, hfound, rfl⟩ := Option.map_eq_some_iff.1 hknown
  rw [Hierarchy.link, dif_neg hother]
  split
  · next found hlink =>
    obtain rfl := Option.some.inj (hlink.symm.trans hfound)
    rfl
  · next hnone => simp [hnone] at hfound

/-- A group without a parent is linked behind all others. -/
theorem link_of_new (hother : child ≠ parent) (hnew : hierarchy.parent? child = none) :
    ∃ next, hierarchy.link parent child = .ok next ∧
      next.links = hierarchy.links ++ [⟨child, parent⟩] := by
  have hnone : hierarchy.find? child = none := Option.map_eq_none_iff.1 hnew
  refine ⟨hierarchy.append parent child hnone hother, ?_, rfl⟩
  rw [link, dif_neg hother]
  split
  · next known hknown => simp [hnone] at hknown
  · rfl

/-- A link that is not refused is there already, or stands behind all others. -/
theorem links_of_link (hlink : hierarchy.link parent child = .ok next) :
    (hierarchy.parent? child = some parent ∧ next = hierarchy) ∨
      (hierarchy.parent? child = none ∧ next.links = hierarchy.links ++ [⟨child, parent⟩]) := by
  by_cases hother : child = parent
  · subst hother
    rw [link_self] at hlink
    cases hlink
  cases hknown : hierarchy.parent? child with
  | none =>
    obtain ⟨appended, happended, hlinks⟩ := link_of_new hother hknown
    obtain rfl := Except.ok.inj (happended.symm.trans hlink)
    exact .inr ⟨rfl, hlinks⟩
  | some known =>
    rw [link_of_known hother hknown] at hlink
    split at hlink
    · next hsame =>
      obtain rfl := Except.ok.inj hlink
      exact .inl ⟨congrArg some hsame, rfl⟩
    · cases hlink

/-- The parents after a group is linked behind all others. -/
theorem parent?_of_links (hnew : hierarchy.parent? child = none)
    (hlinks : next.links = hierarchy.links ++ [⟨child, parent⟩]) (group : String) :
    next.parent? group = if group = child then some parent else hierarchy.parent? group := by
  rw [parent?, find?, hlinks, List.find?_append, Option.map_or]
  change (hierarchy.parent? group).or _ = _
  by_cases hgroup : group = child
  · subst hgroup
    rw [hnew, if_pos rfl]
    simp
  · have hother : child ≠ group := fun h => hgroup h.symm
    rw [if_neg hgroup]
    simp [hother]

/-- The children after a group is linked behind all others. -/
theorem children_of_links (hlinks : next.links = hierarchy.links ++ [⟨child, parent⟩])
    (group : String) :
    next.children group = hierarchy.children group ++ if group = parent then [child] else [] := by
  rw [children, hlinks, List.filter_append, List.map_append]
  by_cases hgroup : group = parent
  · subst hgroup
    simp [children]
  · have hother : parent ≠ group := fun h => hgroup h.symm
    simp [children, hgroup, hother]

end Links

end EdiSchema.Hierarchy
