import EdiSchema.Proofs.Assembly.Tree

/-!
# Attaching groups

What a run of `attach` preserves. The groups that wait are those whose codes are not attached yet;
with an attached group the listed group above it is attached, and its chain ends.

From this a group that comes to be attached is never attached already or without an entry, so `attach`
always succeeds, and what it attaches is exactly a complete tree. The induction is on the number
of groups that wait.
-/

open scoped List

namespace EdiSchema.Assembly

section

variable (markers : List ResolvedMarker) (hierarchy : Hierarchy)

/-- The listed groups with the segments of their regions, before any of them is attached. -/
def waiting : List Pending :=
  (markers.filterMap group?).map fun g =>
    { marker := g, children := segmentsUnder markers g.code }

/-- What holds between any two attachments. -/
structure Sound (progress : Progress) : Prop where
  pending : progress.pending =
    (waiting markers).filter fun group => group.code ∉ progress.attached
  known : ∀ code ∈ progress.attached, code ∈ listed markers
  nodup : progress.attached.Nodup
  upward : ∀ code ∈ progress.attached, ∀ parent,
    home? markers hierarchy code = some parent → parent ∈ progress.attached
  ends : ∀ code ∈ progress.attached, ChainEnds markers hierarchy code

/-- What attaching complete trees with some roots changes. -/
structure Attaches (roots : List String) (before after : Progress) (placed : List Placed) :
    Prop where
  sound : Sound markers hierarchy after
  grown : Grown markers hierarchy roots placed
  codes : after.attached.Perm (codesOf placed ++ before.attached)

/-- The groups that wait have the listed codes. -/
theorem waiting_codes : (waiting markers).map Pending.code = listed markers := by
  simp [waiting, listed, Pending.code, Function.comp_def]

/-- Nothing is attached at first. -/
theorem Sound.start : Sound markers hierarchy { pending := waiting markers } where
  pending := by simp
  known := by simp
  nodup := List.nodup_nil
  upward := by simp
  ends := by simp

variable {markers hierarchy} {progress : Progress} {code : String}

/-- The groups that wait are the listed ones that are not attached. -/
theorem Sound.mem_codes_iff (hsound : Sound markers hierarchy progress) (code : String) :
    code ∈ progress.codes ↔ code ∈ listed markers ∧ code ∉ progress.attached := by
  rw [Progress.codes, hsound.pending, ← waiting_codes markers, List.mem_map, List.mem_map]
  constructor
  · rintro ⟨group, hgroup, rfl⟩
    obtain ⟨hmem, hnew⟩ := List.mem_filter.1 hgroup
    exact ⟨⟨group, hmem, rfl⟩, by simpa using hnew⟩
  · rintro ⟨⟨group, hgroup, rfl⟩, hnew⟩
    exact ⟨group, List.mem_filter.2 ⟨hgroup, by simpa using hnew⟩, rfl⟩

/-- A group that waits is taken out with the segments of its region. -/
theorem Sound.take?_eq (hsound : Sound markers hierarchy progress)
    (hcode : code ∈ progress.codes) :
    ∃ g ∈ markers.filterMap group?, g.code = code ∧ ∃ hless,
      progress.take? code =
        some (⟨g, segmentsUnder markers g.code⟩, ⟨progress.take code, hless⟩) := by
  obtain ⟨other, hother, hotherCode⟩ := List.mem_map.1 hcode
  rw [Progress.take?]
  split
  · next group hfound =>
    have hmem := List.mem_of_find?_eq_some hfound
    have hgroup : group.code = code := by simpa using List.find?_some hfound
    rw [hsound.pending, List.mem_filter, waiting, List.mem_map] at hmem
    obtain ⟨⟨g, hg, rfl⟩, -⟩ := hmem
    exact ⟨g, hg, hgroup, Progress.take_length_lt hfound, rfl⟩
  · next hnone => simpa [hotherCode] using List.find?_eq_none.1 hnone other hother

/-- The chain of a group ends if the listed group above it is attached, or there is none. -/
theorem Sound.chainEnds (hsound : Sound markers hierarchy progress)
    (hparent : ∀ parent, home? markers hierarchy code = some parent →
      parent ∈ progress.attached) : ChainEnds markers hierarchy code := by
  cases hhome : home? markers hierarchy code with
  | none => exact .of_top hhome
  | some parent => exact .of_home hhome (hsound.ends parent (hparent parent hhome))

/-- Taking out a group whose listed parent is attached keeps the progress sound. -/
theorem Sound.take (hsound : Sound markers hierarchy progress) (hcode : code ∈ progress.codes)
    (hparent : ∀ parent, home? markers hierarchy code = some parent →
      parent ∈ progress.attached) : Sound markers hierarchy (progress.take code) := by
  obtain ⟨hlisted, hnew⟩ := (hsound.mem_codes_iff code).1 hcode
  constructor
  · rw [Progress.take, hsound.pending, List.filter_filter]
    refine List.filter_congr fun group _ => ?_
    simp [not_or]
  · exact List.forall_mem_cons.2 ⟨hlisted, hsound.known⟩
  · exact List.nodup_cons.2 ⟨hnew, hsound.nodup⟩
  · refine List.forall_mem_cons.2 ⟨fun parent hhome => ?_, fun other hother parent hhome => ?_⟩
    · exact List.mem_cons_of_mem _ (hparent parent hhome)
    · exact List.mem_cons_of_mem _ (hsound.upward other hother parent hhome)
  · exact List.forall_mem_cons.2 ⟨hsound.chainEnds hparent, hsound.ends⟩

end

namespace Attaches

variable {markers : List ResolvedMarker} {hierarchy : Hierarchy} {roots : List String}
  {before after : Progress} {placed : List Placed}

/-- Attaching nothing changes nothing. -/
theorem refl (hsound : Sound markers hierarchy before) :
    Attaches markers hierarchy [] before before [] :=
  ⟨hsound, .nil, List.Perm.refl _⟩

/-- One attachment after the other. -/
theorem trans {more : List String} {last : Progress} {others : List Placed}
    (hfirst : Attaches markers hierarchy roots before after placed)
    (hrest : Attaches markers hierarchy more after last others) :
    Attaches markers hierarchy (roots ++ more) before last (placed ++ others) := by
  refine ⟨hrest.sound, hfirst.grown.append hrest.grown, ?_⟩
  calc last.attached
    _ ~ codesOf others ++ after.attached := hrest.codes
    _ ~ codesOf others ++ (codesOf placed ++ before.attached) := hfirst.codes.append_left _
    _ ~ codesOf placed ++ (codesOf others ++ before.attached) := by
      rw [← List.append_assoc, ← List.append_assoc]
      exact List.perm_append_comm.append_right _
    _ ~ codesOf (placed ++ others) ++ before.attached := by simp

/-- The trees that are attached hold no group that was attached before. -/
theorem disjoint (hattaches : Attaches markers hierarchy roots before after placed)
    {code : String} (hcode : code ∈ codesOf placed) : code ∉ before.attached := by
  intro hbefore
  have hnodup := hattaches.codes.nodup_iff.1 hattaches.sound.nodup
  exact (List.nodup_append.1 hnodup).2.2 code hcode code hbefore rfl

/-- A group that waits with its listed parent attached, or without one, still waits after others
are attached. -/
theorem not_mem (hattaches : Attaches markers hierarchy roots before after placed)
    {code : String} (hroots : code ∉ roots) (hnew : code ∉ before.attached)
    (hparent : ∀ parent, home? markers hierarchy code = some parent →
      parent ∈ before.attached) : code ∉ after.attached := by
  rw [hattaches.codes.mem_iff, List.mem_append]
  rintro (hcode | hcode)
  · rcases hattaches.grown.root_or_home hcode with hroot | ⟨parent, hmem, hhome⟩
    · exact hroots hroot
    · exact hattaches.disjoint hmem (hparent parent hhome)
  · exact hnew hcode

end Attaches

section

variable {markers : List ResolvedMarker} {hierarchy : Hierarchy}

/-- Attaching one group that waits succeeds, for progress with a bounded number of groups that
wait. -/
def AttachSucceeds (markers : List ResolvedMarker) (hierarchy : Hierarchy) (bound : ℕ) : Prop :=
  ∀ (progress : Progress) (code : String), progress.pending.length ≤ bound →
    Sound markers hierarchy progress → code ∈ progress.codes →
    (∀ parent, home? markers hierarchy code = some parent → parent ∈ progress.attached) →
    ∃ first rest, attach hierarchy code progress = .ok (first, rest) ∧
      Attaches markers hierarchy [code] progress rest [first]

/-- Children of an attached group that are not attached yet are attached one by one; those without
an entry are passed over. -/
theorem attachAll_attaches {bound : ℕ} (hattach : AttachSucceeds markers hierarchy bound)
    {parent : String} (codes : List String) (progress : Progress)
    (hbound : progress.pending.length ≤ bound) (hsound : Sound markers hierarchy progress)
    (hattached : parent ∈ progress.attached) (hnodup : codes.Nodup)
    (hparent : ∀ code ∈ codes, hierarchy.parent? code = some parent)
    (hnew : ∀ code ∈ codes, code ∉ progress.attached) :
    ∃ placed rest, attachAll hierarchy codes progress = .ok (placed, rest) ∧
      Attaches markers hierarchy (codes.filter (· ∈ listed markers)) progress rest placed := by
  have hhome : ∀ code ∈ codes, home? markers hierarchy code = some parent := fun code hcode =>
    (home?_eq_some_iff code parent).2 ⟨hparent code hcode, hsound.known parent hattached⟩
  induction codes generalizing progress with
  | nil => exact ⟨[], ⟨progress, Nat.le_refl _⟩, by rw [attachAll], .refl hsound⟩
  | cons code more ih =>
    obtain ⟨hfresh, hnodup⟩ := List.nodup_cons.1 hnodup
    have hcodeNew := hnew code List.mem_cons_self
    have hup : ∀ child ∈ code :: more, ∀ above, home? markers hierarchy child = some above →
        above ∈ progress.attached := by
      intro child hchild above habove
      have hsame := (hhome child hchild).symm.trans habove
      exact Option.some.inj hsame ▸ hattached
    by_cases hlisted : code ∈ listed markers
    · have hcode : code ∈ progress.codes := (hsound.mem_codes_iff code).2 ⟨hlisted, hcodeNew⟩
      obtain ⟨first, ⟨next, hless⟩, hfirst, hattaches⟩ :=
        hattach progress code hbound hsound hcode (hup code List.mem_cons_self)
      have hnext : ∀ other ∈ more, other ∉ next.attached := fun other hother =>
        hattaches.not_mem (by rw [List.mem_singleton]; rintro rfl; exact hfresh hother)
          (hnew other (List.mem_cons_of_mem _ hother)) (hup other (List.mem_cons_of_mem _ hother))
      have hstill : parent ∈ next.attached :=
        hattaches.codes.mem_iff.2 (List.mem_append_right _ hattached)
      obtain ⟨others, rest, hothers, hrest⟩ := ih next (by omega) hattaches.sound hstill hnodup
        (fun other hother => hparent other (List.mem_cons_of_mem _ hother)) hnext
        (fun other hother => hhome other (List.mem_cons_of_mem _ hother))
      refine ⟨first :: others, ⟨rest, by have := rest.2; omega⟩, ?_, ?_⟩
      · rw [attachAll, if_neg (by simp [hcode]), hfirst]
        simp [bind, Except.bind, hothers, pure, Except.pure]
      · rw [List.filter_cons_of_pos (by simpa using hlisted)]
        exact hattaches.trans hrest
    · have hskip : code ∉ progress.codes ∧ code ∉ progress.attached :=
        ⟨fun hcode => hlisted ((hsound.mem_codes_iff code).1 hcode).1, hcodeNew⟩
      rw [attachAll, if_pos hskip, List.filter_cons_of_neg (by simpa using hlisted)]
      exact ih progress hbound hsound hattached hnodup
        (fun other hother => hparent other (List.mem_cons_of_mem _ hother))
        (fun other hother => hnew other (List.mem_cons_of_mem _ hother))
        (fun other hother => hhome other (List.mem_cons_of_mem _ hother))

/-- Attaching a group that waits succeeds, whatever the hierarchy, if the listed group above it is
attached or there is none. -/
theorem attach_attaches (bound : ℕ) : AttachSucceeds markers hierarchy bound := by
  induction bound with
  | zero =>
    intro progress code hbound _ hcode _
    simp [Progress.codes, List.length_eq_zero_iff.1 (Nat.le_zero.1 hbound)] at hcode
  | succ bound ih =>
    intro progress code hbound hsound hcode hparent
    obtain ⟨hlisted, hnew⟩ := (hsound.mem_codes_iff code).1 hcode
    obtain ⟨g, hg, rfl, hless, htake⟩ := hsound.take?_eq hcode
    have htaken := hsound.take hcode hparent
    -- A child that is attached already would have its parent attached, which still waits.
    have hchildNew : ∀ child ∈ hierarchy.children g.code,
        child ∉ (progress.take g.code).attached := by
      intro child hchild hattached
      have hhome : home? markers hierarchy child = some g.code :=
        (home?_eq_some_iff child g.code).2 ⟨(hierarchy.mem_children_iff _ _).1 hchild, hlisted⟩
      rcases List.mem_cons.1 hattached with rfl | hattached
      · exact hnew (hparent _ hhome)
      · exact hnew (hsound.upward child hattached g.code hhome)
    obtain ⟨below, ⟨rest, hrest⟩, hbelow, hattaches⟩ :=
      attachAll_attaches ih (hierarchy.children g.code) (progress.take g.code) (by omega) htaken
        List.mem_cons_self (hierarchy.children_nodup g.code)
        (fun child hchild => (hierarchy.mem_children_iff _ _).1 hchild) hchildNew
    refine ⟨groupNode g (segmentsUnder markers g.code ++ below), ⟨rest, by omega⟩, ?_,
      hattaches.sound, .cons g hg hattaches.grown .nil, ?_⟩
    · rw [attach, if_neg hnew, htake]
      simp [bind, Except.bind, hbelow, pure, Except.pure]
    · calc rest.attached
        _ ~ codesOf below ++ g.code :: progress.attached := hattaches.codes
        _ ~ (g.code :: codesOf below) ++ progress.attached := List.perm_middle
        _ ~ (groupNode g (segmentsUnder markers g.code ++ below)).node.groupCodes ++
            progress.attached := (groupCodes_groupNode g below).symm.append_right _
        _ ~ codesOf [groupNode g (segmentsUnder markers g.code ++ below)] ++
            progress.attached := by simp [codesOf]

/-- The groups of a list that have no listed parent are attached one by one; the others are passed
over. -/
theorem attachTop_attaches (codes : List String) (progress : Progress)
    (hsound : Sound markers hierarchy progress) (hnodup : codes.Nodup)
    (hlisted : ∀ code ∈ codes, code ∈ listed markers)
    (hnew : ∀ code ∈ codes, home? markers hierarchy code = none → code ∉ progress.attached) :
    ∃ placed rest, attachTop hierarchy (listed markers) codes progress = .ok (placed, rest) ∧
      Attaches markers hierarchy (codes.filter fun code => home? markers hierarchy code = none)
        progress rest placed := by
  induction codes generalizing progress with
  | nil => exact ⟨[], progress, rfl, .refl hsound⟩
  | cons code more ih =>
    obtain ⟨hfresh, hnodup⟩ := List.nodup_cons.1 hnodup
    have hmoreListed := fun other hother => hlisted other (List.mem_cons_of_mem code hother)
    have hmoreNew := fun other hother => hnew other (List.mem_cons_of_mem code hother)
    by_cases htop : home? markers hierarchy code = none
    · have hcodeNew := hnew code List.mem_cons_self htop
      have hcode : code ∈ progress.codes :=
        (hsound.mem_codes_iff code).2 ⟨hlisted code List.mem_cons_self, hcodeNew⟩
      obtain ⟨first, ⟨next, hless⟩, hfirst, hattaches⟩ :=
        attach_attaches _ progress code (Nat.le_refl _) hsound hcode (by simp [htop])
      have hnext : ∀ other ∈ more, home? markers hierarchy other = none →
          other ∉ next.attached := fun other hother hotherTop =>
        hattaches.not_mem (by rw [List.mem_singleton]; rintro rfl; exact hfresh hother)
          (hmoreNew other hother hotherTop) (by simp [hotherTop])
      obtain ⟨others, rest, hothers, hrest⟩ := ih next hattaches.sound hnodup hmoreListed hnext
      refine ⟨first :: others, rest, ?_, ?_⟩
      · rw [attachTop, if_neg hcodeNew, if_neg (mt (any_listed_iff code).1 (not_not.2 htop)), hfirst]
        simp [bind, Except.bind, hothers, pure, Except.pure]
      · rw [List.filter_cons_of_pos (by simpa using htop)]
        exact hattaches.trans hrest
    · rw [attachTop, if_pos ((any_listed_iff code).2 htop), ite_self,
        List.filter_cons_of_neg (by simpa using htop)]
      exact ih progress hsound hnodup hmoreListed hmoreNew

end

end EdiSchema.Assembly
