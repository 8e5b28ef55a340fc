import Mathlib.Order.Bounds.Basic
import EdiSchema.Proofs.Assembly.Attach
import EdiSchema.Proofs.Text.ByteOrder

/-!
# When assembly succeeds

Markers form a tree exactly when no group is listed twice and the chain of every listed group ends.
Otherwise the violation is a group that is listed twice, or the smallest group whose chain does not
end; no other violation arises, since the faults inside `attach` are never met.

The groups that are left over are found by comparing the attached ones with those whose chain ends:
every attached group has such a chain, and going down from the top level reaches each of them.
-/

namespace EdiSchema.Assembly

/-- Groups with distinct codes all come to wait. -/
theorem openGroups_of_nodup (pending : List Pending) (groups : List GroupMarker)
    (hnodup : (pending.map Pending.code ++ groups.map GroupMarker.code).Nodup) :
    openGroups pending groups = .ok (pending ++ groups.map fun g => { marker := g }) := by
  induction groups generalizing pending with
  | nil => simp [openGroups]
  | cons g rest ih =>
    have hnew : g.code ∉ pending.map Pending.code := fun hmem =>
      (List.nodup_append.1 hnodup).2.2 _ hmem _ List.mem_cons_self rfl
    rw [openGroups, if_neg hnew, ih]
    · simp
    · simpa [Pending.code] using hnodup

/-- Groups are refused if one of them is listed twice, and the violation names such a group. -/
theorem openGroups_of_not_nodup (pending : List Pending) (groups : List GroupMarker)
    (hpending : (pending.map Pending.code).Nodup)
    (hrepeat : ¬ (pending.map Pending.code ++ groups.map GroupMarker.code).Nodup) :
    ∃ code, openGroups pending groups = .error ⟨code, .listedTwice⟩ ∧
      2 ≤ (pending.map Pending.code ++ groups.map GroupMarker.code).count code := by
  induction groups generalizing pending with
  | nil => simp [hpending] at hrepeat
  | cons g rest ih =>
    by_cases hmem : g.code ∈ pending.map Pending.code
    · refine ⟨g.code, by rw [openGroups, if_pos hmem], ?_⟩
      have hearlier := List.count_pos_iff.2 hmem
      rw [List.map_cons, List.count_append, List.count_cons_self]
      omega
    · let opened : Pending := { marker := g }
      have hshift : (pending ++ [opened]).map Pending.code ++ rest.map GroupMarker.code =
          pending.map Pending.code ++ (g :: rest).map GroupMarker.code := by
        simp [opened, Pending.code]
      have hnext : ((pending ++ [opened]).map Pending.code).Nodup := by
        rw [List.map_append, List.nodup_append]
        refine ⟨hpending, by simp, ?_⟩
        rintro code hcode _ hsame rfl
        rw [List.map_singleton, List.mem_singleton] at hsame
        rw [hsame] at hcode
        exact hmem hcode
      obtain ⟨code, herror, hcount⟩ := ih _ hnext (by rwa [hshift])
      exact ⟨code, by rw [openGroups, if_neg hmem, herror], by rwa [hshift] at hcount⟩

/-- The segments of a place, the first of a list apart from the others. -/
theorem segmentsAt_cons (listed : List String) (s : SegmentMarker × List Item)
    (rest : List (SegmentMarker × List Item)) (site : Option String) :
    segmentsAt listed (s :: rest) site =
      (if segmentSite? listed s.1 = site then [segmentNode s.1 s.2] else []) ++
        segmentsAt listed rest site := by
  by_cases hsite : segmentSite? listed s.1 = site <;> simp [segmentsAt, hsite]

/-- A segment goes to the group of its site, or to the top level if it has none. -/
theorem placeSegment_eq (pending : List Pending) (top : List Placed)
    (s : SegmentMarker × List Item) :
    placeSegment (pending, top) s =
      match segmentSite? (pending.map Pending.code) s.1 with
      | some code => (addChild code (segmentNode s.1 s.2) pending, top)
      | none => (pending, top ++ [segmentNode s.1 s.2]) := by
  cases hparent : s.1.parent with
  | none => simp [placeSegment, segmentSite?, hparent]
  | some code =>
    by_cases hlisted : code ∈ pending.map Pending.code
    · simp only [placeSegment, segmentSite?, hparent, if_pos hlisted, Option.filter,
        decide_eq_true hlisted, if_true]
    · simp only [placeSegment, segmentSite?, hparent, if_neg hlisted, Option.filter,
        decide_eq_false hlisted, Bool.false_eq_true, if_false]

/-- A group keeps its code when it gets a child. -/
theorem addChild_codes (code : String) (child : Placed) (pending : List Pending) :
    (addChild code child pending).map Pending.code = pending.map Pending.code := by
  rw [addChild, List.map_map]
  refine List.map_congr_left fun group _ => ?_
  rw [Function.comp_apply]
  split <;> rfl

/-- Placing segments gives each group the segments of its region, and the top level the others. -/
theorem foldl_placeSegment (segments : List (SegmentMarker × List Item)) (pending : List Pending)
    (top : List Placed) :
    segments.foldl placeSegment (pending, top) =
      (pending.map fun group => { group with
          children := group.children ++
            segmentsAt (pending.map Pending.code) segments (some group.code) },
        top ++ segmentsAt (pending.map Pending.code) segments none) := by
  induction segments generalizing pending top with
  | nil => simp [segmentsAt]
  | cons s rest ih =>
    rw [List.foldl_cons, placeSegment_eq]
    simp only [segmentsAt_cons]
    cases hsite : segmentSite? (pending.map Pending.code) s.1 with
    | none =>
      simp only [ih, if_true, reduceCtorEq, if_false, List.nil_append, List.append_assoc]
    | some code =>
      simp only [ih, addChild_codes, Option.some.injEq, reduceCtorEq, if_false, List.nil_append]
      refine Prod.ext ?_ rfl
      rw [addChild, List.map_map]
      refine List.map_congr_left fun group _ => ?_
      by_cases hcode : group.code = code
      · subst hcode
        simp [Pending.code]
      · simp [Function.comp_apply, hcode, Ne.symm hcode]

/-- The smallest code of a list is a least element of it. -/
theorem smallest?_isLeast {codes : List String} {code : String}
    (hsmallest : smallest? codes = some code) : IsLeast {c | c ∈ codes} code := by
  induction codes generalizing code with
  | nil => simp [smallest?] at hsmallest
  | cons first rest ih =>
    change some (smaller first (smallest? rest)) = some code at hsmallest
    obtain rfl := Option.some.inj hsmallest
    cases hrest : smallest? rest with
    | none =>
      have hnil : rest = [] := by
        cases rest with
        | nil => rfl
        | cons _ _ => simp [smallest?] at hrest
      subst hnil
      simp [smaller]
    | some least =>
      obtain ⟨hmem, hlower⟩ := ih hrest
      rw [smaller]
      split
      · next hlt =>
        refine ⟨List.mem_cons_self, fun other hother => ?_⟩
        rcases List.mem_cons.1 hother with rfl | hother
        · exact le_refl _
        · exact hlt.le.trans (hlower hother)
      · next hle =>
        refine ⟨List.mem_cons_of_mem _ hmem, fun other hother => ?_⟩
        rcases List.mem_cons.1 hother with rfl | hother
        · exact not_lt.1 hle
        · exact hlower hother

/-- A list has no smallest code exactly when it is empty. -/
theorem smallest?_eq_none_iff (codes : List String) : smallest? codes = none ↔ codes = [] := by
  cases codes <;> simp [smallest?]

section

variable {markers : List ResolvedMarker} {hierarchy : Hierarchy}

/-- The codes of the listed groups at the top level, in marker order. -/
def topCodes (markers : List ResolvedMarker) (hierarchy : Hierarchy) : List String :=
  (listed markers).filter fun code => home? markers hierarchy code = none

/-- The nodes of the segments at the top level, in marker order. -/
def topSegments (markers : List ResolvedMarker) : List Placed :=
  segmentsAt (listed markers) (markers.filterMap segment?) none

/-- With distinct groups, assembly attaches the groups of the top level and then looks for groups
that still wait. -/
theorem assemble_of_nodup (hierarchy : Hierarchy) (hnodup : (listed markers).Nodup) :
    ∃ placed rest, Attaches markers hierarchy (topCodes markers hierarchy)
        { pending := waiting markers } rest placed ∧
      assemble markers hierarchy = match smallest? rest.codes with
        | some code => .error ⟨code, .unreachable⟩
        | none => .ok (inOrder (topSegments markers ++ placed)) := by
  obtain ⟨placed, rest, hrun, hattaches⟩ := attachTop_attaches (listed markers)
    { pending := waiting markers } (.start markers hierarchy) hnodup (fun _ h => h) (by simp)
  refine ⟨placed, rest, hattaches, ?_⟩
  have hopen := openGroups_of_nodup [] (markers.filterMap group?) (by simpa [listed] using hnodup)
  have hcodes : ((markers.filterMap group?).map fun g => ({ marker := g } : Pending)).map
      Pending.code = listed markers := by
    simp [listed, Pending.code, Function.comp_def]
  have hplace := foldl_placeSegment (markers.filterMap segment?)
    ((markers.filterMap group?).map fun g => { marker := g }) []
  rw [hcodes, List.map_map, List.nil_append] at hplace
  change _ = (waiting markers, topSegments markers) at hplace
  rw [listed] at hrun
  rw [assemble, hopen, List.nil_append]
  simp only [bind, Except.bind, hplace, hrun]
  rfl

/-- The groups that are attached from the top level are the listed ones whose chain ends. -/
theorem Attaches.mem_attached_iff {rest : Progress} {placed : List Placed}
    (hattaches : Attaches markers hierarchy (topCodes markers hierarchy)
      { pending := waiting markers } rest placed) {code : String}
    (hlisted : code ∈ listed markers) :
    code ∈ rest.attached ↔ ChainEnds markers hierarchy code := by
  refine ⟨hattaches.sound.ends code, fun hends => ?_⟩
  have hcodes : ∀ code, code ∈ rest.attached ↔ code ∈ codesOf placed := fun code => by
    simpa using hattaches.codes.mem_iff (a := code)
  -- Down from the top level, along the chain.
  have hreach : code ∈ listed markers → code ∈ codesOf placed := by
    refine hends.induct (motive := fun code => code ∈ listed markers → code ∈ codesOf placed)
      (fun top htop hlisted => ?_) (fun below parent hhome hparent hlisted => ?_)
    · exact hattaches.grown.mem_codesOf (List.mem_filter.2 ⟨hlisted, by simpa using htop⟩)
    · have hparentListed := ((home?_eq_some_iff below parent).1 hhome).2
      exact hattaches.grown.mem_of_home (hparent hparentListed) hlisted hhome
  exact (hcodes code).2 (hreach hlisted)

/-- The groups that still wait in the end are the listed ones whose chain does not end. -/
theorem Attaches.mem_rest_iff {rest : Progress} {placed : List Placed}
    (hattaches : Attaches markers hierarchy (topCodes markers hierarchy)
      { pending := waiting markers } rest placed) (code : String) :
    code ∈ rest.codes ↔ code ∈ listed markers ∧ ¬ ChainEnds markers hierarchy code := by
  rw [hattaches.sound.mem_codes_iff]
  exact and_congr_right fun hlisted => not_congr (hattaches.mem_attached_iff hlisted)

/-- A group that is listed twice is a violation. -/
theorem assemble_of_not_nodup (hierarchy : Hierarchy) (hrepeat : ¬ (listed markers).Nodup) :
    ∃ code, assemble markers hierarchy = .error ⟨code, .listedTwice⟩ ∧
      2 ≤ (listed markers).count code := by
  obtain ⟨code, herror, hcount⟩ := openGroups_of_not_nodup [] (markers.filterMap group?)
    List.nodup_nil (by simpa [listed] using hrepeat)
  refine ⟨code, ?_, by simpa [listed] using hcount⟩
  rw [assemble, herror]
  rfl

/-- Among distinct groups, the smallest one whose chain does not end is a violation. -/
theorem assemble_of_not_chainEnds (hnodup : (listed markers).Nodup)
    (hcircle : ∃ code ∈ listed markers, ¬ ChainEnds markers hierarchy code) :
    ∃ code, assemble markers hierarchy = .error ⟨code, .unreachable⟩ ∧
      IsLeast {code | code ∈ listed markers ∧ ¬ ChainEnds markers hierarchy code} code := by
  obtain ⟨placed, rest, hattaches, hassemble⟩ := assemble_of_nodup hierarchy hnodup
  have hrest : {code | code ∈ rest.codes} =
      {code | code ∈ listed markers ∧ ¬ ChainEnds markers hierarchy code} :=
    Set.ext hattaches.mem_rest_iff
  cases hsmallest : smallest? rest.codes with
  | none =>
    obtain ⟨code, hcode⟩ := hcircle
    rw [smallest?_eq_none_iff] at hsmallest
    simpa [hsmallest] using (hattaches.mem_rest_iff code).2 hcode
  | some code =>
    exact ⟨code, by rw [hassemble, hsmallest], hrest ▸ smallest?_isLeast hsmallest⟩

/-- Distinct groups whose chains end form complete trees below the top level, and all of them are
in these trees. -/
theorem assemble_of_chainEnds (hnodup : (listed markers).Nodup)
    (hends : ∀ code ∈ listed markers, ChainEnds markers hierarchy code) :
    ∃ placed, assemble markers hierarchy = .ok (inOrder (topSegments markers ++ placed)) ∧
      Grown markers hierarchy (topCodes markers hierarchy) placed ∧
      (codesOf placed).Perm (listed markers) := by
  obtain ⟨placed, rest, hattaches, hassemble⟩ := assemble_of_nodup hierarchy hnodup
  have hempty : rest.codes = [] := List.eq_nil_iff_forall_not_mem.2 fun code hcode =>
    have hrest := (hattaches.mem_rest_iff code).1 hcode
    hrest.2 (hends code hrest.1)
  have hcodes : rest.attached.Perm (codesOf placed) := by simpa using hattaches.codes
  refine ⟨placed, by rw [hassemble, (smallest?_eq_none_iff _).2 hempty], hattaches.grown, ?_⟩
  refine hcodes.symm.trans ((List.perm_ext_iff_of_nodup hattaches.sound.nodup hnodup).2 ?_)
  exact fun code => ⟨hattaches.sound.known code,
    fun hlisted => (hattaches.mem_attached_iff hlisted).2 (hends code hlisted)⟩

/-- Markers that are assembled have distinct groups whose chains end. -/
theorem chainEnds_of_assemble {nodes : List Node} (hok : assemble markers hierarchy = .ok nodes) :
    (listed markers).Nodup ∧ ∀ code ∈ listed markers, ChainEnds markers hierarchy code := by
  by_cases hnodup : (listed markers).Nodup
  · refine ⟨hnodup, fun code hlisted => ?_⟩
    by_contra hends
    obtain ⟨least, herror, -⟩ := assemble_of_not_chainEnds hnodup ⟨code, hlisted, hends⟩
    simp [herror] at hok
  · obtain ⟨code, herror, -⟩ := assemble_of_not_nodup hierarchy hnodup
    simp [herror] at hok

/-- Assembly into a message fails as assembly does, and keeps all of the message but its tree. -/
theorem message_assemble_eq (base : Message) (markers : List ResolvedMarker)
    (hierarchy : Hierarchy) :
    base.assemble markers hierarchy =
      (assemble markers hierarchy).map fun nodes => { base with nodes } := by
  rw [Message.assemble]
  cases assemble markers hierarchy <;> rfl

/-- Assembly succeeds exactly when the listed groups are distinct and the chain of listed groups
above each of them ends. If they are distinct but some chain does not end, the violation is that
the first such group in the order of bytes cannot be reached from the top level. The violations of
attaching a group twice, or one without an entry, never occur. -/
theorem assemble_outcome (base : Message) (markers : List ResolvedMarker)
    (hierarchy : Hierarchy) :
    ((∃ message, base.assemble markers hierarchy = .ok message) ↔
      (listed markers).Nodup ∧ ∀ code ∈ listed markers, ChainEnds markers hierarchy code) ∧
    ((listed markers).Nodup → (∃ code ∈ listed markers, ¬ ChainEnds markers hierarchy code) →
      ∃ code ∈ listed markers, ¬ ChainEnds markers hierarchy code ∧
        (∀ other ∈ listed markers, ¬ ChainEnds markers hierarchy other →
          Text.bytes code ≤ Text.bytes other) ∧
        base.assemble markers hierarchy = .error ⟨code, .unreachable⟩) ∧
    ∀ violation, base.assemble markers hierarchy = .error violation →
      violation.reason ≠ .attachedTwice ∧ violation.reason ≠ .notListed := by
  rw [message_assemble_eq]
  refine ⟨⟨?_, ?_⟩, ?_, ?_⟩
  · rintro ⟨message, hok⟩
    cases hassemble : assemble markers hierarchy with
    | error violation => simp [hassemble, Except.map] at hok
    | ok nodes => exact chainEnds_of_assemble hassemble
  · rintro ⟨hnodup, hends⟩
    obtain ⟨placed, hassemble, -⟩ := assemble_of_chainEnds hnodup hends
    exact ⟨_, by rw [hassemble]; rfl⟩
  · intro hnodup hcircle
    obtain ⟨code, hassemble, ⟨hlisted, hends⟩, hleast⟩ := assemble_of_not_chainEnds hnodup hcircle
    refine ⟨code, hlisted, hends, fun other hother hotherEnds => ?_, by rw [hassemble]; rfl⟩
    exact (Text.bytes_le_bytes_iff code other).2 (hleast ⟨hother, hotherEnds⟩)
  · intro violation herror
    by_cases hnodup : (listed markers).Nodup
    · by_cases hends : ∀ code ∈ listed markers, ChainEnds markers hierarchy code
      · obtain ⟨placed, hassemble, -⟩ := assemble_of_chainEnds hnodup hends
        simp [hassemble, Except.map] at herror
      · obtain ⟨code, hassemble, -⟩ := assemble_of_not_chainEnds hnodup (by simpa using hends)
        simp only [hassemble, Except.map, Except.error.injEq] at herror
        simp [← herror]
    · obtain ⟨code, hassemble, -⟩ := assemble_of_not_nodup hierarchy hnodup
      simp only [hassemble, Except.map, Except.error.injEq] at herror
      simp [← herror]

/-- Two groups that are nested under each other cannot be assembled. -/
theorem assemble_outcome_circle :
    let first : GroupMarker := { code := "SG1", maxOccurs := .one, description := "", index := 0 }
    let second : GroupMarker := { code := "SG2", maxOccurs := .one, description := "", index := 1 }
    let hierarchy : Hierarchy := { links := [⟨"SG2", "SG1"⟩, ⟨"SG1", "SG2"⟩] }
    let base : Message := ⟨"UN/EDIFACT", "D96A", "ORDERS", []⟩
    ∃ code, base.assemble [.group second, .group first] hierarchy =
      .error ⟨code, .unreachable⟩ := by
  intro first second hierarchy base
  have hstays : ∀ steps,
      above? [.group second, .group first] hierarchy steps "SG1" ≠ none ∧
        above? [.group second, .group first] hierarchy steps "SG2" ≠ none := by
    intro steps
    induction steps with
    | zero => exact ⟨by simp [above?], by simp [above?]⟩
    | succ steps ih =>
      have hfirst : home? [.group second, .group first] hierarchy "SG1" = some "SG2" := by decide
      have hsecond : home? [.group second, .group first] hierarchy "SG2" = some "SG1" := by decide
      exact ⟨by simpa [above?, hfirst] using ih.2, by simpa [above?, hsecond] using ih.1⟩
  have hcircle : ¬ ChainEnds [.group second, .group first] hierarchy "SG1" := by
    rintro ⟨steps, hend⟩
    exact (hstays steps).1 hend
  obtain ⟨code, -, -, -, herror⟩ :=
    (assemble_outcome base [.group second, .group first] hierarchy).2.1 (by decide)
      ⟨"SG1", by decide, hcircle⟩
  exact ⟨code, herror⟩

end

end EdiSchema.Assembly
