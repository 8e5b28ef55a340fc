import Mathlib.Data.List.Nodup
import Mathlib.Order.Bounds.Basic
import Mathlib.Tactic.MkIffOfInductiveProp
import EdiSchema.Proofs.Detail.Nesting
import EdiSchema.Proofs.Detail.RoundTrip
import EdiSchema.Proofs.Text.LineEdit

/-!
# Lines that are left out, taken out

Whether a line that is left out bears on the others is decided by taking it out of the text. A line
that is not recognised, or is above level zero, makes no difference: it neither changes the least
level nor opens or ends a composite.

That leaves the elements at level zero that cannot be read. Such a line ends the composite in front
of it, so the elements behind it are lost; and if it is alone at its level, everything else is above
level zero and lost. It makes a difference exactly if there is something to lose in this way.
-/

namespace EdiSchema.Detail

section Definitions

/-- The text without the line with a number. -/
def withoutLine (number : ℕ) (text : String) : String :=
  String.ofList (Text.eraseLine (number - 1) text.toList)

variable (lines : List (Numbered Line)) (line : Numbered Line)

/-- The lines other than one of them. -/
def others : List (Numbered Line) :=
  lines.filter fun other => other.number ≠ line.number

/-- Whether the last line at level zero in front of a line is a composite, and elements behind the
line have the line itself as their last. -/
def EndsComposite : Prop :=
  isAnchored (baseLevel lines) lines line = true ∧
    ∃ other ∈ lines, (componentOn? (baseLevel lines) lines line other).isSome

/-- Whether a line is alone at level zero, and another would become an item without it. -/
def HoldsBase : Prop :=
  (∀ other ∈ others lines line, relativeLevel (baseLevel lines) other ≠ 0) ∧
    ∃ other ∈ others lines line,
      (itemOn? (baseLevel (others lines line)) (others lines line) other).isSome

/-- Whether a line is an element at level zero that cannot be read. -/
@[mk_iff]
structure IsStray : Prop where
  relativeLevel_eq_zero : relativeLevel (baseLevel lines) line = 0
  kind_eq : line.content.kind = .element
  element?_eq_none : element? line.content = none

/-- Whether a line is left out and others are lost because of it. -/
def Unsettles : Prop :=
  IsStray lines line ∧ (EndsComposite lines line ∨ HoldsBase lines line)

instance : Decidable (EndsComposite lines line) :=
  inferInstanceAs (Decidable (_ ∧ _))

instance : Decidable (HoldsBase lines line) :=
  inferInstanceAs (Decidable (_ ∧ _))

instance : Decidable (IsStray lines line) :=
  decidable_of_iff' _ (isStray_iff lines line)

instance : Decidable (Unsettles lines line) :=
  inferInstanceAs (Decidable (_ ∧ _))

end Definitions

section Flag

variable {base : ℕ}

/-- Only an element above level zero depends on whether a composite is open. -/
theorem outcome_congr {level : ℕ} {line : Line} (h : level = 0 ∨ elementOn? line = none) :
    outcome true level line = outcome false level line := by
  cases hkind : line.kind with
  | composite => simp [outcome, hkind]
  | element =>
    cases he : element? line with
    | none => simp [outcome, hkind, he]
    | some e =>
      have hlevel : level = 0 := h.resolve_right (by simp [elementOn?, hkind, he])
      simp [outcome, hkind, he, hlevel]

/-- Without elements in front of the next line at level zero, it makes no difference whether a
composite is open. -/
theorem outcomes_congr {lines : List (Numbered Line)}
    (hnone : (lines.takeWhile fun line => relativeLevel base line ≠ 0).filterMap
      (fun line => elementOn? line.content) = []) :
    outcomes base true lines = outcomes base false lines := by
  induction lines with
  | nil => rfl
  | cons line rest ih =>
    rw [outcomes_cons, outcomes_cons]
    by_cases hlevel : relativeLevel base line = 0
    · rw [outcome_congr (.inl hlevel), isUnderComposite, isUnderComposite, if_pos hlevel,
        if_pos hlevel]
    · rw [List.takeWhile_cons_of_pos (by simp [hlevel]), List.filterMap_cons] at hnone
      cases he : elementOn? line.content with
      | some e => simp [he] at hnone
      | none =>
        rw [he] at hnone
        rw [outcome_congr (.inr he), isUnderComposite, isUnderComposite, if_neg hlevel,
          if_neg hlevel, ih hnone]

/-- If a composite is open, the elements in front of the next line at level zero are kept as
well. -/
theorem filterMap_code?_outcomes_true (lines : List (Numbered Line)) :
    (outcomes base true lines).filterMap (·.content.code?) =
      ((lines.takeWhile fun line => relativeLevel base line ≠ 0).filterMap
        fun line => elementOn? line.content).map Element.code ++
      (outcomes base false lines).filterMap (·.content.code?) := by
  induction lines with
  | nil => rfl
  | cons line rest ih =>
    rw [outcomes_cons, outcomes_cons]
    by_cases hlevel : relativeLevel base line = 0
    · rw [outcome_congr (.inl hlevel), isUnderComposite, isUnderComposite, if_pos hlevel,
        if_pos hlevel, List.takeWhile_cons_of_neg (by simp [hlevel])]
      rfl
    · rw [isUnderComposite, isUnderComposite, if_neg hlevel, if_neg hlevel,
        List.takeWhile_cons_of_pos (by simp [hlevel])]
      have hfalse : ∃ text reason,
          outcome false (relativeLevel base line) line.content = .skip text reason := by
        rcases outcome_above false line.content hlevel with ⟨e, -, hfalse, -⟩ | ⟨-, hskip⟩
        · simp at hfalse
        · exact hskip
      obtain ⟨text, reason, hskip⟩ := hfalse
      rw [hskip, List.filterMap_cons, List.filterMap_cons, List.filterMap_cons, ih]
      rcases outcome_above true line.content hlevel with ⟨e, he, -, hcomponent⟩ | ⟨hno, -⟩
      · rw [hcomponent, he]
        rfl
      · have he : elementOn? line.content = none := hno.resolve_right (by simp)
        rw [outcome_congr (.inr he), hskip, he]
        rfl

/-- The outcomes of the lines behind some lines depend on those only by the flag. -/
theorem outcomes_append (before rest : List (Numbered Line)) :
    outcomes base false (before ++ rest) =
      outcomes base false before ++ outcomes base (endsUnder base before) rest := by
  induction before using List.reverseRecOn generalizing rest with
  | nil => rfl
  | append_singleton before line ih =>
    have hline := ih [line]
    rw [List.append_assoc, ih, hline, endsUnder_concat, List.append_assoc]
    rfl

theorem outcomes_append_cons (before after : List (Numbered Line)) (line : Numbered Line) :
    outcomes base false (before ++ line :: after) =
      outcomes base false before ++
        ⟨line.number, outcome (endsUnder base before) (relativeLevel base line) line.content⟩ ::
          outcomes base (isUnderComposite (endsUnder base before) (relativeLevel base line)
            line.content) after := by
  rw [outcomes_append, outcomes_cons]

/-- Gathering outcomes goes from the end. -/
theorem gather_append_congr (before : List Outcome) {rest rest' : List Outcome}
    (hrest : gather rest = gather rest') : gather (before ++ rest) = gather (before ++ rest') := by
  induction before with
  | nil => exact hrest
  | cons outcome before ih =>
    cases outcome <;> simp only [List.cons_append, gather, ih]

end Flag

section Items

/-- The items on some lines, without positions. -/
def gathered (lines : List (Numbered Line)) : List Item :=
  (gather ((outcomes (baseLevel lines) false lines).map (·.content))).2

/-- The items on some lines do not depend on the numbers of these. -/
theorem gathered_congr {lines lines' : List (Numbered Line)}
    (hcontents : lines.map (·.content) = lines'.map (·.content)) :
    gathered lines = gathered lines' := by
  have hlevels : lines.map (·.content.level) = lines'.map (·.content.level) := by
    simpa only [List.map_map, Function.comp_def] using congrArg (List.map Line.level) hcontents
  rw [gathered, gathered, map_content_outcomes, map_content_outcomes, hcontents, baseLevel,
    baseLevel, hlevels]

variable {lines : List (Numbered Line)} {line : Numbered Line}

theorem gathered_eq (hsorted : (lines.map Numbered.number).Pairwise (· < ·)) :
    gathered lines = lines.filterMap (itemOn? (baseLevel lines) lines) :=
  congrArg Prod.snd (gather_outcomes_eq (show lines = [] ++ lines from rfl) hsorted)

/-- The codes on the items are those of the lines that are kept. -/
theorem flatMap_nodeCodes_gathered (lines : List (Numbered Line)) :
    (gathered lines).flatMap Item.nodeCodes =
      (outcomes (baseLevel lines) false lines).filterMap (·.content.code?) := by
  obtain ⟨hcodes, hnone⟩ := nodeCodes_gather (baseLevel lines) false lines
  rw [hnone rfl] at hcodes
  exact hcodes

/-- A line of a text is at level zero if it is at the base. -/
theorem relativeLevel_eq_zero_iff (hline : line ∈ lines) :
    relativeLevel (baseLevel lines) line = 0 ↔ line.content.level = baseLevel lines := by
  have hle : baseLevel lines ≤ line.content.level :=
    (isLeast_baseLevel (List.ne_nil_of_mem hline)).2 ⟨line, hline, rfl⟩
  rw [relativeLevel]
  omega

/-- Some line of a text is at level zero. -/
theorem exists_relativeLevel_eq_zero (hlines : lines ≠ []) :
    ∃ other ∈ lines, relativeLevel (baseLevel lines) other = 0 := by
  obtain ⟨other, hother, hbase⟩ := (isLeast_baseLevel hlines).1
  exact ⟨other, hother, (relativeLevel_eq_zero_iff hother).2 hbase⟩

/-- A line that is left out at level zero is an element that cannot be read. -/
theorem isStray_iff_of_reason? {reason : SkipReason}
    (hreason : reason? (baseLevel lines) lines line = some reason) :
    IsStray lines line ↔ relativeLevel (baseLevel lines) line = 0 := by
  refine ⟨IsStray.relativeLevel_eq_zero, fun hlevel => ?_⟩
  rw [reason?, hlevel] at hreason
  cases hkind : line.content.kind with
  | composite => simp [hkind] at hreason
  | element =>
    cases he : element? line.content with
    | none => exact ⟨hlevel, hkind, he⟩
    | some e => simp [hkind, he] at hreason

theorem reason_of_isStray {reason : SkipReason} (hstray : IsStray lines line)
    (hreason : reason? (baseLevel lines) lines line = some reason) :
    reason = .malformedElement := by
  rw [reason?, hstray.kind_eq] at hreason
  simpa [hstray.element?_eq_none] using hreason.symm

/-- A line with a reason to leave it out is left out. -/
theorem outcome_of_reason? {reason : SkipReason}
    (hreason : reason? (baseLevel lines) lines line = some reason) :
    ∃ text reason, outcome (isAnchored (baseLevel lines) lines line)
      (relativeLevel (baseLevel lines) line) line.content = .skip text reason := by
  have hskip : skip? "" ⟨line.number, outcome (isAnchored (baseLevel lines) lines line)
      (relativeLevel (baseLevel lines) line) line.content⟩ ≠ none := by
    rw [skip?_outcome, leftOut?, hreason]
    exact Option.some_ne_none _
  cases houtcome : outcome (isAnchored (baseLevel lines) lines line)
      (relativeLevel (baseLevel lines) line) line.content with
  | skip text reason => exact ⟨text, reason, rfl⟩
  | composite c => simp [skip?, houtcome] at hskip
  | element e => simp [skip?, houtcome] at hskip
  | component e => simp [skip?, houtcome] at hskip

end Items

section Others

variable {lines before after : List (Numbered Line)} {line : Numbered Line}
variable (hsplit : lines = before ++ line :: after)

include hsplit

/-- A line of the text is the line that is taken out or one of the others. -/
theorem mem_iff_eq_or_mem {other : Numbered Line} :
    other ∈ lines ↔ other = line ∨ other ∈ before ++ after := by
  rw [hsplit, List.mem_append, List.mem_cons, List.mem_append, or_left_comm]

/-- The base is the same without a line if another is at level zero. -/
theorem baseLevel_others
    (hother : ∃ other ∈ before ++ after, relativeLevel (baseLevel lines) other = 0) :
    baseLevel (before ++ after) = baseLevel lines := by
  have hsub : ∀ other ∈ before ++ after, other ∈ lines :=
    fun other hmem => (mem_iff_eq_or_mem hsplit).2 (.inr hmem)
  obtain ⟨other, hmem, hlevel⟩ := hother
  have hbase := (relativeLevel_eq_zero_iff (hsub other hmem)).1 hlevel
  refine (isLeast_baseLevel (List.ne_nil_of_mem hmem)).unique ⟨⟨other, hmem, hbase⟩, ?_⟩
  rintro level ⟨another, hanother, rfl⟩
  exact (isLeast_baseLevel (List.ne_nil_of_mem (hsub another hanother))).2
    ⟨another, hsub another hanother, rfl⟩

/-- A line that is left out above level zero makes no difference to the items. -/
theorem gathered_others_of_above (hlevel : relativeLevel (baseLevel lines) line ≠ 0)
    (hskip : ∃ text reason, outcome (endsUnder (baseLevel lines) before)
      (relativeLevel (baseLevel lines) line) line.content = .skip text reason) :
    gathered (before ++ after) = gathered lines := by
  have hbase : baseLevel (before ++ after) = baseLevel lines := by
    have hlines : lines ≠ [] := by simp [hsplit]
    obtain ⟨other, hother, hzero⟩ := exists_relativeLevel_eq_zero hlines
    rcases (mem_iff_eq_or_mem hsplit).1 hother with rfl | hother
    · exact absurd hzero hlevel
    · exact baseLevel_others hsplit ⟨other, hother, hzero⟩
  obtain ⟨text, reason, hskip⟩ := hskip
  -- Behind the line the flag is as in front of it, and gathering passes over the line itself.
  rw [gathered, gathered, hbase, outcomes_append]
  conv_rhs => rw [hsplit, outcomes_append_cons, ← hsplit, hskip, isUnderComposite, if_neg hlevel]
  rw [List.map_append, List.map_append]
  exact congrArg Prod.snd (gather_append_congr _ rfl)

/-- The lines behind a stray line are under no composite. -/
theorem outcomes_of_isStray (hstray : IsStray lines line) :
    ∃ text reason, outcomes (baseLevel lines) false lines =
      outcomes (baseLevel lines) false before ++
        ⟨line.number, .skip text reason⟩ :: outcomes (baseLevel lines) false after := by
  obtain ⟨hlevel, hkind, he⟩ := hstray
  refine ⟨line.content.code ++ " " ++ line.content.payload, .malformedElement, ?_⟩
  conv_lhs => rw [hsplit, outcomes_append_cons, ← hsplit, hlevel, isUnderComposite, if_pos rfl]
  rw [outcome, hkind]
  simp only [he]
  rfl

variable (hsorted : (lines.map Numbered.number).Pairwise (· < ·))

include hsorted

/-- The other lines are those in front of a line and those behind it. -/
theorem others_eq : others lines line = before ++ after := by
  subst hsplit
  rw [List.pairwise_map, List.pairwise_append, List.pairwise_cons] at hsorted
  obtain ⟨-, ⟨hafter, -⟩, hbefore⟩ := hsorted
  have hfront : before.filter (fun other => other.number ≠ line.number) = before := by
    rw [List.filter_eq_self]
    intro other hother
    simpa using Nat.ne_of_lt (hbefore other hother line List.mem_cons_self)
  have hback : after.filter (fun other => other.number ≠ line.number) = after := by
    rw [List.filter_eq_self]
    intro other hother
    simpa using Nat.ne_of_gt (hafter other hother)
  rw [others, List.filter_append, List.filter_cons_of_neg (by simp), hfront, hback]

/-- Without a line the lines behind it are under the composite that is open in front of it, if
another line is at level zero. -/
theorem outcomes_others
    (hother : ∃ other ∈ before ++ after, relativeLevel (baseLevel lines) other = 0) :
    outcomes (baseLevel (before ++ after)) false (before ++ after) =
      outcomes (baseLevel lines) false before ++
        outcomes (baseLevel lines) (isAnchored (baseLevel lines) lines line) after := by
  rw [baseLevel_others hsplit hother, outcomes_append, isAnchored_eq hsplit hsorted]

/-- The anchor of a line is another line at level zero. -/
theorem exists_base_of_isAnchored
    (hanchored : isAnchored (baseLevel lines) lines line = true) :
    ∃ other ∈ before ++ after, relativeLevel (baseLevel lines) other = 0 := by
  obtain ⟨anchor, hanchor, -⟩ := (Option.any_eq_true _ _).1 hanchored
  rw [anchor?_eq hsplit hsorted] at hanchor
  obtain ⟨hmem, hlevel⟩ := List.mem_filter.1 (List.mem_of_mem_getLast? hanchor)
  exact ⟨anchor, List.mem_append_left _ hmem, by simpa using hlevel⟩

/-- A stray line that ends no composite makes no difference if another line is at level zero. -/
theorem gathered_others_of_not_endsComposite (hstray : IsStray lines line)
    (hother : ∃ other ∈ before ++ after, relativeLevel (baseLevel lines) other = 0)
    (hends : ¬ EndsComposite lines line) : gathered (before ++ after) = gathered lines := by
  have hafter : outcomes (baseLevel lines) (isAnchored (baseLevel lines) lines line) after =
      outcomes (baseLevel lines) false after := by
    cases hanchored : isAnchored (baseLevel lines) lines line with
    | false => rfl
    | true =>
      apply outcomes_congr
      rw [← components_eq hsplit hsorted hstray.relativeLevel_eq_zero,
        List.filterMap_eq_nil_iff]
      intro other hmem
      by_contra hsome
      exact hends ⟨hanchored, other, hmem, Option.isSome_iff_ne_none.2 hsome⟩
  obtain ⟨text, reason, hlines⟩ := outcomes_of_isStray hsplit hstray
  rw [gathered, gathered, outcomes_others hsplit hsorted hother, hafter, hlines, List.map_append,
    List.map_append]
  exact congrArg Prod.snd (gather_append_congr _ rfl)

/-- Without a stray line that ends a composite more elements are kept. -/
theorem length_nodeCodes_lt_of_endsComposite (hstray : IsStray lines line)
    (hends : EndsComposite lines line) :
    ((gathered lines).flatMap Item.nodeCodes).length <
      ((gathered (before ++ after)).flatMap Item.nodeCodes).length := by
  obtain ⟨hanchored, other, hother, hsome⟩ := hends
  have hcomponents := components_eq hsplit hsorted hstray.relativeLevel_eq_zero
  have hpos : 0 < (lines.filterMap (componentOn? (baseLevel lines) lines line)).length := by
    obtain ⟨e, he⟩ := Option.isSome_iff_exists.1 hsome
    exact List.length_pos_of_mem (List.mem_filterMap.2 ⟨other, hother, he⟩)
  have hzero := exists_base_of_isAnchored hsplit hsorted hanchored
  obtain ⟨text, reason, hlines⟩ := outcomes_of_isStray hsplit hstray
  rw [flatMap_nodeCodes_gathered, flatMap_nodeCodes_gathered, hlines,
    outcomes_others hsplit hsorted hzero, hanchored, List.filterMap_append, List.filterMap_append,
    filterMap_code?_outcomes_true, ← hcomponents]
  simp only [List.filterMap_cons, Outcome.code?, List.length_append, List.length_map]
  omega

/-- A stray line that is alone at level zero leaves no items. -/
theorem gathered_eq_nil_of_alone (hstray : IsStray lines line)
    (halone : ∀ other ∈ before ++ after, relativeLevel (baseLevel lines) other ≠ 0) :
    gathered lines = [] := by
  have hnone : ∀ other ∈ lines, itemOn? (baseLevel lines) lines other = none := by
    intro other hother
    rcases (mem_iff_eq_or_mem hsplit).1 hother with rfl | hother
    · simp [itemOn?, hstray.relativeLevel_eq_zero, hstray.kind_eq, hstray.element?_eq_none]
    · exact if_neg (halone other hother)
  rw [gathered_eq hsorted, List.filterMap_eq_nil_iff.2 hnone]

/-- The items behind a stray line that is alone at level zero are lost. -/
theorem gathered_others_eq_nil_iff
    (halone : ∀ other ∈ before ++ after, relativeLevel (baseLevel lines) other ≠ 0) :
    gathered (others lines line) = [] ↔ ¬ HoldsBase lines line := by
  have hothers := others_eq hsplit hsorted
  have hsortedOthers : ((others lines line).map Numbered.number).Pairwise (· < ·) :=
    hsorted.sublist (List.filter_sublist.map Numbered.number)
  rw [← hothers] at halone
  rw [gathered_eq hsortedOthers, List.filterMap_eq_nil_iff, HoldsBase, and_iff_right halone]
  simp only [not_exists, not_and, Option.isSome_iff_ne_none, ne_eq, not_not]

/-- Taking out a line that is left out makes a difference to the items exactly if others are lost
because of it. -/
theorem placeItems_gathered_others_iff {reason : SkipReason}
    (hreason : reason? (baseLevel lines) lines line = some reason) :
    placeItems (gathered (others lines line)) = placeItems (gathered lines) ↔
      ¬ Unsettles lines line := by
  have hothers := others_eq hsplit hsorted
  rw [Unsettles, isStray_iff_of_reason? hreason]
  by_cases hlevel : relativeLevel (baseLevel lines) line = 0
  · have hstray := (isStray_iff_of_reason? hreason).2 hlevel
    simp only [hlevel, true_and, not_or]
    -- If another line keeps the base, only components can be lost; if none does, all items are.
    by_cases hother : ∃ other ∈ before ++ after, relativeLevel (baseLevel lines) other = 0
    · have hholds : ¬ HoldsBase lines line := by
        intro hholds
        obtain ⟨other, hmem, hzero⟩ := hother
        exact hholds.1 other (hothers ▸ hmem) hzero
      by_cases hends : EndsComposite lines line
      · have hlt := length_nodeCodes_lt_of_endsComposite hsplit hsorted hstray hends
        refine iff_of_false (fun hsame => Nat.ne_of_gt hlt ?_) fun h => h.1 hends
        rw [← hothers, ← nodeCodes_placeItems, hsame, nodeCodes_placeItems]
      · rw [hothers, gathered_others_of_not_endsComposite hsplit hsorted hstray hother hends]
        exact iff_of_true rfl ⟨hends, hholds⟩
    · have hends : ¬ EndsComposite lines line := fun hends =>
        hother (exists_base_of_isAnchored hsplit hsorted hends.1)
      have halone : ∀ other ∈ before ++ after, relativeLevel (baseLevel lines) other ≠ 0 :=
        fun other hmem hzero => hother ⟨other, hmem, hzero⟩
      rw [← gathered_others_eq_nil_iff hsplit hsorted halone,
        gathered_eq_nil_of_alone hsplit hsorted hstray halone]
      simp [placeItems, hends]
  · have hskip := outcome_of_reason? hreason
    rw [isAnchored_eq hsplit hsorted] at hskip
    rw [hothers, gathered_others_of_above hsplit hlevel hskip]
    exact iff_of_true rfl fun h => hlevel h.1

end Others

section Text

variable (tabWidth : ℕ) (text : String)

/-- The line on the characters of a line, if it is not blank and recognised. -/
def lineOn? (cs : List Char) : Option Line :=
  if cs.all Text.isBlank then none else Line.ofText? tabWidth (String.ofList cs)

/-- The recognised lines of a text are found on its lines. -/
theorem recognised_numberedLines :
    recognised tabWidth (numberedLines text) =
      ((Text.lines text.toList).zipIdx 1).filterMap fun line =>
        (lineOn? tabWidth line.1).map (⟨line.2, ·⟩) := by
  rw [recognised, numberedLines_eq_map, List.filterMap_map, List.filterMap_filter]
  apply List.filterMap_congr
  intro line _
  cases hblank : line.1.all Text.isBlank <;> simp [lineOn?, hblank]

/-- What is recognised on a line does not depend on its number. -/
theorem map_content_recognised_numberedLines :
    (recognised tabWidth (numberedLines text)).map (·.content) =
      (Text.lines text.toList).filterMap (lineOn? tabWidth) := by
  rw [recognised_numberedLines, List.map_filterMap]
  simp only [Option.map_map, Function.comp_def, Option.map_id']
  calc ((Text.lines text.toList).zipIdx 1).filterMap (fun line => lineOn? tabWidth line.1)
    _ = (((Text.lines text.toList).zipIdx 1).map Prod.fst).filterMap (lineOn? tabWidth) := by
        rw [List.filterMap_map]
        rfl
    _ = _ := by rw [List.zipIdx_map_fst]

/-- Without a line the others are recognised as before. -/
theorem map_content_recognised_withoutLine {number : ℕ} (hnumber : 1 ≤ number) :
    (recognised tabWidth (numberedLines (withoutLine number text))).map (·.content) =
      ((recognised tabWidth (numberedLines text)).filter (·.number ≠ number)).map (·.content) := by
  rw [map_content_recognised_numberedLines, recognised_numberedLines, withoutLine,
    String.toList_ofList, Text.lines_eraseLine_eq_filter, Nat.sub_add_cancel hnumber,
    List.filterMap_map, List.filterMap_filter, List.filter_filterMap, List.map_filterMap]
  apply List.filterMap_congr
  intro line _
  cases hparsed : lineOn? tabWidth line.1 with
  | none => simp [hparsed]
  | some parsed => by_cases hline : line.2 = number <;> simp [hparsed, hline]

/-- The items of a text are those on its recognised lines. -/
theorem items_ofText (tag : String) :
    (ofText tabWidth tag text).items =
      placeItems (gathered (recognised tabWidth (numberedLines text))) :=
  rfl

/-- The items of a text without a line are those on its other recognised lines. -/
theorem items_ofText_withoutLine (tag : String) {number : ℕ} (hnumber : 1 ≤ number) :
    (ofText tabWidth tag (withoutLine number text)).items =
      placeItems (gathered
        ((recognised tabWidth (numberedLines text)).filter (·.number ≠ number))) := by
  rw [items_ofText, gathered_congr (map_content_recognised_withoutLine tabWidth text hnumber)]

variable {tabWidth text}

/-- The number of a line that is left out is that of a line of the text that is not blank. -/
theorem index_mem_contentNumbers {tag : String} {skip : Skip}
    (hskip : skip ∈ (ofText tabWidth tag text).skips) : skip.index ∈ contentNumbers text :=
  (keptNumbers_append_skips_ofText_perm tabWidth tag text).mem_iff.1
    (List.mem_append_right _ (List.mem_map_of_mem hskip))

theorem one_le_of_mem_contentNumbers {number : ℕ} (hnumber : number ∈ contentNumbers text) :
    1 ≤ number := by
  obtain ⟨line, hline, rfl⟩ := List.mem_map.1 hnumber
  exact List.le_snd_of_mem_zipIdx (List.mem_filter.1 hline).1

/-- A line that is left out is not recognised, or there is a reason to leave it out. -/
theorem exists_reason?_of_mem_skips {tag : String} {skip : Skip}
    (hskip : skip ∈ (ofText tabWidth tag text).skips) :
    let lines := recognised tabWidth (numberedLines text)
    (skip.reason = .unrecognizedLine ∧ ∀ line ∈ lines, line.number ≠ skip.index) ∨
    ∃ line ∈ lines, line.number = skip.index ∧
      reason? (baseLevel lines) lines line = some skip.reason := by
  intro lines
  rw [skips_ofText] at hskip
  rcases List.mem_append.1 hskip with hunknown | hknown
  · left
    obtain ⟨unknown, hmem, rfl⟩ := List.mem_map.1 hunknown
    refine ⟨rfl, fun line hline hnumber => ?_⟩
    have hnodup : (lines.map Numbered.number ++
        (unrecognised tabWidth (numberedLines text)).map Numbered.number).Nodup := by
      rw [(recognised_append_unrecognised_perm tabWidth (numberedLines text)).nodup_iff,
        map_number_numberedLines]
      exact (pairwise_contentNumbers text).imp Nat.ne_of_lt
    exact List.disjoint_of_nodup_append hnodup (List.mem_map_of_mem hline)
      (hnumber ▸ List.mem_map_of_mem hmem)
  · right
    obtain ⟨line, hline, hleft⟩ := List.mem_filterMap.1 hknown
    obtain ⟨reason, hreason, rfl⟩ := Option.map_eq_some_iff.1 hleft
    exact ⟨line, hline, rfl, hreason⟩

/-- Taking out a line that is left out makes no difference to the items, unless it is an element
that cannot be read. Such a line makes a difference exactly if it is at level zero and ends a
composite with components behind it, or is alone at that level. -/
theorem items_withoutLine_iff {tag : String} {skip : Skip}
    (hskip : skip ∈ (ofText tabWidth tag text).skips) :
    let lines := recognised tabWidth (numberedLines text)
    let same := (ofText tabWidth tag (withoutLine skip.index text)).items =
      (ofText tabWidth tag text).items
    (skip.reason ≠ .malformedElement → same) ∧
    (same ↔ ∀ line ∈ lines, line.number = skip.index → ¬ Unsettles lines line) := by
  intro lines same
  have hsorted := pairwise_number_recognised tabWidth text
  have hsame : same ↔ placeItems (gathered (lines.filter (·.number ≠ skip.index))) =
      placeItems (gathered lines) := by
    rw [← items_ofText_withoutLine tabWidth text tag
      (one_le_of_mem_contentNumbers (index_mem_contentNumbers hskip))]
    rfl
  rcases exists_reason?_of_mem_skips hskip with ⟨-, hnone⟩ | ⟨line, hline, hnumber, hreason⟩
  · have hall : lines.filter (·.number ≠ skip.index) = lines := by
      rw [List.filter_eq_self]
      intro line hline
      simpa using hnone line hline
    have htrue : same := hsame.2 (by rw [hall])
    exact ⟨fun _ => htrue,
      iff_of_true htrue fun line hline hnumber => absurd hnumber (hnone line hline)⟩
  · obtain ⟨before, after, hsplit⟩ := List.append_of_mem hline
    have hiff : same ↔ ¬ Unsettles lines line := by
      rw [hsame, ← hnumber]
      exact placeItems_gathered_others_iff hsplit hsorted hreason
    have hunique : ∀ other ∈ lines, other.number = skip.index → other = line :=
      fun other hother hindex => List.inj_on_of_nodup_map (hsorted.imp Nat.ne_of_lt) hother hline
        (hindex.trans hnumber.symm)
    refine ⟨fun hne => hiff.2 fun hunsettles => hne ?_, hiff.trans ⟨fun h other hother hindex => ?_,
      fun h => h line hline hnumber⟩⟩
    · exact reason_of_isStray hunsettles.1 hreason
    · rwa [hunique other hother hindex]

/-- The third line has no format. It ends the composite in front of it, so the component behind it
is lost. -/
theorem items_withoutLine_iff_ending_composite :
    let text := "C002 A C\n   1004 B M an..35\n1225 stray\n      1001 E C n3\n1000 D C n3"
    let lines := recognised 3 (numberedLines text)
    let stray : Skip := ⟨"segment BGM", 3, "1225 stray", .malformedElement⟩
    stray ∈ (ofText 3 "BGM" text).skips ∧
    (∃ line ∈ lines, line.number = 3 ∧ Unsettles lines line) ∧
    (ofText 3 "BGM" (withoutLine 3 text)).items ≠ (ofText 3 "BGM" text).items := by
  intro text lines stray
  have hstray : stray ∈ (ofText 3 "BGM" text).skips := by decide +kernel
  have hunsettles : ∃ line ∈ lines, line.number = 3 ∧ Unsettles lines line := by decide +kernel
  refine ⟨hstray, hunsettles, fun hsame => ?_⟩
  obtain ⟨line, hline, hnumber, hline'⟩ := hunsettles
  exact (items_withoutLine_iff hstray).2.1 hsame line hline hnumber hline'

/-- A single line that begins like an element loses a whole segment. -/
theorem items_lost_to_stray_line :
    let text := "1997 edition\n   C002 A C\n      1004 B M 1 an..35\n   1225 C C n3"
    let stray : Skip := ⟨"segment BGM", 1, "1997 edition", .malformedElement⟩
    stray ∈ (ofText 3 "BGM" text).skips ∧
    (ofText 3 "BGM" text).items = [] ∧
    (ofText 3 "BGM" (withoutLine stray.index text)).nodeCodes = ["C002", "1004", "1225"] ∧
    (ofText 3 "BGM" (withoutLine stray.index text)).items ≠ (ofText 3 "BGM" text).items := by
  decide +kernel

end Text

end EdiSchema.Detail
