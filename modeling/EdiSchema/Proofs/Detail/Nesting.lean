import Mathlib.Data.List.Induction
import Mathlib.Order.Bounds.Defs
import EdiSchema.Proofs.Detail.Accounting

/-!
# Nesting by indentation

How items nest is told by looking back. The anchor of a recognised line is the last line in front of
it that is as shallow as any line of the text. An element above that level belongs to its anchor if
the anchor is a composite, and to nothing otherwise; at that level every line stands for itself.

The lines are read one after the other with a single flag, whether a composite is open. The
invariant is that the flag tells of what kind the anchor of the next line is. It makes the outcome
of a line a matter of its own level and its anchor, and the components of a composite the lines that
have it as their anchor.
-/

namespace EdiSchema.Detail

section Rule

variable (base : ℕ) (lines : List (Numbered Line))

/-- The level of a line above the base of its text. -/
def relativeLevel (line : Numbered Line) : ℕ :=
  line.content.level - base

/-- The last of some lines that is at level zero. -/
def lastBase? : Option (Numbered Line) :=
  (lines.filter fun line => relativeLevel base line = 0).getLast?

/-- The last line at level zero in front of a line. -/
def anchor? (line : Numbered Line) : Option (Numbered Line) :=
  lastBase? base (lines.filter fun other => other.number < line.number)

/-- Whether the last line at level zero in front of a line is a composite. -/
def isAnchored (line : Numbered Line) : Bool :=
  (anchor? base lines line).any (·.content.kind == .composite)

/-- The element on the line of an element, if its payload can be read. -/
def elementOn? (line : Line) : Option Element :=
  match line.kind with
  | .composite => none
  | .element => element? line

/-- The component of a composite on a line: an element above level zero whose anchor is the line of
the composite. -/
def componentOn? (owner line : Numbered Line) : Option Element :=
  if relativeLevel base line ≠ 0 ∧
      (anchor? base lines line).map Numbered.number = some owner.number then
    elementOn? line.content
  else none

/-- The item on a line at level zero, a composite with its components in the order of their
lines. -/
def itemOn? (line : Numbered Line) : Option Item :=
  if relativeLevel base line = 0 then
    match line.content.kind with
    | .composite => some (.composite { composite line.content with
        components := lines.filterMap (componentOn? base lines line) })
    | .element => (element? line.content).map .simple
  else none

/-- Why a line is left out, if it is. -/
def reason? (line : Numbered Line) : Option SkipReason :=
  match line.content.kind with
  | .composite => if relativeLevel base line = 0 then none else some .nestedComposite
  | .element =>
    if (element? line.content).isNone then some .malformedElement
    else if relativeLevel base line = 0 ∨ isAnchored base lines line then none
    else some .orphanElement

/-- What is recorded of a line that is left out: its code, and also its payload if that cannot be
read. -/
def recordedText (line : Line) : SkipReason → String
  | .malformedElement => line.code ++ " " ++ line.payload
  | _ => line.code

/-- The record of a line that is left out. -/
def leftOut? (place : String) (line : Numbered Line) : Option Skip :=
  (reason? base lines line).map fun reason =>
    ⟨place, line.number, Text.trimmed (recordedText line.content reason), reason⟩

end Rule

section LookingBack

variable {base : ℕ}

theorem lastBase?_concat (lines : List (Numbered Line)) (line : Numbered Line) :
    lastBase? base (lines ++ [line]) =
      if relativeLevel base line = 0 then some line else lastBase? base lines := by
  rw [lastBase?, List.filter_append]
  split
  · next hlevel => simp [hlevel]
  · next hlevel => simp [hlevel, lastBase?]

/-- Whether a line after some lines is under a composite. -/
def endsUnder (base : ℕ) (lines : List (Numbered Line)) : Bool :=
  lines.foldl (fun under line => isUnderComposite under (relativeLevel base line) line.content)
    false

theorem endsUnder_concat (lines : List (Numbered Line)) (line : Numbered Line) :
    endsUnder base (lines ++ [line]) =
      isUnderComposite (endsUnder base lines) (relativeLevel base line) line.content := by
  rw [endsUnder, List.foldl_concat, endsUnder]

/-- The flag tells of what kind the last line at level zero is. -/
theorem endsUnder_eq (lines : List (Numbered Line)) :
    endsUnder base lines = (lastBase? base lines).any (·.content.kind == .composite) := by
  induction lines using List.reverseRecOn with
  | nil => rfl
  | append_singleton lines line ih =>
    rw [endsUnder_concat, lastBase?_concat, isUnderComposite, ih]
    split <;> rfl

variable {lines before after rest : List (Numbered Line)} {line owner : Numbered Line}

/-- In a list of lines in order, the lines with smaller numbers stand in front. -/
theorem filter_number_lt (hsplit : lines = before ++ line :: after)
    (hsorted : (lines.map Numbered.number).Pairwise (· < ·)) :
    lines.filter (fun other => other.number < line.number) = before := by
  subst hsplit
  rw [List.pairwise_map, List.pairwise_append, List.pairwise_cons] at hsorted
  obtain ⟨-, ⟨hafter, -⟩, hbefore⟩ := hsorted
  have hfront : before.filter (fun other => other.number < line.number) = before := by
    rw [List.filter_eq_self]
    intro other hother
    simpa using hbefore other hother line List.mem_cons_self
  have hback : after.filter (fun other => other.number < line.number) = [] := by
    rw [List.filter_eq_nil_iff]
    intro other hother
    simpa using Nat.le_of_lt (hafter other hother)
  rw [List.filter_append, List.filter_cons_of_neg (by simp), hfront, hback, List.append_nil]

/-- The anchor of a line is the last line at level zero of those in front of it. -/
theorem anchor?_eq (hsplit : lines = before ++ line :: after)
    (hsorted : (lines.map Numbered.number).Pairwise (· < ·)) :
    anchor? base lines line = lastBase? base before := by
  rw [anchor?, filter_number_lt hsplit hsorted]

/-- The anchor of a line is a composite if the lines in front of it end under one. -/
theorem isAnchored_eq (hsplit : lines = before ++ line :: after)
    (hsorted : (lines.map Numbered.number).Pairwise (· < ·)) :
    isAnchored base lines line = endsUnder base before := by
  rw [isAnchored, anchor?_eq hsplit hsorted, endsUnder_eq]

/-- The outcome of a line depends on its own level and on its anchor. -/
theorem outcomes_eq_map (hsplit : lines = before ++ rest)
    (hsorted : (lines.map Numbered.number).Pairwise (· < ·)) :
    outcomes base (endsUnder base before) rest =
      rest.map fun line => ⟨line.number,
        outcome (isAnchored base lines line) (relativeLevel base line) line.content⟩ := by
  induction rest generalizing before with
  | nil => rfl
  | cons line rest ih =>
    have hsplit' : lines = (before ++ [line]) ++ rest := by rw [hsplit, List.append_cons]
    have hrest := ih hsplit'
    rw [endsUnder_concat] at hrest
    rw [List.map_cons, ← hrest, isAnchored_eq hsplit hsorted]
    rfl

end LookingBack

section Components

variable {base : ℕ} {lines before after rest : List (Numbered Line)} {line owner : Numbered Line}

/-- Lines in front have smaller numbers. -/
theorem number_lt_of_mem (hsplit : lines = before ++ line :: after)
    (hsorted : (lines.map Numbered.number).Pairwise (· < ·)) (howner : owner ∈ before) :
    owner.number < line.number := by
  rw [hsplit, List.pairwise_map, List.pairwise_append] at hsorted
  exact hsorted.2.2 owner howner line List.mem_cons_self

/-- Lines whose anchor is another line behind the owner are no components of the owner. -/
theorem filterMap_componentOn?_eq_nil (hsplit : lines = before ++ rest)
    (hsorted : (lines.map Numbered.number).Pairwise (· < ·)) (howner : owner ∈ before)
    (hlast : (lastBase? base before).map Numbered.number ≠ some owner.number) :
    rest.filterMap (componentOn? base lines owner) = [] := by
  induction rest generalizing before with
  | nil => rfl
  | cons line rest ih =>
    have hnone : componentOn? base lines owner line = none := by
      rw [componentOn?, anchor?_eq hsplit hsorted, if_neg fun h => hlast h.2]
    rw [List.filterMap_cons_none hnone]
    have hsplit' : lines = (before ++ [line]) ++ rest := by rw [hsplit, List.append_cons]
    refine ih hsplit' (List.mem_append_left _ howner) ?_
    rw [lastBase?_concat]
    split
    · have hlt := number_lt_of_mem hsplit hsorted howner
      simpa using Nat.ne_of_gt hlt
    · exact hlast

/-- The components of an owner are on the lines behind it, up to the next line at level zero. -/
theorem filterMap_componentOn?_eq_takeWhile (hsplit : lines = before ++ rest)
    (hsorted : (lines.map Numbered.number).Pairwise (· < ·)) (howner : owner ∈ before)
    (hlast : lastBase? base before = some owner) :
    rest.filterMap (componentOn? base lines owner) =
      (rest.takeWhile fun line => relativeLevel base line ≠ 0).filterMap
        fun line => elementOn? line.content := by
  induction rest generalizing before with
  | nil => rfl
  | cons line rest ih =>
    have hsplit' : lines = (before ++ [line]) ++ rest := by rw [hsplit, List.append_cons]
    have hmem : owner ∈ before ++ [line] := List.mem_append_left _ howner
    by_cases hlevel : relativeLevel base line = 0
    · have hnone : componentOn? base lines owner line = none := if_neg fun h => h.1 hlevel
      have hlt := number_lt_of_mem hsplit hsorted howner
      rw [List.filterMap_cons_none hnone, List.takeWhile_cons_of_neg (by simp [hlevel])]
      refine filterMap_componentOn?_eq_nil hsplit' hsorted hmem ?_
      rw [lastBase?_concat, if_pos hlevel]
      simpa using Nat.ne_of_gt hlt
    · have hline : componentOn? base lines owner line = elementOn? line.content := by
        rw [componentOn?, anchor?_eq hsplit hsorted, hlast]
        exact if_pos ⟨hlevel, rfl⟩
      have hrest := ih hsplit' hmem (by rw [lastBase?_concat, if_neg hlevel, hlast])
      rw [List.takeWhile_cons_of_pos (by simp [hlevel]), List.filterMap_cons, List.filterMap_cons,
        hline, hrest]

/-- A line is no component of an owner behind it, nor of itself. -/
theorem componentOn?_eq_none (hnumber : line.number ≤ owner.number) :
    componentOn? base lines owner line = none := by
  refine if_neg fun h => ?_
  obtain ⟨anchor, hanchor, hsame⟩ := Option.map_eq_some_iff.1 h.2
  have hfront := (List.mem_filter.1 (List.mem_of_mem_getLast? hanchor)).1
  have hlt : anchor.number < line.number := by simpa using (List.mem_filter.1 hfront).2
  omega

/-- The components of a line at level zero are on the lines behind it, up to the next line at that
level. -/
theorem components_eq (hsplit : lines = before ++ line :: after)
    (hsorted : (lines.map Numbered.number).Pairwise (· < ·))
    (hlevel : relativeLevel base line = 0) :
    lines.filterMap (componentOn? base lines line) =
      (after.takeWhile fun other => relativeLevel base other ≠ 0).filterMap
        fun other => elementOn? other.content := by
  have hfront : ∀ other ∈ before ++ [line], componentOn? base lines line other = none := by
    intro other hother
    apply componentOn?_eq_none
    rcases List.mem_append.1 hother with hbefore | hself
    · exact Nat.le_of_lt (number_lt_of_mem hsplit hsorted hbefore)
    · exact Nat.le_of_eq (congrArg Numbered.number (List.mem_singleton.1 hself))
  have hsplit' : lines = (before ++ [line]) ++ after := by rw [hsplit, List.append_cons]
  have hlast : lastBase? base (before ++ [line]) = some line := by
    rw [lastBase?_concat, if_pos hlevel]
  calc lines.filterMap (componentOn? base lines line)
    _ = ((before ++ [line]) ++ after).filterMap (componentOn? base lines line) := by rw [← hsplit']
    _ = after.filterMap (componentOn? base lines line) := by
        rw [List.filterMap_append, List.filterMap_eq_nil_iff.2 hfront, List.nil_append]
    _ = _ := filterMap_componentOn?_eq_takeWhile hsplit' hsorted (by simp) hlast

end Components

section Outcomes

variable (under : Bool) (line : Line)

/-- A line above level zero becomes a component if it is an element and a composite is open, and is
left out otherwise. -/
theorem outcome_above {level : ℕ} (hlevel : level ≠ 0) :
    (∃ e, elementOn? line = some e ∧ under = true ∧ outcome under level line = .component e) ∨
    ((elementOn? line = none ∨ under = false) ∧
      ∃ text reason, outcome under level line = .skip text reason) := by
  cases hkind : line.kind with
  | composite =>
    right
    exact ⟨.inl (by simp [elementOn?, hkind]), line.code, .nestedComposite,
      by simp [outcome, hkind, hlevel]⟩
  | element =>
    cases he : element? line with
    | none =>
      right
      exact ⟨.inl (by simp [elementOn?, hkind, he]), line.code ++ " " ++ line.payload,
        .malformedElement, by simp [outcome, hkind, he]⟩
    | some e =>
      cases under with
      | true =>
        left
        exact ⟨e, by simp [elementOn?, hkind, he], rfl, by simp [outcome, hkind, he, hlevel]⟩
      | false =>
        right
        exact ⟨.inr rfl, line.code, .orphanElement, by simp [outcome, hkind, he, hlevel]⟩

/-- A line at level zero stands for itself, unless it is an element that cannot be read. -/
theorem outcome_zero :
    (line.kind = .composite ∧ outcome under 0 line = .composite (composite line)) ∨
    (∃ e, line.kind = .element ∧ element? line = some e ∧ outcome under 0 line = .element e) ∨
    (line.kind = .element ∧ element? line = none ∧
      ∃ text reason, outcome under 0 line = .skip text reason) := by
  cases hkind : line.kind with
  | composite => exact .inl ⟨rfl, by simp [outcome, hkind]⟩
  | element =>
    right
    cases he : element? line with
    | none =>
      right
      exact ⟨rfl, rfl, line.code ++ " " ++ line.payload, .malformedElement,
        by simp [outcome, hkind, he]⟩
    | some e => exact .inl ⟨e, rfl, rfl, by simp [outcome, hkind, he]⟩

end Outcomes

section Items

variable {base : ℕ} {lines before rest : List (Numbered Line)}

theorem outcomes_cons (under : Bool) (line : Numbered Line) (rest : List (Numbered Line)) :
    outcomes base under (line :: rest) =
      ⟨line.number, outcome under (relativeLevel base line) line.content⟩ ::
        outcomes base (isUnderComposite under (relativeLevel base line) line.content) rest :=
  rfl

/-- Gathering the outcomes of the last lines of a text gives the components on the lines in front of
the first at level zero, if a composite is open for them, and the items on the lines at level
zero. -/
theorem gather_outcomes_eq (hsplit : lines = before ++ rest)
    (hsorted : (lines.map Numbered.number).Pairwise (· < ·)) :
    gather ((outcomes base (endsUnder base before) rest).map (·.content)) =
      (if endsUnder base before then
        (rest.takeWhile fun line => relativeLevel base line ≠ 0).filterMap
          fun line => elementOn? line.content
      else [],
      rest.filterMap (itemOn? base lines)) := by
  induction rest generalizing before with
  | nil => cases endsUnder base before <;> rfl
  | cons line rest ih =>
    have hsplit' : lines = (before ++ [line]) ++ rest := by rw [hsplit, List.append_cons]
    have hrest := ih hsplit'
    rw [endsUnder_concat] at hrest
    rw [outcomes_cons, List.map_cons, List.filterMap_cons]
    by_cases hlevel : relativeLevel base line = 0
    · have hcomponents := components_eq hsplit hsorted hlevel
      rw [isUnderComposite, if_pos hlevel] at hrest ⊢
      rw [List.takeWhile_cons_of_neg (by simp [hlevel]), List.filterMap_nil, ite_self, itemOn?,
        if_pos hlevel, hcomponents, hlevel]
      rcases outcome_zero (endsUnder base before) line.content with
        ⟨hkind, hc⟩ | ⟨e, hkind, he, helement⟩ | ⟨hkind, he, text, reason, hskip⟩
      · rw [hkind] at hrest ⊢
        simp only [hc, gather, hrest]
        rfl
      · rw [hkind] at hrest ⊢
        simp only [helement, gather, he, hrest]
        rfl
      · rw [hkind] at hrest ⊢
        simp only [hskip, gather, he, hrest]
        rfl
    · have hitem : itemOn? base lines line = none := if_neg hlevel
      rw [isUnderComposite, if_neg hlevel] at hrest ⊢
      rw [List.takeWhile_cons_of_pos (by simp [hlevel]), List.filterMap_cons, hitem]
      rcases outcome_above (endsUnder base before) line.content hlevel with
        ⟨e, he, hunder, hcomponent⟩ | ⟨hno, text, reason, hskip⟩
      · rw [hunder] at hrest hcomponent ⊢
        simp only [hcomponent, gather, he, hrest]
        rfl
      · rw [hskip, gather, hrest]
        rcases hno with he | hunder
        · rw [he]
        · rw [hunder]
          rfl

/-- The record of a line that is left out is that of its outcome. -/
theorem skip?_outcome (place : String) (line : Numbered Line) :
    skip? place ⟨line.number,
      outcome (isAnchored base lines line) (relativeLevel base line) line.content⟩ =
      leftOut? base lines place line := by
  rw [leftOut?, reason?]
  cases hkind : line.content.kind with
  | composite =>
    by_cases hlevel : relativeLevel base line = 0
    · simp [outcome, skip?, hkind, hlevel]
    · simp [outcome, skip?, recordedText, hkind, hlevel]
  | element =>
    cases he : element? line.content with
    | none => simp [outcome, skip?, recordedText, hkind, he]
    | some e =>
      by_cases hlevel : relativeLevel base line = 0
      · simp [outcome, skip?, hkind, he, hlevel]
      · cases hanchored : isAnchored base lines line
        · simp [outcome, skip?, recordedText, hkind, he, hlevel]
        · simp [outcome, skip?, hkind, he, hlevel]

/-- The lines that are left out are recorded in order. -/
theorem filterMap_skip?_outcomes (place : String)
    (hsorted : (lines.map Numbered.number).Pairwise (· < ·)) :
    (outcomes base false lines).filterMap (skip? place) =
      lines.filterMap (leftOut? base lines place) := by
  have houtcomes : outcomes base false lines = lines.map fun line => ⟨line.number,
      outcome (isAnchored base lines line) (relativeLevel base line) line.content⟩ :=
    outcomes_eq_map (show lines = [] ++ lines from rfl) hsorted
  rw [houtcomes, List.filterMap_map]
  exact List.filterMap_congr fun line _ => skip?_outcome place line

end Items

section Text

/-- The base of some lines is the least of their levels. -/
theorem isLeast_baseLevel {lines : List (Numbered Line)} (hlines : lines ≠ []) :
    IsLeast {level | ∃ line ∈ lines, line.content.level = level} (baseLevel lines) := by
  have hne : lines.map (·.content.level) ≠ [] := by simpa using hlines
  obtain ⟨least, hleast⟩ := Option.isSome_iff_exists.1 (List.isSome_min?_of_ne_nil hne)
  obtain ⟨hmem, hle⟩ := List.min?_eq_some_iff.1 hleast
  rw [baseLevel, hleast, Option.getD_some]
  refine ⟨List.mem_map.1 hmem, ?_⟩
  rintro level ⟨line, hline, rfl⟩
  exact hle _ (List.mem_map_of_mem hline)

/-- The recognised lines of a text are in order. -/
theorem pairwise_number_recognised (tabWidth : ℕ) (text : String) :
    ((recognised tabWidth (numberedLines text)).map Numbered.number).Pairwise (· < ·) := by
  have hlines := pairwise_contentNumbers text
  rw [← map_number_numberedLines] at hlines
  rw [map_number_recognised]
  exact hlines.sublist (List.filter_sublist.map Numbered.number)

/-- Lines that are not recognised are recorded first, and then those that are left out for another
reason. -/
theorem skips_ofText (tabWidth : ℕ) (tag text : String) :
    let lines := recognised tabWidth (numberedLines text)
    (ofText tabWidth tag text).skips =
      (unrecognised tabWidth (numberedLines text)).map (unrecognisedSkip ("segment " ++ tag)) ++
        lines.filterMap (leftOut? (baseLevel lines) lines ("segment " ++ tag)) := by
  intro lines
  rw [← filterMap_skip?_outcomes _ (pairwise_number_recognised tabWidth text)]
  rfl

/-- How the lines of a detail text nest is decided by their indentation: by the level of each above
the shallowest, and by the last line at that level in front of it. -/
theorem ofText_follows_indentation (tabWidth : ℕ) (tag text : String) :
    let lines := recognised tabWidth (numberedLines text)
    let base := baseLevel lines
    (lines.map Numbered.number).Pairwise (· < ·) ∧
    (lines = [] ∨ IsLeast {level | ∃ line ∈ lines, line.content.level = level} base) ∧
    ofText tabWidth tag text = {
      items := placeItems (lines.filterMap (itemOn? base lines))
      skips := (unrecognised tabWidth (numberedLines text)).map
          (unrecognisedSkip ("segment " ++ tag)) ++
        lines.filterMap (leftOut? base lines ("segment " ++ tag)) } := by
  intro lines base
  have hsorted := pairwise_number_recognised tabWidth text
  have hitems : (gather ((outcomes base false lines).map (·.content))).2 =
      lines.filterMap (itemOn? base lines) :=
    congrArg Prod.snd (gather_outcomes_eq (show lines = [] ++ lines from rfl) hsorted)
  refine ⟨hsorted, (eq_or_ne lines []).imp_right isLeast_baseLevel, ?_⟩
  rw [← skips_ofText, ← hitems]
  rfl

/-- An element two levels below a composite that is left out belongs to the composite at level
zero. -/
example :
    let text := "C001 A C\n   C002 B C\n      1001 X M n3\n1002 Y M n3\n   1003 Z M n3"
    let detail := ofText 3 "BGM" text
    detail.nodeCodes = ["C001", "1001", "1002"] ∧
      detail.skips.map Skip.reason = [.nestedComposite, .orphanElement] := by
  decide +kernel

end Text

end EdiSchema.Detail
