import Mathlib.Data.List.Forall2
import Mathlib.Data.List.Perm.Basic
import EdiSchema.Detail.Basic

/-!
# What becomes of the lines of a detail text

Every line that is not blank becomes one item or component, or is left out with a record of its
number. Nothing is lost at the end of the text, used twice or moved in front of an earlier line.

What becomes of a line is said once, for one line after the others: `outcome_cases`. The invariant
of the run over the lines is that no component is gathered unless a composite is open for it.
-/

namespace EdiSchema

/-- The code of an item, and then those of its components. -/
def Item.nodeCodes : Item → List String
  | .composite c => c.code :: c.components.map Element.code
  | .simple e => [e.code]

namespace Detail

/-- The codes of the items of a detail with their components, depth first. -/
def nodeCodes (detail : Detail) : List String :=
  detail.items.flatMap Item.nodeCodes

/-- The numbers of the lines of a text that are not blank, counted from one. -/
def contentNumbers (text : String) : List ℕ :=
  (((Text.lines text.toList).zipIdx 1).filter fun line => !line.1.all Text.isBlank).map Prod.snd

/-- Whether the line with a number is recognised and carries a code. -/
def CarriesCode (tabWidth : ℕ) (text : String) (number : ℕ) (code : String) : Prop :=
  ∃ content line, (content, number) ∈ (Text.lines text.toList).zipIdx 1 ∧
    Line.ofText? tabWidth (String.ofList content) = some line ∧ line.code = code

/-- What a detail says about the lines of its text, given the numbers of the lines that became an
item or a component. -/
structure AccountsFor (tabWidth : ℕ) (tag text : String) (detail : Detail) (kept : List ℕ) :
    Prop where
  /-- Every line that is not blank was kept or left out, and that once. -/
  once : (kept ++ detail.skips.map Skip.index).Perm (contentNumbers text)
  /-- The items and components come from the lines that were kept, in their order. -/
  codes : List.Forall₂ (CarriesCode tabWidth text) kept detail.nodeCodes
  ordered : kept.Pairwise (· < ·)
  distinct : (detail.skips.map Skip.index).Nodup
  places : ∀ skip ∈ detail.skips, skip.place = "segment " ++ tag
  total : detail.nodeCodes.length + detail.skips.length = (contentNumbers text).length

/-- The code of a line that becomes an item or a component. -/
def Outcome.code? : Outcome → Option String
  | .composite c => some c.code
  | .element e => some e.code
  | .component e => some e.code
  | .skip _ _ => none

theorem code_composite (line : Line) : (composite line).code = line.code := by
  unfold composite
  split <;> rfl

theorem code_of_element? {line : Line} {e : Element} (he : element? line = some e) :
    e.code = line.code := by
  unfold element? at he
  dsimp only at he
  split at he
  · exact Option.some.inj he ▸ rfl
  · simp at he

/-- What can become of a line, and whether the lines after it are under a composite: they are after
a composite, and are not after an element of the segment; a component needs a composite above it,
and a line that is left out never opens one. -/
theorem outcome_cases (under : Bool) (level : ℕ) (line : Line) :
    (∃ c, outcome under level line = .composite c ∧ c.code = line.code ∧
      isUnderComposite under level line = true) ∨
    (∃ e, outcome under level line = .element e ∧ e.code = line.code ∧
      isUnderComposite under level line = false) ∨
    (∃ e, outcome under level line = .component e ∧ e.code = line.code ∧ under = true ∧
      isUnderComposite under level line = true) ∨
    (∃ text reason, outcome under level line = .skip text reason ∧
      (isUnderComposite under level line = true → under = true)) := by
  cases hkind : line.kind with
  | composite =>
    by_cases hlevel : level = 0
    · left
      exact ⟨composite line, by simp [outcome, hkind, hlevel], code_composite line,
        by simp [isUnderComposite, hkind, hlevel]⟩
    · right; right; right
      exact ⟨line.code, .nestedComposite, by simp [outcome, hkind, hlevel],
        by simp [isUnderComposite, hlevel]⟩
  | element =>
    have hunder : isUnderComposite under level line = if level = 0 then false else under := by
      rw [isUnderComposite, hkind]
      rfl
    rw [hunder]
    cases he : element? line with
    | none =>
      right; right; right
      refine ⟨line.code ++ " " ++ line.payload, .malformedElement, ?_, ?_⟩
      · simp only [outcome, hkind, he]
      · split <;> simp
    | some e =>
      have hcode := code_of_element? he
      by_cases hlevel : level = 0
      · right; left
        exact ⟨e, by simp [outcome, hkind, he, hlevel], hcode, by simp [hlevel]⟩
      · cases under with
        | true =>
          right; right; left
          exact ⟨e, by simp [outcome, hkind, he, hlevel], hcode, rfl, by simp [hlevel]⟩
        | false =>
          right; right; right
          exact ⟨line.code, .orphanElement, by simp [outcome, hkind, he, hlevel], by simp⟩

/-- The codes of gathered components and items are those of the lines that became one, in order;
without a composite above the lines, no component is gathered in front of the first item. -/
theorem nodeCodes_gather (base : ℕ) (under : Bool) (lines : List (Numbered Line)) :
    let gathered := gather ((outcomes base under lines).map (·.content))
    gathered.1.map Element.code ++ gathered.2.flatMap Item.nodeCodes =
        (outcomes base under lines).filterMap (·.content.code?) ∧
      (under = false → gathered.1 = []) := by
  induction lines generalizing under with
  | nil => exact ⟨rfl, fun _ => rfl⟩
  | cons line rest ih =>
    simp only [outcomes, List.map_cons, List.filterMap_cons]
    generalize line.content.level - base = level
    obtain ⟨hcodes, hnone⟩ := ih (isUnderComposite under level line.content)
    rcases outcome_cases under level line.content with
      ⟨c, hc, -, -⟩ | ⟨e, he, -, hunder⟩ | ⟨e, he, -, habove, -⟩ |
      ⟨text, reason, hskip, hunder⟩
    · rw [hc]
      exact ⟨congrArg (c.code :: ·) hcodes, fun _ => rfl⟩
    · rw [hnone hunder, List.map_nil, List.nil_append] at hcodes
      rw [he]
      exact ⟨congrArg (e.code :: ·) hcodes, fun _ => rfl⟩
    · rw [he]
      exact ⟨congrArg (e.code :: ·) hcodes, fun hfalse => absurd hfalse (by simp [habove])⟩
    · rw [hskip]
      refine ⟨hcodes, fun hfalse => hnone ?_⟩
      exact Bool.eq_false_iff.2 fun htrue => absurd (hunder htrue) (by simp [hfalse])

/-- Positions do not change the codes of items and components. -/
theorem nodeCodes_placeItems (items : List Item) :
    (placeItems items).flatMap Item.nodeCodes = items.flatMap Item.nodeCodes := by
  have hcomponents : ∀ parent components,
      (placeComponents parent components).map Element.code = components.map Element.code := by
    intro parent components
    exact List.ext_getElem (by simp [placeComponents]) (by simp [placeComponents])
  have hitem : ∀ position item, (placeItem position item).nodeCodes = item.nodeCodes := by
    intro position item
    cases item with
    | composite c => exact congrArg (c.code :: ·) (hcomponents position c.components)
    | simple e => rfl
  have hitems : (placeItems items).map Item.nodeCodes = items.map Item.nodeCodes :=
    List.ext_getElem (by simp [placeItems]) (by simp [placeItems, hitem])
  rw [List.flatMap_def, List.flatMap_def, hitems]

/-- The numbers of the lines that become an item or a component. -/
def keptNumbers (results : List (Numbered Outcome)) : List ℕ :=
  (results.filter fun result => result.content.code?.isSome).map Numbered.number

/-- Every line has one outcome. -/
theorem map_number_outcomes (base : ℕ) (under : Bool) (lines : List (Numbered Line)) :
    (outcomes base under lines).map Numbered.number = lines.map Numbered.number := by
  induction lines generalizing under with
  | nil => rfl
  | cons line rest ih => exact congrArg (line.number :: ·) (ih _)

/-- A line that does not become an item or a component is recorded. -/
theorem keptNumbers_append_skips_perm (place : String) (results : List (Numbered Outcome)) :
    (keptNumbers results ++ (results.filterMap (skip? place)).map Skip.index).Perm
      (results.map Numbered.number) := by
  induction results with
  | nil => exact List.Perm.refl _
  | cons result rest ih =>
    obtain ⟨number, outcome⟩ := result
    cases outcome with
    | composite c => exact ih.cons number
    | element e => exact ih.cons number
    | component e => exact ih.cons number
    | skip text reason => exact List.perm_middle.trans (ih.cons number)

/-- The lines that become an item or a component carry the codes of these. -/
theorem forall₂_keptNumbers (base : ℕ) (under : Bool) (lines : List (Numbered Line)) :
    List.Forall₂
      (fun number code => ∃ line ∈ lines, line.number = number ∧ line.content.code = code)
      (keptNumbers (outcomes base under lines))
      ((outcomes base under lines).filterMap (·.content.code?)) := by
  induction lines generalizing under with
  | nil => exact List.Forall₂.nil
  | cons line rest ih =>
    simp only [outcomes, keptNumbers, List.filter_cons, List.filterMap_cons]
    generalize line.content.level - base = level
    have hrest := (ih (isUnderComposite under level line.content)).imp
      fun number code hline => hline.imp fun other hother =>
        And.intro (List.mem_cons_of_mem line hother.1) hother.2
    rcases outcome_cases under level line.content with
      ⟨c, hc, hcode, -⟩ | ⟨e, he, hcode, -⟩ | ⟨e, he, hcode, -, -⟩ | ⟨text, reason, hskip, -⟩
    · rw [hc]
      exact .cons ⟨line, List.mem_cons_self, rfl, hcode.symm⟩ hrest
    · rw [he]
      exact .cons ⟨line, List.mem_cons_self, rfl, hcode.symm⟩ hrest
    · rw [he]
      exact .cons ⟨line, List.mem_cons_self, rfl, hcode.symm⟩ hrest
    · rw [hskip]
      exact hrest

section Numbers

variable (tabWidth : ℕ)

/-- The numbers of the recognised lines, in order. -/
theorem map_number_recognised (lines : List (Numbered String)) :
    (recognised tabWidth lines).map Numbered.number =
      (lines.filter fun line => (Line.ofText? tabWidth line.content).isSome).map
        Numbered.number := by
  induction lines with
  | nil => rfl
  | cons line rest ih =>
    cases hline : Line.ofText? tabWidth line.content with
    | none => simpa [recognised, hline] using ih
    | some parsed => simpa [recognised, hline] using ih

/-- Every line is recognised or not. -/
theorem recognised_append_unrecognised_perm (lines : List (Numbered String)) :
    ((recognised tabWidth lines).map Numbered.number ++
      (unrecognised tabWidth lines).map Numbered.number).Perm (lines.map Numbered.number) := by
  rw [map_number_recognised, ← List.map_append]
  refine List.Perm.map _ ?_
  simpa [unrecognised] using List.filter_append_perm
    (fun line => (Line.ofText? tabWidth line.content).isSome) lines

end Numbers

/-- The numbered lines of a text are those that are not blank. -/
theorem numberedLines_eq_map (text : String) :
    numberedLines text =
      (((Text.lines text.toList).zipIdx 1).filter fun line => !line.1.all Text.isBlank).map
        fun line => ⟨line.2, String.ofList line.1⟩ := by
  rw [numberedLines, List.mapIdx_eq_zipIdx_map, List.zipIdx_succ, List.filter_map,
    List.filter_map, List.map_map]
  simp only [Function.comp_def, Text.isBlankText, String.toList_ofList]

theorem map_number_numberedLines (text : String) :
    (numberedLines text).map Numbered.number = contentNumbers text := by
  rw [numberedLines_eq_map, List.map_map]
  rfl

/-- The numbers of the lines that are not blank increase. -/
theorem pairwise_contentNumbers (text : String) : (contentNumbers text).Pairwise (· < ·) := by
  have hall : (((Text.lines text.toList).zipIdx 1).map Prod.snd).Pairwise (· < ·) := by
    rw [List.zipIdx_map_snd]
    exact List.pairwise_lt_range'
  exact hall.sublist (List.filter_sublist.map Prod.snd)

/-- A line that is recognised carries its code. -/
theorem carriesCode_of_mem_recognised {tabWidth : ℕ} {text : String} {line : Numbered Line}
    (hline : line ∈ recognised tabWidth (numberedLines text)) :
    CarriesCode tabWidth text line.number line.content.code := by
  obtain ⟨numbered, hnumbered, hsome⟩ := List.mem_filterMap.1 hline
  obtain ⟨parsed, hparsed, rfl⟩ := Option.map_eq_some_iff.1 hsome
  rw [numberedLines_eq_map] at hnumbered
  obtain ⟨⟨content, number⟩, hcontent, rfl⟩ := List.mem_map.1 hnumbered
  exact ⟨content, parsed, (List.mem_filter.1 hcontent).1, hparsed, rfl⟩

/-- What is left out is recorded under the name of the segment. -/
theorem place_of_mem_skips {tabWidth : ℕ} {tag text : String} {skip : Skip}
    (hskip : skip ∈ (ofText tabWidth tag text).skips) : skip.place = "segment " ++ tag := by
  rcases List.mem_append.1 hskip with hskip | hskip
  · obtain ⟨line, -, rfl⟩ := List.mem_map.1 hskip
    rfl
  · obtain ⟨⟨number, outcome⟩, -, hresult⟩ := List.mem_filterMap.1 hskip
    cases outcome with
    | skip text reason => exact Option.some.inj hresult ▸ rfl
    | composite c => simp [skip?] at hresult
    | element e => simp [skip?] at hresult
    | component e => simp [skip?] at hresult

section

variable (tabWidth : ℕ) (tag text : String)

/-- The outcomes of the recognised lines of a text. -/
def resultsOf : List (Numbered Outcome) :=
  let known := recognised tabWidth (numberedLines text)
  outcomes (baseLevel known) false known

/-- The recognised lines are those that have an outcome. -/
theorem map_number_resultsOf :
    (resultsOf tabWidth text).map Numbered.number =
      (recognised tabWidth (numberedLines text)).map Numbered.number :=
  map_number_outcomes _ false _

/-- Nothing that becomes an item or a component is lost. -/
theorem nodeCodes_ofText :
    (ofText tabWidth tag text).nodeCodes =
      (resultsOf tabWidth text).filterMap (·.content.code?) := by
  obtain ⟨hcodes, hnone⟩ := nodeCodes_gather
    (baseLevel (recognised tabWidth (numberedLines text))) false
    (recognised tabWidth (numberedLines text))
  rw [hnone rfl, List.map_nil, List.nil_append] at hcodes
  exact (nodeCodes_placeItems _).trans hcodes

/-- Every line that is not blank is kept or left out. -/
theorem keptNumbers_append_skips_ofText_perm :
    (keptNumbers (resultsOf tabWidth text) ++
      (ofText tabWidth tag text).skips.map Skip.index).Perm (contentNumbers text) := by
  have hskips : (ofText tabWidth tag text).skips.map Skip.index =
      (unrecognised tabWidth (numberedLines text)).map Numbered.number ++
        ((resultsOf tabWidth text).filterMap (skip? ("segment " ++ tag))).map Skip.index := by
    rw [ofText, List.map_append, List.map_map]
    rfl
  have hresults := keptNumbers_append_skips_perm ("segment " ++ tag) (resultsOf tabWidth text)
  rw [map_number_resultsOf] at hresults
  have hlines := recognised_append_unrecognised_perm tabWidth (numberedLines text)
  rw [map_number_numberedLines] at hlines
  rw [hskips]
  refine List.Perm.trans ?_ ((hresults.append_right _).trans hlines)
  rw [List.append_assoc]
  exact List.perm_append_comm.append_left _

/-- The lines that are kept are in order. -/
theorem pairwise_keptNumbers : (keptNumbers (resultsOf tabWidth text)).Pairwise (· < ·) := by
  have hknown : ((recognised tabWidth (numberedLines text)).map Numbered.number).Pairwise
      (· < ·) := by
    rw [map_number_recognised]
    have hlines := pairwise_contentNumbers text
    rw [← map_number_numberedLines] at hlines
    exact hlines.sublist (List.filter_sublist.map Numbered.number)
  rw [← map_number_resultsOf] at hknown
  exact hknown.sublist (List.filter_sublist.map Numbered.number)

/-- Every line of a detail text that is not blank is accounted for once: it becomes one item or
component, which has its code, or is left out with a record of its number. Items and components
stand in the order of their lines. -/
theorem ofText_accountsFor :
    ∃ kept, AccountsFor tabWidth tag text (ofText tabWidth tag text) kept := by
  have honce := keptNumbers_append_skips_ofText_perm tabWidth tag text
  have hcodes : List.Forall₂ (CarriesCode tabWidth text) (keptNumbers (resultsOf tabWidth text))
      (ofText tabWidth tag text).nodeCodes := by
    rw [nodeCodes_ofText]
    apply (forall₂_keptNumbers _ false (recognised tabWidth (numberedLines text))).imp
    intro number code hline
    obtain ⟨line, hmem, rfl, rfl⟩ := hline
    exact carriesCode_of_mem_recognised hmem
  have hnodup : (contentNumbers text).Nodup := (pairwise_contentNumbers text).imp Nat.ne_of_lt
  refine ⟨keptNumbers (resultsOf tabWidth text), honce, hcodes, pairwise_keptNumbers tabWidth text,
    (List.nodup_append.1 (honce.nodup_iff.2 hnodup)).2.1, fun skip => place_of_mem_skips, ?_⟩
  rw [← honce.length_eq, List.length_append, hcodes.length_eq, List.length_map]

end

end Detail

end EdiSchema
