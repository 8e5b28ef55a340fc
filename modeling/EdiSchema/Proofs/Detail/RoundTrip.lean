import EdiSchema.Proofs.Detail.Reading

/-!
# Laid-out items are read back

Every line of a layout is recognised at its level, and the first line is at level zero, so levels
are counted from there. The components of a composite are the lines between its own line and the
next line at level zero, and nothing is left out.
-/

namespace EdiSchema.Detail

open Text Layout

/-- What becomes of every line, with no regard to line numbers. -/
def outcomesOf (base : ℕ) : Bool → List Line → List Outcome
  | _, [] => []
  | under, line :: rest =>
    let level := line.level - base
    outcome under level line :: outcomesOf base (isUnderComposite under level line) rest

theorem map_content_outcomes (base : ℕ) (under : Bool) (lines : List (Numbered Line)) :
    (outcomes base under lines).map (·.content) =
      outcomesOf base under (lines.map (·.content)) := by
  induction lines generalizing under with
  | nil => rfl
  | cons line rest ih => simp [outcomes, outcomesOf, ih]

theorem outcomesOf_zero_cons (under : Bool) (line : Line) (rest : List Line) :
    outcomesOf 0 under (line :: rest) =
      outcome under line.level line ::
        outcomesOf 0 (isUnderComposite under line.level line) rest :=
  rfl

namespace Layout

theorem ElementRow.level_line (level : ℕ) (row : ElementRow) : (row.line level).level = level :=
  rfl

/-- An element at level zero belongs to the segment. -/
theorem ElementRow.outcome_element (under : Bool) (row : ElementRow) :
    outcome under 0 (row.line 0) = .element row.element := by
  have hkind : (row.line 0).kind = .element := rfl
  simp only [outcome, hkind, row.element?_line, if_true]

/-- An element at a higher level belongs to the composite it is under. -/
theorem ElementRow.outcome_component {level : ℕ} (hlevel : 0 < level) (row : ElementRow) :
    outcome true level (row.line level) = .component row.element := by
  have hkind : (row.line level).kind = .element := rfl
  simp only [outcome, hkind, row.element?_line, Nat.ne_of_gt hlevel, if_false, if_true]

/-- A composite is taken up without its components. -/
theorem CompositeRow.outcome_composite (under : Bool) (row : CompositeRow) :
    outcome under row.line.level row.line =
      .composite { row.composite with components := [] } := by
  have hkind : row.line.kind = .composite := rfl
  have hlevel : row.line.level = 0 := rfl
  simp only [outcome, hkind, hlevel, if_true, row.composite_line]

namespace Row

/-- The recognised lines of an item. -/
def parsed : Row → List Line
  | .simple row => [row.line 0]
  | .composite row => row.line :: row.components.map fun c => c.row.line c.level

/-- What becomes of the lines of an item. -/
def outcomes : Row → List Outcome
  | .simple row => [.element row.element]
  | .composite row =>
    .composite { row.composite with components := [] } ::
      row.components.map fun c => .component c.row.element

/-- Every line of an item is recognised. -/
theorem map_ofText?_lines {tabWidth : ℕ} (hwidth : 1 ≤ tabWidth) (row : Row) :
    (row.lines tabWidth).map (fun line => Line.ofText? tabWidth (String.ofList line)) =
      row.parsed.map some := by
  cases row with
  | simple row =>
    have hrow := row.ofText?_chars hwidth 0
    rw [Nat.zero_mul, List.replicate_zero, List.nil_append] at hrow
    simp [lines, parsed, hrow]
  | composite row =>
    have hcomponent : ∀ c ∈ row.components,
        Line.ofText? tabWidth (String.ofList (c.chars tabWidth)) = some (c.row.line c.level) :=
      fun c _ => c.row.ofText?_chars hwidth c.level
    simpa [lines, parsed, row.ofText?_chars hwidth] using hcomponent

/-- Every line of an item ends in a character that is not blank, and holds no line feed. -/
theorem endsSolid_lines (tabWidth : ℕ) (row : Row) :
    ∀ line ∈ row.lines tabWidth, EndsSolid line ∧ '\n' ∉ line := by
  cases row with
  | simple row => simp [lines, row.endsSolid_chars, row.newline_not_mem_chars]
  | composite row =>
    have hcomponent : ∀ c ∈ row.components,
        EndsSolid (c.chars tabWidth) ∧ '\n' ∉ c.chars tabWidth := fun c _ =>
      ⟨c.row.endsSolid_chars.append _, by simp [ComponentRow.chars, c.row.newline_not_mem_chars]⟩
    simpa [lines, row.endsSolid_chars, row.newline_not_mem_chars] using hcomponent

/-- Lines under a composite are its components, whatever lines follow them. -/
theorem outcomesOf_components (components : List ComponentRow) (rest : List Line) :
    outcomesOf 0 true (components.map (fun c => c.row.line c.level) ++ rest) =
      components.map (fun c => .component c.row.element) ++ outcomesOf 0 true rest := by
  induction components with
  | nil => rfl
  | cons c cs ih =>
    have hunder : isUnderComposite true c.level (c.row.line c.level) = true :=
      if_neg (Nat.ne_of_gt c.level_pos)
    rw [List.map_cons, List.cons_append, outcomesOf_zero_cons, c.row.level_line,
      c.row.outcome_component c.level_pos, hunder, ih]
    rfl

/-- What becomes of the lines of items does not depend on what stands in front of them. -/
theorem outcomesOf_parsed (under : Bool) (rows : List Row) :
    outcomesOf 0 under (rows.flatMap parsed) = rows.flatMap outcomes := by
  induction rows generalizing under with
  | nil => rfl
  | cons row rest ih =>
    rw [List.flatMap_cons, List.flatMap_cons]
    cases row with
    | simple row =>
      rw [parsed, outcomes, List.singleton_append, List.singleton_append, outcomesOf_zero_cons,
        row.level_line, row.outcome_element, ih]
    | composite row =>
      have hunder : isUnderComposite under row.line.level row.line = true := rfl
      rw [parsed, outcomes, List.cons_append, List.cons_append, outcomesOf_zero_cons,
        row.outcome_composite, hunder, outcomesOf_components, ih]

/-- Components are gathered in front of what follows them. -/
theorem gather_components (components : List ComponentRow) (rest : List Outcome) :
    gather (components.map (fun c => .component c.row.element) ++ rest) =
      (components.map (·.row.element) ++ (gather rest).1, (gather rest).2) := by
  induction components with
  | nil => rfl
  | cons c cs ih => simp [gather, ih]

/-- Gathering what becomes of the lines gives the items. -/
theorem gather_outcomes (rows : List Row) :
    gather (rows.flatMap outcomes) = ([], rows.map item) := by
  induction rows with
  | nil => rfl
  | cons row rest ih =>
    rw [List.flatMap_cons]
    cases row with
    | simple row => simp [outcomes, gather, ih, item]
    | composite row =>
      rw [outcomes, List.cons_append, gather, gather_components, ih, List.append_nil]
      rfl

/-- None of the lines of an item is left out. -/
theorem skip?_eq_none (place : String) (rows : List Row) (outcome : Numbered Outcome)
    (houtcome : outcome.content ∈ rows.flatMap outcomes) : skip? place outcome = none := by
  obtain ⟨row, -, hrow⟩ := List.mem_flatMap.1 houtcome
  cases row with
  | simple row =>
    rw [outcomes, List.mem_singleton] at hrow
    simp [skip?, hrow]
  | composite row =>
    rw [outcomes, List.mem_cons, List.mem_map] at hrow
    rcases hrow with hrow | ⟨c, -, hrow⟩
    · simp [skip?, hrow]
    · simp [skip?, ← hrow]

/-- The level of the shallowest line of a layout is zero. -/
theorem baseLevel_eq_zero (rows : List Row) (known : List (Numbered Line))
    (hknown : known.map (·.content) = rows.flatMap parsed) : baseLevel known = 0 := by
  have hlevels : known.map (·.content.level) = (rows.flatMap parsed).map (·.level) := by
    rw [← hknown, List.map_map]
    rfl
  rw [baseLevel, hlevels]
  cases rows with
  | nil => rfl
  | cons row rest =>
    have hfirst : 0 ∈ ((row :: rest).flatMap parsed).map (·.level) := by
      cases row with
      | simple row => simp [parsed, ElementRow.line]
      | composite row => simp [parsed, CompositeRow.line]
    obtain ⟨least, hleast⟩ := Option.isSome_iff_exists.1 (List.isSome_min?_of_mem hfirst)
    have hle : least ≤ 0 := (List.min?_eq_some_iff.1 hleast).2 0 hfirst
    rw [hleast, Option.getD_some]
    omega

end Row

/-- The numbered lines of a layout are its lines. -/
theorem map_content_numberedLines (tabWidth : ℕ) (closed : Bool) (rows : List Row) :
    (numberedLines (text tabWidth closed rows)).map (·.content) =
      (rows.flatMap (·.lines tabWidth)).map String.ofList := by
  have hsolid : ∀ line ∈ rows.flatMap (·.lines tabWidth), EndsSolid line ∧ '\n' ∉ line := by
    intro line hline
    obtain ⟨row, -, hrow⟩ := List.mem_flatMap.1 hline
    exact row.endsSolid_lines tabWidth line hrow
  have hlines := lines_joinLines closed _ hsolid
  rw [numberedLines, text, String.toList_ofList, hlines, List.filter_eq_self.2]
  · exact List.ext_getElem (by simp) (by simp)
  · intro numbered hnumbered
    obtain ⟨i, hi, rfl⟩ := List.mem_mapIdx.1 hnumbered
    obtain ⟨c, hc, hblank⟩ := (hsolid _ (List.getElem_mem hi)).1
    have hmem := List.mem_of_mem_getLast? hc
    simp only [isBlankText, String.toList_ofList, Bool.not_eq_true', List.all_eq_false]
    exact ⟨c, hmem, by simp [hblank]⟩

/-- Every line of a layout is recognised. -/
theorem map_ofText?_numberedLines {tabWidth : ℕ} (hwidth : 1 ≤ tabWidth) (closed : Bool)
    (rows : List Row) :
    (numberedLines (text tabWidth closed rows)).map (Line.ofText? tabWidth ·.content) =
      (rows.flatMap Row.parsed).map some := by
  have hcontent : ∀ lines : List (Numbered String),
      lines.map (Line.ofText? tabWidth ·.content) =
        (lines.map (·.content)).map (Line.ofText? tabWidth) := fun lines => by simp
  have hchars : ∀ lines : List (List Char), (lines.map String.ofList).map (Line.ofText? tabWidth) =
      lines.map (fun line => Line.ofText? tabWidth (String.ofList line)) := fun lines => by simp
  rw [hcontent, map_content_numberedLines, hchars, List.map_flatMap, List.map_flatMap]
  simp only [Row.map_ofText?_lines hwidth]

/-- The recognised lines of a layout are the lines of its items. -/
theorem map_content_recognised {tabWidth : ℕ} (hwidth : 1 ≤ tabWidth) (closed : Bool)
    (rows : List Row) :
    (recognised tabWidth (numberedLines (text tabWidth closed rows))).map (·.content) =
      rows.flatMap Row.parsed := by
  have hcontent : ∀ line : Numbered String,
      ((Line.ofText? tabWidth line.content).map (⟨line.number, ·⟩ : Line → Numbered Line)).map
        (·.content) = Line.ofText? tabWidth line.content := by
    intro line
    cases Line.ofText? tabWidth line.content <;> rfl
  have hknown := congrArg (·.filterMap id) (map_ofText?_numberedLines hwidth closed rows)
  simp only [List.filterMap_map, Function.comp_def, id_eq, List.filterMap_some]
    at hknown
  rw [recognised, List.map_filterMap]
  simpa only [hcontent] using hknown

/-- A layout has no line that is not recognised. -/
theorem unrecognised_eq_nil {tabWidth : ℕ} (hwidth : 1 ≤ tabWidth) (closed : Bool)
    (rows : List Row) :
    unrecognised tabWidth (numberedLines (text tabWidth closed rows)) = [] := by
  rw [unrecognised, List.filter_eq_nil_iff]
  intro line hline
  have hmem : Line.ofText? tabWidth line.content ∈ (rows.flatMap Row.parsed).map some := by
    rw [← map_ofText?_numberedLines hwidth closed rows]
    exact List.mem_map_of_mem hline
  obtain ⟨parsed, -, hparsed⟩ := List.mem_map.1 hmem
  simp [← hparsed]

end Layout

/-- The detail text of any items is read back as exactly these items, in order and with their
components, and no line is left out. -/
theorem ofText_text {tabWidth : ℕ} (hwidth : 1 ≤ tabWidth) (tag : String) (closed : Bool)
    (rows : List Row) :
    ofText tabWidth tag (text tabWidth closed rows) =
      { items := placeItems (rows.map Row.item), skips := [] } := by
  have hknown := map_content_recognised hwidth closed rows
  have houtcomes :
      (outcomes 0 false (recognised tabWidth (numberedLines (text tabWidth closed rows)))).map
        (·.content) = rows.flatMap Row.outcomes := by
    rw [map_content_outcomes, hknown, Row.outcomesOf_parsed]
  have hskips : ∀ place,
      (outcomes 0 false (recognised tabWidth (numberedLines (text tabWidth closed rows)))).filterMap
        (skip? place) = [] := by
    intro place
    rw [List.filterMap_eq_nil_iff]
    intro outcome houtcome
    refine Row.skip?_eq_none place rows outcome ?_
    rw [← houtcomes]
    exact List.mem_map_of_mem houtcome
  simp only [ofText, Row.baseLevel_eq_zero rows _ hknown, houtcomes, Row.gather_outcomes,
    unrecognised_eq_nil hwidth, hskips, List.map_nil, List.nil_append]

/-- A composite and an element whose names read like flags, counts and formats. -/
def lookalikes : List Row :=
  [.composite {
      letter := 'C', digits := "002"
      label := {
        name := "M 5 an..3 C", requirement := .conditional, count := some 12
        nameGap := 0, flagGap := 2, countGap := 0
        name_ne_empty := by decide, trimmed_name := by decide, newline_not_mem := by decide }
      components := [{
        level := 2
        row := {
          code := "1001"
          label := {
            name := "1131 C 7", requirement := .mandatory, count := none
            nameGap := 0, flagGap := 0, countGap := 0
            name_ne_empty := by decide, trimmed_name := by decide, newline_not_mem := by decide }
          token := {
            letters := "an", lengths := .between 2 35
            letters_ne_empty := by decide
            isLower_letters := List.all_eq_true.1 (by decide) }
          tokenGap := 0, length_code := by decide
          isDigit_code := List.all_eq_true.1 (by decide) }
        level_pos := by decide }]
      letter_eq := by decide, length_digits := by decide
      isDigit_digits := List.all_eq_true.1 (by decide) },
    .simple {
      code := "1225"
      label := {
        name := "M", requirement := .mandatory, count := some 1
        nameGap := 1, flagGap := 0, countGap := 0
        name_ne_empty := by decide, trimmed_name := by decide, newline_not_mem := by decide }
      token := {
        letters := "n", lengths := .plain 3
        letters_ne_empty := by decide
        isLower_letters := List.all_eq_true.1 (by decide) }
      tokenGap := 0, length_code := by decide
      isDigit_code := List.all_eq_true.1 (by decide) }]

/-- Names that read like later columns are read back as names. -/
theorem ofText_text_lookalikes :
    1 ≤ 3 ∧
    text 3 true lookalikes =
      "C002 M 5 an..3 C   C 12\n      1001 1131 C 7 M an2..35\n1225  M M 1 n3\n" ∧
    ofText 3 "BGM" (text 3 true lookalikes) =
      { items := placeItems (lookalikes.map Row.item), skips := [] } :=
  ⟨by decide, by decide +kernel, ofText_text (by decide) "BGM" true lookalikes⟩

end EdiSchema.Detail
