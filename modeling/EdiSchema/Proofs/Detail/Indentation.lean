import Mathlib.Order.Bounds.Basic
import EdiSchema.Proofs.Detail.Nesting
import EdiSchema.Proofs.Detail.Reading
import EdiSchema.Proofs.Text.LineEdit

/-!
# Indenting a whole text

Levels are widths divided by the tab width, and levels are compared only with the least of them. So
a margin in front of every line changes nothing as soon as it raises all levels by the same amount:
if it is a number of whole levels, or if the widths of the lines leave the same rest.

Other margins can carry some lines over to the next level and leave others behind. So does a margin
that makes the width of a line overflow.
-/

namespace EdiSchema.Detail

open Text

/-- A text with a number of spaces in front of every line. -/
def indented (n : ℕ) (text : String) : String :=
  String.ofList (indent n text.toList)

section Lines

variable (n : ℕ)

/-- A line with a number of spaces in front. -/
def indentedLine (line : Numbered String) : Numbered String :=
  ⟨line.number, String.ofList (List.replicate n ' ' ++ line.content.toList)⟩

/-- Spaces in front of a line make no difference to whether it is blank. -/
theorem all_isBlank_spaces_append (cs : List Char) :
    (List.replicate n ' ' ++ cs).all isBlank = cs.all isBlank := by
  rw [List.all_append, List.all_eq_true.2 (isBlank_of_mem_spaces n), Bool.true_and]

/-- The lines of an indented text have the same numbers. -/
theorem numberedLines_indented (text : String) :
    numberedLines (indented n text) = (numberedLines text).map (indentedLine n) := by
  rw [numberedLines_eq_map, numberedLines_eq_map, indented, String.toList_ofList, lines_indent,
    List.zipIdx_map, List.filter_map, List.map_map, List.map_map]
  simp only [Function.comp_def, Prod.map_fst, Prod.map_snd, all_isBlank_spaces_append,
    indentedLine, String.toList_ofList, id_eq]

end Lines

section Levels

variable {tabWidth n k : ℕ}

/-- A line at a level raised by a number. -/
def raised (k : ℕ) (line : Numbered Line) : Numbered Line :=
  ⟨line.number, { line.content with level := line.content.level + k }⟩

/-- Raising all levels and the base changes no outcome. -/
theorem outcomes_raised (k base : ℕ) (under : Bool) (lines : List (Numbered Line)) :
    outcomes (base + k) under (lines.map (raised k)) = outcomes base under lines := by
  induction lines generalizing under with
  | nil => rfl
  | cons line rest ih =>
    have hlevel : line.content.level + k - (base + k) = line.content.level - base :=
      Nat.add_sub_add_right _ _ _
    simp only [List.map_cons, outcomes, raised, hlevel]
    rw [ih]
    rfl

/-- Raising all levels raises the least of them. -/
theorem baseLevel_raised (k : ℕ) {lines : List (Numbered Line)} (hlines : lines ≠ []) :
    baseLevel (lines.map (raised k)) = baseLevel lines + k := by
  obtain ⟨⟨first, hfirst, hlevel⟩, hleast⟩ := isLeast_baseLevel hlines
  refine (isLeast_baseLevel (by simpa using hlines)).unique ⟨?_, ?_⟩
  · exact ⟨raised k first, List.mem_map_of_mem hfirst, congrArg (· + k) hlevel⟩
  · rintro level ⟨line, hline, rfl⟩
    obtain ⟨original, horiginal, rfl⟩ := List.mem_map.1 hline
    exact Nat.add_le_add_right (hleast ⟨original, horiginal, rfl⟩) k

/-- Raising all levels of the recognised lines of a text changes no outcome. -/
theorem outcomes_baseLevel_raised (k : ℕ) (lines : List (Numbered Line)) :
    outcomes (baseLevel (lines.map (raised k))) false (lines.map (raised k)) =
      outcomes (baseLevel lines) false lines := by
  rcases eq_or_ne lines [] with rfl | hlines
  · rfl
  · rw [baseLevel_raised k hlines, outcomes_raised]

end Levels

section Recognition

variable {tabWidth n : ℕ}

/-- Blanks in front of a text are lost when it is trimmed. -/
theorem trim_spaces_append (n : ℕ) (cs : List Char) :
    trim (List.replicate n ' ' ++ cs) = trim cs := by
  rw [trim, trimStart, List.dropWhile_append_of_pos (isBlank_of_mem_spaces n)]
  rfl

/-- An indented line is recognised with its new level. -/
theorem Line.ofText?_indented (tabWidth n : ℕ) (line : Numbered String) :
    Line.ofText? tabWidth (indentedLine n line).content =
      (Line.ofText? tabWidth line.content).map fun parsed => { parsed with
        level := leadingWidth (max tabWidth 1) (List.replicate n ' ' ++ line.content.toList) /
          max tabWidth 1 } := by
  simp only [Line.ofText?, indentedLine, String.toList_ofList, trim_spaces_append]
  split
  · rfl
  · split <;> rfl

/-- The level of a recognised line is its width in whole tabs. -/
theorem Line.level_of_ofText? {text : String} {parsed : Line}
    (hparsed : Line.ofText? tabWidth text = some parsed) :
    parsed.level = leadingWidth (max tabWidth 1) text.toList / max tabWidth 1 := by
  unfold Line.ofText? at hparsed
  dsimp only at hparsed
  split at hparsed
  · simp at hparsed
  · split at hparsed
    · simp at hparsed
    · exact Option.some.inj hparsed ▸ rfl

/-- The lines that are recognised in a text are recognised in an indented one, at the levels that
they have there. -/
theorem recognised_indented {k : ℕ} (lines : List (Numbered String))
    (hraise : ∀ line ∈ lines, (Line.ofText? tabWidth line.content).isSome →
      leadingWidth (max tabWidth 1) (List.replicate n ' ' ++ line.content.toList) / max tabWidth 1 =
        leadingWidth (max tabWidth 1) line.content.toList / max tabWidth 1 + k) :
    recognised tabWidth (lines.map (indentedLine n)) =
      (recognised tabWidth lines).map (raised k) := by
  rw [recognised, recognised, List.filterMap_map, List.map_filterMap]
  apply List.filterMap_congr
  intro line hline
  rw [Function.comp_apply, Line.ofText?_indented]
  cases hparsed : Line.ofText? tabWidth line.content with
  | none => rfl
  | some parsed =>
    have hlevel : leadingWidth (max tabWidth 1) (List.replicate n ' ' ++ line.content.toList) /
        max tabWidth 1 = parsed.level + k := by
      rw [hraise line hline (by rw [hparsed]; rfl), Line.level_of_ofText? hparsed]
    simp only [Option.map_some, hlevel]
    rfl

/-- The lines that are not recognised in a text are not recognised in an indented one, and recorded
as before. -/
theorem unrecognised_indented (place : String) (lines : List (Numbered String)) :
    (unrecognised tabWidth (lines.map (indentedLine n))).map (unrecognisedSkip place) =
      (unrecognised tabWidth lines).map (unrecognisedSkip place) := by
  rw [unrecognised, unrecognised, List.filter_map, List.map_map]
  simp only [Function.comp_def, Line.ofText?_indented, Option.isNone_map]
  apply List.map_congr_left
  intro line _
  simp [unrecognisedSkip, indentedLine, trimmed, trim_spaces_append]

/-- A margin raises all levels by the same number if it is a number of whole levels, or if all
widths leave the same rest. -/
theorem exists_raise {width : ℕ} (hwidth : 0 < width) {widths : Set ℕ}
    (hmargin : width ∣ n ∨ ∃ rest, ∀ w ∈ widths, w % width = rest) :
    ∃ k, ∀ w ∈ widths, (n + w) / width = w / width + k := by
  rcases hmargin with ⟨k, rfl⟩ | ⟨rest, hrest⟩
  · exact ⟨k, fun w _ => by rw [Nat.mul_add_div hwidth, Nat.add_comm]⟩
  · refine ⟨(n + rest) / width, fun w hw => ?_⟩
    calc (n + w) / width
      _ = (width * (w / width) + (n + rest)) / width := by
          have hw' := Nat.div_add_mod w width
          rw [hrest w hw] at hw'
          congr 1
          omega
      _ = w / width + (n + rest) / width := Nat.mul_add_div hwidth _ _

end Recognition

/-- A numbered line of a text is one of its lines. -/
theorem mem_lines_of_mem_numberedLines {text : String} {line : Numbered String}
    (hline : line ∈ numberedLines text) :
    ∃ cs ∈ lines text.toList, line.content = String.ofList cs := by
  rw [numberedLines_eq_map] at hline
  obtain ⟨⟨cs, number⟩, hmem, rfl⟩ := List.mem_map.1 hline
  exact ⟨cs, List.fst_mem_of_mem_zipIdx (List.mem_filter.1 hmem).1, rfl⟩

/-- Indenting all lines of a text changes nothing in what is read from it, if the margin is a number
of whole levels or the widths of the recognised lines leave the same rest, and none of these widths
overflows. -/
theorem ofText_indented {tabWidth n : ℕ} {text : String}
    (hmargin : max tabWidth 1 ∣ n ∨ ∃ rest, ∀ line ∈ lines text.toList,
      (Line.ofText? tabWidth (String.ofList line)).isSome →
        leadingWidth (max tabWidth 1) line % max tabWidth 1 = rest)
    (hfits : ∀ line ∈ lines text.toList, (Line.ofText? tabWidth (String.ofList line)).isSome →
      n + blankWidth (max tabWidth 1) line < wordSize) (tag : String) :
    ofText tabWidth tag (indented n text) = ofText tabWidth tag text := by
  let widths : Set ℕ := {w | ∃ line ∈ lines text.toList,
    (Line.ofText? tabWidth (String.ofList line)).isSome ∧
      leadingWidth (max tabWidth 1) line = w}
  have hwidths : max tabWidth 1 ∣ n ∨ ∃ rest, ∀ w ∈ widths, w % max tabWidth 1 = rest := by
    refine hmargin.imp_right fun hrest => ?_
    obtain ⟨rest, hrest⟩ := hrest
    refine ⟨rest, ?_⟩
    rintro w ⟨line, hline, hknown, rfl⟩
    exact hrest line hline hknown
  obtain ⟨k, hk⟩ := exists_raise (Nat.lt_of_lt_of_le Nat.zero_lt_one (Nat.le_max_right _ _)) hwidths
  have hknown : recognised tabWidth (numberedLines (indented n text)) =
      (recognised tabWidth (numberedLines text)).map (raised k) := by
    rw [numberedLines_indented]
    refine recognised_indented _ fun line hline hsome => ?_
    obtain ⟨cs, hcs, hcontent⟩ := mem_lines_of_mem_numberedLines hline
    rw [hcontent] at hsome
    have hsum := hfits cs hcs hsome
    rw [hcontent, String.toList_ofList, leadingWidth_of_lt (by rwa [blankWidth_append_spaces]),
      blankWidth_append_spaces, ← leadingWidth_of_lt (Nat.lt_of_le_of_lt (Nat.le_add_left _ n) hsum)]
    exact hk _ ⟨cs, hcs, hsome, rfl⟩
  have hunknown : (unrecognised tabWidth (numberedLines (indented n text))).map
        (unrecognisedSkip ("segment " ++ tag)) =
      (unrecognised tabWidth (numberedLines text)).map (unrecognisedSkip ("segment " ++ tag)) := by
    rw [numberedLines_indented, unrecognised_indented]
  simp only [ofText, hknown, hunknown, outcomes_baseLevel_raised]

/-- Lines of the widths one and four, one of them with a tab, are moved by two spaces. This is no
number of whole levels, but all widths leave the rest one. -/
theorem ofText_indented_uneven :
    let text := "note\n 1001 stray\r\n C002 A C\n\t 1004 B M 1 an..35\n\n    1000 D C n3"
    (max 3 1 ∣ 2 ∨ ∃ rest, ∀ line ∈ lines text.toList,
      (Line.ofText? 3 (String.ofList line)).isSome →
        leadingWidth (max 3 1) line % max 3 1 = rest) ∧
    (∀ line ∈ lines text.toList, (Line.ofText? 3 (String.ofList line)).isSome →
      2 + blankWidth (max 3 1) line < wordSize) ∧
    indented 2 text =
      "  note\n   1001 stray\r\n   C002 A C\n  \t 1004 B M 1 an..35\n  \n      1000 D C n3" ∧
    (ofText 3 "BGM" text).nodeCodes = ["C002", "1004", "1000"] ∧
    ofText 3 "BGM" (indented 2 text) = ofText 3 "BGM" text := by
  intro text
  have hmargin : max 3 1 ∣ 2 ∨ ∃ rest, ∀ line ∈ lines text.toList,
      (Line.ofText? 3 (String.ofList line)).isSome →
        leadingWidth (max 3 1) line % max 3 1 = rest := .inr ⟨1, by decide +kernel⟩
  have hfits : ∀ line ∈ lines text.toList, (Line.ofText? 3 (String.ofList line)).isSome →
      2 + blankWidth (max 3 1) line < wordSize := by decide +kernel
  exact ⟨hmargin, hfits, by decide +kernel, by decide +kernel, ofText_indented hmargin hfits "BGM"⟩

/-- A tab as wide as a word can say makes a level, and the composite behind it is left out as nested.
With a space in front the width overflows to zero, and the composite is at the base. -/
theorem ofText_indented_overflow :
    let tabWidth := 18446744073709551615
    let text := "\tC002 A M 1\n1004 B M an3"
    (∀ line ∈ lines text.toList, leadingWidth (max tabWidth 1) line % max tabWidth 1 = 0) ∧
    indented 1 text = " \tC002 A M 1\n 1004 B M an3" ∧
    (ofText tabWidth "BGM" text).nodeCodes = ["1004"] ∧
    (ofText tabWidth "BGM" (indented 1 text)).nodeCodes = ["C002", "1004"] ∧
    ofText tabWidth "BGM" (indented 1 text) ≠ ofText tabWidth "BGM" text := by
  decide +kernel

/-- A single space carries the second line over to the next level, and leaves the first behind. -/
example :
    let text := "C002 A C\n  1004 B M 1 an..35"
    (ofText 3 "BGM" text).items.length = 2 ∧
      (ofText 3 "BGM" (indented 1 text)).items.length = 1 := by
  decide +kernel

end EdiSchema.Detail
