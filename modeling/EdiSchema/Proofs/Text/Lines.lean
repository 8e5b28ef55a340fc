import Mathlib.Data.List.Basic
import EdiSchema.Proofs.Text.Blank
import EdiSchema.Text.Lines

/-!
# Lines put together

Lines are put together with a line feed after each, which the last may lack. As long as no line is
empty, holds a line feed or ends in a blank, the lines of the whole are the lines put in.
-/

namespace EdiSchema.Text

/-- Lines with a line feed after each; after the last one only if the text is closed. -/
def joinLines (closed : Bool) : List (List Char) → List Char
  | [] => []
  | [line] => line ++ if closed then ['\n'] else []
  | line :: next :: rest => line ++ '\n' :: joinLines closed (next :: rest)

/-- A line is read up to its line feed. -/
theorem linesFrom_append (line rest seen : List Char) (hline : '\n' ∉ line) :
    linesFrom (line ++ '\n' :: rest) seen =
      closeLine (line.reverse ++ seen) :: linesFrom rest [] := by
  induction line generalizing seen with
  | nil => simp [linesFrom]
  | cons c cs ih =>
    rw [List.mem_cons, not_or] at hline
    rw [List.cons_append, linesFrom, if_neg (Ne.symm hline.1), ih _ hline.2,
      List.reverse_cons, List.append_assoc, List.singleton_append]

/-- A last line needs no line feed. -/
theorem linesFrom_last (line seen : List Char) (hline : '\n' ∉ line) (hne : line ≠ []) :
    linesFrom line seen = [(line.reverse ++ seen).reverse] := by
  induction line generalizing seen with
  | nil => exact absurd rfl hne
  | cons c cs ih =>
    rw [List.mem_cons, not_or] at hline
    rw [linesFrom, if_neg (Ne.symm hline.1)]
    cases cs with
    | nil => simp [linesFrom]
    | cons d ds => rw [ih _ hline.2 (List.cons_ne_nil d ds)]; simp

/-- A line that does not end in a blank has no carriage return to lose. -/
theorem closeLine_reverse {line : List Char} (hend : EndsSolid line) :
    closeLine line.reverse = line := by
  obtain ⟨c, hc, hsolid⟩ := hend
  obtain ⟨front, rfl⟩ := List.getLast?_eq_some_iff.1 hc
  have hreturn : c ≠ '\r' := by
    rintro rfl
    exact absurd hsolid (by decide)
  rw [List.reverse_append, List.reverse_singleton, List.singleton_append, closeLine]
  · simp
  · rintro rest ⟨⟩
    exact hreturn rfl

/-- The lines put together are the lines read. -/
theorem lines_joinLines (closed : Bool) (ls : List (List Char))
    (hls : ∀ line ∈ ls, EndsSolid line ∧ '\n' ∉ line) : lines (joinLines closed ls) = ls := by
  have hclosed : ∀ line, EndsSolid line → '\n' ∉ line → ∀ rest,
      lines (line ++ '\n' :: rest) = line :: lines rest := by
    intro line hend hline rest
    rw [lines, linesFrom_append line rest [] hline, List.append_nil, closeLine_reverse hend, lines]
  fun_induction joinLines closed ls with
  | case1 => rfl
  | case2 line =>
    obtain ⟨hend, hline⟩ := hls line List.mem_cons_self
    cases closed with
    | true => exact hclosed line hend hline []
    | false =>
      have hne : line ≠ [] := by
        rintro rfl
        simp [EndsSolid] at hend
      simp [lines, linesFrom_last line [] hline hne]
  | case3 line next rest ih =>
    obtain ⟨hend, hline⟩ := hls line List.mem_cons_self
    rw [hclosed line hend hline, ih fun l hl => hls l (List.mem_cons_of_mem line hl)]

end EdiSchema.Text
