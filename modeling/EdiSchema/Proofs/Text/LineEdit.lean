import Mathlib.Data.List.Basic
import EdiSchema.Proofs.Text.Lines

/-!
# Texts with a line changed

A line is taken out of a text together with its line feed, and all lines of a text are indented by
spaces put in front of each. The lines of the text change in the same way, and those that are
neither taken out nor indented stay as they are.
-/

namespace EdiSchema.Text

section Erasing

/-- What follows the first line of a text. -/
def dropLine : List Char → List Char
  | [] => []
  | c :: cs => if c = '\n' then cs else dropLine cs

/-- The text without the line at an index. -/
def eraseLine : ℕ → List Char → List Char
  | 0, cs => dropLine cs
  | _ + 1, [] => []
  | i + 1, c :: cs => if c = '\n' then c :: eraseLine i cs else c :: eraseLine (i + 1) cs

/-- Without its first line a text has the other lines. -/
theorem lines_dropLine (cs line : List Char) : lines (dropLine cs) = (linesFrom cs line).tail := by
  induction cs generalizing line with
  | nil => cases line <;> rfl
  | cons c cs ih =>
    by_cases hc : c = '\n'
    · simp [dropLine, linesFrom, hc, lines]
    · rw [dropLine, if_neg hc, linesFrom, if_neg hc, ih]

/-- A line is taken out of a text in progress. -/
theorem linesFrom_eraseLine (i : ℕ) (cs line : List Char) :
    linesFrom (eraseLine (i + 1) cs) line = (linesFrom cs line).eraseIdx (i + 1) := by
  induction cs generalizing i line with
  | nil => cases line <;> simp [eraseLine, linesFrom]
  | cons c cs ih =>
    by_cases hc : c = '\n'
    · rw [eraseLine, if_pos hc, linesFrom, if_pos hc, linesFrom, if_pos hc, List.eraseIdx_cons_succ]
      cases i with
      | zero => rw [eraseLine, List.eraseIdx_zero, ← lines_dropLine cs [], lines]
      | succ i => rw [ih]
    · rw [eraseLine, if_neg hc, linesFrom, if_neg hc, linesFrom, if_neg hc, ih]

/-- Taking a line out of a text takes it out of its lines. -/
theorem lines_eraseLine (i : ℕ) (cs : List Char) :
    lines (eraseLine i cs) = (lines cs).eraseIdx i := by
  cases i with
  | zero => rw [eraseLine, lines_dropLine cs [], List.eraseIdx_zero, lines]
  | succ i => exact linesFrom_eraseLine i cs []

/-- Without the entry at an index a list has those with another index. -/
theorem eraseIdx_eq_filter {α : Type*} (xs : List α) (i k : ℕ) :
    xs.eraseIdx i = ((xs.zipIdx k).filter fun x => x.2 ≠ i + k).map Prod.fst := by
  induction xs generalizing i k with
  | nil => rfl
  | cons x xs ih =>
    rw [List.zipIdx_cons]
    cases i with
    | zero =>
      have hrest : (xs.zipIdx (k + 1)).filter (fun x => x.2 ≠ 0 + k) = xs.zipIdx (k + 1) := by
        rw [List.filter_eq_self]
        intro y hy
        have hle := List.le_snd_of_mem_zipIdx hy
        simp only [ne_eq, decide_eq_true_eq]
        omega
      rw [List.filter_cons_of_neg (by simp), hrest, List.zipIdx_map_fst, List.eraseIdx_zero,
        List.tail_cons]
    | succ i =>
      have hindex : i + 1 + k = i + (k + 1) := by omega
      rw [List.filter_cons_of_pos (by simp), List.map_cons, List.eraseIdx_cons_succ,
        ih i (k + 1), hindex]

/-- The lines of a text without one are those with another number. -/
theorem lines_eraseLine_eq_filter (i : ℕ) (cs : List Char) :
    lines (eraseLine i cs) =
      (((lines cs).zipIdx 1).filter fun line => line.2 ≠ i + 1).map Prod.fst := by
  rw [lines_eraseLine, eraseIdx_eq_filter]

end Erasing

section Indenting

/-- A text with a margin in front of every line but the first. -/
def indentRest (margin : List Char) : List Char → List Char
  | [] => []
  | [c] => [c]
  | c :: d :: cs =>
    if c = '\n' then c :: (margin ++ indentRest margin (d :: cs))
    else c :: indentRest margin (d :: cs)

/-- A text with a number of spaces in front of every line. -/
def indent (n : ℕ) : List Char → List Char
  | [] => []
  | cs => List.replicate n ' ' ++ indentRest (List.replicate n ' ') cs

/-- Characters that end no line are read onto the line in progress. -/
theorem linesFrom_append_line {front : List Char} (hfront : '\n' ∉ front) (cs line : List Char) :
    linesFrom (front ++ cs) line = linesFrom cs (front.reverse ++ line) := by
  induction front generalizing line with
  | nil => rfl
  | cons c front ih =>
    rw [List.mem_cons, not_or] at hfront
    rw [List.cons_append, linesFrom, if_neg (Ne.symm hfront.1), ih hfront.2, List.reverse_cons,
      List.append_assoc]
    rfl

variable (n : ℕ)

/-- A line loses the carriage return at its end, and no other character. -/
theorem closeLine_cons (c : Char) (line : List Char) :
    closeLine (c :: line) = if c = '\r' then line.reverse else (c :: line).reverse := by
  split
  · next hc => rw [hc, closeLine]
  · next hc =>
    rw [closeLine]
    rintro rest ⟨⟩
    exact hc rfl

/-- Spaces in front of a line are not lost at its end. -/
theorem closeLine_append_spaces (line : List Char) :
    closeLine (line ++ List.replicate n ' ') = List.replicate n ' ' ++ closeLine line := by
  cases line with
  | nil =>
    cases n with
    | zero => rfl
    | succ n =>
      calc closeLine (List.replicate (n + 1) ' ')
        _ = (List.replicate (n + 1) ' ').reverse := by
            rw [List.replicate_succ, closeLine_cons, if_neg (by decide)]
        _ = List.replicate (n + 1) ' ' ++ [] := by rw [List.reverse_replicate, List.append_nil]
  | cons c line =>
    rw [List.cons_append, closeLine_cons, closeLine_cons]
    split <;> simp

/-- A text with indented lines has its lines indented. -/
theorem linesFrom_indentRest {cs : List Char} (hcs : cs ≠ []) (line : List Char) :
    linesFrom (indentRest (List.replicate n ' ') cs) (line ++ List.replicate n ' ') =
      (linesFrom cs line).map (List.replicate n ' ' ++ ·) := by
  have hspaces : '\n' ∉ List.replicate n ' ' := fun h => by simpa using List.eq_of_mem_replicate h
  fun_induction indentRest (List.replicate n ' ') cs generalizing line with
  | case1 => exact absurd rfl hcs
  | case2 c =>
    by_cases hc : c = '\n'
    · simp [linesFrom, hc, closeLine_append_spaces]
    · simp [linesFrom, hc]
  | case3 d cs ih =>
    have hnext := ih (List.cons_ne_nil d cs) []
    rw [linesFrom, if_pos rfl, linesFrom_append_line hspaces, List.reverse_replicate,
      List.append_nil, closeLine_append_spaces, linesFrom, if_pos rfl, List.map_cons, ← hnext,
      List.nil_append]
  | case4 c d cs hc ih =>
    have hnext := ih (List.cons_ne_nil d cs) (c :: line)
    rw [linesFrom, if_neg hc, ← List.cons_append, hnext]
    conv_rhs => rw [linesFrom, if_neg hc]

/-- Indenting a text indents its lines. -/
theorem lines_indent (cs : List Char) :
    lines (indent n cs) = (lines cs).map (List.replicate n ' ' ++ ·) := by
  have hspaces : '\n' ∉ List.replicate n ' ' := fun h => by simpa using List.eq_of_mem_replicate h
  cases cs with
  | nil => rfl
  | cons c cs =>
    have hrest := linesFrom_indentRest n (List.cons_ne_nil c cs) []
    rw [lines, indent, linesFrom_append_line hspaces, List.reverse_replicate, List.append_nil,
      lines, ← hrest, List.nil_append]
    simp

end Indenting

end EdiSchema.Text
