import Mathlib.Data.List.Basic
import Mathlib.Data.List.TakeDrop
import EdiSchema.Text.Blank

/-!
# Texts and the blanks around them

A text is solid at an end if the character there is not blank. Trimming takes off what is blank
around such a text and nothing else, and words are cut where blanks follow them.
-/

namespace EdiSchema.Text

/-- Whether a text starts with a character that is not blank. -/
def StartsSolid (cs : List Char) : Prop :=
  ∃ c ∈ cs.head?, isBlank c = false

/-- Whether a text ends with a character that is not blank. -/
def EndsSolid (cs : List Char) : Prop :=
  ∃ c ∈ cs.getLast?, isBlank c = false

theorem StartsSolid.append {cs : List Char} (hcs : StartsSolid cs) (ds : List Char) :
    StartsSolid (cs ++ ds) := by
  obtain ⟨c, hc, hblank⟩ := hcs
  exact ⟨c, List.mem_head?_append_of_mem_head? hc, hblank⟩

theorem EndsSolid.append {ds : List Char} (hds : EndsSolid ds) (cs : List Char) :
    EndsSolid (cs ++ ds) := by
  obtain ⟨c, hc, hblank⟩ := hds
  exact ⟨c, List.mem_getLast?_append_of_mem_getLast? hc, hblank⟩

/-- Turning a text around exchanges its ends. -/
theorem EndsSolid.reverse {cs : List Char} (hcs : EndsSolid cs) : StartsSolid cs.reverse := by
  obtain ⟨c, hc, hblank⟩ := hcs
  exact ⟨c, by rwa [List.head?_reverse], hblank⟩

/-- A text without blanks at all is solid at its start. -/
theorem startsSolid_of_not_isBlank {cs : List Char} (hne : cs ≠ [])
    (hcs : ∀ c ∈ cs, isBlank c = false) : StartsSolid cs := by
  obtain ⟨c, rest, rfl⟩ := List.exists_cons_of_ne_nil hne
  exact ⟨c, rfl, hcs c List.mem_cons_self⟩

/-- A text without blanks at all is solid at its end. -/
theorem endsSolid_of_not_isBlank {cs : List Char} (hne : cs ≠ [])
    (hcs : ∀ c ∈ cs, isBlank c = false) : EndsSolid cs :=
  ⟨cs.getLast hne, List.getLast?_eq_some_getLast hne, hcs _ (List.getLast_mem hne)⟩

/-- A solid text is where the blanks in front of it end. -/
theorem dropWhile_isBlank_append {blanks cs : List Char} (hblanks : ∀ c ∈ blanks, isBlank c = true)
    (hcs : StartsSolid cs) : (blanks ++ cs).dropWhile isBlank = cs := by
  obtain ⟨c, hc, hsolid⟩ := hcs
  obtain ⟨rest, rfl⟩ := List.head?_eq_some_iff.1 hc
  rw [List.dropWhile_append_of_pos hblanks, List.dropWhile_cons_of_neg (by simp [hsolid])]

/-- Trimming takes off the blanks in front of a text that is solid at both ends. -/
theorem trim_append {blanks cs : List Char} (hblanks : ∀ c ∈ blanks, isBlank c = true)
    (hstart : StartsSolid cs) (hend : EndsSolid cs) : trim (blanks ++ cs) = cs := by
  have hreverse : cs.reverse.dropWhile isBlank = cs.reverse :=
    dropWhile_isBlank_append (List.forall_mem_nil _) hend.reverse
  rw [trim, trimStart, dropWhile_isBlank_append hblanks hstart, trimEnd, hreverse,
    List.reverse_reverse]

/-- What trimming leaves is solid at its end. -/
theorem endsSolid_trimEnd {cs : List Char} (hne : trimEnd cs ≠ []) : EndsSolid (trimEnd cs) := by
  have hne' : cs.reverse.dropWhile isBlank ≠ [] := by simpa [trimEnd] using hne
  refine ⟨(cs.reverse.dropWhile isBlank).head hne', ?_, ?_⟩
  · rw [trimEnd, List.getLast?_reverse]
    exact List.head?_eq_some_head hne'
  · simpa using List.head_dropWhile_not isBlank hne'

/-- What trimming leaves is solid at its start. -/
theorem startsSolid_trim {cs : List Char} (hne : trim cs ≠ []) : StartsSolid (trim cs) := by
  have hprefix : trim cs <+: trimStart cs := by
    rw [← List.reverse_suffix, trim, trimEnd, List.reverse_reverse]
    exact List.dropWhile_suffix isBlank
  obtain ⟨c, rest, hcs⟩ := List.exists_cons_of_ne_nil hne
  rw [hcs] at hprefix ⊢
  obtain ⟨others, hothers⟩ := hprefix
  have hsolid := List.head?_dropWhile_not isBlank cs
  rw [← trimStart, ← hothers] at hsolid
  exact ⟨c, rfl, hsolid⟩

/-- A text that loses nothing when it is trimmed is solid at its start. -/
theorem startsSolid_of_trim {cs : List Char} (htrim : trim cs = cs) (hne : cs ≠ []) :
    StartsSolid cs := by
  rw [← htrim] at hne ⊢
  exact startsSolid_trim hne

/-- A text that loses nothing when it is trimmed is solid at its end. -/
theorem endsSolid_of_trim {cs : List Char} (htrim : trim cs = cs) (hne : cs ≠ []) :
    EndsSolid cs := by
  rw [← htrim] at hne ⊢
  exact endsSolid_trimEnd hne

/-- A text without blanks at all loses nothing when it is trimmed. -/
theorem trim_of_not_isBlank {cs : List Char} (hcs : ∀ c ∈ cs, isBlank c = false) :
    trim cs = cs := by
  have hdrop : ∀ ds : List Char, (∀ c ∈ ds, isBlank c = false) → ds.dropWhile isBlank = ds := by
    intro ds hds
    cases ds with
    | nil => rfl
    | cons c rest => simp [hds c List.mem_cons_self]
  rw [trim, trimStart, hdrop cs hcs, trimEnd,
    hdrop cs.reverse fun c hc => hcs c (List.mem_reverse.1 hc), List.reverse_reverse]

/-- A text without blanks is a single word. -/
theorem wordsFrom_of_not_isBlank {cs : List Char} (hcs : ∀ c ∈ cs, isBlank c = false)
    {word : List Char} (hne : word.reverse ++ cs ≠ []) :
    wordsFrom cs word = [word.reverse ++ cs] := by
  induction cs generalizing word with
  | nil =>
    cases word with
    | nil => simp at hne
    | cons c word => simp [wordsFrom]
  | cons c cs ih =>
    obtain ⟨hc, hcs⟩ := List.forall_mem_cons.1 hcs
    rw [wordsFrom, hc, if_neg Bool.false_ne_true, ih hcs (by simp), List.reverse_cons,
      List.append_assoc]
    rfl

/-- Joining the words of a text without blanks changes nothing. -/
theorem collapse_of_not_isBlank {cs : List Char} (hcs : ∀ c ∈ cs, isBlank c = false)
    (hne : cs ≠ []) : collapse cs = cs := by
  rw [collapse, words, wordsFrom_of_not_isBlank hcs (by simpa using hne)]
  exact List.append_nil cs

/-- Blanks at the end of a text end no word. -/
theorem wordsFrom_append_blanks {blanks : List Char} (hblanks : ∀ c ∈ blanks, isBlank c = true)
    (cs word : List Char) : wordsFrom (cs ++ blanks) word = wordsFrom cs word := by
  induction cs generalizing word with
  | cons c cs ih => simp only [List.cons_append, wordsFrom, ih]
  | nil =>
    induction blanks generalizing word with
    | nil => rfl
    | cons b blanks ih =>
      obtain ⟨hb, hblanks⟩ := List.forall_mem_cons.1 hblanks
      have hnone : wordsFrom blanks [] = [] := ih hblanks []
      cases word with
      | nil => simp [wordsFrom, hb, hnone]
      | cons c word => simp [wordsFrom, hb, hnone]

/-- Blanks in front of a text start no word. -/
theorem words_blanks_append {blanks : List Char} (hblanks : ∀ c ∈ blanks, isBlank c = true)
    (cs : List Char) : words (blanks ++ cs) = words cs := by
  induction blanks with
  | nil => rfl
  | cons b blanks ih =>
    obtain ⟨hb, hblanks⟩ := List.forall_mem_cons.1 hblanks
    rw [← ih hblanks, words, List.cons_append, wordsFrom, if_pos hb]
    rfl

/-- The blanks at the ends of a text, together. -/
def margins (cs : List Char) : List Char :=
  cs.takeWhile isBlank ++ ((trimStart cs).reverse.takeWhile isBlank).reverse

/-- Trimming takes off blanks at both ends of a text. -/
theorem exists_blanks_trim (cs : List Char) :
    ∃ front back, cs = front ++ trim cs ++ back ∧ margins cs = front ++ back ∧
      (∀ c ∈ front, isBlank c = true) ∧ ∀ c ∈ back, isBlank c = true := by
  refine ⟨cs.takeWhile isBlank, ((trimStart cs).reverse.takeWhile isBlank).reverse, ?_, rfl, ?_, ?_⟩
  · rw [List.append_assoc, trim, trimEnd, ← List.reverse_append, List.takeWhile_append_dropWhile,
      List.reverse_reverse, trimStart, List.takeWhile_append_dropWhile]
  · exact List.all_eq_true.1 List.all_takeWhile
  · exact fun c hc => List.all_eq_true.1 List.all_takeWhile c (List.mem_reverse.1 hc)

/-- Trimming changes no words. -/
theorem words_trim (cs : List Char) : words (trim cs) = words cs := by
  obtain ⟨front, back, hcs, -, hfront, hback⟩ := exists_blanks_trim cs
  conv_rhs => rw [hcs]
  rw [List.append_assoc, words_blanks_append hfront, words, words, wordsFrom_append_blanks hback]

/-- A text is cut behind the characters that are asked for. -/
theorem span_append {p : Char → Bool} {front rest : List Char} (hfront : ∀ c ∈ front, p c = true)
    (hrest : ∀ c ∈ rest.head?, p c = false) : (front ++ rest).span p = (front, rest) := by
  rw [List.span_eq_takeWhile_dropWhile, List.takeWhile_append_of_pos hfront,
    List.dropWhile_append_of_pos hfront]
  cases rest with
  | nil => simp
  | cons c cs => simp [hrest c rfl]

/-- What is cut off and what is left are the whole. -/
theorem span_fst_append_snd {α : Type} (p : α → Bool) (cs : List α) :
    (cs.span p).1 ++ (cs.span p).2 = cs := by
  rw [List.span_eq_takeWhile_dropWhile]
  exact List.takeWhile_append_dropWhile

/-- A word ends at the blank that follows it. -/
theorem splitWord_append {word rest : List Char} (hword : ∀ c ∈ word, isBlank c = false)
    (hrest : ∀ c ∈ rest.head?, isBlank c = true) : splitWord (word ++ rest) = (word, rest) :=
  span_append (fun c hc => by simp [hword c hc]) fun c hc => by simp [hrest c hc]

end EdiSchema.Text
