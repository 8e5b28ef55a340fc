import Mathlib.Data.List.Basic
import Mathlib.Data.List.Infix
import Mathlib.Data.List.TakeWhile
import EdiSchema.Proofs.Text.Blank

/-!
# Texts cut at a word

A text is cut at one of its words: the word stands between two texts that do not run into it. The
words of the text are then those in front of the word, the word itself and those behind it. A text
can be cut at each of its words, in one way only, so what is said of the words of a text is said of
the places where they stand.
-/

namespace EdiSchema.Text

/-- Whether a text is a word: not empty and without blanks. -/
structure IsWord (word : List Char) : Prop where
  ne_nil : word ≠ []
  not_isBlank : ∀ c ∈ word, isBlank c = false

/-- A text cut at a word, with what stands in front of the word and what follows it. -/
structure Cut (cs front word rest : List Char) : Prop where
  eq : cs = front ++ word ++ rest
  isWord : IsWord word
  front_ends : ∀ c ∈ front.getLast?, isBlank c = true
  rest_starts : ∀ c ∈ rest.head?, isBlank c = true

theorem IsWord.startsSolid {word : List Char} (hword : IsWord word) : StartsSolid word :=
  startsSolid_of_not_isBlank hword.ne_nil hword.not_isBlank

theorem IsWord.endsSolid {word : List Char} (hword : IsWord word) : EndsSolid word :=
  endsSolid_of_not_isBlank hword.ne_nil hword.not_isBlank

theorem IsWord.trim_eq {word : List Char} (hword : IsWord word) : trim word = word :=
  trim_of_not_isBlank hword.not_isBlank

/-- A word has itself as its only word. -/
theorem IsWord.words_eq {word : List Char} (hword : IsWord word) : words word = [word] :=
  wordsFrom_of_not_isBlank hword.not_isBlank (by simpa using hword.ne_nil)

section Words

/-- Where a blank follows, the words of a text come to an end. -/
theorem wordsFrom_append {rest : List Char} (hrest : ∀ c ∈ rest.head?, isBlank c = true)
    (cs word : List Char) : wordsFrom (cs ++ rest) word = wordsFrom cs word ++ words rest := by
  induction cs generalizing word with
  | nil =>
    cases rest with
    | nil => rw [words, wordsFrom, List.append_nil, List.append_nil]
    | cons b rest =>
      have hb : isBlank b = true := hrest b rfl
      cases word with
      | nil => simp [words, wordsFrom, hb]
      | cons c word => simp [words, wordsFrom, hb]
  | cons c cs ih =>
    rw [List.cons_append, wordsFrom, wordsFrom, ih, ih]
    split_ifs <;> simp

/-- The words of two texts, of which the second starts with a blank. -/
theorem words_append {rest : List Char} (hrest : ∀ c ∈ rest.head?, isBlank c = true)
    (cs : List Char) : words (cs ++ rest) = words cs ++ words rest :=
  wordsFrom_append hrest cs []

/-- The words of two texts, of which the first ends in a blank. -/
theorem words_append_of_front {front : List Char} (hfront : ∀ c ∈ front.getLast?, isBlank c = true)
    (cs : List Char) : words (front ++ cs) = words front ++ words cs := by
  rcases List.eq_nil_or_concat front with rfl | ⟨before, b, rfl⟩
  · rfl
  · have hb : ∀ c ∈ [b], isBlank c = true := by simpa using hfront
    have hbefore : words (before ++ [b]) = words before := wordsFrom_append_blanks hb before []
    rw [List.concat_eq_append, hbefore, List.append_assoc, words_append (by simpa using hb),
      words_blanks_append hb]

/-- Blanks have no words. -/
theorem words_of_isBlank {blanks : List Char} (hblanks : ∀ c ∈ blanks, isBlank c = true) :
    words blanks = [] := by
  have hnone := words_blanks_append hblanks []
  rwa [List.append_nil] at hnone

/-- A text without words is blank. -/
theorem isBlank_of_words_eq_nil {cs : List Char} (hnone : words cs = []) :
    ∀ c ∈ cs, isBlank c = true := by
  have hkept : ∀ (cs : List Char) (c : Char) (word : List Char), wordsFrom cs (c :: word) ≠ [] := by
    intro cs
    induction cs with
    | nil => simp [wordsFrom]
    | cons d cs ih =>
      intro c word
      rw [wordsFrom]
      split_ifs <;> simp_all
  induction cs with
  | nil => exact List.forall_mem_nil _
  | cons c cs ih =>
    rw [words, wordsFrom] at hnone
    split_ifs at hnone with hc
    · exact List.forall_mem_cons.2 ⟨hc, ih hnone⟩
    · exact absurd hnone (hkept cs c [])

/-- Nothing is left of a text without words when it is trimmed at its end. -/
theorem trimEnd_eq_nil_iff {cs : List Char} : trimEnd cs = [] ↔ words cs = [] := by
  rw [trimEnd, List.reverse_eq_nil_iff, List.dropWhile_eq_nil_iff]
  simp only [List.mem_reverse]
  exact ⟨words_of_isBlank, isBlank_of_words_eq_nil⟩

/-- What is trimmed at the end of a text are blanks. -/
theorem exists_blanks_trimEnd (cs : List Char) :
    ∃ blanks, cs = trimEnd cs ++ blanks ∧ ∀ c ∈ blanks, isBlank c = true := by
  refine ⟨(cs.reverse.takeWhile isBlank).reverse, ?_, fun c hc =>
    List.all_eq_true.1 List.all_takeWhile c (List.mem_reverse.1 hc)⟩
  rw [trimEnd, ← List.reverse_append, List.takeWhile_append_dropWhile, List.reverse_reverse]

/-- A text that is solid at its start is trimmed at its end only. -/
theorem trim_eq_trimEnd {cs : List Char} (hcs : StartsSolid cs) : trim cs = trimEnd cs := by
  have hstart : trimStart cs = cs := dropWhile_isBlank_append (List.forall_mem_nil _) hcs
  rw [trim, hstart]

/-- A text that is solid at its end is trimmed at its start only. -/
theorem trim_eq_trimStart {cs : List Char} (hcs : EndsSolid cs) : trim cs = trimStart cs := by
  have hstart : StartsSolid (trimStart cs).reverse := by
    obtain ⟨c, hc, hsolid⟩ := hcs
    obtain ⟨front, rfl⟩ := List.getLast?_eq_some_iff.1 hc
    refine ⟨c, ?_, hsolid⟩
    rw [trimStart, List.dropWhile_append]
    split <;> simp [hsolid]
  rw [trim, trimEnd, ← List.nil_append (trimStart cs).reverse,
    dropWhile_isBlank_append (List.forall_mem_nil _) hstart, List.reverse_reverse]

/-- Blanks behind a text are trimmed. -/
theorem trim_append_blanks {blanks : List Char} (hblanks : ∀ c ∈ blanks, isBlank c = true)
    (cs : List Char) : trim (cs ++ blanks) = trim cs := by
  have hend : ∀ ds : List Char, trimEnd (ds ++ blanks) = trimEnd ds := by
    intro ds
    rw [trimEnd, List.reverse_append,
      List.dropWhile_append_of_pos fun c hc => hblanks c (List.mem_reverse.1 hc), trimEnd]
  rw [trim, trimStart, List.dropWhile_append]
  split
  · next hnil =>
    rw [List.isEmpty_iff] at hnil
    rw [List.dropWhile_eq_nil_iff.2 hblanks, trim, trimStart, hnil]
  · rw [hend, trim, trimStart]

/-- A trimmed text has nothing left to trim. -/
theorem trim_trim (cs : List Char) : trim (trim cs) = trim cs := by
  rcases eq_or_ne (trim cs) [] with hnil | hne
  · rw [hnil]
    rfl
  · exact trim_append (List.forall_mem_nil _) (startsSolid_trim hne) (endsSolid_trimEnd hne)

end Words

namespace Cut

variable {cs front word rest : List Char}

/-- The words of a text that is cut at a word. -/
theorem words_eq (hcut : Cut cs front word rest) :
    words cs = words front ++ word :: words rest := by
  rw [hcut.eq, List.append_assoc, words_append_of_front hcut.front_ends,
    words_append hcut.rest_starts, hcut.isWord.words_eq]
  rfl

/-- A cut stays one with blanks around the text. -/
theorem surround (hcut : Cut cs front word rest) {before behind : List Char}
    (hbefore : ∀ c ∈ before, isBlank c = true) (hbehind : ∀ c ∈ behind, isBlank c = true) :
    Cut (before ++ cs ++ behind) (before ++ front) word (rest ++ behind) where
  eq := by simp [hcut.eq]
  isWord := hcut.isWord
  front_ends := by
    intro c hc
    rcases List.eq_nil_or_concat front with rfl | ⟨others, b, rfl⟩
    · exact hbefore c (List.mem_of_mem_getLast? (by simpa using hc))
    · exact hcut.front_ends c (by simpa using hc)
  rest_starts := by
    intro c hc
    cases rest with
    | nil => exact hbehind c (List.mem_of_mem_head? hc)
    | cons b others => exact hcut.rest_starts c hc

/-- Nothing is behind the last word of a text that is solid at its end. -/
theorem rest_eq_nil (hcut : Cut cs front word rest) (hcs : EndsSolid cs)
    (hrest : words rest = []) : rest = [] := by
  by_contra hne
  obtain ⟨c, hc, hsolid⟩ := hcs
  rw [hcut.eq, List.getLast?_append_of_ne_nil _ hne] at hc
  simp [isBlank_of_words_eq_nil hrest c (List.mem_of_mem_getLast? hc)] at hsolid

/-- In front of a word stands nothing, or a text as solid at its start as the whole. -/
theorem front_eq_nil_or (hcut : Cut cs front word rest) (hcs : StartsSolid cs) :
    front = [] ∨ StartsSolid front := by
  rcases eq_or_ne front [] with rfl | hne
  · exact .inl rfl
  · obtain ⟨c, hc, hsolid⟩ := hcs
    rw [hcut.eq, List.append_assoc, List.head?_append_of_ne_nil _ hne] at hc
    exact .inr ⟨c, hc, hsolid⟩

/-- Nothing is in front of the first word of a text that is solid at its start. -/
theorem front_eq_nil (hcut : Cut cs front word rest) (hcs : StartsSolid cs)
    (hfront : words front = []) : front = [] := by
  apply (hcut.front_eq_nil_or hcs).resolve_right
  rintro ⟨c, hc, hsolid⟩
  simp [isBlank_of_words_eq_nil hfront c (List.mem_of_mem_head? hc)] at hsolid

/-- A text that ends in a blank is cut at a word with such a text behind it. -/
theorem rest_ne_nil (hcut : Cut cs front word rest) (hcs : ∀ c ∈ cs.getLast?, isBlank c = true) :
    rest ≠ [] := by
  rintro rfl
  obtain ⟨c, hc, hsolid⟩ := hcut.isWord.endsSolid
  have hblank := hcs c (by
    rw [hcut.eq, List.append_nil]
    exact List.mem_getLast?_append_of_mem_getLast? hc)
  simp [hsolid] at hblank

/-- A text that starts with a blank is cut at a word with such a text in front of it. -/
theorem front_ne_nil (hcut : Cut cs front word rest) (hcs : ∀ c ∈ cs.head?, isBlank c = true) :
    front ≠ [] := by
  rintro rfl
  obtain ⟨c, hc, hsolid⟩ := hcut.isWord.startsSolid
  have hblank := hcs c (by
    rw [hcut.eq, List.nil_append]
    exact List.mem_head?_append_of_mem_head? hc)
  simp [hsolid] at hblank

/-- A text in front of a word that can be cut itself. -/
theorem inside (hcut : Cut cs front word rest) {front' word' rest' : List Char}
    (hfront : Cut front front' word' rest') : Cut cs front' word' (rest' ++ word ++ rest) where
  eq := by simp [hcut.eq, hfront.eq]
  isWord := hfront.isWord
  front_ends := hfront.front_ends
  rest_starts := by
    intro c hc
    rw [List.append_assoc,
      List.head?_append_of_ne_nil _ (hfront.rest_ne_nil hcut.front_ends)] at hc
    exact hfront.rest_starts c hc

theorem eq_of_front_eq {front' word' rest' : List Char} (hcut : Cut cs front word rest)
    (hcut' : Cut cs front' word' rest') (hfront : front = front') : word = word' ∧ rest = rest' := by
  subst hfront
  have hsame := hcut.eq.symm.trans hcut'.eq
  rw [List.append_assoc, List.append_assoc, List.append_cancel_left_eq] at hsame
  have hsplit := splitWord_append hcut.isWord.not_isBlank hcut.rest_starts
  rw [hsame, splitWord_append hcut'.isWord.not_isBlank hcut'.rest_starts] at hsplit
  exact ⟨(Prod.mk.inj hsplit).1.symm, (Prod.mk.inj hsplit).2.symm⟩

theorem front_eq_of_start {front' word' rest' : List Char} (hcut : Cut cs front word rest)
    (hcut' : Cut cs front' word' rest') (hstart : front <+: front')
    (hwords : (words front).length = (words front').length) : front = front' := by
  obtain ⟨between, rfl⟩ := hstart
  rw [words_append_of_front hcut.front_ends, List.length_append] at hwords
  have hnone : words between = [] := List.eq_nil_of_length_eq_zero (by omega)
  have hsame := hcut.eq.symm.trans hcut'.eq
  rw [List.append_assoc, List.append_assoc, List.append_assoc, List.append_cancel_left_eq] at hsame
  cases between with
  | nil => rw [List.append_nil]
  | cons b between =>
    obtain ⟨c, hc, hsolid⟩ := hcut.isWord.startsSolid.append rest
    rw [hsame] at hc
    obtain rfl : b = c := by simpa using hc
    simp [isBlank_of_words_eq_nil hnone b List.mem_cons_self] at hsolid

/-- A text is cut in one way only behind a number of words. -/
theorem unique {front' word' rest' : List Char} (hcut : Cut cs front word rest)
    (hcut' : Cut cs front' word' rest') (hwords : (words front).length = (words front').length) :
    front = front' ∧ word = word' ∧ rest = rest' := by
  have hfront : front <+: cs := ⟨word ++ rest, by rw [hcut.eq, List.append_assoc]⟩
  have hfront' : front' <+: cs := ⟨word' ++ rest', by rw [hcut'.eq, List.append_assoc]⟩
  have hsame : front = front' := by
    rcases List.prefix_or_prefix_of_prefix hfront hfront' with hstart | hstart
    · exact hcut.front_eq_of_start hcut' hstart hwords
    · exact (hcut'.front_eq_of_start hcut hstart hwords.symm).symm
  exact ⟨hsame, hcut.eq_of_front_eq hcut' hsame⟩

end Cut

/-- A word and what follows it are the whole text. -/
theorem splitWord_fst_append_snd (cs : List Char) : (splitWord cs).1 ++ (splitWord cs).2 = cs :=
  span_fst_append_snd _ cs

/-- The first word of a text that starts with it. -/
theorem cut_splitWord {cs : List Char} (hcs : StartsSolid cs) :
    Cut cs [] (splitWord cs).1 (splitWord cs).2 := by
  refine ⟨(splitWord_fst_append_snd cs).symm, ?_, by simp, fun d hd => ?_⟩
  · obtain ⟨c, hc, hsolid⟩ := hcs
    obtain ⟨others, rfl⟩ := List.head?_eq_some_iff.1 hc
    rw [splitWord, List.span_eq_takeWhile_dropWhile]
    refine ⟨by simp [hsolid], fun d hd => ?_⟩
    simpa using List.all_eq_true.1 List.all_takeWhile d hd
  · have hstops := List.head?_dropWhile_not (fun c => !isBlank c) cs
    rw [splitWord, List.span_eq_takeWhile_dropWhile] at hd
    rw [Option.mem_def.1 hd] at hstops
    simpa using hstops

/-- A text is cut at its first word. -/
theorem exists_cut_of_words_eq_cons {cs word : List Char} {after : List (List Char)}
    (hwords : words cs = word :: after) :
    ∃ front rest, Cut cs front word rest ∧ words front = [] ∧ words rest = after := by
  have hblanks : ∀ c ∈ cs.takeWhile isBlank, isBlank c = true :=
    List.all_eq_true.1 List.all_takeWhile
  have hcs : cs.takeWhile isBlank ++ trimStart cs = cs := List.takeWhile_append_dropWhile
  have hsolid : StartsSolid (trimStart cs) := by
    have hne : trimStart cs ≠ [] := by
      intro hnil
      rw [hnil, List.append_nil] at hcs
      rw [← hcs, words_of_isBlank hblanks] at hwords
      cases hwords
    obtain ⟨c, rest, hrest⟩ := List.exists_cons_of_ne_nil hne
    have hstops := List.head?_dropWhile_not isBlank cs
    rw [← trimStart, hrest] at hstops
    rw [hrest]
    exact ⟨c, rfl, hstops⟩
  have hcut := (cut_splitWord hsolid).surround hblanks (List.forall_mem_nil _)
  rw [List.append_nil, List.append_nil, List.append_nil, hcs] at hcut
  have hsame := hcut.words_eq
  rw [hwords, words_of_isBlank hblanks, List.nil_append, List.cons.injEq] at hsame
  obtain ⟨rfl, rfl⟩ := hsame
  exact ⟨_, _, hcut, words_of_isBlank hblanks, rfl⟩

/-- In a text that starts with a blank, a gap stands in front of the first word. -/
theorem exists_gap_of_words_eq_cons {cs word : List Char} {after : List (List Char)}
    (hcs : ∀ c ∈ cs.head?, isBlank c = true) (hwords : words cs = word :: after) :
    ∃ gap rest, Cut cs gap word rest ∧ gap ≠ [] ∧ (∀ c ∈ gap, isBlank c = true) ∧
      words rest = after := by
  obtain ⟨gap, rest, hcut, hgap, hrest⟩ := exists_cut_of_words_eq_cons hwords
  exact ⟨gap, rest, hcut, hcut.front_ne_nil hcs, isBlank_of_words_eq_nil hgap, hrest⟩

/-- A text is cut at each of its words. -/
theorem exists_cut {cs word : List Char} {before after : List (List Char)}
    (hwords : words cs = before ++ word :: after) :
    ∃ front rest, Cut cs front word rest ∧ words front = before ∧ words rest = after := by
  induction before generalizing cs with
  | nil => exact exists_cut_of_words_eq_cons hwords
  | cons first before ih =>
    obtain ⟨blanks, tail, hfirst, hblanks, htail⟩ := exists_cut_of_words_eq_cons hwords
    obtain ⟨front, rest, hcut, hfront, hrest⟩ := ih htail
    have hne := hcut.front_ne_nil hfirst.rest_starts
    have hstarts : ∀ c ∈ front.head?, isBlank c = true := by
      intro c hc
      apply hfirst.rest_starts c
      rw [hcut.eq, List.append_assoc]
      exact List.mem_head?_append_of_mem_head? hc
    refine ⟨blanks ++ first ++ front, rest, ⟨?_, hcut.isWord, ?_, hcut.rest_starts⟩, ?_, hrest⟩
    · rw [hfirst.eq, hcut.eq]
      simp
    · intro c hc
      rw [List.getLast?_append_of_ne_nil _ hne] at hc
      exact hcut.front_ends c hc
    · have hlead : Cut (blanks ++ first ++ front) blanks first front :=
        ⟨rfl, hfirst.isWord, hfirst.front_ends, hstarts⟩
      rw [hlead.words_eq, hblanks, hfront]
      rfl

/-- The words of a text are words. -/
theorem isWord_of_mem_words {cs word : List Char} (hword : word ∈ words cs) : IsWord word := by
  obtain ⟨before, after, hwords⟩ := List.append_of_mem hword
  obtain ⟨front, rest, hcut, -⟩ := exists_cut hwords
  exact hcut.isWord

/-- A text is cut at its last word. -/
theorem exists_cut_last {cs : List Char} (hcs : EndsSolid cs) :
    ∃ front word, Cut cs front word [] := by
  have hne : words cs ≠ [] := by
    obtain ⟨c, hc, hsolid⟩ := hcs
    intro hnone
    simp [isBlank_of_words_eq_nil hnone c (List.mem_of_mem_getLast? hc)] at hsolid
  obtain ⟨before, word, hwords⟩ := (List.eq_nil_or_concat (words cs)).resolve_left hne
  rw [List.concat_eq_append] at hwords
  obtain ⟨front, rest, hcut, -, hrest⟩ := exists_cut hwords
  obtain rfl := hcut.rest_eq_nil hcs hrest
  exact ⟨front, word, hcut⟩

/-- What stands in front of the only word in front of another is a gap. -/
theorem Cut.exists_gap {cs front word rest first : List Char} (hcut : Cut cs front word rest)
    (hcs : StartsSolid cs) (hfront : words front = [first]) :
    ∃ gap, front = first ++ gap ∧ IsWord first ∧ gap ≠ [] ∧ ∀ c ∈ gap, isBlank c = true := by
  obtain ⟨blanks, gap, hfirst, hblanks, hgap⟩ := exists_cut_of_words_eq_cons hfront
  have hsolid : StartsSolid front := by
    apply (hcut.front_eq_nil_or hcs).resolve_left
    rintro rfl
    cases hfront
  obtain rfl := hfirst.front_eq_nil hsolid hblanks
  exact ⟨gap, hfirst.eq, hfirst.isWord, hfirst.rest_ne_nil hcut.front_ends,
    isBlank_of_words_eq_nil hgap⟩

end EdiSchema.Text
