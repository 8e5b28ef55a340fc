import Mathlib.Data.List.Infix
import EdiSchema.Proofs.Text.Blank
import EdiSchema.Text.Scan

/-!
# Where a piece of text occurs first

A text is split at the first occurrence of a piece: in front of it the piece occurs nowhere, not
even with the start of the occurrence. There the piece is also taken out of the text. What is
searched for by a test of suffixes is found at the first of them that passes.

Merging pairs of a character leaves no pair exactly if the character stands nowhere three times in a
row.
-/

namespace EdiSchema.Text

variable {piece cs front rest : List Char}

/-- The rest behind a prefix, if there is one. -/
theorem isPrefixOf?_eq_some_iff : piece.isPrefixOf? cs = some rest ↔ cs = piece ++ rest := by
  induction piece generalizing cs with
  | nil => simp [List.isPrefixOf?, eq_comm]
  | cons p piece ih =>
    cases cs with
    | nil => simp [List.isPrefixOf?]
    | cons c cs =>
      by_cases hc : p = c
      · simp [List.isPrefixOf?, hc, ih]
      · simp [List.isPrefixOf?, hc, Ne.symm hc]

/-- The text in front of a suffix, if there is one. -/
theorem dropSuffix?_eq_some_iff : dropSuffix? piece cs = some front ↔ cs = front ++ piece := by
  rw [dropSuffix?, Option.map_eq_some_iff]
  constructor
  · intro ⟨rest, hrest, hfront⟩
    rw [isPrefixOf?_eq_some_iff, List.reverse_eq_iff, List.reverse_append,
      List.reverse_reverse] at hrest
    rw [hrest, hfront]
  · intro hcs
    refine ⟨front.reverse, ?_, List.reverse_reverse _⟩
    rw [isPrefixOf?_eq_some_iff, hcs, List.reverse_append]

/-- Splitting takes nothing away but the piece. -/
theorem eq_of_splitAtFirst? (hsplit : splitAtFirst? piece cs = some (front, rest)) :
    cs = front ++ piece ++ rest := by
  induction cs generalizing front with
  | nil =>
    cases piece with
    | nil => simp_all [splitAtFirst?]
    | cons p piece => simp [splitAtFirst?] at hsplit
  | cons c cs ih =>
    rw [splitAtFirst?] at hsplit
    split at hsplit
    · next after hafter =>
      simp only [Option.some.injEq, Prod.mk.injEq] at hsplit
      obtain ⟨rfl, rfl⟩ := hsplit
      exact isPrefixOf?_eq_some_iff.1 hafter
    · obtain ⟨⟨before, after⟩, hrest, hpair⟩ := Option.map_eq_some_iff.1 hsplit
      simp only [Prod.mk.injEq] at hpair
      obtain ⟨rfl, rfl⟩ := hpair
      rw [ih hrest]
      rfl

/-- A text is split at a piece that occurs nowhere before. -/
theorem splitAtFirst?_append (hfirst : ∀ tail, tail ≠ [] → tail <:+ front →
      ¬ piece <+: tail ++ (piece ++ rest)) :
    splitAtFirst? piece (front ++ (piece ++ rest)) = some (front, rest) := by
  induction front with
  | nil =>
    rw [List.nil_append]
    cases hcs : piece ++ rest with
    | nil =>
      obtain ⟨rfl, rfl⟩ := List.append_eq_nil_iff.1 hcs
      rfl
    | cons c cs =>
      rw [splitAtFirst?, isPrefixOf?_eq_some_iff.2 hcs.symm]
  | cons c front ih =>
    have hnone : piece.isPrefixOf? (c :: (front ++ (piece ++ rest))) = none := by
      rw [Option.eq_none_iff_forall_ne_some]
      intro after hafter
      apply hfirst (c :: front) (by simp) (List.suffix_refl _)
      rw [List.cons_append, isPrefixOf?_eq_some_iff.1 hafter]
      exact List.prefix_append _ _
    have hrest := ih fun tail hne htail => hfirst tail hne (htail.trans (List.suffix_cons c front))
    rw [List.cons_append, splitAtFirst?, hnone, hrest]
    rfl

/-- Taking out no text changes nothing. -/
theorem eraseFirst_nil (cs : List Char) : eraseFirst [] cs = cs := by
  cases cs <;> rfl

/-- A piece behind blanks is taken out where it stands, if it does not occur in front of these. -/
theorem eraseFirst_of_first {blanks : List Char} (hblanks : ∀ c ∈ blanks, isBlank c = true)
    (hpiece : StartsSolid piece) (rest : List Char)
    (hfirst : ∀ i < front.length, ¬ piece <+: (front ++ (blanks ++ (piece ++ rest))).drop i) :
    eraseFirst piece (front ++ (blanks ++ (piece ++ rest))) = front ++ (blanks ++ rest) := by
  have hsplit : splitAtFirst? piece ((front ++ blanks) ++ (piece ++ rest)) =
      some (front ++ blanks, rest) := by
    apply splitAtFirst?_append
    rintro tail hne ⟨others, hothers⟩ hprefix
    by_cases hlt : others.length < front.length
    · apply hfirst others.length hlt
      rwa [← List.append_assoc front, ← hothers, List.append_assoc, List.drop_left]
    · -- Where the tail starts is a blank, and the piece starts with none.
      have hlength := congrArg List.length hothers
      rw [List.length_append, List.length_append] at hlength
      have htail : tail <:+ blanks :=
        List.suffix_of_suffix_length_le ⟨others, hothers⟩ (List.suffix_append _ _) (by omega)
      obtain ⟨c, hc, hsolid⟩ := hpiece
      obtain ⟨b, tail, rfl⟩ := List.exists_cons_of_ne_nil hne
      obtain ⟨cs, rfl⟩ := List.head?_eq_some_iff.1 hc
      obtain rfl := (List.cons_prefix_cons.1 hprefix).1
      simp [hblanks c (htail.subset List.mem_cons_self)] at hsolid
  rw [List.append_assoc] at hsplit
  simp only [eraseFirst, hsplit, List.append_assoc]

/-- A piece behind the blanks at the start of a text is taken out where it stands. -/
theorem eraseFirst_append {blanks : List Char} (hblanks : ∀ c ∈ blanks, isBlank c = true)
    (hpiece : StartsSolid piece) (rest : List Char) :
    eraseFirst piece (blanks ++ (piece ++ rest)) = blanks ++ rest :=
  @eraseFirst_of_first piece [] blanks hblanks hpiece rest (by simp)

/-- A piece occurs in a text exactly when it is found there. -/
theorem contains_iff : contains piece cs = true ↔ piece <:+: cs := by
  rw [contains, Option.isSome_iff_exists]
  constructor
  · intro hfound
    obtain ⟨⟨front, rest⟩, hsplit⟩ := hfound
    exact ⟨front, rest, (eq_of_splitAtFirst? hsplit).symm⟩
  · intro hinfix
    induction cs with
    | nil => exact ⟨([], []), by simp [splitAtFirst?, List.infix_nil.1 hinfix]⟩
    | cons c cs ih =>
      rw [splitAtFirst?]
      split
      · exact ⟨_, rfl⟩
      · next hnone =>
        have hrest : piece <:+: cs := by
          apply (List.infix_cons_iff.1 hinfix).resolve_left
          intro hprefix
          obtain ⟨after, hafter⟩ := hprefix
          simp [isPrefixOf?_eq_some_iff.2 hafter.symm] at hnone
        obtain ⟨found, hfound⟩ := ih hrest
        exact ⟨_, by rw [hfound]; rfl⟩

section Suffixes

variable {α : Type} {take? : List Char → Option α}

/-- What is found at the front of a text is found first. -/
theorem findSuffix?_of_eq_some {a : α} (hfound : take? cs = some a) :
    findSuffix? take? cs = some a := by
  cases cs with
  | nil => exact hfound
  | cons c cs => rw [findSuffix?, hfound]

/-- Nothing is found in a text if nothing is found at the front of any suffix. -/
theorem findSuffix?_eq_none (hnone : ∀ tail, tail <:+ cs → take? tail = none) :
    findSuffix? take? cs = none := by
  induction cs with
  | nil => exact hnone [] (List.suffix_refl [])
  | cons c cs ih =>
    rw [findSuffix?, hnone _ (List.suffix_refl _)]
    exact ih fun tail htail => hnone tail (htail.trans (List.suffix_cons c cs))

/-- What is found stands in front of everything else that could be found. -/
theorem exists_of_findSuffix? {a : α} (hfound : findSuffix? take? cs = some a) :
    ∃ front rest, cs = front ++ rest ∧ take? rest = some a ∧
      ∀ front' rest', cs = front' ++ rest' → (take? rest').isSome →
        front.length ≤ front'.length := by
  induction cs with
  | nil => exact ⟨[], [], rfl, hfound, fun _ _ _ _ => Nat.zero_le _⟩
  | cons c cs ih =>
    rw [findSuffix?] at hfound
    split at hfound
    · next hhere =>
      obtain rfl := Option.some.inj hfound
      exact ⟨[], c :: cs, rfl, hhere, fun _ _ _ _ => Nat.zero_le _⟩
    · next hnone =>
      obtain ⟨front, rest, rfl, hrest, hfirst⟩ := ih hfound
      refine ⟨c :: front, rest, rfl, hrest, fun front' rest' hsplit hsome => ?_⟩
      cases front' with
      | nil =>
        rw [List.nil_append] at hsplit
        rw [← hsplit, hnone] at hsome
        simp at hsome
      | cons c' front' =>
        exact Nat.succ_le_succ (hfirst front' rest' (List.cons.inj hsplit).2 hsome)

/-- If nothing is found in a text, nothing is found at the front of any suffix. -/
theorem eq_none_of_findSuffix? (hnone : findSuffix? take? cs = none) (tail : List Char)
    (htail : tail <:+ cs) : take? tail = none := by
  induction cs with
  | nil => rwa [List.suffix_nil.1 htail]
  | cons c cs ih =>
    rw [findSuffix?] at hnone
    split at hnone
    · simp at hnone
    · next hhere =>
      rcases List.suffix_cons_iff.1 htail with rfl | hrest
      · exact hhere
      · exact ih hnone hrest

/-- Characters at which nothing is found are passed over. -/
theorem findSuffix?_append (hfront : ∀ c ∈ front, ∀ rest, take? (c :: rest) = none)
    (cs : List Char) : findSuffix? take? (front ++ cs) = findSuffix? take? cs := by
  induction front with
  | nil => rfl
  | cons c front ih =>
    obtain ⟨hc, hfront⟩ := List.forall_mem_cons.1 hfront
    rw [List.cons_append, findSuffix?, hc, ih hfront]

end Suffixes

section Pairs

variable {first second : Char}

/-- Two characters occur where the first of them stands in front of the second. -/
theorem pair_infix_cons_iff {c : Char} :
    [first, second] <:+: c :: cs ↔
      (c = first ∧ cs.head? = some second) ∨ [first, second] <:+: cs := by
  rw [List.infix_cons_iff]
  apply or_congr_left
  cases cs with
  | nil => simp
  | cons d cs => simp [List.cons_prefix_cons, eq_comm]

/-- Two characters occur behind other characters than the first of them only if they occur in what
follows. -/
theorem pair_infix_append_iff (hfront : ∀ c ∈ front, c ≠ first) :
    [first, second] <:+: front ++ cs ↔ [first, second] <:+: cs := by
  induction front with
  | nil => exact Iff.rfl
  | cons c front ih =>
    obtain ⟨hc, hfront⟩ := List.forall_mem_cons.1 hfront
    rw [List.cons_append, pair_infix_cons_iff, ih hfront]
    exact or_iff_right fun hsame => hc hsame.1

/-- Two characters occur before other characters than the second of them only if they occur in what
comes before. -/
theorem pair_infix_append_iff_left (hrest : ∀ c ∈ rest, c ≠ second) :
    [first, second] <:+: cs ++ rest ↔ [first, second] <:+: cs := by
  have hrest' : ∀ c ∈ rest.reverse, c ≠ second := fun c hc => hrest c (List.mem_reverse.1 hc)
  calc [first, second] <:+: cs ++ rest
    _ ↔ [second, first] <:+: (cs ++ rest).reverse := by rw [← List.reverse_infix]; rfl
    _ ↔ [second, first] <:+: cs.reverse := by
        rw [List.reverse_append, pair_infix_append_iff hrest']
    _ ↔ [first, second] <:+: cs := by rw [← List.reverse_infix, List.reverse_reverse]; rfl

end Pairs

/-- Merging leaves the first character. -/
theorem head?_mergePairs (pair : Char) (cs : List Char) :
    (mergePairs pair cs).head? = cs.head? := by
  fun_cases mergePairs pair cs <;> rfl

/-- Merging leaves no pair of a character that stands nowhere three times in a row. -/
theorem not_pair_infix_mergePairs {pair : Char} (hthree : ¬ [pair, pair, pair] <:+: cs) :
    ¬ [pair, pair] <:+: mergePairs pair cs := by
  fun_induction mergePairs pair cs with
  | case1 => simp
  | case2 c => simp [List.infix_cons_iff]
  | case3 c d cs hpair ih =>
    obtain ⟨rfl, rfl⟩ := hpair
    rw [pair_infix_cons_iff, head?_mergePairs]
    rintro (⟨-, hnext⟩ | hrest)
    · obtain ⟨rest, rfl⟩ := List.head?_eq_some_iff.1 hnext
      exact hthree ⟨[], rest, rfl⟩
    · exact ih (fun h => hthree (h.trans (List.suffix_append [d, d] cs).isInfix)) hrest
  | case4 c d cs hpair ih =>
    rw [pair_infix_cons_iff, head?_mergePairs]
    rintro (⟨rfl, hnext⟩ | hrest)
    · exact hpair ⟨rfl, Option.some.inj hnext⟩
    · exact ih (fun h => hthree (h.trans (List.suffix_cons c _).isInfix)) hrest

/-- Merging leaves a pair where a character stands three times in a row. -/
theorem pair_infix_mergePairs {pair : Char} (hthree : [pair, pair, pair] <:+: cs) :
    [pair, pair] <:+: mergePairs pair cs := by
  fun_induction mergePairs pair cs with
  | case1 => simp at hthree
  | case2 c => simp [List.infix_cons_iff] at hthree
  | case3 c d cs hpair ih =>
    obtain ⟨rfl, rfl⟩ := hpair
    rw [pair_infix_cons_iff, head?_mergePairs]
    -- Of three that start in the merged pair, one follows it.
    rcases List.infix_cons_iff.1 hthree with ⟨rest, hrest⟩ | hthree
    · exact .inl ⟨rfl, by simp [← (List.cons.inj (List.cons.inj hrest).2).2]⟩
    · rcases List.infix_cons_iff.1 hthree with ⟨rest, hrest⟩ | hthree
      · exact .inl ⟨rfl, by simp [← (List.cons.inj hrest).2]⟩
      · exact .inr (ih hthree)
  | case4 c d cs hpair ih =>
    rcases List.infix_cons_iff.1 hthree with hhere | hthree
    · obtain ⟨rfl, htail⟩ := List.cons_prefix_cons.1 hhere
      exact absurd ⟨rfl, (List.cons_prefix_cons.1 htail).1.symm⟩ hpair
    · exact (ih hthree).trans (List.suffix_cons c _).isInfix

/-- Merging leaves a pair exactly if the character stands three times in a row. -/
theorem pair_infix_mergePairs_iff {pair : Char} :
    [pair, pair] <:+: mergePairs pair cs ↔ [pair, pair, pair] <:+: cs :=
  ⟨fun hpair => by_contra fun hthree => not_pair_infix_mergePairs hthree hpair,
    pair_infix_mergePairs⟩

end EdiSchema.Text
