import EdiSchema.Proofs.Detail.Reading
import EdiSchema.Proofs.Text.Words

/-!
# The grammar of a detail line

A line is recognised by its words: a code is the first of them, or the second behind a position
number, and all that follows the code is its payload. In a payload the words are those of a name,
then a flag and maybe a count; the payload of an element ends in one more word, its format.

A name may hold words that look like a flag, a count or a format. The words behind the name are
counted from the end of the payload, and a flag is never a count, so there is one way at most to
read a payload, and what is in front of the flag is the name as it stands.
-/

namespace EdiSchema.Detail

open Text

section Grammar

/-- Whether a word is the code of a kind of lines. -/
def LineKind.IsCode : LineKind → List Char → Prop
  | .composite, word =>
    ∃ letter digits, word = letter :: digits ∧ (letter = 'S' ∨ letter = 'C') ∧
      (digits.length = 3 ∨ digits.length = 4) ∧ ∀ c ∈ digits, isDigit c = true
  | .element, word => word.length = 4 ∧ ∀ c ∈ word, isDigit c = true

/-- Whether some words may stand in front of a code: none, or a position number. -/
def IsLead (ws : List (List Char)) : Prop :=
  ws = [] ∨ ∃ position, ws = [position] ∧ position.length = 3 ∧ ∀ c ∈ position, isDigit c = true

/-- Whether a line is what a text says: the code stands behind a lead, and the payload is the text
after the code. -/
def Line.IsOf (line : Line) (cs : List Char) : Prop :=
  ∃ front rest, Cut cs front line.code.toList rest ∧ IsLead (words front) ∧
    line.kind.IsCode line.code.toList ∧ line.payload.toList = trim rest

/-- Whether some words are those of a name, a flag, maybe a count, and then others. -/
def HasStatus (ws tail : List (List Char)) : Prop :=
  ∃ name flag count, ws = name ++ [flag] :: (count ++ tail) ∧ name ≠ [] ∧
    (flag = 'M' ∨ flag = 'C') ∧ (count = [] ∨ ∃ digits, count = [digits] ∧ isDigits digits = true)

/-- Whether a text says a name and a flag in front of some words: the name is the text in front of
the flag. -/
def IsFlagged (cs name : List Char) (flag : Char) (tail : List (List Char)) : Prop :=
  (flag = 'M' ∨ flag = 'C') ∧ ∃ front rest, Cut cs front [flag] rest ∧ words front ≠ [] ∧
    name = trim front ∧ words rest = tail

/-- Whether a text says a name and a flag in front of some words, with a count between them or
not. -/
def SaysStatus (cs name : List Char) (flag : Char) (tail : List (List Char)) : Prop :=
  IsFlagged cs name flag tail ∨ ∃ count, isDigits count = true ∧
    IsFlagged cs name flag (count :: tail)

end Grammar

/-- What is behind a flag and maybe a count ends the words of a text. -/
theorem HasStatus.getLast?_eq {ws : List (List Char)} {last : List Char}
    (hstatus : HasStatus ws [last]) : ws.getLast? = some last := by
  obtain ⟨name, flag, count, rfl, -⟩ := hstatus
  rw [← List.cons_append, ← List.append_assoc, List.getLast?_concat]

section Code

/-- The kind of a line is decided by its code. -/
theorem codeKind?_eq_some_iff {word : List Char} {kind : LineKind} :
    codeKind? word = some kind ↔ kind.IsCode word := by
  cases word with
  | nil => cases kind <;> simp [codeKind?, LineKind.IsCode]
  | cons c digits =>
    rw [codeKind?]
    by_cases hcomposite : (c = 'S' ∨ c = 'C') ∧ (digits.length = 3 ∨ digits.length = 4) ∧
        digits.all isDigit = true
    · -- A letter is no digit, so the code of a composite is not that of an element.
      have hletter : isDigit c = false := by
        rcases hcomposite.1 with rfl | rfl <;> decide
      rw [if_pos hcomposite]
      cases kind with
      | composite => simpa [LineKind.IsCode] using hcomposite
      | element => simp [LineKind.IsCode, hletter]
    · rw [if_neg hcomposite]
      cases kind with
      | composite =>
        have hnot : ¬ LineKind.IsCode .composite (c :: digits) := by
          simpa [LineKind.IsCode] using hcomposite
        simp only [hnot, iff_false]
        split_ifs <;> simp
      | element => simp [LineKind.IsCode]

/-- A code is a word. -/
theorem LineKind.IsCode.isWord {kind : LineKind} {code : List Char} (hcode : kind.IsCode code) :
    IsWord code := by
  refine ⟨?_, isBlank_of_codeKind? (codeKind?_eq_some_iff.2 hcode)⟩
  rintro rfl
  cases kind <;> simp [IsCode] at hcode

/-- The code and the payload of a text that starts with its code. -/
theorem splitCode?_of_cut {cs code rest : List Char} {kind : LineKind}
    (hcut : Cut cs [] code rest) (hcode : kind.IsCode code) :
    splitCode? cs = some (kind, code, trimStart rest) := by
  have hsplit : splitWord cs = (code, rest) := by
    rw [hcut.eq, List.nil_append]
    exact splitWord_append hcut.isWord.not_isBlank hcut.rest_starts
  simp [splitCode?, hsplit, codeKind?_eq_some_iff.2 hcode]

/-- What is taken for the code of a text is its first word. -/
theorem exists_cut_of_splitCode? {cs code payload : List Char} {kind : LineKind}
    (hsplit : splitCode? cs = some (kind, code, payload)) :
    ∃ rest, Cut cs [] code rest ∧ kind.IsCode code ∧ payload = trimStart rest := by
  obtain ⟨found, hfound, hparts⟩ := Option.map_eq_some_iff.1 hsplit
  simp only [Prod.mk.injEq] at hparts
  obtain ⟨rfl, rfl, rfl⟩ := hparts
  have hcode := codeKind?_eq_some_iff.1 hfound
  have hstart : StartsSolid cs := by
    rw [← splitWord_fst_append_snd cs]
    exact hcode.isWord.startsSolid.append _
  exact ⟨_, cut_splitWord hstart, hcode, rfl⟩

/-- The code and the payload of a text that starts with a lead and its code. -/
theorem splitLine?_of_cut {cs front code rest : List Char} {kind : LineKind}
    (hcs : StartsSolid cs) (hcut : Cut cs front code rest) (hlead : IsLead (words front))
    (hcode : kind.IsCode code) : splitLine? cs = some (kind, code, trimStart rest) := by
  rcases hlead with hnone | ⟨position, hposition, hlength, hdigits⟩
  · obtain rfl := hcut.front_eq_nil hcs hnone
    have hsplit : (splitWord cs).1 = code := by
      rw [hcut.eq, List.nil_append,
        splitWord_append hcut.isWord.not_isBlank hcut.rest_starts]
    simp only [splitLine?, hsplit, isPosition_of_codeKind? (codeKind?_eq_some_iff.2 hcode),
      Bool.false_eq_true, if_false, splitCode?_of_cut hcut hcode]
  · obtain ⟨gap, rfl, hword, hne, hgap⟩ := hcut.exists_gap hcs hposition
    have hcode' : StartsSolid (code ++ rest) := hcut.isWord.startsSolid.append rest
    have hsplit : splitWord cs = (position, gap ++ (code ++ rest)) := by
      rw [hcut.eq, List.append_assoc, List.append_assoc]
      refine splitWord_append hword.not_isBlank fun c hc => ?_
      rw [List.head?_append_of_ne_nil _ hne] at hc
      exact hgap c (List.mem_of_mem_head? hc)
    have hisPosition : isPosition position = true := by
      simp [isPosition, hlength, List.all_eq_true.2 hdigits]
    have hrest : Cut (code ++ rest) [] code rest :=
      ⟨rfl, hcut.isWord, by simp, hcut.rest_starts⟩
    simp only [splitLine?, hsplit, hisPosition, if_true, trimStart,
      dropWhile_isBlank_append hgap hcode', splitCode?_of_cut hrest hcode]

/-- What is taken for the code of a text stands behind a lead. -/
theorem exists_cut_of_splitLine? {cs code payload : List Char} {kind : LineKind}
    (hcs : StartsSolid cs) (hsplit : splitLine? cs = some (kind, code, payload)) :
    ∃ front rest, Cut cs front code rest ∧ IsLead (words front) ∧ kind.IsCode code ∧
      payload = trimStart rest := by
  have hcut := cut_splitWord hcs
  unfold splitLine? at hsplit
  dsimp only at hsplit
  split at hsplit
  · next hposition =>
    obtain ⟨rest, hcode, hkind, rfl⟩ := exists_cut_of_splitCode? hsplit
    have hgap : ∀ c ∈ (splitWord cs).2.takeWhile isBlank, isBlank c = true :=
      List.all_eq_true.1 List.all_takeWhile
    have hbehind : (splitWord cs).2 = (splitWord cs).2.takeWhile isBlank ++ (code ++ rest) := by
      conv_lhs => rw [← List.takeWhile_append_dropWhile (p := isBlank) (l := (splitWord cs).2)]
      rw [← trimStart, hcode.eq, List.nil_append]
    have hne : (splitWord cs).2.takeWhile isBlank ≠ [] := by
      intro hnil
      obtain ⟨c, hc, hsolid⟩ := hcode.isWord.startsSolid
      have hblank := hcut.rest_starts c (by
        rw [hbehind, hnil, List.nil_append]
        exact List.mem_head?_append_of_mem_head? hc)
      simp [hsolid] at hblank
    have hwords : words ((splitWord cs).1 ++ (splitWord cs).2.takeWhile isBlank) =
        [(splitWord cs).1] := by
      rw [words, wordsFrom_append_blanks hgap, ← words, hcut.isWord.words_eq]
    refine ⟨(splitWord cs).1 ++ (splitWord cs).2.takeWhile isBlank, rest,
      ⟨?_, hcode.isWord, ?_, hcode.rest_starts⟩, .inr ⟨_, hwords, ?_⟩, hkind, rfl⟩
    · conv_lhs => rw [hcut.eq, List.nil_append, hbehind]
      simp
    · intro c hc
      rw [List.getLast?_append_of_ne_nil _ hne] at hc
      exact hgap c (List.mem_of_mem_getLast? hc)
    · simpa [isPosition] using hposition
  · obtain ⟨rest, hcode, hkind, rfl⟩ := exists_cut_of_splitCode? hsplit
    exact ⟨[], rest, hcode, .inl rfl, hkind, rfl⟩

end Code

section Status

variable {cs front name word : List Char} {flag : Char} {tail : List (List Char)}

/-- What is taken off a text at its end is its last word, with the blanks in front of that. -/
theorem splitLastWord_of_cut (hcut : Cut cs front word []) :
    splitLastWord cs = (trimEnd front, word) := by
  have hspan : cs.reverse.span (fun c => !isBlank c) = (word.reverse, front.reverse) := by
    rw [hcut.eq, List.append_nil, List.reverse_append]
    refine span_append (fun c hc => ?_) fun c hc => ?_
    · simp [hcut.isWord.not_isBlank c (List.mem_reverse.1 hc)]
    · rw [List.head?_reverse] at hc
      simp [hcut.front_ends c hc]
  simp only [splitLastWord, hspan, List.reverse_reverse, trimEnd]

theorem IsFlagged.words_eq (hflag : IsFlagged cs name flag tail) :
    ∃ before, words cs = before ++ [flag] :: tail := by
  obtain ⟨-, front, rest, hcut, -, -, rfl⟩ := hflag
  exact ⟨words front, hcut.words_eq⟩

/-- The words behind a flag are the last words of the text. -/
theorem IsFlagged.eq_of_words_eq {before : List (List Char)} {last : List Char}
    (tail : List (List Char)) (hflag : IsFlagged cs name flag (tail ++ [last]))
    (hwords : words cs = before ++ [word]) : last = word := by
  obtain ⟨lead, hlead⟩ := hflag.words_eq
  rw [hwords, ← List.cons_append, ← List.append_assoc] at hlead
  exact (List.singleton_inj.1 (List.append_inj_right' hlead rfl)).symm

/-- The last word of a text is the last of the words behind its flag. -/
theorem isFlagged_concat_iff (tail : List (List Char)) (hcut : Cut cs front word []) :
    IsFlagged cs name flag (tail ++ [word]) ↔ IsFlagged (trimEnd front) name flag tail := by
  obtain ⟨blanks, hfront, hblanks⟩ := exists_blanks_trimEnd front
  -- A cut of the trimmed text is one of the whole, with the last word behind it.
  have houter : ∀ {before found behind}, Cut (trimEnd front) before found behind →
      Cut cs before found (behind ++ blanks ++ word) := by
    intro before found behind hinner
    have hwhole := hinner.surround (List.forall_mem_nil _) hblanks
    rw [List.nil_append, List.nil_append, ← hfront] at hwhole
    simpa using hcut.inside hwhole
  have hwords : words front = words (trimEnd front) := by
    conv_lhs => rw [hfront]
    exact wordsFrom_append_blanks hblanks _ []
  have hbehind : ∀ {before found behind}, Cut (trimEnd front) before found behind →
      words (behind ++ blanks ++ word) = words behind ++ [word] := by
    intro before found behind hinner
    have hcs := hcut.words_eq
    rw [(houter hinner).words_eq, hwords, hinner.words_eq] at hcs
    simpa [words, wordsFrom] using hcs
  constructor
  · rintro ⟨hletter, before, rest, hflag, hne, rfl, hrest⟩
    have hinner : words (trimEnd front) = words before ++ [flag] :: tail := by
      have hcs := hcut.words_eq
      rw [hflag.words_eq, hrest, ← List.cons_append, ← List.append_assoc, hwords] at hcs
      exact (List.append_inj_left' hcs rfl).symm
    obtain ⟨before', rest', hcut', hbefore, hrest'⟩ := exists_cut hinner
    obtain ⟨rfl, -, -⟩ := (houter hcut').unique hflag (by rw [hbefore])
    exact ⟨hletter, before', rest', hcut', hne, rfl, hrest'⟩
  · rintro ⟨hletter, before, rest, hflag, hne, rfl, rfl⟩
    exact ⟨hletter, before, _, houter hflag, hne, rfl, hbehind hflag⟩

/-- A flag is no count. -/
theorem isDigits_flag (hletter : flag = 'M' ∨ flag = 'C') : isDigits [flag] = false := by
  rcases hletter with rfl | rfl <;> decide

/-- A flag is taken off the end of a text exactly if the text says one there. -/
theorem splitFlag?_eq_some_iff (hcs : trim cs = cs) :
    splitFlag? cs = some (name, flag) ↔ IsFlagged cs name flag [] := by
  -- In front of the last word stands a text that is trimmed at its start as well, or none.
  have htrim : ∀ {front word}, Cut cs front word [] → cs ≠ [] → trim front = trimEnd front := by
    intro front word hcut hne
    rcases hcut.front_eq_nil_or (startsSolid_of_trim hcs hne) with rfl | hfront
    · rfl
    · exact trim_eq_trimEnd hfront
  constructor
  · intro hsplit
    have hne : cs ≠ [] := by
      rintro rfl
      cases hsplit
    obtain ⟨front, word, hcut⟩ := exists_cut_last (endsSolid_of_trim hcs hne)
    rw [splitFlag?, splitLastWord_of_cut hcut] at hsplit
    split at hsplit
    · next found letter hpair =>
      obtain ⟨hfound, rfl⟩ := Prod.mk.inj hpair
      obtain ⟨⟨hletter, hname⟩, hsame⟩ := Option.ite_none_right_eq_some.1 hsplit
      simp only [Option.some.injEq, Prod.mk.injEq] at hsame
      obtain ⟨rfl, rfl⟩ := hsame
      subst hfound
      exact ⟨hletter, front, [], hcut, fun hnone => hname (trimEnd_eq_nil_iff.2 hnone),
        (htrim hcut hne).symm, rfl⟩
    · cases hsplit
  · rintro ⟨hletter, front, rest, hcut, hname, rfl, hrest⟩
    have hne : cs ≠ [] := by
      rintro rfl
      simpa using hcut.eq
    obtain rfl := hcut.rest_eq_nil (endsSolid_of_trim hcs hne) hrest
    have hname' : trimEnd front ≠ [] := fun hnil => hname (trimEnd_eq_nil_iff.1 hnil)
    rw [splitFlag?, splitLastWord_of_cut hcut, htrim hcut hne]
    exact if_pos ⟨hletter, hname'⟩

/-- In front of the last word of a trimmed text is another, once it is trimmed at its end. -/
theorem trim_trimEnd_of_cut (hcs : trim cs = cs) (hcut : Cut cs front word []) :
    trim (trimEnd front) = trimEnd front := by
  have hne : cs ≠ [] := by
    rintro rfl
    have hnil : front = [] ∧ word = [] := by simpa using hcut.eq.symm
    exact hcut.isWord.ne_nil hnil.2
  rcases eq_or_ne (trimEnd front) [] with hnil | hsome
  · rw [hnil]
    rfl
  · have hend : EndsSolid (trimEnd front) := endsSolid_trimEnd hsome
    have hstart : StartsSolid front := by
      apply (hcut.front_eq_nil_or (startsSolid_of_trim hcs hne)).resolve_left
      rintro rfl
      exact hsome rfl
    rw [← trim_eq_trimEnd hstart] at hend hsome ⊢
    exact trim_append (List.forall_mem_nil _) (startsSolid_trim hsome) hend

/-- A name and a flag are taken off a text, with a count or without, exactly if the text says them
there. -/
theorem splitStatus?_eq_some_iff (hcs : trim cs = cs) :
    splitStatus? cs = some (name, flag) ↔ SaysStatus cs name flag [] := by
  rcases eq_or_ne cs [] with rfl | hne
  · constructor
    · intro hsplit
      cases hsplit
    · rintro (hflag | ⟨count, -, hflag⟩)
      all_goals
        obtain ⟨before, hwords⟩ := hflag.words_eq
        simp [words, wordsFrom] at hwords
  · obtain ⟨front, word, hcut⟩ := exists_cut_last (endsSolid_of_trim hcs hne)
    have hwords : words cs = words front ++ [word] := hcut.words_eq
    simp only [splitStatus?, splitLastWord_of_cut hcut]
    split
    · next hdigits =>
      rw [splitFlag?_eq_some_iff (trim_trimEnd_of_cut hcs hcut), ← isFlagged_concat_iff _ hcut]
      refine ⟨fun hflag => .inr ⟨word, hdigits, hflag⟩, ?_⟩
      rintro (hflag | ⟨count, -, hflag⟩)
      · obtain ⟨before, hbefore⟩ := hflag.words_eq
        rw [hwords] at hbefore
        obtain rfl := List.singleton_inj.1 (List.append_inj_right' hbefore rfl)
        simp [isDigits_flag hflag.1] at hdigits
      · obtain rfl := IsFlagged.eq_of_words_eq [] hflag hwords
        exact hflag
    · next hdigits =>
      rw [splitFlag?_eq_some_iff hcs]
      refine ⟨.inl, ?_⟩
      rintro (hflag | ⟨count, hcount, hflag⟩)
      · exact hflag
      · obtain rfl := IsFlagged.eq_of_words_eq [] hflag hwords
        exact absurd hcount hdigits

/-- The words of a text are those of a name, a flag and others exactly if the text says so. -/
theorem exists_saysStatus_iff :
    (∃ name flag, SaysStatus cs name flag tail) ↔ HasStatus (words cs) tail := by
  have hwords : ∀ {name flag behind}, IsFlagged cs name flag behind →
      ∃ before, words cs = before ++ [flag] :: behind ∧ before ≠ [] := by
    rintro name flag behind ⟨-, front, rest, hcut, hne, -, rfl⟩
    exact ⟨words front, hcut.words_eq, hne⟩
  constructor
  · rintro ⟨name, flag, hflag | ⟨count, hcount, hflag⟩⟩
    · obtain ⟨before, hbefore, hne⟩ := hwords hflag
      exact ⟨before, flag, [], hbefore, hne, hflag.1, .inl rfl⟩
    · obtain ⟨before, hbefore, hne⟩ := hwords hflag
      exact ⟨before, flag, [count], hbefore, hne, hflag.1, .inr ⟨count, rfl, hcount⟩⟩
  · rintro ⟨before, flag, count, hbefore, hne, hletter, hcount⟩
    obtain ⟨front, rest, hcut, rfl, hrest⟩ := exists_cut hbefore
    refine ⟨trim front, flag, ?_⟩
    rcases hcount with rfl | ⟨digits, rfl, hdigits⟩
    · exact .inl ⟨hletter, front, rest, hcut, hne, rfl, hrest⟩
    · exact .inr ⟨digits, hdigits, hletter, front, rest, hcut, hne, rfl, hrest⟩

end Status

section Payload

variable {line : Line}

/-- The element that a line says with a name, a flag and a format. -/
def elementOf (line : Line) (name : List Char) (flag : Char) (format : Format) : Element where
  code := line.code
  name := String.ofList name
  requirement := .ofFlag flag
  dataType := format.dataType
  minLength := format.minLength
  maxLength := format.maxLength

/-- A name and a flag are taken off what stands in front of the last word exactly if the text says
them in front of that word. -/
theorem splitStatus?_trimEnd_iff {cs front token name : List Char} {flag : Char}
    (hcs : trim cs = cs) (hcut : Cut cs front token []) :
    splitStatus? (trimEnd front) = some (name, flag) ↔ SaysStatus cs name flag [token] := by
  rw [splitStatus?_eq_some_iff (trim_trimEnd_of_cut hcs hcut)]
  refine or_congr (isFlagged_concat_iff [] hcut).symm (exists_congr fun count => ?_)
  exact and_congr_right fun _ => (isFlagged_concat_iff [count] hcut).symm

/-- An element is read exactly from a payload of a name, a flag and a format. -/
theorem element?_eq_some_iff (hline : trim line.payload.toList = line.payload.toList)
    {element : Element} :
    element? line = some element ↔
      ∃ name flag token format, SaysStatus line.payload.toList name flag [token] ∧
        Format.ofText? (String.ofList token) = some format ∧
        element = elementOf line name flag format := by
  have hformat : ∀ {token : List Char}, IsWord token →
      Format.ofText? (String.ofList token) = Format.ofChars? token := by
    intro token htoken
    rw [Format.ofText?, String.toList_ofList, htoken.trim_eq]
  rcases eq_or_ne line.payload.toList [] with hnil | hne
  · constructor
    · intro helement
      simp [element?, hnil, splitLastWord, splitStatus?, splitFlag?, isDigits] at helement
    · rintro ⟨name, flag, token, -, hstatus, -⟩
      obtain ⟨before, letter, count, hbefore, -⟩ := exists_saysStatus_iff.1 ⟨name, flag, hstatus⟩
      simp [hnil, words, wordsFrom] at hbefore
  · obtain ⟨front, word, hcut⟩ := exists_cut_last (endsSolid_of_trim hline hne)
    rw [element?, splitLastWord_of_cut hcut]
    constructor
    · intro helement
      dsimp only at helement
      split at helement
      · next name flag format hname hread =>
        rw [splitStatus?_trimEnd_iff hline hcut] at hname
        rw [← hformat hcut.isWord] at hread
        exact ⟨name, flag, word, format, hname, hread, (Option.some.inj helement).symm⟩
      · cases helement
    · rintro ⟨name, flag, token, format, hname, hread, rfl⟩
      obtain rfl : token = word := by
        rcases hname with hflag | ⟨count, -, hflag⟩
        · exact IsFlagged.eq_of_words_eq [] hflag hcut.words_eq
        · exact IsFlagged.eq_of_words_eq [count] hflag hcut.words_eq
      rw [← splitStatus?_trimEnd_iff hline hcut] at hname
      rw [hformat hcut.isWord] at hread
      simp only [hname, hread]
      rfl

/-- A composite has the name and the flag that its payload says at its end. -/
theorem composite_of_saysStatus (hline : trim line.payload.toList = line.payload.toList)
    {name : List Char} {flag : Char} (hstatus : SaysStatus line.payload.toList name flag []) :
    composite line =
      { code := line.code, name := String.ofList name, requirement := .ofFlag flag } := by
  rw [composite, (splitStatus?_eq_some_iff hline).2 hstatus]

/-- A composite has the whole payload for its name if that ends in no flag. -/
theorem composite_of_not_hasStatus (hline : trim line.payload.toList = line.payload.toList)
    (hnot : ¬ HasStatus (words line.payload.toList) []) :
    composite line =
      { code := line.code, name := line.payload, requirement := .conditional } := by
  have hsplit : splitStatus? line.payload.toList = none := by
    rw [Option.eq_none_iff_forall_ne_some]
    rintro ⟨name, flag⟩ hsome
    exact hnot (exists_saysStatus_iff.1 ⟨name, flag, (splitStatus?_eq_some_iff hline).1 hsome⟩)
  rw [composite, hsplit]

end Payload

section Reading

variable {tabWidth : ℕ} {text : String}

/-- A line is what its text says, and its payload has no blanks around it. -/
theorem Line.isOf_of_ofText? {line : Line} (hread : ofText? tabWidth text = some line) :
    line.IsOf text.toList ∧ trim line.payload.toList = line.payload.toList := by
  unfold ofText? at hread
  dsimp only at hread
  split at hread
  · cases hread
  · next kind code payload hsplit =>
    split at hread
    · cases hread
    · obtain rfl := Option.some.inj hread
      have hne : trim text.toList ≠ [] := by
        intro hnil
        rw [hnil] at hsplit
        cases hsplit
      obtain ⟨front, rest, hcut, hlead, hcode, rfl⟩ :=
        exists_cut_of_splitLine? (startsSolid_trim hne) hsplit
      obtain ⟨before, behind, htext, -, hbefore, hbehind⟩ := exists_blanks_trim text.toList
      have hwhole := hcut.surround hbefore hbehind
      have hpayload : trimStart rest = trim (rest ++ behind) := by
        rw [trim_append_blanks hbehind]
        rcases eq_or_ne rest [] with rfl | hrest
        · rfl
        · obtain ⟨c, hc, hsolid⟩ := endsSolid_trimEnd hne
          rw [← trim, hcut.eq, List.getLast?_append_of_ne_nil _ hrest] at hc
          exact (trim_eq_trimStart ⟨c, hc, hsolid⟩).symm
      simp only [IsOf, String.toList_ofList]
      refine ⟨⟨before ++ front, rest ++ behind, htext ▸ hwhole, ?_, hcode, hpayload⟩, ?_⟩
      · rwa [words_blanks_append hbefore]
      · rw [hpayload, trim_trim]

/-- A payload stays on its line. -/
theorem Line.newline_not_mem_payload {line : Line} (hread : ofText? tabWidth text = some line) :
    '\n' ∉ line.payload.toList := by
  unfold ofText? at hread
  dsimp only at hread
  split at hread
  · cases hread
  · split at hread
    · cases hread
    · next hnewline =>
      obtain rfl := Option.some.inj hread
      rwa [String.toList_ofList]

/-- A text on one line is recognised exactly if its words start with a code behind a lead. -/
theorem Line.isSome_ofText?_iff (hline : '\n' ∉ text.toList) :
    (ofText? tabWidth text).isSome = true ↔
      ∃ lead code after, words text.toList = lead ++ code :: after ∧ IsLead lead ∧
        ∃ kind : LineKind, kind.IsCode code := by
  constructor
  · intro hsome
    obtain ⟨line, hread⟩ := Option.isSome_iff_exists.1 hsome
    obtain ⟨⟨front, rest, hcut, hlead, hcode, -⟩, -⟩ := isOf_of_ofText? hread
    exact ⟨_, _, _, hcut.words_eq, hlead, _, hcode⟩
  · rintro ⟨lead, code, after, hwords, hlead, kind, hcode⟩
    rw [← words_trim] at hwords
    obtain ⟨front, rest, hcut, rfl, -⟩ := exists_cut hwords
    have hne : trim text.toList ≠ [] := by
      intro hnil
      rw [hnil] at hwords
      simp [words, wordsFrom] at hwords
    have hsplit := splitLine?_of_cut (startsSolid_trim hne) hcut hlead hcode
    have hpayload : '\n' ∉ trimStart rest := by
      intro hmem
      obtain ⟨before, behind, hcs, -⟩ := exists_blanks_trim text.toList
      apply hline
      rw [hcs, hcut.eq]
      have hrest := List.dropWhile_suffix isBlank |>.subset hmem
      simp [hrest]
    simp [ofText?, hsplit, hpayload]

/-- An element is read from a payload exactly if its words are those of a name, a flag and a
format. -/
theorem isSome_element?_iff {line : Line}
    (hline : trim line.payload.toList = line.payload.toList) :
    (element? line).isSome = true ↔ ∃ token, HasStatus (words line.payload.toList) [token] ∧
      (Format.ofText? (String.ofList token)).isSome = true := by
  simp only [Option.isSome_iff_exists, element?_eq_some_iff hline, ← exists_saysStatus_iff]
  constructor
  · rintro ⟨element, name, flag, token, format, hstatus, hformat, -⟩
    exact ⟨token, ⟨name, flag, hstatus⟩, format, hformat⟩
  · rintro ⟨token, ⟨name, flag, hstatus⟩, format, hformat⟩
    exact ⟨_, name, flag, token, format, hstatus, hformat, rfl⟩

end Reading

end EdiSchema.Detail
