import Mathlib.Tactic.SplitIfs
import EdiSchema.Proofs.Detail.Layout
import EdiSchema.Proofs.Text.Digit

/-!
# Reading laid-out lines

Each column of a laid-out line is read back as what was put there. The payload is read from its
end, so nothing that a name contains can be taken for a later column.
-/

namespace EdiSchema

/-- The flag of a requirement stands for it. -/
theorem Requirement.ofFlag_flag (requirement : Requirement) :
    ofFlag (Detail.Layout.flag requirement) = requirement := by
  cases requirement <;> decide

namespace Detail

open Text Layout

/-- The last word of a text is what follows the last blanks. -/
theorem splitLastWord_append {front blanks word : List Char} (hfront : EndsSolid front)
    (hblanks : ∀ c ∈ blanks, isBlank c = true) (hne : blanks ≠ [])
    (hword : ∀ c ∈ word, isBlank c = false) :
    splitLastWord (front ++ blanks ++ word) = (front, word) := by
  have hreverse : ∀ c ∈ blanks.reverse, isBlank c = true :=
    fun c hc => hblanks c (List.mem_reverse.1 hc)
  have hcut : (front ++ blanks ++ word).reverse.span (fun c => !isBlank c) =
      (word.reverse, blanks.reverse ++ front.reverse) := by
    rw [List.reverse_append, List.reverse_append]
    refine span_append (fun c hc => by simp [hword c (List.mem_reverse.1 hc)]) fun c hc => ?_
    rw [List.head?_append_of_ne_nil _ (by simpa using hne)] at hc
    simp [hreverse c (List.mem_of_mem_head? hc)]
  rw [splitLastWord, hcut]
  simp [dropWhile_isBlank_append hreverse hfront.reverse]

namespace Layout

/-- Gaps are blank. -/
theorem isBlank_of_mem_gap {extra : ℕ} {c : Char} (hc : c ∈ gap extra) : isBlank c = true := by
  rw [gap, List.mem_replicate] at hc
  rw [hc.2]
  decide

/-- There is at least one blank between columns. -/
theorem gap_ne_nil (extra : ℕ) : gap extra ≠ [] := by
  simp [gap]

/-- Gaps stay on their line. -/
theorem newline_not_mem_gap (extra : ℕ) : '\n' ∉ gap extra := by
  simp [gap]

/-- A flag is solid. -/
theorem isBlank_flag (requirement : Requirement) : isBlank (flag requirement) = false := by
  cases requirement <;> decide

namespace Label

/-- A name has no blanks around it. -/
theorem trim_name (label : Label) : trim label.name.toList = label.name.toList := by
  have htrim := congrArg String.toList label.trimmed_name
  rwa [trimmed, String.toList_ofList] at htrim

/-- A label has a name. -/
theorem name_ne_nil (label : Label) : label.name.toList ≠ [] := by
  simpa using label.name_ne_empty

/-- A stem ends in its flag. -/
theorem endsSolid_stem (label : Label) : EndsSolid label.stem :=
  EndsSolid.append ⟨_, rfl, isBlank_flag label.requirement⟩ _

/-- The last word of a stem is the flag. -/
theorem splitLastWord_stem (label : Label) :
    splitLastWord label.stem = (label.name.toList, [flag label.requirement]) :=
  splitLastWord_append (endsSolid_of_trim label.trim_name label.name_ne_nil)
    (fun _ => isBlank_of_mem_gap) (gap_ne_nil _) (by simp [isBlank_flag])

/-- A stem is cut into its name and its flag. -/
theorem splitFlag?_stem (label : Label) :
    splitFlag? label.stem = some (label.name.toList, flag label.requirement) := by
  have hflag : flag label.requirement = 'M' ∨ flag label.requirement = 'C' := by
    cases label.requirement
    · exact .inl rfl
    · exact .inr rfl
  rw [splitFlag?, splitLastWord_stem]
  exact if_pos ⟨hflag, label.name_ne_nil⟩

/-- A label is cut into its name and its flag, with or without a count. -/
theorem splitStatus?_chars (label : Label) :
    splitStatus? label.chars = some (label.name.toList, flag label.requirement) := by
  rw [chars]
  split
  · have hflag : isDigits [flag label.requirement] = false := by
      cases label.requirement <;> decide
    simp only [splitStatus?, splitLastWord_stem, hflag, Bool.false_eq_true, if_false,
      splitFlag?_stem]
  · next count _ =>
    have hcut := splitLastWord_append label.endsSolid_stem
      (fun _ => isBlank_of_mem_gap) (gap_ne_nil label.countGap)
      (fun _ => isBlank_of_mem_decimal (n := count))
    simp only [splitStatus?, hcut, isDigits_decimal, if_true, splitFlag?_stem]

/-- A label is solid at its start. -/
theorem startsSolid_chars (label : Label) : StartsSolid label.chars := by
  have hname := startsSolid_of_trim label.trim_name label.name_ne_nil
  rw [chars]
  split
  · exact (hname.append _).append _
  · exact ((((hname.append _).append _).append _).append _)

/-- A label is solid at its end. -/
theorem endsSolid_chars (label : Label) : EndsSolid label.chars := by
  rw [chars]
  split
  · exact label.endsSolid_stem
  · exact (endsSolid_of_not_isBlank (decimal_ne_nil _)
      fun _ => isBlank_of_mem_decimal).append _

/-- A label stays on its line. -/
theorem newline_not_mem_chars (label : Label) : '\n' ∉ label.chars := by
  have hstem : '\n' ∉ label.stem := by
    have hflag : '\n' ≠ flag label.requirement := by cases label.requirement <;> decide
    simp [stem, label.newline_not_mem, newline_not_mem_gap, hflag]
  rw [chars]
  split
  · exact hstem
  · simp [hstem, newline_not_mem_gap, newline_not_mem_decimal]

end Label

namespace Lengths

/-- A length in decimal is read back. -/
theorem length?_decimal (n : UInt32) : Format.length? (decimal n.toNat).toList = some n := by
  have hdigits : (decimal n.toNat).toList.all Char.isDigit = true :=
    List.all_eq_true.2 fun _ => isDigit_of_mem_decimal
  have hne : (decimal n.toNat).toList.isEmpty = false :=
    List.isEmpty_eq_false_iff.2 (decimal_ne_nil _)
  rw [Format.length?, hdigits, hne, readCount32_decimal]
  rfl

/-- The digits in front of what is no digit are cut off. -/
theorem span_decimal (n : ℕ) (rest : List Char) (hrest : ∀ c ∈ rest.head?, c.isDigit = false) :
    ((decimal n).toList ++ rest).span Char.isDigit = ((decimal n).toList, rest) :=
  span_append (fun _ => isDigit_of_mem_decimal) hrest

/-- Written lengths are read back. -/
theorem range?_chars (lengths : Lengths) :
    Format.range? lengths.chars = some (lengths.min, lengths.max) := by
  have hdots : ∀ rest, ∀ c ∈ ('.' :: '.' :: rest).head?, c.isDigit = false := by
    rintro rest c ⟨⟩
    decide
  cases lengths with
  | upTo max =>
    have hcut : ('.' :: '.' :: (decimal max.toNat).toList).span Char.isDigit =
        ([], '.' :: '.' :: (decimal max.toNat).toList) :=
      span_append (List.forall_mem_nil _) (hdots _)
    simp [Format.range?, Lengths.chars, length?_decimal, Lengths.min, Lengths.max]
  | plain max =>
    have hcut := span_decimal max.toNat [] (by simp)
    have hmax := length?_decimal max
    obtain ⟨d, ds, hds⟩ := List.exists_cons_of_ne_nil (decimal_ne_nil max.toNat)
    rw [List.append_nil] at hcut
    rw [Format.range?, Lengths.chars, hcut]
    rw [hds] at hmax ⊢
    simp [hmax, Lengths.min, Lengths.max]
  | between min max =>
    have hcut := span_decimal min.toNat _ (hdots (decimal max.toNat).toList)
    have hmin := length?_decimal min
    obtain ⟨d, ds, hds⟩ := List.exists_cons_of_ne_nil (decimal_ne_nil min.toNat)
    rw [Format.range?, Lengths.chars, hcut]
    rw [hds] at hmin ⊢
    simp [hmin, length?_decimal, Lengths.min, Lengths.max]

/-- Lengths start with a digit or a dot. -/
theorem isLower_head?_chars (lengths : Lengths) : ∀ c ∈ lengths.chars.head?, c.isLower = false := by
  have hdigits : ∀ (n : ℕ) (rest : List Char), ∀ c ∈ ((decimal n).toList ++ rest).head?,
      c.isLower = false := by
    intro n rest c hc
    rw [List.head?_append_of_ne_nil _ (decimal_ne_nil n)] at hc
    exact isLower_of_isDigit (isDigit_of_mem_decimal (List.mem_of_mem_head? hc))
  cases lengths with
  | upTo max =>
    rintro c ⟨⟩
    decide
  | plain max => simpa [chars] using hdigits max.toNat []
  | between min max => exact hdigits min.toNat _

/-- Lengths have no blanks. -/
theorem isBlank_of_mem_chars (lengths : Lengths) : ∀ c ∈ lengths.chars, isBlank c = false := by
  have hdot : isBlank '.' = false := by decide
  have hdigits : ∀ (n : ℕ), ∀ c ∈ (decimal n).toList, isBlank c = false :=
    fun _ _ => isBlank_of_mem_decimal
  intro c hc
  cases lengths <;> simp only [chars, List.mem_append, List.mem_cons] at hc <;> grind

end Lengths

namespace Token

/-- A written format is read back. -/
theorem ofChars?_chars (token : Token) : Format.ofChars? token.chars = some token.format := by
  have hcut := span_append token.isLower_letters token.lengths.isLower_head?_chars
  have hne : token.letters.toList ≠ [] := by simpa using token.letters_ne_empty
  rw [Format.ofChars?, chars, hcut]
  split
  · next hnil => exact absurd (congrArg Prod.fst hnil) hne
  · next letters rest _ hletters =>
    cases hletters
    rw [token.lengths.range?_chars, String.ofList_toList]
    rfl

/-- A format has no blanks. -/
theorem isBlank_of_mem_chars (token : Token) : ∀ c ∈ token.chars, isBlank c = false := by
  intro c hc
  rw [chars, List.mem_append] at hc
  rcases hc with hc | hc
  · exact isBlank_of_isLower (token.isLower_letters c hc)
  · exact token.lengths.isBlank_of_mem_chars c hc

theorem chars_ne_nil (token : Token) : token.chars ≠ [] := by
  simp [chars, token.letters_ne_empty]

end Token

end Layout

/-- A code has no blanks. -/
theorem isBlank_of_codeKind? {word : List Char} {kind : LineKind}
    (hword : codeKind? word = some kind) :
    ∀ c ∈ word, isBlank c = false := by
  have hdigits : ∀ ds : List Char, ds.all Text.isDigit = true → ∀ c ∈ ds, isBlank c = false :=
    fun ds hds c hc => isBlank_of_isDigit_of_any_script (List.all_eq_true.1 hds c hc)
  have hS : isBlank 'S' = false := by decide
  have hC : isBlank 'C' = false := by decide
  cases word with
  | nil => exact List.forall_mem_nil _
  | cons first rest =>
    rw [codeKind?] at hword
    split_ifs at hword with hcomposite helement
    · obtain ⟨hfirst, -, hrest⟩ := hcomposite
      refine List.forall_mem_cons.2 ⟨?_, hdigits rest hrest⟩
      rcases hfirst with rfl | rfl
      · exact hS
      · exact hC
    · exact hdigits _ helement.2

/-- A code stays on its line. -/
theorem newline_not_mem_of_codeKind? {word : List Char} {kind : LineKind}
    (hword : codeKind? word = some kind) : '\n' ∉ word :=
  fun hmem => absurd (isBlank_of_codeKind? hword _ hmem) (by decide)

/-- A code is longer than a position number. -/
theorem isPosition_of_codeKind? {word : List Char} {kind : LineKind}
    (hword : codeKind? word = some kind) : isPosition word = false := by
  have hlength : word.length ≠ 3 := by
    cases word with
    | nil => simp
    | cons first rest =>
      rw [codeKind?] at hword
      split_ifs at hword with hcomposite helement
      · rw [List.length_cons]
        omega
      · omega
  simp [isPosition, hlength]

/-- A line of code and payload is cut into the two. -/
theorem splitLine?_columns {kind : LineKind} {code payload : List Char} (extra : ℕ)
    (hcode : codeKind? code = some kind) (hpayload : StartsSolid payload) :
    splitLine? (code ++ (gap extra ++ payload)) = some (kind, code, payload) := by
  have hcut : splitWord (code ++ (gap extra ++ payload)) = (code, gap extra ++ payload) := by
    refine splitWord_append (isBlank_of_codeKind? hcode) fun c hc => ?_
    rw [List.head?_append_of_ne_nil _ (gap_ne_nil extra)] at hc
    exact isBlank_of_mem_gap (List.mem_of_mem_head? hc)
  have htrim : trimStart (gap extra ++ payload) = payload :=
    dropWhile_isBlank_append (fun _ => isBlank_of_mem_gap) hpayload
  simp [splitLine?, splitCode?, hcut, isPosition_of_codeKind? hcode, hcode, htrim]

/-- A margin is blank. -/
theorem isBlank_of_mem_spaces (n : ℕ) : ∀ c ∈ List.replicate n ' ', isBlank c = true := by
  intro c hc
  rw [List.eq_of_mem_replicate hc]
  decide

/-- Spaces in front of a line add to its width one by one. -/
theorem blankWidth_append_spaces (tabWidth n : ℕ) (cs : List Char) :
    blankWidth tabWidth (List.replicate n ' ' ++ cs) = n + blankWidth tabWidth cs := by
  induction n with
  | zero => simp
  | succ n ih =>
    have hspace : isBlank ' ' = true := by decide
    rw [List.replicate_succ, List.cons_append, blankWidth, if_pos hspace, ih,
      if_neg (by decide)]
    omega

/-- A width that fits in a word is added up as it is. -/
theorem leadingWidth_of_lt {tabWidth : ℕ} {cs : List Char}
    (hfits : blankWidth tabWidth cs < wordSize) : leadingWidth tabWidth cs = blankWidth tabWidth cs := by
  rw [leadingWidth, Nat.mod_eq_of_lt hfits, ite_self]

/-- In front of a text there are no blanks but the spaces put there. -/
theorem leadingWidth_replicate {tabWidth : ℕ} (n : ℕ) {cs : List Char} (hcs : StartsSolid cs) :
    leadingWidth tabWidth (List.replicate n ' ' ++ cs) = n := by
  obtain ⟨c, hc, hsolid⟩ := hcs
  obtain ⟨rest, rfl⟩ := List.head?_eq_some_iff.1 hc
  have hwidth : blankWidth tabWidth (List.replicate n ' ' ++ c :: rest) = n := by
    rw [blankWidth_append_spaces, blankWidth, hsolid]
    simp
  have hnoTab : '\t' ∉ (List.replicate n ' ' ++ c :: rest).takeWhile isBlank := by
    rw [List.takeWhile_append_of_pos (isBlank_of_mem_spaces n),
      List.takeWhile_cons_of_neg (by simp [hsolid]), List.append_nil]
    exact fun htab => absurd (List.eq_of_mem_replicate htab) (by decide)
  rw [leadingWidth, if_neg hnoTab, hwidth]

/-- An indented line of code and payload is recognised with its level. -/
theorem Line.ofText?_columns {tabWidth : ℕ} {kind : LineKind} {code payload : List Char}
    (level extra : ℕ) (hwidth : 1 ≤ tabWidth) (hcode : codeKind? code = some kind)
    (hstart : StartsSolid payload) (hend : EndsSolid payload) (hline : '\n' ∉ payload) :
    Line.ofText? tabWidth (String.ofList (List.replicate (level * tabWidth) ' ' ++
      (code ++ (gap extra ++ payload)))) =
      some ⟨kind, level, String.ofList code, String.ofList payload⟩ := by
  have hne : code ≠ [] := by
    rintro rfl
    simp [codeKind?] at hcode
  have hsolid : StartsSolid (code ++ (gap extra ++ payload)) :=
    (startsSolid_of_not_isBlank hne (isBlank_of_codeKind? hcode)).append _
  have htrim : trim (List.replicate (level * tabWidth) ' ' ++ (code ++ (gap extra ++ payload))) =
      code ++ (gap extra ++ payload) :=
    trim_append (isBlank_of_mem_spaces _) hsolid ((hend.append _).append _)
  have hlevel : level * tabWidth / max tabWidth 1 = level := by
    rw [Nat.max_eq_left hwidth, Nat.mul_div_cancel level hwidth]
  simp only [Line.ofText?, String.toList_ofList, htrim, splitLine?_columns extra hcode hstart,
    hline, if_false, leadingWidth_replicate _ hsolid, hlevel]

namespace Layout

namespace ElementRow

/-- The code of an element is told by its digits. -/
theorem codeKind?_code (row : ElementRow) : codeKind? row.code.toList = some .element := by
  have hlength := row.length_code
  have hdigits := row.isDigit_code
  cases hcode : row.code.toList with
  | nil => simp [hcode] at hlength
  | cons first rest =>
    rw [hcode] at hlength hdigits
    have hletter : ¬(first = 'S' ∨ first = 'C') := by
      rintro (rfl | rfl)
      · exact absurd (hdigits _ List.mem_cons_self) (by decide)
      · exact absurd (hdigits _ List.mem_cons_self) (by decide)
    rw [codeKind?, if_neg fun h => hletter h.1, if_pos ⟨hlength, List.all_eq_true.2 hdigits⟩]

/-- The payload of an element starts with its label. -/
theorem startsSolid_payload (row : ElementRow) : StartsSolid row.payload :=
  (row.label.startsSolid_chars.append _).append _

/-- The payload of an element ends in its format. -/
theorem endsSolid_payload (row : ElementRow) : EndsSolid row.payload :=
  (endsSolid_of_not_isBlank row.token.chars_ne_nil row.token.isBlank_of_mem_chars).append _

theorem newline_not_mem_payload (row : ElementRow) : '\n' ∉ row.payload := by
  have htoken : '\n' ∉ row.token.chars :=
    fun hc => absurd (row.token.isBlank_of_mem_chars _ hc) (by decide)
  simp [payload, row.label.newline_not_mem_chars, newline_not_mem_gap, htoken]

theorem endsSolid_chars (row : ElementRow) : EndsSolid row.chars :=
  row.endsSolid_payload.append _

theorem newline_not_mem_chars (row : ElementRow) : '\n' ∉ row.chars := by
  simp [chars, newline_not_mem_of_codeKind? row.codeKind?_code, newline_not_mem_gap,
    row.newline_not_mem_payload]

/-- The recognised line of an element at a level. -/
def line (level : ℕ) (row : ElementRow) : Line where
  kind := .element
  level := level
  code := row.code
  payload := String.ofList row.payload

/-- The element of a line is read back. -/
theorem element?_line (level : ℕ) (row : ElementRow) :
    element? (row.line level) = some row.element := by
  have hcut : splitLastWord row.payload = (row.label.chars, row.token.chars) :=
    splitLastWord_append row.label.endsSolid_chars (fun _ => isBlank_of_mem_gap)
      (gap_ne_nil row.tokenGap) row.token.isBlank_of_mem_chars
  simp [element?, line, hcut, row.label.splitStatus?_chars, row.token.ofChars?_chars,
    Requirement.ofFlag_flag, ElementRow.element]

/-- The indented line of an element is recognised. -/
theorem ofText?_chars {tabWidth : ℕ} (hwidth : 1 ≤ tabWidth) (level : ℕ) (row : ElementRow) :
    Line.ofText? tabWidth (String.ofList (List.replicate (level * tabWidth) ' ' ++ row.chars)) =
      some (row.line level) := by
  have hline := Line.ofText?_columns level row.label.nameGap hwidth row.codeKind?_code
    row.startsSolid_payload row.endsSolid_payload row.newline_not_mem_payload
  rwa [← List.append_assoc row.code.toList, String.ofList_toList] at hline

end ElementRow

namespace CompositeRow

/-- The code of a composite is told by its letter. -/
theorem codeKind?_code (row : CompositeRow) : codeKind? row.code.toList = some .composite := by
  rw [code, String.toList_ofList, codeKind?,
    if_pos ⟨row.letter_eq, row.length_digits, List.all_eq_true.2 row.isDigit_digits⟩]

theorem endsSolid_chars (row : CompositeRow) : EndsSolid row.chars :=
  row.label.endsSolid_chars.append _

theorem newline_not_mem_chars (row : CompositeRow) : '\n' ∉ row.chars := by
  simp [chars, newline_not_mem_of_codeKind? row.codeKind?_code, newline_not_mem_gap,
    row.label.newline_not_mem_chars]

/-- The recognised line of a composite. -/
def line (row : CompositeRow) : Line where
  kind := .composite
  level := 0
  code := row.code
  payload := String.ofList row.label.chars

/-- The composite of a line is read back without its components. -/
theorem composite_line (row : CompositeRow) :
    Detail.composite row.line = { row.composite with components := [] } := by
  simp [Detail.composite, line, row.label.splitStatus?_chars, Requirement.ofFlag_flag,
    CompositeRow.composite]

/-- The line of a composite is recognised. -/
theorem ofText?_chars {tabWidth : ℕ} (hwidth : 1 ≤ tabWidth) (row : CompositeRow) :
    Line.ofText? tabWidth (String.ofList row.chars) = some row.line := by
  have hline := Line.ofText?_columns 0 row.label.nameGap hwidth row.codeKind?_code
    row.label.startsSolid_chars row.label.endsSolid_chars row.label.newline_not_mem_chars
  rwa [← List.append_assoc row.code.toList, String.ofList_toList, Nat.zero_mul, List.replicate_zero,
    List.nil_append] at hline

end CompositeRow

end Layout

end Detail

end EdiSchema
