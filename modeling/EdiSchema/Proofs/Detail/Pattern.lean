import Mathlib.Computability.Language
import EdiSchema.Proofs.Detail.Format
import EdiSchema.Proofs.Detail.Grammar

/-!
# The pattern of an element

What the payload of an element looks like is a regular language, in which the lengths of the format
may have digits of any script. The payloads that are read as elements belong to it. The others that
do are those with a length that is not in ASCII or too large for 32 bits; nothing else is rejected.
-/

namespace EdiSchema.Detail

open Text

namespace Pattern

/-- The texts made of characters with a property. -/
def any (p : Char → Bool) : Language Char :=
  {cs | ∀ c ∈ cs, p c = true}

/-- The texts made of at least one character with a property. -/
def many (p : Char → Bool) : Language Char :=
  {cs | cs ≠ [] ∧ ∀ c ∈ cs, p c = true}

/-- The two dots of a range. -/
def dots : Language Char :=
  {['.', '.']}

/-- The letters of the flags. -/
def flag : Language Char :=
  {['M'], ['C']}

/-- A count with the blanks in front of it, or nothing. -/
def count : Language Char :=
  1 + many isBlank * many isDigit

/-- A letter class and a range of lengths. -/
def format : Language Char :=
  many Char.isLower * (any isDigit * dots * many isDigit + many isDigit)

/-- A name on one line and the blanks behind it. -/
def stem : Language Char :=
  many (· != '\n') * many isBlank

/-- What follows a flag: maybe a count, and a format. -/
def ending : Language Char :=
  count * (many isBlank * (format * any isBlank))

/-- A name, a flag, maybe a count, and a format, with blanks between them. -/
def element : Language Char :=
  stem * flag * ending

variable {cs : List Char} {p : Char → Bool}

theorem mem_many : cs ∈ many p ↔ cs ≠ [] ∧ ∀ c ∈ cs, p c = true := Iff.rfl

theorem mem_flag : cs ∈ flag ↔ ∃ letter, cs = [letter] ∧ (letter = 'M' ∨ letter = 'C') := by
  constructor
  · rintro (rfl | rfl)
    · exact ⟨'M', rfl, .inl rfl⟩
    · exact ⟨'C', rfl, .inr rfl⟩
  · rintro ⟨letter, rfl, rfl | rfl⟩
    · exact .inl rfl
    · exact .inr rfl

/-- A run of digits is a text of many digits. -/
theorem mem_many_isDigit : cs ∈ many isDigit ↔ isDigits cs = true := by
  simp [mem_many, isDigits]

theorem mem_count :
    cs ∈ count ↔ cs = [] ∨ ∃ gap digits, cs = gap ++ digits ∧ gap ∈ many isBlank ∧
      isDigits digits = true := by
  rw [count, Language.mem_add, Language.mem_one, Language.mem_mul]
  refine or_congr_right ⟨?_, ?_⟩
  · rintro ⟨gap, hgap, digits, hdigits, rfl⟩
    exact ⟨gap, digits, rfl, hgap, mem_many_isDigit.1 hdigits⟩
  · rintro ⟨gap, digits, rfl, hgap, hdigits⟩
    exact ⟨gap, hgap, digits, mem_many_isDigit.2 hdigits, rfl⟩

/-- The texts of the pattern of a format are those that spell one. -/
theorem mem_format :
    cs ∈ format ↔ ∃ letters extent, IsSpelled letters extent ∧ cs = letters ++ extent.chars := by
  rw [format, Language.mem_mul]
  constructor
  · rintro ⟨letters, ⟨hne, hlower⟩, lengths, hlengths, rfl⟩
    rw [Language.mem_add] at hlengths
    rcases hlengths with hrange | hplain
    · rw [Language.mem_mul] at hrange
      obtain ⟨front, hfront, max, hmax, rfl⟩ := hrange
      obtain ⟨min, hmin, _, rfl, rfl⟩ := Language.mem_mul.1 hfront
      rw [mem_many_isDigit] at hmax
      rcases eq_or_ne min [] with rfl | hmin'
      · exact ⟨letters, .upTo max, ⟨hne, hlower, by simpa [Extent.lengths] using hmax⟩, rfl⟩
      · have hdigits := mem_many_isDigit.1 ⟨hmin', hmin⟩
        refine ⟨letters, .between min max, ⟨hne, hlower, ?_⟩, by simp [Extent.chars]⟩
        simpa [Extent.lengths] using ⟨hdigits, hmax⟩
    · rw [mem_many_isDigit] at hplain
      exact ⟨letters, .plain lengths, ⟨hne, hlower, by simpa [Extent.lengths] using hplain⟩, rfl⟩
  · rintro ⟨letters, extent, hspelled, rfl⟩
    refine ⟨letters, ⟨hspelled.letters_ne_nil, hspelled.isLower_letters⟩, _, ?_, rfl⟩
    have hlengths := hspelled.isDigits_lengths
    simp only [← mem_many_isDigit] at hlengths
    cases extent with
    | plain max => exact .inr (hlengths max List.mem_cons_self)
    | upTo max =>
      have hmax := hlengths max List.mem_cons_self
      exact .inl ⟨_, ⟨[], List.forall_mem_nil _, _, rfl, rfl⟩, max, hmax, rfl⟩
    | between min max =>
      have hmin := (hlengths min List.mem_cons_self).2
      have hmax := hlengths max (by simp [Extent.lengths])
      exact .inl ⟨_, ⟨min, hmin, _, rfl, rfl⟩, max, hmax, by simp [Extent.chars]⟩

theorem isWord_flag {letter : Char} (hflag : letter = 'M' ∨ letter = 'C') : IsWord [letter] := by
  refine ⟨by simp, List.forall_mem_singleton.2 ?_⟩
  rcases hflag with rfl | rfl <;> decide

/-- A word with a gap in front of it is the first word. -/
theorem words_gap_append {gap word rest : List Char} (hgap : gap ∈ many isBlank)
    (hword : IsWord word) (hrest : ∀ c ∈ rest.head?, isBlank c = true) :
    words (gap ++ word ++ rest) = word :: words rest := by
  have hcut : Cut (gap ++ word ++ rest) gap word rest :=
    ⟨rfl, hword, fun c hc => hgap.2 c (List.mem_of_mem_getLast? hc), hrest⟩
  rw [hcut.words_eq, words_of_isBlank hgap.2, List.nil_append]

theorem head?_gap_append {gap : List Char} (hgap : gap ∈ many isBlank) (cs : List Char) :
    ∀ c ∈ (gap ++ cs).head?, isBlank c = true := by
  intro c hc
  rw [List.head?_append_of_ne_nil _ hgap.1] at hc
  exact hgap.2 c (List.mem_of_mem_head? hc)

/-- The texts in front of a flag are those that hold a word and end in a blank. -/
theorem mem_stem {front : List Char} (hline : '\n' ∉ front)
    (hstart : front = [] ∨ StartsSolid front) :
    front ∈ stem ↔ words front ≠ [] ∧ ∀ c ∈ front.getLast?, isBlank c = true := by
  constructor
  · intro hmem
    obtain ⟨name, hname, gap, hgap, rfl⟩ := Language.mem_mul.1 hmem
    refine ⟨fun hnone => ?_, fun c hc => ?_⟩
    · obtain ⟨c, hc, hsolid⟩ := hstart.resolve_left (by simp [hname.1])
      simp [isBlank_of_words_eq_nil hnone c (List.mem_of_mem_head? hc)] at hsolid
    · rw [List.getLast?_append_of_ne_nil _ hgap.1] at hc
      exact hgap.2 c (List.mem_of_mem_getLast? hc)
  · rintro ⟨hwords, hends⟩
    obtain ⟨gap, hfront, hgap⟩ := exists_blanks_trimEnd front
    have hname : trimEnd front ≠ [] := fun hnil => hwords (trimEnd_eq_nil_iff.1 hnil)
    have hgap_ne : gap ≠ [] := by
      rintro rfl
      obtain ⟨c, hc, hsolid⟩ := endsSolid_trimEnd hname
      rw [List.append_nil] at hfront
      rw [← hfront] at hc
      simp [hends c hc] at hsolid
    refine Language.mem_mul.2 ⟨trimEnd front, ⟨hname, fun c hc => ?_⟩, gap, ⟨hgap_ne, hgap⟩,
      hfront.symm⟩
    rw [bne_iff_ne]
    rintro rfl
    exact hline (hfront ▸ List.mem_append_left _ hc)

/-- The texts behind a flag are those that start with a blank and have a count, or none, and a
format for their words. -/
theorem mem_ending :
    cs ∈ ending ↔ (∀ c ∈ cs.head?, isBlank c = true) ∧ ∃ ws token,
      (ws = [] ∨ ∃ digits, ws = [digits] ∧ isDigits digits = true) ∧
        words cs = ws ++ [token] ∧ token ∈ format := by
  constructor
  · intro hmem
    simp only [ending, Language.mem_mul] at hmem
    obtain ⟨front, hfront, _, ⟨gap, hgap, _, ⟨token, htoken, blanks, hblanks, rfl⟩, rfl⟩, rfl⟩ :=
      hmem
    obtain ⟨letters, extent, hspelled, rfl⟩ := mem_format.1 htoken
    have hlast : words (gap ++ ((letters ++ extent.chars) ++ blanks)) = [letters ++ extent.chars] := by
      rw [← List.append_assoc, words_gap_append hgap hspelled.isWord
        fun c hc => hblanks c (List.mem_of_mem_head? hc), words_of_isBlank hblanks]
    have hlast_starts := head?_gap_append hgap ((letters ++ extent.chars) ++ blanks)
    rcases mem_count.1 hfront with rfl | ⟨gap', digits, rfl, hgap', hdigits⟩
    · exact ⟨hlast_starts, [], _, .inl rfl, hlast, htoken⟩
    · refine ⟨?_, [digits], _, .inr ⟨digits, rfl, hdigits⟩, ?_, htoken⟩
      · rw [List.append_assoc]
        exact head?_gap_append hgap' _
      · rw [words_gap_append hgap' (isWord_of_isDigits hdigits) hlast_starts, hlast]
        rfl
  · rintro ⟨hstarts, ws, token, hws, hwords, htoken⟩
    obtain ⟨front, last, rfl, hfront, hlast_starts, hlast⟩ : ∃ front last,
        cs = front ++ last ∧ front ∈ count ∧ (∀ c ∈ last.head?, isBlank c = true) ∧
        words last = [token] := by
      rcases hws with rfl | ⟨digits, rfl, hdigits⟩
      · exact ⟨[], cs, rfl, mem_count.2 (.inl rfl), hstarts, hwords⟩
      · obtain ⟨gap, last, hcut, hne, hgap, hlast⟩ := exists_gap_of_words_eq_cons hstarts hwords
        exact ⟨gap ++ digits, last, hcut.eq,
          mem_count.2 (.inr ⟨gap, digits, rfl, ⟨hne, hgap⟩, hdigits⟩), hcut.rest_starts, hlast⟩
    obtain ⟨gap, blanks, hcut, hne, hgap, hblanks⟩ :=
      exists_gap_of_words_eq_cons hlast_starts hlast
    have hend : token ++ blanks ∈ format * any isBlank :=
      Language.mem_mul.2 ⟨token, htoken, blanks, isBlank_of_words_eq_nil hblanks, rfl⟩
    rw [ending, Language.mem_mul]
    refine ⟨front, hfront, last, Language.mem_mul.2 ⟨gap, ⟨hne, hgap⟩, _, hend, ?_⟩, rfl⟩
    rw [hcut.eq, List.append_assoc]

/-- The texts of the pattern of an element are those of a name, a flag, maybe a count, and a
format. -/
theorem mem_element (hcs : trim cs = cs) (hline : '\n' ∉ cs) :
    cs ∈ element ↔ ∃ token, HasStatus (words cs) [token] ∧ token ∈ format := by
  -- What stands in front of the flag is on the line as well, and as solid at its start.
  have hfront : ∀ {front letter rest}, cs = front ++ [letter] ++ rest →
      '\n' ∉ front ∧ (front = [] ∨ StartsSolid front) := by
    rintro front letter rest rfl
    refine ⟨fun hmem => hline (by simp [hmem]), ?_⟩
    rcases eq_or_ne front [] with rfl | hne
    · exact .inl rfl
    · obtain ⟨c, hc, hsolid⟩ := startsSolid_of_trim hcs (by simp)
      rw [List.append_assoc, List.head?_append_of_ne_nil _ hne] at hc
      exact .inr ⟨c, hc, hsolid⟩
  constructor
  · intro hmem
    simp only [element, Language.mem_mul] at hmem
    obtain ⟨_, ⟨front, hstem, _, hletter, rfl⟩, rest, hrest, hwhole⟩ := hmem
    obtain ⟨letter, rfl, hflag⟩ := mem_flag.1 hletter
    obtain ⟨hname, hends⟩ := (mem_stem (hfront hwhole.symm).1 (hfront hwhole.symm).2).1 hstem
    obtain ⟨hstarts, ws, token, hws, hwords, htoken⟩ := mem_ending.1 hrest
    have hcut : Cut cs front [letter] rest := ⟨hwhole.symm, isWord_flag hflag, hends, hstarts⟩
    refine ⟨token, ⟨words front, letter, ws, ?_, hname, hflag, hws⟩, htoken⟩
    rw [hcut.words_eq, hwords]
  · rintro ⟨token, ⟨before, letter, ws, hwords, hne, hflag, hws⟩, htoken⟩
    obtain ⟨front, rest, hcut, rfl, hrest⟩ := exists_cut hwords
    have hstem := (mem_stem (hfront hcut.eq).1 (hfront hcut.eq).2).2 ⟨hne, hcut.front_ends⟩
    have hending := mem_ending.2 ⟨hcut.rest_starts, ws, token, hws, hrest, htoken⟩
    rw [element, Language.mem_mul]
    refine ⟨front ++ [letter], Language.mem_mul.2 ⟨front, hstem, [letter], ?_, rfl⟩, rest, hending,
      hcut.eq.symm⟩
    exact mem_flag.2 ⟨letter, rfl, hflag⟩

end Pattern

/-- A letter class is known from the data type it stands for. -/
theorem ofLetterClass_injective : Function.Injective DataType.ofLetterClass := by
  intro letters letters' hsame
  unfold DataType.ofLetterClass at hsame
  split_ifs at hsame <;> simp_all

/-- A format that is written in ASCII is read back. -/
theorem Format.ofText?_spelled {letters : String} (hne : letters ≠ "")
    (hlower : ∀ c ∈ letters.toList, c.isLower = true) (min max : UInt32) :
    ofText? (String.ofList (letters.toList ++ ((decimal min.toNat).toList ++
      '.' :: '.' :: (decimal max.toNat).toList))) =
        some ⟨.ofLetterClass letters, min, max⟩ := by
  let token : Layout.Token := ⟨letters, .between min max, hne, hlower⟩
  change ofText? (String.ofList token.chars) = some token.format
  rw [ofText?, String.toList_ofList, trim_of_not_isBlank token.isBlank_of_mem_chars,
    token.ofChars?_chars]

section Rejection

variable {line : Line}

/-- Where an element is read, its payload has the pattern of one. -/
theorem mem_element_of_isSome (hline : trim line.payload.toList = line.payload.toList)
    (hnewline : '\n' ∉ line.payload.toList) (hsome : (element? line).isSome = true) :
    line.payload.toList ∈ Pattern.element := by
  obtain ⟨token, hstatus, hread⟩ := (isSome_element?_iff hline).1 hsome
  obtain ⟨format, hformat⟩ := Option.isSome_iff_exists.1 hread
  obtain ⟨letters, extent, hspelled, htoken, -⟩ := Format.ofText?_eq_some_iff.1 hformat
  have hword : IsWord token := isWord_of_mem_words (List.mem_of_getLast? hstatus.getLast?_eq)
  rw [String.toList_ofList, hword.trim_eq] at htoken
  exact (Pattern.mem_element hline hnewline).2
    ⟨token, hstatus, Pattern.mem_format.2 ⟨letters, extent, hspelled, htoken⟩⟩

/-- A payload with the pattern of an element is rejected for a length that does not fit, and for
nothing else. -/
theorem element?_eq_none_iff (hline : trim line.payload.toList = line.payload.toList)
    (hnewline : '\n' ∉ line.payload.toList) (hmem : line.payload.toList ∈ Pattern.element) :
    element? line = none ↔ ∃ letters extent, IsSpelled letters extent ∧
      (words line.payload.toList).getLast? = some (letters ++ extent.chars) ∧
      ∃ digits ∈ extent.lengths, ¬ Fits digits := by
  obtain ⟨token, hstatus, htoken⟩ := (Pattern.mem_element hline hnewline).1 hmem
  obtain ⟨letters, extent, hspelled, rfl⟩ := Pattern.mem_format.1 htoken
  -- The last word is the only one that may be read as a format.
  have hread : (element? line).isSome = true ↔ ∀ digits ∈ extent.lengths, Fits digits := by
    rw [isSome_element?_iff hline, ← Format.isSome_ofText?_iff hspelled]
    constructor
    · rintro ⟨token, hstatus', hsome⟩
      obtain rfl := Option.some.inj (hstatus'.getLast?_eq.symm.trans hstatus.getLast?_eq)
      exact hsome
    · exact fun hsome => ⟨_, hstatus, hsome⟩
  rw [← Option.not_isSome_iff_eq_none, hread]
  push Not
  constructor
  · rintro ⟨digits, hdigits, hnot⟩
    exact ⟨letters, extent, hspelled, hstatus.getLast?_eq, digits, hdigits, hnot⟩
  · rintro ⟨letters', extent', hspelled', hlast, digits, hdigits, hnot⟩
    rw [hstatus.getLast?_eq, Option.some.injEq] at hlast
    obtain ⟨-, rfl⟩ := hspelled.unique hspelled' hlast
    exact ⟨digits, hdigits, hnot⟩

end Rejection

/-- A format is read exactly from a text that spells one with lengths that fit, and as what it
spells. A letter class and lengths that are written as a range are read back, the class being known
from its data type. A line with the pattern of an element is read as one unless a length of its
format, the last word of the payload, does not fit. -/
theorem format_grammar :
    (∀ text format, Format.ofText? text = some format ↔
      ∃ letters extent, IsSpelled letters extent ∧ trim text.toList = letters ++ extent.chars ∧
        (∀ digits ∈ extent.lengths, Fits digits) ∧ format = extent.format letters) ∧
    ((∀ letters : String, letters ≠ "" → (∀ c ∈ letters.toList, c.isLower = true) →
      ∀ min max : UInt32, Format.ofText? (String.ofList (letters.toList ++
        ((decimal min.toNat).toList ++ '.' :: '.' :: (decimal max.toNat).toList))) =
          some ⟨.ofLetterClass letters, min, max⟩) ∧
      Function.Injective DataType.ofLetterClass) ∧
    ∀ tabWidth text line, Line.ofText? tabWidth text = some line →
      ((element? line).isSome = true → line.payload.toList ∈ Pattern.element) ∧
      (line.payload.toList ∈ Pattern.element → (element? line = none ↔
        ∃ letters extent, IsSpelled letters extent ∧
          (words line.payload.toList).getLast? = some (letters ++ extent.chars) ∧
          ∃ digits ∈ extent.lengths, ¬ Fits digits)) := by
  refine ⟨fun _ _ => Format.ofText?_eq_some_iff,
    ⟨fun _ hne hlower => Format.ofText?_spelled hne hlower, ofLetterClass_injective⟩,
    fun tabWidth text line hread => ?_⟩
  obtain ⟨-, hpayload⟩ := Line.isOf_of_ofText? hread
  have hnewline := Line.newline_not_mem_payload hread
  exact ⟨mem_element_of_isSome hpayload hnewline, element?_eq_none_iff hpayload hnewline⟩

/-- A length in digits of another script has the pattern of one, but is not read. -/
theorem format_grammar_rejected :
    let text := "1225 Limit C an2..٣٥"
    let line : Line := ⟨.element, 0, "1225", "Limit C an2..٣٥"⟩
    ("an" ≠ "" ∧ (∀ c ∈ "an".toList, c.isLower = true) ∧
      Format.ofText? (String.ofList ("an".toList ++ ((decimal (2 : UInt32).toNat).toList ++
        '.' :: '.' :: (decimal (35 : UInt32).toNat).toList))) = some ⟨.alphanumeric, 2, 35⟩) ∧
    Line.ofText? 3 text = some line ∧ line.payload.toList ∈ Pattern.element ∧
    element? line = none := by
  intro text line
  have hne : "an" ≠ "" := by decide
  have hlower : ∀ c ∈ "an".toList, c.isLower = true := List.all_eq_true.1 (by decide)
  have hread : Line.ofText? 3 text = some line := by decide +kernel
  have hspelled : IsSpelled "an".toList (.between ['2'] ['٣', '٥']) :=
    ⟨by decide, hlower, by decide⟩
  have hmem : line.payload.toList ∈ Pattern.element :=
    (Pattern.mem_element (by decide +kernel) (by decide)).2
      ⟨"an2..٣٥".toList, ⟨[ "Limit".toList], 'C', [], by decide +kernel, by decide, .inr rfl, .inl rfl⟩,
        Pattern.mem_format.2 ⟨_, _, hspelled, by decide⟩⟩
  refine ⟨⟨hne, hlower, format_grammar.2.1.1 "an" hne hlower 2 35⟩, hread, hmem, ?_⟩
  refine ((format_grammar.2.2 3 text line hread).2 hmem).2
    ⟨_, _, hspelled, by decide +kernel, ['٣', '٥'], by decide, fun hfits => ?_⟩
  exact absurd (hfits.isDigit '٣' (by decide)) (by decide)

end EdiSchema.Detail
