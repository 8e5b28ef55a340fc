import EdiSchema.Proofs.Detail.Reading
import EdiSchema.Proofs.Text.Words

/-!
# The grammar of a format

A format is a letter class and an extent in one of three spellings: a greatest length, two dots and
a greatest length, or a least length, two dots and a greatest length. A length is a run of digits.

The digits may be of any script as far as the spelling goes, but a length is read only if they are
ASCII and its value fits 32 bits.
-/

namespace EdiSchema.Detail

open Text

/-- The range of lengths of an element as it is spelled. -/
inductive Extent where
  /-- The greatest length alone. -/
  | plain (max : List Char)
  /-- Two dots and the greatest length. -/
  | upTo (max : List Char)
  /-- The least length, two dots and the greatest length. -/
  | between (min max : List Char)

namespace Extent

/-- The text of an extent. -/
def chars : Extent → List Char
  | .plain max => max
  | .upTo max => '.' :: '.' :: max
  | .between min max => min ++ '.' :: '.' :: max

/-- The lengths that are spelled. -/
def lengths : Extent → List (List Char)
  | .plain max => [max]
  | .upTo max => [max]
  | .between min max => [min, max]

/-- The least length; it is one unless it is spelled. -/
def min : Extent → ℕ
  | .plain _ => 1
  | .upTo _ => 1
  | .between min _ => Nat.ofDigitChars 10 min 0

/-- The greatest length. -/
def max : Extent → ℕ
  | .plain max => Nat.ofDigitChars 10 max 0
  | .upTo max => Nat.ofDigitChars 10 max 0
  | .between _ max => Nat.ofDigitChars 10 max 0

/-- What a letter class and an extent say. -/
def format (letters : List Char) (extent : Extent) : Format where
  dataType := .ofLetterClass (String.ofList letters)
  minLength := .ofNat extent.min
  maxLength := .ofNat extent.max

end Extent

/-- Whether a letter class and an extent are spelled as they should be, with digits of any
script. -/
structure IsSpelled (letters : List Char) (extent : Extent) : Prop where
  letters_ne_nil : letters ≠ []
  isLower_letters : ∀ c ∈ letters, c.isLower = true
  isDigits_lengths : ∀ digits ∈ extent.lengths, isDigits digits = true

/-- Whether the digits of a length are in ASCII and its value fits 32 bits. -/
structure Fits (digits : List Char) : Prop where
  isDigit : ∀ c ∈ digits, c.isDigit = true
  lt_size : Nat.ofDigitChars 10 digits 0 < UInt32.size

theorem Fits.isDigits {digits : List Char} (hfits : Fits digits) (hne : digits ≠ []) :
    isDigits digits = true := by
  rw [Text.isDigits, Bool.and_eq_true, Bool.not_eq_true', List.isEmpty_eq_false_iff]
  refine ⟨hne, List.all_eq_true.2 fun c hc => ?_⟩
  rw [Text.isDigit, hfits.isDigit c hc, Bool.true_or]

/-- A length is a word. -/
theorem isWord_of_isDigits {digits : List Char} (hdigits : isDigits digits = true) :
    IsWord digits := by
  rw [isDigits, Bool.and_eq_true, Bool.not_eq_true', List.isEmpty_eq_false_iff] at hdigits
  exact ⟨hdigits.1, fun c hc =>
    isBlank_of_isDigit_of_any_script (List.all_eq_true.1 hdigits.2 c hc)⟩

namespace IsSpelled

variable {letters : List Char} {extent : Extent}

theorem length_ne_nil (hspelled : IsSpelled letters extent) {digits : List Char}
    (hdigits : digits ∈ extent.lengths) : digits ≠ [] := by
  rintro rfl
  cases hspelled.isDigits_lengths _ hdigits

/-- The letters in front of an extent are cut off. -/
theorem span_isLower (hspelled : IsSpelled letters extent) :
    (letters ++ extent.chars).span Char.isLower = (letters, extent.chars) := by
  refine span_append hspelled.isLower_letters ?_
  have hdigits : ∀ digits rest, isDigits digits = true → ∀ c ∈ (digits ++ rest).head?,
      c.isLower = false := by
    intro digits rest hdigits c hc
    rw [isDigits, Bool.and_eq_true, Bool.not_eq_true', List.isEmpty_eq_false_iff] at hdigits
    rw [List.head?_append_of_ne_nil _ hdigits.1] at hc
    exact isLower_of_isDigit_of_any_script
      (List.all_eq_true.1 hdigits.2 c (List.mem_of_mem_head? hc))
  have hlengths := hspelled.isDigits_lengths
  cases extent with
  | plain max => simpa [Extent.chars] using hdigits max [] (hlengths max List.mem_cons_self)
  | upTo max =>
    rintro c ⟨⟩
    decide
  | between min max => exact hdigits min _ (hlengths min List.mem_cons_self)

/-- The digits that an extent starts with are cut off. -/
theorem span_isDigit (hspelled : IsSpelled letters extent) :
    extent.chars.span isDigit =
      match extent with
      | .plain max => (max, [])
      | .upTo max => ([], '.' :: '.' :: max)
      | .between min max => (min, '.' :: '.' :: max) := by
  have hdots : ∀ rest, ∀ c ∈ ('.' :: '.' :: rest).head?, isDigit c = false := by
    rintro rest c ⟨⟩
    decide
  have hall : ∀ digits ∈ extent.lengths, ∀ c ∈ digits, isDigit c = true := by
    intro digits hdigits
    have hlength := hspelled.isDigits_lengths digits hdigits
    rw [isDigits, Bool.and_eq_true] at hlength
    exact List.all_eq_true.1 hlength.2
  cases extent with
  | plain max =>
    have hspan := @span_append _ max [] (hall max List.mem_cons_self) (by simp)
    rwa [List.append_nil] at hspan
  | upTo max => exact span_append (List.forall_mem_nil _) (hdots max)
  | between min max => exact span_append (hall min List.mem_cons_self) (hdots max)

/-- A format is a word. -/
theorem isWord (hspelled : IsSpelled letters extent) : IsWord (letters ++ extent.chars) := by
  have hdot : isBlank '.' = false := by decide
  have hdigits : ∀ digits ∈ extent.lengths, ∀ c ∈ digits, isBlank c = false :=
    fun digits hlength =>
      (isWord_of_isDigits (hspelled.isDigits_lengths digits hlength)).not_isBlank
  refine ⟨by simp [hspelled.letters_ne_nil], fun c hc => ?_⟩
  rcases List.mem_append.1 hc with hletter | hlength
  · exact isBlank_of_isLower (hspelled.isLower_letters c hletter)
  · cases extent <;> simp only [Extent.chars, Extent.lengths, List.mem_append, List.mem_cons]
      at hlength hdigits <;> grind

/-- A format is spelled in one way only. -/
theorem unique {letters' : List Char} {extent' : Extent} (hspelled : IsSpelled letters extent)
    (hspelled' : IsSpelled letters' extent')
    (hsame : letters ++ extent.chars = letters' ++ extent'.chars) :
    letters = letters' ∧ extent = extent' := by
  have hletters := hspelled.span_isLower
  rw [hsame, hspelled'.span_isLower, Prod.mk.injEq] at hletters
  have hdigits := hspelled.span_isDigit
  rw [← hletters.2, hspelled'.span_isDigit] at hdigits
  have hne : ∀ digits ∈ extent.lengths, digits ≠ [] := fun _ => hspelled.length_ne_nil
  have hne' : ∀ digits ∈ extent'.lengths, digits ≠ [] := fun _ => hspelled'.length_ne_nil
  refine ⟨hletters.1.symm, ?_⟩
  cases extent <;> cases extent' <;> simp_all [Extent.lengths]

end IsSpelled

namespace Format

/-- A length is read exactly if it has digits and fits. -/
theorem length?_eq_some_iff {digits : List Char} {n : UInt32} :
    length? digits = some n ↔
      digits ≠ [] ∧ Fits digits ∧ n = .ofNat (Nat.ofDigitChars 10 digits 0) := by
  rw [length?]
  split
  · next hbad =>
    simp only [reduceCtorEq, false_iff]
    rintro ⟨hne, hfits, -⟩
    simp [hne, List.all_eq_true.2 hfits.isDigit] at hbad
  · next hgood =>
    obtain ⟨hne, hall⟩ : digits ≠ [] ∧ ∀ c ∈ digits, c.isDigit = true := by simpa using hgood
    have hplus : '+' ∉ digits := fun hmem => absurd (hall _ hmem) (by decide)
    rw [readCount32, readCount_eq_readDigits hne hplus]
    by_cases hsize : Nat.ofDigitChars 10 digits 0 < UInt32.size
    · have hfits : Fits digits := ⟨hall, hsize⟩
      have hle : Nat.ofDigitChars 10 digits 0 ≤ maxCount := Nat.le_of_lt_succ hsize
      rw [readDigits_eq_ok digits 0 hall hle]
      simp [hne, hfits, Except.map, Except.toOption, eq_comm]
    · have hnot : ¬ Fits digits := fun hfits => hsize hfits.lt_size
      cases hread : readDigits maxCount 0 digits with
      | error fault => simp [hnot, Except.map, Except.toOption]
      | ok value =>
        obtain ⟨-, rfl, hle⟩ := of_readDigits_eq_ok (Nat.zero_le _) hread
        exact absurd (Nat.lt_succ_of_le hle) hsize

/-- The digits in front of what is no digit are cut off. -/
theorem span_isDigit {digits rest : List Char} (hdigits : Fits digits)
    (hrest : ∀ c ∈ rest.head?, c.isDigit = false) :
    (digits ++ rest).span Char.isDigit = (digits, rest) :=
  span_append hdigits.isDigit hrest

/-- A range is read from an extent with lengths that fit. -/
theorem exists_extent_of_range? {cs : List Char} {min max : UInt32}
    (hread : range? cs = some (min, max)) :
    ∃ extent : Extent, cs = extent.chars ∧
      (∀ digits ∈ extent.lengths, digits ≠ [] ∧ Fits digits) ∧
      min = .ofNat extent.min ∧ max = .ofNat extent.max := by
  have hcs := span_fst_append_snd Char.isDigit cs
  unfold range? at hread
  split at hread
  · next greatest hspan =>
    obtain ⟨n, hn, hpair⟩ := Option.map_eq_some_iff.1 hread
    obtain ⟨hne, hfits, rfl⟩ := length?_eq_some_iff.1 hn
    obtain ⟨rfl, rfl⟩ := Prod.mk.inj hpair
    rw [hspan] at hcs
    exact ⟨.upTo greatest, hcs.symm, by simp [Extent.lengths, hne, hfits], rfl, rfl⟩
  · next least greatest _ hspan =>
    simp only [Option.bind_eq_bind, Option.bind_eq_some_iff, Option.pure_def,
      Option.some.injEq] at hread
    obtain ⟨m, hm, n, hn, hpair⟩ := hread
    obtain ⟨hne, hfits, rfl⟩ := length?_eq_some_iff.1 hm
    obtain ⟨hne', hfits', rfl⟩ := length?_eq_some_iff.1 hn
    obtain ⟨rfl, rfl⟩ := Prod.mk.inj hpair
    rw [hspan] at hcs
    exact ⟨.between least greatest, hcs.symm, by simp [Extent.lengths, hne, hfits, hne', hfits'],
      rfl, rfl⟩
  · next greatest hspan =>
    obtain ⟨n, hn, hpair⟩ := Option.map_eq_some_iff.1 hread
    obtain ⟨hne, hfits, rfl⟩ := length?_eq_some_iff.1 hn
    obtain ⟨rfl, rfl⟩ := Prod.mk.inj hpair
    rw [hspan, List.append_nil] at hcs
    exact ⟨.plain greatest, hcs.symm, by simp [Extent.lengths, hne, hfits], rfl, rfl⟩
  · cases hread

/-- An extent with lengths that fit is read. -/
theorem range?_chars {extent : Extent}
    (hlengths : ∀ digits ∈ extent.lengths, digits ≠ [] ∧ Fits digits) :
    range? extent.chars = some (.ofNat extent.min, .ofNat extent.max) := by
  have hdots : ∀ rest, ∀ c ∈ ('.' :: '.' :: rest).head?, c.isDigit = false := by
    rintro rest c ⟨⟩
    decide
  cases extent with
  | plain max =>
    obtain ⟨hne, hfits⟩ := hlengths max List.mem_cons_self
    have hspan := @span_isDigit max [] hfits (by simp)
    rw [List.append_nil] at hspan
    obtain ⟨d, ds, rfl⟩ := List.exists_cons_of_ne_nil hne
    rw [range?, Extent.chars, hspan]
    simp [length?_eq_some_iff.2 ⟨hne, hfits, rfl⟩, Extent.min, Extent.max]
  | upTo max =>
    obtain ⟨hne, hfits⟩ := hlengths max List.mem_cons_self
    simp [range?, Extent.chars, length?_eq_some_iff.2 ⟨hne, hfits, rfl⟩, Extent.min, Extent.max]
  | between min max =>
    obtain ⟨hne, hfits⟩ := hlengths min List.mem_cons_self
    obtain ⟨hne', hfits'⟩ := hlengths max (by simp [Extent.lengths])
    have hspan := span_isDigit hfits (hdots max)
    obtain ⟨d, ds, rfl⟩ := List.exists_cons_of_ne_nil hne
    rw [range?, Extent.chars, hspan]
    simp [length?_eq_some_iff.2 ⟨hne, hfits, rfl⟩, length?_eq_some_iff.2 ⟨hne', hfits', rfl⟩,
      Extent.min, Extent.max]

/-- A format is read exactly from a letter class and an extent with lengths that fit. -/
theorem ofChars?_eq_some_iff {cs : List Char} {format : Format} :
    ofChars? cs = some format ↔
      ∃ letters extent, IsSpelled letters extent ∧ cs = letters ++ extent.chars ∧
        (∀ digits ∈ extent.lengths, Fits digits) ∧ format = extent.format letters := by
  constructor
  · intro hread
    have hcs := span_fst_append_snd Char.isLower cs
    have hlower : ∀ c ∈ (cs.span Char.isLower).1, c.isLower = true := by
      rw [List.span_eq_takeWhile_dropWhile]
      exact List.all_eq_true.1 List.all_takeWhile
    unfold ofChars? at hread
    split at hread
    · cases hread
    · next letters rest hne hspan =>
      obtain ⟨⟨min, max⟩, hrange, rfl⟩ := Option.map_eq_some_iff.1 hread
      obtain ⟨extent, rfl, hlengths, rfl, rfl⟩ := exists_extent_of_range? hrange
      rw [hspan] at hcs hlower
      refine ⟨letters, extent, ⟨?_, hlower, fun digits hdigits => ?_⟩, hcs.symm,
        fun digits hdigits => (hlengths digits hdigits).2, rfl⟩
      · rintro rfl
        exact hne rfl
      · exact (hlengths digits hdigits).2.isDigits (hlengths digits hdigits).1
  · rintro ⟨letters, extent, hspelled, rfl, hfits, rfl⟩
    have hrange := range?_chars fun digits hdigits =>
      ⟨hspelled.length_ne_nil hdigits, hfits digits hdigits⟩
    rw [ofChars?, hspelled.span_isLower]
    split
    · next hnil => exact absurd (congrArg Prod.fst hnil) hspelled.letters_ne_nil
    · next found rest _ hfound =>
      cases hfound
      rw [hrange]
      rfl

/-- A format is read exactly from a text that spells it, with lengths that fit. -/
theorem ofText?_eq_some_iff {text : String} {format : Format} :
    ofText? text = some format ↔
      ∃ letters extent, IsSpelled letters extent ∧ trim text.toList = letters ++ extent.chars ∧
        (∀ digits ∈ extent.lengths, Fits digits) ∧ format = extent.format letters :=
  ofChars?_eq_some_iff

/-- A format that is spelled as it should be is read exactly if its lengths fit. -/
theorem isSome_ofText?_iff {letters : List Char} {extent : Extent}
    (hspelled : IsSpelled letters extent) :
    (ofText? (String.ofList (letters ++ extent.chars))).isSome = true ↔
      ∀ digits ∈ extent.lengths, Fits digits := by
  simp only [Option.isSome_iff_exists, ofText?_eq_some_iff, String.toList_ofList,
    hspelled.isWord.trim_eq]
  constructor
  · rintro ⟨format, letters', extent', hspelled', hsame, hfits, -⟩
    obtain ⟨-, rfl⟩ := hspelled.unique hspelled' hsame
    exact hfits
  · exact fun hfits => ⟨_, letters, extent, hspelled, rfl, hfits, rfl⟩

end Format

end EdiSchema.Detail
