import EdiSchema.Decoding.Report
import EdiSchema.Proofs.Text.Decimal
import EdiSchema.Proofs.Text.Scan

/-!
# What a report keeps of a message

A message that ends in no position is reported as it is. A position at its end is taken from it and
stated again in plain decimal, or lost if its line is zero.

What ends in no position has no end that does. So if the whole message along a way of entries ends
in none, it is enough to look there, and every entry on the way has passed on all of the message
inside it. A position has no colon in it, so what a message has in front of a colon is kept in any
case.
-/

namespace EdiSchema.Decoding

/-- The decimal digits of a number that fits a word of 64 bits, maybe with zeros in front. -/
structure AreDigitsOf (digits : List Char) (n : ℕ) : Prop where
  ne_nil : digits ≠ []
  isDigit : ∀ c ∈ digits, c.isDigit = true
  value : Nat.ofDigitChars 10 digits 0 = n
  bound : n ≤ Text.maxCount64

/-- Whether a message is a text with a position behind it. -/
def IsAt (message text : List Char) (line column : ℕ) : Prop :=
  ∃ lineDigits columnDigits, AreDigitsOf lineDigits line ∧ AreDigitsOf columnDigits column ∧
    message = text ++ lineLabel.toList ++ lineDigits ++ columnLabel.toList ++ columnDigits

/-- Whether a message ends in a position. -/
def EndsInPosition (message : String) : Prop :=
  ∃ text line column, IsAt message.toList text line column

section Cutting

variable {label cs text digits : List Char} {n line column : ℕ}

theorem areDigitsOf_iff :
    AreDigitsOf digits n ↔ digits ≠ [] ∧ Text.readDigits Text.maxCount64 0 digits = .ok n := by
  constructor
  · intro h
    have hbound : Nat.ofDigitChars 10 digits 0 ≤ Text.maxCount64 := h.value ▸ h.bound
    exact ⟨h.ne_nil, (Text.readDigits_eq_ok digits 0 h.isDigit hbound).trans (by rw [h.value])⟩
  · intro ⟨hne, hread⟩
    obtain ⟨hdigits, hvalue, hbound⟩ := Text.of_readDigits_eq_ok (Nat.zero_le _) hread
    exact ⟨hne, hdigits, hvalue, hbound⟩

/-- A number is cut off with its label if the label itself does not end in a digit. -/
theorem cutNumber?_eq_some_iff (hlabel : ∃ c ∈ label.getLast?, c.isDigit = false) :
    cutNumber? label cs = some (text, n) ↔
      ∃ digits, AreDigitsOf digits n ∧ cs = text ++ label ++ digits := by
  constructor
  · intro hcut
    have hparts := Text.span_fst_append_snd Char.isDigit cs.reverse
    rcases hspan : cs.reverse.span Char.isDigit with ⟨digits, front⟩
    rw [hspan] at hparts
    rw [cutNumber?, hspan] at hcut
    dsimp only at hcut hparts
    split at hcut
    · cases hcut
    · next hne =>
      cases hread : Text.readDigits Text.maxCount64 0 digits.reverse with
      | error fault =>
        rw [hread] at hcut
        cases hcut
      | ok m =>
        rw [hread] at hcut
        obtain ⟨front', hfront, hpair⟩ := Option.map_eq_some_iff.1 hcut
        obtain ⟨rfl, rfl⟩ := Prod.mk.inj hpair
        have hcs : cs = front.reverse ++ digits.reverse := by
          rw [← List.reverse_append, hparts, List.reverse_reverse]
        refine ⟨digits.reverse, areDigitsOf_iff.2 ⟨by simpa using hne, hread⟩, ?_⟩
        rw [hcs, Text.dropSuffix?_eq_some_iff.1 hfront]
  · intro ⟨digits, hdigits, hcs⟩
    obtain ⟨c, hc, hsolid⟩ := hlabel
    have hspan : cs.reverse.span Char.isDigit = (digits.reverse, (text ++ label).reverse) := by
      rw [hcs, List.reverse_append]
      refine Text.span_append (fun d hd => hdigits.isDigit d (List.mem_reverse.1 hd)) ?_
      intro d hd
      rw [List.reverse_append, List.head?_append, List.head?_reverse, hc, Option.some_or] at hd
      exact Option.some.inj hd ▸ hsolid
    have hread := (areDigitsOf_iff.1 hdigits).2
    rw [cutNumber?, hspan]
    simp only [List.reverse_eq_nil_iff, hdigits.ne_nil, if_false, List.reverse_reverse, hread,
      Text.dropSuffix?_eq_some_iff.2 rfl, Option.map_some]

/-- A position is cut off a message that has it at its end. -/
theorem cutPosition?_eq_some_iff :
    cutPosition? cs = some (text, line, column) ↔ IsAt cs text line column := by
  have hline : ∃ c ∈ lineLabel.toList.getLast?, c.isDigit = false := ⟨' ', rfl, rfl⟩
  have hcolumn : ∃ c ∈ columnLabel.toList.getLast?, c.isDigit = false := ⟨' ', rfl, rfl⟩
  constructor
  · intro hcut
    rw [cutPosition?] at hcut
    split at hcut
    · cases hcut
    · next front k hfront =>
      obtain ⟨⟨text', l⟩, htext, hpair⟩ := Option.map_eq_some_iff.1 hcut
      simp only [Prod.mk.injEq] at hpair
      obtain ⟨rfl, rfl, rfl⟩ := hpair
      obtain ⟨columnDigits, hcolumnDigits, hcs⟩ := (cutNumber?_eq_some_iff hcolumn).1 hfront
      obtain ⟨lineDigits, hlineDigits, hfront⟩ := (cutNumber?_eq_some_iff hline).1 htext
      exact ⟨lineDigits, columnDigits, hlineDigits, hcolumnDigits, by rw [hcs, hfront]⟩
  · intro ⟨lineDigits, columnDigits, hlineDigits, hcolumnDigits, hcs⟩
    have hfront := (cutNumber?_eq_some_iff hcolumn).2 ⟨columnDigits, hcolumnDigits, hcs⟩
    have htext : cutNumber? lineLabel.toList (text ++ lineLabel.toList ++ lineDigits) =
        some (text, line) := (cutNumber?_eq_some_iff hline).2 ⟨lineDigits, hlineDigits, rfl⟩
    rw [cutPosition?, hfront]
    dsimp only
    rw [htext]
    rfl

end Cutting

/-- A message is reported as it is unless it ends in a position. -/
theorem restated_eq_self {message : String} (hplain : ¬ EndsInPosition message) :
    restated message = message := by
  have hnone : cutPosition? message.toList = none := by
    rw [Option.eq_none_iff_forall_ne_some]
    rintro ⟨text, line, column⟩ hcut
    exact hplain ⟨text, line, column, cutPosition?_eq_some_iff.1 hcut⟩
  rw [restated, Report.ofMessage, hnone]
  rfl

/-- A position at the end of a message is stated in plain decimal, or lost with line zero. -/
theorem restated_of_isAt {message : String} {text : List Char} {line column : ℕ}
    (hat : IsAt message.toList text line column) :
    restated message = if line = 0 then String.ofList text
      else String.ofList text ++ lineLabel ++ Text.decimal line ++ columnLabel ++
        Text.decimal column := by
  rw [restated, Report.ofMessage, cutPosition?_eq_some_iff.2 hat]
  rfl

/-- No colon is lost with a position. -/
theorem IsAt.prefix_text {front message text : List Char} {line column : ℕ}
    (hat : IsAt message text line column) (hfront : front ++ [':'] <+: message) :
    front ++ [':'] <+: text := by
  obtain ⟨lineDigits, columnDigits, hline, hcolumn, hmessage⟩ := hat
  have htext : text <+: message := by
    rw [hmessage]
    simp only [List.append_assoc, List.prefix_append]
  rcases List.prefix_or_prefix_of_prefix hfront htext with hkept | ⟨back, hback⟩
  · exact hkept
  · -- What the front has behind the text would be of the position, and end in the colon.
    have hposition :
        back <+: lineLabel.toList ++ lineDigits ++ columnLabel.toList ++ columnDigits := by
      rw [← List.prefix_append_right_inj text, hback]
      simpa only [hmessage, List.append_assoc] using hfront
    rcases List.eq_nil_or_concat back with rfl | ⟨others, c, rfl⟩
    · rw [← hback, List.append_nil]
    · have hcolon : c = ':' := by
        rw [List.concat_eq_append, ← List.append_assoc] at hback
        exact List.singleton_inj.1 (List.append_inj_right' hback rfl)
      have hmem : ':' ∈ lineLabel.toList ++ lineDigits ++ columnLabel.toList ++ columnDigits :=
        hposition.subset (by simp [hcolon])
      have hnoDigit : ∀ digits n, AreDigitsOf digits n → ':' ∉ digits := by
        intro digits n hdigits hmem
        exact absurd (hdigits.isDigit _ hmem) (by decide)
      simp only [List.mem_append, hnoDigit _ _ hline, hnoDigit _ _ hcolumn, or_false] at hmem
      exact absurd hmem (by decide)

/-- A reported message has all that stands in front of a colon. -/
theorem prefix_restated {front : List Char} {message : String}
    (hfront : front ++ [':'] <+: message.toList) :
    front ++ [':'] <+: (restated message).toList := by
  by_cases hends : EndsInPosition message
  · obtain ⟨text, line, column, hat⟩ := hends
    have htext := hat.prefix_text hfront
    rw [restated_of_isAt hat]
    split
    · rwa [String.toList_ofList]
    · simp only [String.toList_append, String.toList_ofList, List.append_assoc]
      exact htext.trans (List.prefix_append _ _)
  · rwa [restated_eq_self hends]

/-- A message that ends in one with a position ends in the position. -/
theorem EndsInPosition.append {message : String} (h : EndsInPosition message) (front : String) :
    EndsInPosition (front ++ message) := by
  obtain ⟨text, line, column, lineDigits, columnDigits, hline, hcolumn, hmessage⟩ := h
  refine ⟨front.toList ++ text, line, column, lineDigits, columnDigits, hline, hcolumn, ?_⟩
  rw [String.toList_append, hmessage]
  simp only [List.append_assoc]

end EdiSchema.Decoding
