import EdiSchema.Proofs.Text.Decimal
import EdiSchema.Text.Digit

/-!
# Digits and letters in a row

The columns of a text are runs of digits or of small letters. Digits, of any script, are neither
letters nor blanks, so such a run ends where another kind of column begins.
-/

namespace EdiSchema.Text

/-- A decimal digit stands in the row of a zero. -/
theorem exists_zero_of_isDigit {c : Char} (hc : isDigit c = true) :
    ∃ first ∈ decimalZeros, ∃ i < 10, c = Char.ofNat (first + i) := by
  obtain ⟨first, hfirst, hle, hlt⟩ :
      ∃ first ∈ decimalZeros, first ≤ c.toNat ∧ c.toNat < first + 10 := by
    simp only [isDigit, Bool.or_eq_true, Bool.and_eq_true, decide_eq_true_eq,
      List.any_eq_true] at hc
    rcases hc with hascii | ⟨-, first, hfirst, hle, hlt⟩
    · have hrange := (isDigit_iff_toNat c).1 hascii
      exact ⟨0x30, by simp [decimalZeros], hrange.1, by omega⟩
    · exact ⟨first, hfirst, hle, hlt⟩
  refine ⟨first, hfirst, c.toNat - first, by omega, ?_⟩
  rw [Nat.add_sub_cancel' hle, Char.ofNat_toNat]

/-- A decimal digit of any script is not blank. -/
theorem isBlank_of_isDigit_of_any_script {c : Char} (hc : isDigit c = true) :
    isBlank c = false := by
  have hzeros : ∀ first ∈ decimalZeros, ∀ i < 10, isBlank (Char.ofNat (first + i)) = false := by
    decide +kernel
  obtain ⟨first, hfirst, i, hi, rfl⟩ := exists_zero_of_isDigit hc
  exact hzeros first hfirst i hi

/-- A decimal digit of any script is no small letter. -/
theorem isLower_of_isDigit_of_any_script {c : Char} (hc : isDigit c = true) :
    c.isLower = false := by
  have hzeros : ∀ first ∈ decimalZeros, ∀ i < 10, (Char.ofNat (first + i)).isLower = false := by
    decide +kernel
  obtain ⟨first, hfirst, i, hi, rfl⟩ := exists_zero_of_isDigit hc
  exact hzeros first hfirst i hi

/-- The small letters are the characters with the codes from 97 to 122. -/
theorem isLower_iff_toNat (c : Char) : c.isLower = true ↔ 97 ≤ c.toNat ∧ c.toNat ≤ 122 := by
  have hvalues : c.isLower = (decide ('a'.val ≤ c.val) && decide (c.val ≤ 'z'.val)) := rfl
  rw [hvalues, Bool.and_eq_true, decide_eq_true_iff, decide_eq_true_iff, UInt32.le_iff_toNat_le,
    UInt32.le_iff_toNat_le]
  exact Iff.rfl

/-- A small letter is not blank. -/
theorem isBlank_of_isLower {c : Char} (hc : c.isLower = true) : isBlank c = false := by
  rw [isLower_iff_toNat] at hc
  simp only [isBlank, Bool.or_eq_false_iff, Bool.and_eq_false_iff, decide_eq_false_iff_not,
    beq_eq_false_iff_ne]
  omega

/-- A digit is no letter. -/
theorem isLower_of_isDigit {c : Char} (hc : c.isDigit = true) : c.isLower = false := by
  rw [isDigit_iff_toNat] at hc
  rw [Bool.eq_false_iff, Ne, isLower_iff_toNat]
  omega

/-- A count in decimal is a run of digits. -/
theorem isDigits_decimal (n : ℕ) : isDigits (decimal n).toList = true := by
  rw [isDigits, Bool.and_eq_true, Bool.not_eq_true', List.isEmpty_eq_false_iff]
  refine ⟨decimal_ne_nil n, List.all_eq_true.2 fun c hc => ?_⟩
  rw [isDigit, isDigit_of_mem_decimal hc, Bool.true_or]

/-- The digits of a count are not blank. -/
theorem isBlank_of_mem_decimal {n : ℕ} {c : Char} (hc : c ∈ (decimal n).toList) :
    isBlank c = false :=
  isBlank_of_isDigit (isDigit_of_mem_decimal hc)

/-- The digits of a count stay on a line. -/
theorem newline_not_mem_decimal (n : ℕ) : '\n' ∉ (decimal n).toList :=
  fun hc => absurd (isDigit_of_mem_decimal hc) (by decide)

end EdiSchema.Text
