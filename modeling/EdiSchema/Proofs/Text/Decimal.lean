import Mathlib.Data.List.Basic
import EdiSchema.Text.Case
import EdiSchema.Text.Count
import EdiSchema.Proofs.Text.Blank

/-!
# Counts and their digits

A count in decimal is a text of ASCII digits that is read back as the same count, as long as it is
within the bound. Trimming blanks and changing the case leave such a text as it is.
-/

namespace EdiSchema.Text

/-- Digits are read one after the other as long as their value stays within the bound. -/
theorem readDigits_eq_ok {bound : ℕ} (digits : List Char) (value : ℕ)
    (hdigits : ∀ c ∈ digits, c.isDigit = true) (hbound : Nat.ofDigitChars 10 digits value ≤ bound) :
    readDigits bound value digits = .ok (Nat.ofDigitChars 10 digits value) := by
  induction digits generalizing value with
  | nil => simp [readDigits]
  | cons c rest ih =>
    have hc : c.isDigit = true := hdigits c List.mem_cons_self
    rw [Nat.ofDigitChars_cons] at hbound ⊢
    have hnext : 10 * value + (c.toNat - '0'.toNat) ≤ bound := by
      -- The value only grows while digits are read.
      rw [Nat.ofDigitChars_eq_ofDigitChars_zero] at hbound
      have hgrow := Nat.le_mul_of_pos_left (10 * value + (c.toNat - '0'.toNat))
        (Nat.pow_pos (n := rest.length) (show 0 < 10 by decide))
      omega
    rw [readDigits, hc]
    simp only [Bool.not_true, Bool.false_eq_true, if_false, Nat.mul_comm value 10, if_pos hnext]
    exact ih _ (fun d hd => hdigits d (List.mem_cons_of_mem c hd)) hbound

/-- What is read are digits, and their value is within the bound. -/
theorem of_readDigits_eq_ok {bound value n : ℕ} {digits : List Char} (hvalue : value ≤ bound)
    (hread : readDigits bound value digits = .ok n) :
    (∀ c ∈ digits, c.isDigit = true) ∧ Nat.ofDigitChars 10 digits value = n ∧ n ≤ bound := by
  induction digits generalizing value with
  | nil =>
    obtain rfl := Except.ok.inj hread
    exact ⟨List.forall_mem_nil _, rfl, hvalue⟩
  | cons c rest ih =>
    rw [readDigits] at hread
    split at hread
    · simp at hread
    · next hc =>
      dsimp only at hread
      split at hread
      · next hnext =>
        obtain ⟨hrest, hn, hle⟩ := ih hnext hread
        refine ⟨List.forall_mem_cons.2 ⟨by simpa using hc, hrest⟩, ?_, hle⟩
        rwa [Nat.ofDigitChars_cons, Nat.mul_comm]
      · simp at hread

/-- A text that does not start with a plus sign is read digit by digit. -/
theorem readCount_eq_readDigits {bound : ℕ} {cs : List Char} (hne : cs ≠ [])
    (hplus : '+' ∉ cs) : readCount bound cs = readDigits bound 0 cs := by
  cases cs with
  | nil => exact absurd rfl hne
  | cons c rest =>
    have hc : c ≠ '+' := fun h => hplus (h ▸ List.mem_cons_self)
    simp [readCount, hc]

/-- The digits of a count are ASCII digits. -/
theorem isDigit_of_mem_decimal {n : ℕ} {c : Char} (hc : c ∈ (decimal n).toList) :
    c.isDigit = true := by
  rw [decimal, String.toList_ofList] at hc
  exact Nat.isDigit_of_mem_toDigits (by decide) (by decide) hc

/-- A count has at least one digit. -/
theorem decimal_ne_nil (n : ℕ) : (decimal n).toList ≠ [] := by
  rw [decimal, String.toList_ofList]
  exact Nat.toDigits_ne_nil

/-- A count in decimal is read back within the bound. -/
theorem readCount_decimal {bound n : ℕ} (hbound : n ≤ bound) :
    readCount bound (decimal n).toList = .ok n := by
  have hdigits : readDigits bound 0 (decimal n).toList = .ok n := by
    have hvalue : Nat.ofDigitChars 10 (decimal n).toList 0 = n := by
      rw [decimal, String.toList_ofList, Nat.ofDigitChars_ten_toDigits]
    rw [readDigits_eq_ok _ 0 (fun c hc => isDigit_of_mem_decimal hc) (by omega),
      hvalue]
  rw [readCount_eq_readDigits (decimal_ne_nil n), hdigits]
  exact fun hplus => absurd (isDigit_of_mem_decimal hplus) (by decide)

/-- A count of 32 bits in decimal is read back. -/
theorem readCount32_decimal (n : UInt32) : readCount32 (decimal n.toNat).toList = .ok n := by
  have hbound : n.toNat ≤ maxCount := by
    have hlt := n.toNat_lt
    rw [maxCount]
    omega
  simp [readCount32, readCount_decimal hbound, Except.map]

/-- The digits are the characters with the codes from 48 to 57. -/
theorem isDigit_iff_toNat (c : Char) : c.isDigit = true ↔ 48 ≤ c.toNat ∧ c.toNat ≤ 57 := by
  simp only [Char.isDigit, Bool.and_eq_true, decide_eq_true_eq, ge_iff_le,
    UInt32.le_iff_toNat_le]
  exact Iff.rfl

/-- A digit is not blank. -/
theorem isBlank_of_isDigit {c : Char} (hc : c.isDigit = true) : isBlank c = false := by
  rw [isDigit_iff_toNat] at hc
  simp only [isBlank, Bool.or_eq_false_iff, Bool.and_eq_false_iff, decide_eq_false_iff_not,
    beq_eq_false_iff_ne]
  omega

/-- A count in decimal loses nothing when it is trimmed. -/
theorem trim_decimal (n : ℕ) : trim (decimal n).toList = (decimal n).toList :=
  trim_of_not_isBlank fun _ hc => isBlank_of_isDigit (isDigit_of_mem_decimal hc)

/-- Digits have no letter case. -/
theorem asciiLower_decimal (n : ℕ) : asciiLower (decimal n).toList = (decimal n).toList := by
  have hsame : ∀ c ∈ (decimal n).toList, c.toLower = c := by
    intro c hc
    have hdigit := (isDigit_iff_toNat c).1 (isDigit_of_mem_decimal hc)
    refine dif_neg fun hupper => ?_
    have hletter : 65 ≤ c.toNat := UInt32.le_iff_toNat_le.1 hupper.1
    omega
  rw [asciiLower, List.map_congr_left hsame, List.map_id']

end EdiSchema.Text
