import Mathlib.Tactic.SplitIfs
import EdiSchema.Decoding.Field
import EdiSchema.Proofs.Text.Decimal
import EdiSchema.Structure.Encode

/-!
# Fields that are read back

Texts, requirements, counts and upper bounds are read from JSON as they were written. A data type
is written as its label, so one that only repeats the label of another type is read as that type.
-/

namespace EdiSchema

namespace DataType

/-- The labels of the known data types. -/
def knownLabels : List String :=
  [alphanumeric.label, numeric.label, alpha.label, composite.label]

/-- A data type is told from its label unless it repeats the label of a known type. -/
theorem ofLabel_label_eq_self_iff (dataType : DataType) :
    ofLabel dataType.label = dataType ↔ ∀ label, dataType = .other label → label ∉ knownLabels := by
  cases dataType with
  | other label =>
    have hlabel : ofLabel label = .other label ↔ label ∉ knownLabels := by
      simp only [ofLabel, knownLabels, List.mem_cons, List.not_mem_nil, or_false, DataType.label]
      split_ifs <;> simp_all
    simpa [DataType.label] using hlabel
  | alphanumeric => simp [ofLabel, label]
  | numeric => simp [ofLabel, label]
  | alpha => simp [ofLabel, label]
  | composite => simp [ofLabel, label]

end DataType

namespace Decoding

/-- A text is read as it was written. -/
@[simp] theorem asText_text (s : String) : asText (.text s) = .ok s :=
  rfl

/-- A requirement is read from its name. -/
@[simp] theorem asRequirement_name (requirement : Requirement) :
    asRequirement (.text requirement.name) = .ok requirement := by
  cases requirement <;> rfl

/-- A data type is told from its label. -/
@[simp] theorem asDataType_text (label : String) :
    asDataType (.text label) = .ok (DataType.ofLabel label) :=
  rfl

/-- A count is read as it was written. -/
@[simp] theorem asCount_ofCount (n : UInt32) : asCount (.ofCount n) = .ok n := by
  have hpoint : (Text.decimal n.toNat).toList.dropWhile (· == '.') =
      (Text.decimal n.toNat).toList := by
    cases hcs : (Text.decimal n.toNat).toList with
    | nil => rfl
    | cons c rest =>
      have hdigit : c.isDigit = true := Text.isDigit_of_mem_decimal (hcs ▸ List.mem_cons_self)
      have hc : c ≠ '.' := by
        rintro rfl
        exact absurd hdigit (by decide)
      simp [hc]
  simp only [Json.ofCount, asCount, countOfText, Text.trim_decimal, hpoint,
    if_neg (Text.decimal_ne_nil _), Text.readCount32_decimal]
  rfl

/-- An upper bound is read as it was written. -/
@[simp] theorem asMaxOccurs_text (bound : MaxOccurs) :
    asMaxOccurs (.text bound.text) = .ok bound := by
  cases bound with
  | unbounded => rfl
  | bounded n =>
    have hword : ∀ word : String, (∃ c ∈ word.toList, c.isDigit = false) →
        (Text.decimal n.toNat).toList ≠ word.toList := by
      rintro word ⟨c, hc, hdigit⟩ hsame
      rw [← hsame] at hc
      simp [Text.isDigit_of_mem_decimal hc] at hdigit
    have hwords : ¬ ((Text.decimal n.toNat).toList = "unbounded".toList ∨
        (Text.decimal n.toNat).toList = "n".toList ∨
        (Text.decimal n.toNat).toList = "*".toList) := by
      rintro (h | h | h)
      · exact hword _ ⟨'u', by decide, by decide⟩ h
      · exact hword _ ⟨'n', by decide, by decide⟩ h
      · exact hword _ ⟨'*', by decide, by decide⟩ h
    simp only [asMaxOccurs, MaxOccurs.text, MaxOccurs.ofText, Text.trim_decimal,
      Text.asciiLower_decimal, if_neg (Text.decimal_ne_nil _), if_neg hwords,
      Text.readCount32_decimal]
    rfl

end Decoding

end EdiSchema
