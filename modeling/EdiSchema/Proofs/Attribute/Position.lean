import Mathlib.Data.List.Basic
import EdiSchema.Attribute.Position

/-!
# Positions as numbers

A position of an entry or an item is a number in decimal with zeros in front. Read as a number it
says where the entry stands in its listing, so entries of a listing never share a position.

The position of a component starts with that of its composite, and the width of the positions tells
the two parts apart as long as all numbers are small: items have at most four digits then, and
components exactly three more than their composite.
-/

namespace EdiSchema.Position

/-- The number that a position is written for. -/
def number (position : String) : ℕ :=
  Nat.ofDigitChars 10 position.toList 0

/-- Zeros in front of digits do not count. -/
theorem ofDigitChars_replicate_zero (count : ℕ) (digits : List Char) :
    Nat.ofDigitChars 10 (List.replicate count '0' ++ digits) 0 =
      Nat.ofDigitChars 10 digits 0 := by
  induction count with
  | zero => rfl
  | succ count ih =>
    rw [List.replicate_succ, List.cons_append, Nat.ofDigitChars_cons]
    exact ih

/-- A number is read back whatever width it is written in. -/
theorem number_padded (width n : ℕ) : number (Text.padded width n) = n := by
  rw [number, Text.padded, String.toList_ofList, ofDigitChars_replicate_zero,
    Nat.ofDigitChars_ten_toDigits]

/-- The position of a listing entry is ten times its place, counted from one. -/
theorem number_listing (index : ℕ) : number (listing index) = (index + 1) * step :=
  number_padded 4 _

/-- Entries of a listing have different positions. -/
theorem listing_injective : Function.Injective listing := by
  intro first second hsame
  have hnumber := congrArg number hsame
  rw [number_listing, number_listing, step] at hnumber
  omega

/-- Items with different numbers have different positions. -/
theorem item_injective : Function.Injective item := by
  intro first second hsame
  have hnumber := congrArg number hsame
  rwa [item, item, number_padded, number_padded] at hnumber

/-- The components of a composite have different positions. -/
theorem component_injective (parent : String) : Function.Injective (component parent) := by
  intro first second hsame
  have hchars := congrArg String.toList hsame
  rw [component, component, String.toList_append, String.toList_append] at hchars
  have hdigits := String.toList_injective (List.append_cancel_left hchars)
  have hnumber := congrArg number hdigits
  rw [number_padded, number_padded] at hnumber
  omega

/-- A number is as long as its digits, or as its width if that is more. -/
theorem length_padded (width n : ℕ) :
    (Text.padded width n).length = max width (Nat.toDigits 10 n).length := by
  simp only [Text.padded, String.length_ofList, List.length_append, List.length_replicate]
  omega

/-- The position of an item has three or four characters if its number has at most four digits. -/
theorem length_item {n : ℕ} (hn : n < 10000) : 3 ≤ (item n).length ∧ (item n).length ≤ 4 := by
  have hdigits : (Nat.toDigits 10 n).length ≤ 4 :=
    (Nat.length_toDigits_le_iff (by decide) (by decide)).2 hn
  rw [item, length_padded]
  omega

/-- The position of a component has three more characters than that of its composite. -/
theorem length_component (parent : String) {index : ℕ} (hindex : index + 1 < 1000) :
    (component parent index).length = parent.length + 3 := by
  have hdigits : (Nat.toDigits 10 (index + 1)).length ≤ 3 :=
    (Nat.length_toDigits_le_iff (by decide) (by decide)).2 hindex
  rw [component, String.length_append, length_padded]
  omega

/-- The item that a position belongs to, by its width: an item itself, or the composite of a
component. -/
def owner (position : String) : List Char :=
  position.toList.take (if position.length < 6 then position.length else position.length - 3)

/-- An item belongs to itself. -/
theorem owner_item {n : ℕ} (hn : n < 10000) : owner (item n) = (item n).toList := by
  have hlength := (length_item hn).2
  rw [owner, if_pos (by omega), ← String.length_toList, List.take_length]

/-- A component belongs to its composite. -/
theorem owner_component {parent : String} {index : ℕ} (hparent : 3 ≤ parent.length)
    (hindex : index + 1 < 1000) : owner (component parent index) = parent.toList := by
  rw [owner, length_component parent hindex, if_neg (by omega), Nat.add_sub_cancel, component,
    String.toList_append, ← String.length_toList, List.take_left]

end EdiSchema.Position
