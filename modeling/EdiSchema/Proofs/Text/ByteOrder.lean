import Mathlib.Data.List.Lex
import Mathlib.Data.String.Basic
import Mathlib.Order.Monotone.Basic
import Mathlib.Tactic.SplitIfs

/-!
# The order of strings by bytes

Strings are compared character by character, files and maps of names byte by byte. In UTF-8 the two
orders agree: a larger character starts with a larger byte, or with the same one and then differs
upwards before either character is over.
-/

namespace EdiSchema.Text

/-- The bytes of a character in UTF-8. -/
def charBytes (c : Char) : List ℕ :=
  (String.utf8EncodeChar c).map UInt8.toNat

/-- The bytes of a string in UTF-8. -/
def bytes (s : String) : List ℕ :=
  s.toUTF8.data.toList.map UInt8.toNat

/-- The bytes of a string are those of its characters one after the other. -/
theorem bytes_eq_flatMap (s : String) : bytes s = s.toList.flatMap charBytes := by
  rw [bytes, String.toUTF8, ← String.utf8Encode_toList, List.utf8Encode]
  simp only [List.toList_data_toByteArray, List.map_flatMap]
  rfl

/-- A larger character has larger bytes, whatever follows the two. -/
theorem charBytes_append_lt {c d : Char} (hlt : c < d) (as bs : List ℕ) :
    charBytes c ++ as < charBytes d ++ bs := by
  have hval : c.val.toNat < d.val.toNat := hlt
  have hmax : d.val.toNat < 0x110000 := by
    have hvalid : d.val.toNat.isValidChar := d.valid
    unfold Nat.isValidChar at hvalid
    omega
  simp only [charBytes, String.utf8EncodeChar]
  generalize c.val.toNat = m at *
  generalize d.val.toNat = n at *
  -- One case for each pair of lengths; the bytes are the digits of the character in base 64.
  split_ifs <;>
    simp (disch := omega) only [List.map_cons, List.map_nil, List.cons_append, List.nil_append,
      List.cons_lt_cons_iff, UInt8.toNat_ofNat', Nat.mod_eq_of_lt] <;> omega

/-- A larger text has larger bytes. -/
theorem flatMap_charBytes_lt {cs ds : List Char} (hlt : cs < ds) :
    cs.flatMap charBytes < ds.flatMap charBytes := by
  induction cs generalizing ds with
  | nil =>
    cases ds with
    | nil => simp at hlt
    | cons d ds =>
      cases hd : String.utf8EncodeChar d with
      | nil => exact absurd hd String.utf8EncodeChar_ne_nil
      | cons b bs => simp [charBytes, hd]
  | cons c cs ih =>
    cases ds with
    | nil => simp at hlt
    | cons d ds =>
      rw [List.flatMap_cons, List.flatMap_cons]
      rcases List.cons_lt_cons_iff.1 hlt with hchar | ⟨rfl, hrest⟩
      · exact charBytes_append_lt hchar _ _
      · exact List.append_left_lt (ih hrest)

/-- Bytes keep the order of strings. -/
theorem bytes_strictMono : StrictMono bytes := by
  intro s t hlt
  rw [bytes_eq_flatMap, bytes_eq_flatMap]
  exact flatMap_charBytes_lt (String.lt_iff_toList_lt.1 hlt)

/-- Strings are in order exactly when their bytes are. -/
theorem bytes_le_bytes_iff (s t : String) : bytes s ≤ bytes t ↔ s ≤ t :=
  bytes_strictMono.le_iff_le

end EdiSchema.Text
