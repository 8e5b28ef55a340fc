import Mathlib.Data.List.Basic

/-!
# Tables

A table is a list of entries with their keys. Looking a key up finds its first entry, so entries of
other keys may be put in front or left out.
-/

namespace EdiSchema.Table

variable {α β : Type} [BEq α] [LawfulBEq α]

/-- Leaving out the entries of a key leaves the other ones to be found. -/
theorem lookup_filter_ne {key other : α} (hother : other ≠ key) (entries : List (α × β)) :
    (entries.filter (·.1 != key)).lookup other = entries.lookup other := by
  have hbeq : (other == key) = false := beq_eq_false_iff_ne.2 hother
  induction entries with
  | nil => rfl
  | cons entry rest ih =>
    by_cases hentry : entry.1 = key
    · rw [List.filter_cons_of_neg (by simp [hentry]), ih, List.lookup_cons, hentry, hbeq]
    · rw [List.filter_cons_of_pos (by simp [hentry]), List.lookup_cons, List.lookup_cons, ih]

/-- A key without an entry is not looked up. -/
theorem lookup_eq_none_iff {key : α} {entries : List (α × β)} :
    entries.lookup key = none ↔ key ∉ entries.map Prod.fst := by
  rw [List.lookup_eq_none_iff, List.mem_map]
  simp only [bne_iff_ne, ne_eq, not_exists, not_and]
  exact forall_congr' fun entry => forall_congr' fun _ => not_congr eq_comm

/-- A key without an entry has none that could be left out. -/
theorem filter_of_lookup_eq_none {key : α} {entries : List (α × β)}
    (hnone : entries.lookup key = none) : entries.filter (·.1 != key) = entries := by
  rw [List.filter_eq_self]
  intro entry hentry
  rw [bne_iff_ne]
  rintro rfl
  exact lookup_eq_none_iff.1 hnone (List.mem_map_of_mem hentry)

end EdiSchema.Table
