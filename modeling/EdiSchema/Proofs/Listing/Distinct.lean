import Mathlib.Data.List.Induction
import Mathlib.Data.List.Nodup
import EdiSchema.Listing.Resolution

/-!
# Lists without repetitions

What occurs in a list, each once and in the order of the first places. One more entry at the end is
kept unless it has occurred before, so such a list can be grown along with a loop.
-/

namespace EdiSchema.Listing

section

variable {α : Type} [DecidableEq α]

/-- What comes last in a list is kept unless it has occurred before. -/
theorem eraseDups_concat (l : List α) (a : α) :
    (l ++ [a]).eraseDups = if a ∈ l then l.eraseDups else l.eraseDups ++ [a] := by
  rw [List.eraseDups_append]
  by_cases ha : a ∈ l
  · simp [List.removeAll, ha]
  · simp [List.removeAll, ha, List.eraseDups_cons]

/-- Nothing is kept twice. -/
theorem nodup_eraseDups (l : List α) : l.eraseDups.Nodup := by
  induction l using List.reverseRecOn with
  | nil => exact List.nodup_nil
  | append_singleton l a ih =>
    rw [eraseDups_concat]
    split
    · exact ih
    · next ha =>
      rw [← List.concat_eq_append]
      exact ih.concat (mt List.mem_eraseDups.1 ha)

/-- What is left out of a list may be left out first. -/
theorem eraseDups_filter (p : α → Bool) (l : List α) :
    (l.filter p).eraseDups = l.eraseDups.filter p := by
  induction l using List.reverseRecOn with
  | nil => rfl
  | append_singleton l a ih =>
    rw [List.filter_append, List.filter_singleton, eraseDups_concat]
    cases hp : p a with
    | false =>
      rw [cond_false, List.append_nil, ih]
      split <;> simp [hp]
    | true =>
      rw [cond_true, eraseDups_concat, ih]
      by_cases ha : a ∈ l <;> simp [ha, hp]

end

/-- Tags are kept in the order of their first places. -/
theorem distinct_eq_eraseDups (tags : List String) : distinct tags = tags.eraseDups := by
  induction tags with
  | nil => rfl
  | cons tag rest ih =>
    rw [distinct, ih, List.eraseDups_cons, eraseDups_filter]
    rfl

/-- Every tag of a list is kept when repeated ones are dropped. -/
theorem mem_distinct {tags : List String} {tag : String} : tag ∈ distinct tags ↔ tag ∈ tags := by
  rw [distinct_eq_eraseDups, List.mem_eraseDups]

end EdiSchema.Listing
