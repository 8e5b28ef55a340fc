/-!
# Steps that may fail

A run of several steps succeeds exactly when each of them does. These laws take a successful run
apart into its steps, so that no proof about a run unfolds how failures are passed on.
-/

namespace EdiSchema.Steps

variable {ε δ α β : Type}

/-- Two steps succeed if the first does and the second does with its value. -/
theorem bind_eq_ok_iff {first : Except ε α} {next : α → Except ε β} {b : β} :
    (first >>= next) = .ok b ↔ ∃ a, first = .ok a ∧ next a = .ok b := by
  cases first with
  | error fault => simp [bind, Except.bind]
  | ok a => simp [bind, Except.bind]

/-- A value that is returned is the one that is meant. -/
theorem pure_eq_ok_iff {a b : α} : (pure a : Except ε α) = .ok b ↔ a = b := by
  simp [pure, Except.pure]

/-- A step whose faults are reported in another way succeeds as before. -/
theorem mapError_eq_ok_iff {f : ε → δ} {result : Except ε α} {a : α} :
    result.mapError f = .ok a ↔ result = .ok a := by
  cases result with
  | error fault => constructor <;> intro h <;> cases h
  | ok b => constructor <;> intro h <;> cases h <;> rfl

/-- A step whose value is changed succeeds as before. -/
theorem map_eq_ok_iff {f : α → β} {result : Except ε α} {b : β} :
    result.map f = .ok b ↔ ∃ a, result = .ok a ∧ f a = b := by
  cases result <;> simp [Except.map]

/-- Steps over a list succeed if the first step and those over the rest do. -/
theorem foldlM_cons_eq_ok_iff {step : β → α → Except ε β} {a : α} {as : List α} {b c : β} :
    (a :: as).foldlM step b = .ok c ↔
      ∃ next, step b a = .ok next ∧ as.foldlM step next = .ok c := by
  rw [List.foldlM_cons, bind_eq_ok_iff]

/-- Steps over two lists succeed if those over each of them do. -/
theorem foldlM_append_eq_ok_iff {step : β → α → Except ε β} {as bs : List α} {b c : β} :
    (as ++ bs).foldlM step b = .ok c ↔
      ∃ next, as.foldlM step b = .ok next ∧ bs.foldlM step next = .ok c := by
  rw [List.foldlM_append, bind_eq_ok_iff]

/-- What holds at the start and is kept by every step holds after a run over a list. -/
theorem foldlM_induct {step : β → α → Except ε β} {motive : List α → β → Prop} {as : List α}
    {b c : β} (hstart : motive [] b)
    (hstep : ∀ done a b c, motive done b → step b a = .ok c → motive (done ++ [a]) c)
    (hfold : as.foldlM step b = .ok c) : motive as c := by
  have hrun : ∀ (rest done : List α) (b : β), motive done b → rest.foldlM step b = .ok c →
      motive (done ++ rest) c := by
    intro rest
    induction rest with
    | nil =>
      intro done b hdone hrest
      cases hrest
      rwa [List.append_nil]
    | cons a rest ih =>
      intro done b hdone hrest
      obtain ⟨next, ha, hnext⟩ := foldlM_cons_eq_ok_iff.1 hrest
      simpa using ih (done ++ [a]) next (hstep done a b next hdone ha) hnext
  exact hrun as [] b hstart hfold

end EdiSchema.Steps
