import Mathlib.Data.List.Basic
import EdiSchema.Html.Place

/-!
# Places among neighbouring nodes

The places of a list of nodes are found piece by piece, each piece with the nodes before it. Text
between elements has no places and does not come between an element and the nearest one before it.
-/

namespace EdiSchema.Html

/-- Whether all nodes of a list are texts. -/
def AreTexts (nodes : List Node) : Prop :=
  ∀ node ∈ nodes, ∃ content, node = .text content

namespace Node

/-- The text of two lists of nodes is that of the first and that of the second. -/
theorem allTextChars_append (first second : List Node) :
    allTextChars (first ++ second) = allTextChars first ++ allTextChars second := by
  induction first with
  | nil => rfl
  | cons node rest ih =>
    rw [List.cons_append, allTextChars, allTextChars, ih, List.append_assoc]

/-- The nodes of the first of two lists stand before those of the second. -/
theorem allPlaces_append (above : List Level) (before first second : List Node) :
    allPlaces above before (first ++ second) =
      allPlaces above before first ++ allPlaces above (first.reverse ++ before) second := by
  induction first generalizing before with
  | nil => rfl
  | cons node rest ih =>
    rw [List.cons_append, allPlaces, allPlaces, ih, List.append_assoc, List.reverse_cons,
      List.append_assoc]
    rfl

/-- Texts have no places. -/
theorem allPlaces_of_areTexts (above : List Level) (before : List Node) {nodes : List Node}
    (hnodes : AreTexts nodes) : allPlaces above before nodes = [] := by
  induction nodes generalizing before with
  | nil => rfl
  | cons node rest ih =>
    obtain ⟨⟨content, rfl⟩, hrest⟩ := List.forall_mem_cons.1 hnodes
    rw [allPlaces, places, ih _ hrest]
    rfl

end Node

/-- The nearest element is found behind texts. -/
theorem nearestElement?_append {texts : List Node} (htexts : AreTexts texts) (rest : List Node) :
    nearestElement? (texts ++ rest) = nearestElement? rest := by
  induction texts with
  | nil => rfl
  | cons node others ih =>
    obtain ⟨⟨content, rfl⟩, hothers⟩ := List.forall_mem_cons.1 htexts
    rw [List.cons_append, nearestElement?, ih hothers]

end EdiSchema.Html
