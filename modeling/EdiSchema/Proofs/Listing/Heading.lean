import EdiSchema.Listing.Entry
import EdiSchema.Proofs.Html.Place
import EdiSchema.Proofs.Text.Blank
import EdiSchema.Proofs.Text.Scan

/-!
# The text of an entry outside its heading

The heading of an entry is taken out of its text as a piece of text: the first place where the title
occurs is erased, wherever it is. This leaves the text outside the heading if there is one heading
and the title occurs nowhere in front of it.

Where a heading stands is told by the nodes before it and before the elements around it, up to the
entry.
-/

namespace EdiSchema

namespace Html.Node

mutual
/-- The text of a node outside headings. The blanks around the text of a heading stay, so that what
stands in front of it is not joined to what follows. -/
def outsideChars : Node → List Char
  | .text content => content.toList
  | .element tag children =>
    if tag.name = "h3" then Text.margins (allTextChars children) else allOutsideChars children

/-- The text of a list of nodes outside headings. -/
def allOutsideChars : List Node → List Char
  | [] => []
  | node :: rest => outsideChars node ++ allOutsideChars rest
end

/-- The text of a page in front of a place, given the elements around it, innermost first. -/
def textBefore (levels : List Level) : List Char :=
  levels.reverse.flatMap fun level => allTextChars level.before.reverse

theorem textBefore_concat (levels : List Level) (level : Level) :
    textBefore (levels ++ [level]) =
      allTextChars level.before.reverse ++ textBefore levels := by
  simp [textBefore]

mutual
/-- Outside headings is all text of a node without headings. -/
theorem outsideChars_of_no_heading (above : List Level) (before : List Node) (node : Node)
    (hnone : (places above before node).filter (·.name == "h3") = []) :
    outsideChars node = textChars node := by
  cases node with
  | text content => rfl
  | element tag children =>
    rw [places] at hnone
    by_cases htag : tag.name = "h3"
    · simp [Place.name, htag] at hnone
    · rw [List.filter_cons_of_neg (by simpa [Place.name] using htag)] at hnone
      rw [outsideChars, if_neg htag, textChars, allOutsideChars_of_no_heading _ _ children hnone]

/-- Outside headings is all text of nodes without headings. -/
theorem allOutsideChars_of_no_heading (above : List Level) (before nodes : List Node)
    (hnone : (allPlaces above before nodes).filter (·.name == "h3") = []) :
    allOutsideChars nodes = allTextChars nodes := by
  cases nodes with
  | nil => rfl
  | cons node rest =>
    rw [allPlaces, List.filter_append, List.append_eq_nil_iff] at hnone
    rw [allOutsideChars, allTextChars, outsideChars_of_no_heading _ _ node hnone.1,
      allOutsideChars_of_no_heading _ _ rest hnone.2]
end

mutual
/-- The text of a node with one heading stands in front of the heading, in it and behind it. -/
theorem exists_textChars_eq (above : List Level) (before : List Node) (node : Node)
    {heading : Place} (hone : (places above before node).filter (·.name == "h3") = [heading]) :
    ∃ levels back, heading.levels = levels ++ above ∧
      allTextChars before.reverse ++ textChars node =
        textBefore levels ++ heading.textChars ++ back ∧
      allTextChars before.reverse ++ outsideChars node =
        textBefore levels ++ Text.margins heading.textChars ++ back := by
  cases node with
  | text content => simp [places] at hone
  | element tag children =>
    rw [places] at hone
    by_cases htag : tag.name = "h3"
    · rw [List.filter_cons_of_pos (by simpa [Place.name] using htag)] at hone
      obtain ⟨rfl, -⟩ := List.cons.inj hone
      refine ⟨[⟨tag, before⟩], [], rfl, ?_, ?_⟩
      · simp [textBefore, textChars, Place.textChars]
      · simp [textBefore, outsideChars, htag, Place.textChars]
    · rw [List.filter_cons_of_neg (by simpa [Place.name] using htag)] at hone
      obtain ⟨levels, back, hlevels, htext, houtside⟩ :=
        exists_allTextChars_eq (⟨tag, before⟩ :: above) [] children hone
      refine ⟨levels ++ [⟨tag, before⟩], back, by rw [hlevels, List.append_cons], ?_, ?_⟩
      · rw [textBefore_concat, textChars, List.append_assoc, List.append_assoc,
          ← List.append_assoc (textBefore levels), ← htext]
        rfl
      · rw [textBefore_concat, outsideChars, if_neg htag, List.append_assoc, List.append_assoc,
          ← List.append_assoc (textBefore levels), ← houtside]
        rfl

/-- The text of nodes with one heading stands in front of the heading, in it and behind it. -/
theorem exists_allTextChars_eq (above : List Level) (before nodes : List Node)
    {heading : Place} (hone : (allPlaces above before nodes).filter (·.name == "h3") = [heading]) :
    ∃ levels back, heading.levels = levels ++ above ∧
      allTextChars before.reverse ++ allTextChars nodes =
        textBefore levels ++ heading.textChars ++ back ∧
      allTextChars before.reverse ++ allOutsideChars nodes =
        textBefore levels ++ Text.margins heading.textChars ++ back := by
  cases nodes with
  | nil => simp [allPlaces] at hone
  | cons node rest =>
    rw [allPlaces, List.filter_append, List.append_eq_singleton_iff] at hone
    rw [allTextChars, allOutsideChars]
    rcases hone with ⟨hnone, hrest⟩ | ⟨hnode, hnone⟩
    · obtain ⟨levels, back, hlevels, htext, houtside⟩ :=
        exists_allTextChars_eq above (node :: before) rest hrest
      have hbefore : allTextChars (node :: before).reverse =
          allTextChars before.reverse ++ textChars node := by
        simp [allTextChars_append, allTextChars]
      rw [outsideChars_of_no_heading _ _ node hnone, ← List.append_assoc, ← List.append_assoc,
        ← hbefore]
      exact ⟨levels, back, hlevels, htext, houtside⟩
    · obtain ⟨levels, back, hlevels, htext, houtside⟩ := exists_textChars_eq above before node hnode
      refine ⟨levels, back ++ allTextChars rest, hlevels, ?_, ?_⟩
      · rw [← List.append_assoc, htext, List.append_assoc]
      · rw [allOutsideChars_of_no_heading _ _ rest hnone, ← List.append_assoc, houtside,
          List.append_assoc]
end

end Html.Node

namespace Listing

open Html

/-- The headings of an entry. -/
def headingsOf (entry : Place) : List Place :=
  entry.inside.filter fun place => place.name == "h3"

/-- The text of an entry outside its headings. -/
def outsideText (entry : Place) : List Char :=
  Node.allOutsideChars entry.children

/-- The text of an entry in front of a place in it. -/
def frontText (entry place : Place) : List Char :=
  Node.textBefore (place.levels.take (place.levels.length - entry.levels.length))

/-- Whether an entry has at most one heading, and its title occurs nowhere in front of that. -/
def TitleInHeading (entry : Place) : Prop :=
  (headingsOf entry).length ≤ 1 ∧
    ∀ heading ∈ headingsOf entry, ∀ i < (frontText entry heading).length,
      ¬ titleOf entry <+: entry.textChars.drop i

instance (entry : Place) : Decidable (TitleInHeading entry) :=
  inferInstanceAs (Decidable (_ ∧ _))

/-- The title of an entry is the text of its headings. -/
theorem titleOf_eq (entry : Place) :
    titleOf entry = Text.trim ((headingsOf entry).flatMap Place.textChars) :=
  rfl

/-- The text of an entry with one heading has the title in it, behind blanks and what stands in
front of the heading. -/
theorem exists_textChars_eq_titleOf {entry heading : Place} (hone : headingsOf entry = [heading]) :
    ∃ blanks rest, (∀ c ∈ blanks, Text.isBlank c = true) ∧
      entry.textChars = frontText entry heading ++ (blanks ++ (titleOf entry ++ rest)) ∧
      outsideText entry = frontText entry heading ++ (blanks ++ rest) := by
  obtain ⟨levels, back, hlevels, htext, houtside⟩ :=
    Node.exists_allTextChars_eq entry.levels [] entry.children hone
  obtain ⟨blanks, blanks', hheading, hmargins, hblanks, -⟩ :=
    Text.exists_blanks_trim heading.textChars
  have hfront : frontText entry heading = Node.textBefore levels := by
    rw [frontText, hlevels, List.length_append, Nat.add_sub_cancel, List.take_left]
  have htitle : titleOf entry = Text.trim heading.textChars := by
    rw [titleOf_eq, hone, List.flatMap_singleton]
  rw [hheading, ← htitle] at htext
  rw [hmargins] at houtside
  refine ⟨blanks, blanks' ++ back, hblanks, ?_, ?_⟩
  · simpa [hfront, Place.textChars, Node.allTextChars] using htext
  · simpa [hfront, outsideText, Node.allTextChars] using houtside

/-- Without the title the text of an entry is that outside its heading. -/
theorem eraseFirst_titleOf {entry : Place} (htitle : TitleInHeading entry) :
    Text.eraseFirst (titleOf entry) entry.textChars = outsideText entry := by
  obtain ⟨hone, hfirst⟩ := htitle
  cases hheadings : headingsOf entry with
  | nil =>
    rw [titleOf_eq, hheadings, outsideText, Node.allOutsideChars_of_no_heading _ _ _ hheadings]
    exact Text.eraseFirst_nil _
  | cons heading others =>
    obtain rfl : others = [] := by simpa [hheadings] using hone
    obtain ⟨blanks, rest, hblanks, htext, houtside⟩ := exists_textChars_eq_titleOf hheadings
    rw [htext, houtside]
    by_cases hempty : titleOf entry = []
    · rw [hempty, Text.eraseFirst_nil, List.nil_append]
    · have hnowhere := hfirst heading (by rw [hheadings]; exact List.mem_singleton_self heading)
      rw [htext] at hnowhere
      exact Text.eraseFirst_of_first hblanks (Text.startsSolid_trim hempty) rest hnowhere

end Listing

end EdiSchema
