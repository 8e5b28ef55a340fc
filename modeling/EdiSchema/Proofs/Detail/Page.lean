import EdiSchema.Detail.Page
import EdiSchema.Proofs.Text.Scan

/-!
# The detail text of a page

A page with a preformatted block has its detail text in there, and any other text is its own detail
text. Whether there is a block is not asked of the page, but taken from its markup, in which the
start of the tag is looked for in small letters. A block that is written in capital letters is
overlooked, and text in which the same letters start another tag or stand in a comment is taken for
a page. The detail text is right if the block is there whenever the letters are, and otherwise wrong,
unless a block that is overlooked happens to hold all of the markup.

This is so by whatever rules markup is read as a page, so the parser is left open.
-/

namespace EdiSchema.Detail

open Html

/-- Whether a place is the first of some places that passes a test. -/
def IsFirst (test : Place → Bool) (places : List Place) (place : Place) : Prop :=
  test place = true ∧ ∃ front back, places = front ++ place :: back ∧
    ∀ other ∈ front, test other = false

/-- Whether a place is the preformatted block that holds the detail text of a page: the first in the
content of a segment, or the first of all if none is in the content. -/
def IsBlockOf (page : Html.Node) (block : Place) : Prop :=
  IsFirst (fun place => isBlock place && isInContent place) page.pagePlaces block ∨
    (∀ place ∈ page.pagePlaces, isBlock place = true → isInContent place = false) ∧
      IsFirst isBlock page.pagePlaces block

section Block

variable {page : Html.Node} {block : Place}

theorem find?_eq_some_iff_isFirst {test : Place → Bool} {places : List Place} :
    places.find? test = some block ↔ IsFirst test places block := by
  simp [List.find?_eq_some_iff_append, IsFirst]

/-- The block of a page is found. -/
theorem block?_eq_some_iff : block? page = some block ↔ IsBlockOf page block := by
  simp only [block?, List.find?_filter, List.head?_filter, Option.or_eq_some_iff,
    find?_eq_some_iff_isFirst, List.find?_eq_none, IsBlockOf]
  simp

/-- The block of a page is one of its preformatted elements. -/
theorem IsBlockOf.mem (hblock : IsBlockOf page block) :
    block ∈ page.pagePlaces ∧ block.name = "pre" := by
  rcases hblock with ⟨htest, front, back, hplaces, -⟩ | ⟨-, htest, front, back, hplaces, -⟩
  · rw [hplaces]
    exact ⟨by simp, by simpa [isBlock] using (Bool.and_eq_true_iff.1 htest).1⟩
  · rw [hplaces]
    exact ⟨by simp, by simpa [isBlock] using htest⟩

/-- A page with a preformatted element has a block. -/
theorem exists_isBlockOf {place : Place} (hmem : place ∈ page.pagePlaces)
    (hname : place.name = "pre") : ∃ block, IsBlockOf page block := by
  simp only [← block?_eq_some_iff]
  rw [← Option.isSome_iff_exists, block?, Option.isSome_or, Bool.or_eq_true]
  right
  rw [List.isSome_head?, Ne, List.filter_eq_nil_iff]
  exact fun hnone => hnone place hmem (by simpa [isBlock] using hname)

end Block

section Markup

variable {parse : String → Html.Node} {markup : String} {block : Place}

theorem textBy_of_mention (hmention : "<pre".toList <:+: markup.toList) :
    textBy parse markup = blockText (parse markup) :=
  if_pos (Text.contains_iff.2 hmention)

theorem textBy_of_no_mention (hmention : ¬ "<pre".toList <:+: markup.toList) :
    textBy parse markup = markup :=
  if_neg fun hcontains => hmention (Text.contains_iff.1 hcontains)

/-- The text of the block is found if the markup has the start of its tag in small letters, or else
is that text itself. -/
theorem textBy_eq_textChars_iff (hblock : IsBlockOf (parse markup) block) :
    textBy parse markup = String.ofList block.textChars ↔
      "<pre".toList <:+: markup.toList ∨ markup.toList = block.textChars := by
  by_cases hmention : "<pre".toList <:+: markup.toList
  · rw [textBy_of_mention hmention, blockText, block?_eq_some_iff.2 hblock]
    exact ⟨fun _ => .inl hmention, fun _ => rfl⟩
  · rw [textBy_of_no_mention hmention, or_iff_right hmention]
    exact ⟨fun hsame => by rw [hsame, String.toList_ofList],
      fun hsame => by rw [← hsame, String.ofList_toList]⟩

/-- Where there is no block but the start of the tag of one, the text is lost. -/
theorem textBy_eq_empty (hnone : ∀ place ∈ (parse markup).pagePlaces, place.name ≠ "pre")
    (hmention : "<pre".toList <:+: markup.toList) : textBy parse markup = "" := by
  have hblock : block? (parse markup) = none := by
    rw [Option.eq_none_iff_forall_ne_some]
    intro block hfound
    obtain ⟨hmem, hname⟩ := (block?_eq_some_iff.1 hfound).mem
    exact hnone block hmem hname
  rw [textBy_of_mention hmention, blockText, hblock]

/-- Text without a block is left as it is exactly if it does not have the start of the tag of
one. -/
theorem textBy_eq_self_iff (hnone : ∀ place ∈ (parse markup).pagePlaces, place.name ≠ "pre") :
    textBy parse markup = markup ↔ ¬ "<pre".toList <:+: markup.toList := by
  refine ⟨fun hsame hmention => ?_, textBy_of_no_mention⟩
  rw [textBy_eq_empty hnone hmention] at hsame
  rw [← hsame] at hmention
  exact absurd hmention (by decide)

end Markup

end EdiSchema.Detail
