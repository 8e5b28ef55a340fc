import EdiSchema.Proofs.Listing.Entry
import EdiSchema.Proofs.Listing.Heading
import EdiSchema.Proofs.Text.Decimal

/-!
# How often a segment occurs

An entry says outside its heading how often the segment occurs, by the first annotation such as
`M(1)` in its text. The bound is read from that annotation.

The requirement is not: a segment with an annotation is mandatory if `M(` occurs anywhere in the
text. So the letter of the annotation decides unless it is a `C` and some word of the description
looks like the start of another annotation.
-/

namespace EdiSchema.Listing

/-- An occurrence annotation: a letter, and a count in brackets. -/
structure Mark where
  flag : Char
  digits : List Char
  flag_mem : flag ∈ ['M', 'C']
  digits_ne_nil : digits ≠ []
  isDigit_digits : ∀ c ∈ digits, Text.isDigit c = true

namespace Mark

/-- The text of an annotation. -/
def chars (mark : Mark) : List Char :=
  mark.flag :: '(' :: (mark.digits ++ [')'])

/-- The count of an annotation; one if it does not fit 32 bits or is not in ASCII. -/
def bound (mark : Mark) : MaxOccurs :=
  let count := Nat.ofDigitChars 10 mark.digits 0
  if mark.digits.all Char.isDigit ∧ count < UInt32.size then .bounded (.ofNat count) else .one

/-- Whether an annotation stands in a text in front of all others. -/
def IsFirst (mark : Mark) (text : List Char) : Prop :=
  ∃ front rest, text = front ++ (mark.chars ++ rest) ∧
    ∀ (other : Mark) (front' rest' : List Char), text = front' ++ (other.chars ++ rest') →
      front.length ≤ front'.length

end Mark

deriving instance DecidableEq for Entry

/-- An annotation is read at the front of a text exactly if one stands there. -/
theorem annotation?_eq_some_iff {cs digits : List Char} {flag : Char} :
    annotation? ['M', 'C'] cs = some (flag, digits) ↔
      ∃ (mark : Mark) (rest : List Char), cs = mark.chars ++ rest ∧ mark.flag = flag ∧
        mark.digits = digits := by
  constructor
  · intro hread
    unfold annotation? at hread
    split at hread
    · next letter rest =>
      rw [List.span_eq_takeWhile_dropWhile] at hread
      obtain ⟨⟨hletter, hne, hclosed⟩, hpair⟩ := Option.ite_none_right_eq_some.1 hread
      simp only [Option.some.injEq, Prod.mk.injEq] at hpair
      obtain ⟨rfl, rfl⟩ := hpair
      obtain ⟨after, hafter⟩ := List.head?_eq_some_iff.1 hclosed
      have hrest : rest = rest.takeWhile Text.isDigit ++ ')' :: after := by
        rw [← hafter, List.takeWhile_append_dropWhile]
      refine ⟨⟨letter, rest.takeWhile Text.isDigit, hletter, hne,
        List.all_eq_true.1 List.all_takeWhile⟩, after, ?_, rfl, rfl⟩
      simpa [Mark.chars] using hrest
    · simp at hread
  · rintro ⟨mark, rest, rfl, rfl, rfl⟩
    have hspan : (mark.digits ++ (')' :: rest)).span Text.isDigit = (mark.digits, ')' :: rest) :=
      Text.span_append mark.isDigit_digits (by simp; decide)
    simp only [Mark.chars, List.append_assoc, List.cons_append, List.nil_append, annotation?, hspan]
    exact if_pos ⟨mark.flag_mem, mark.digits_ne_nil, rfl⟩

/-- The bound of an annotation is read from its digits. -/
theorem boundOf_digits (mark : Mark) : boundOf mark.digits = mark.bound := by
  have hplus : '+' ∉ mark.digits := fun hmem => absurd (mark.isDigit_digits _ hmem) (by decide)
  have hread : Text.readCount Text.maxCount mark.digits =
      Text.readDigits Text.maxCount 0 mark.digits :=
    Text.readCount_eq_readDigits mark.digits_ne_nil hplus
  rw [boundOf, Text.readCount32, hread, Mark.bound]
  by_cases hcount : mark.digits.all Char.isDigit ∧ Nat.ofDigitChars 10 mark.digits 0 < UInt32.size
  · have hle : Nat.ofDigitChars 10 mark.digits 0 ≤ Text.maxCount := Nat.le_of_lt_succ hcount.2
    have hascii := List.all_eq_true.1 hcount.1
    simp only [Text.readDigits_eq_ok _ 0 hascii hle, if_pos hcount, Except.map]
  · simp only [if_neg hcount]
    cases hdigits : Text.readDigits Text.maxCount 0 mark.digits with
    | error fault => rfl
    | ok count =>
      obtain ⟨hascii, hvalue, hle⟩ := Text.of_readDigits_eq_ok (Nat.zero_le _) hdigits
      exact absurd ⟨List.all_eq_true.2 hascii, hvalue ▸ Nat.lt_succ_of_le hle⟩ hcount

/-- The text of an entry says how often its segment occurs by its first annotation; without one the
segment is conditional and occurs once. -/
theorem segmentOccurs_cases (text : List Char) :
    (∃ mark : Mark, mark.IsFirst text ∧ segmentOccurs text =
      (if ['M', '('] <:+: text then .mandatory else .conditional, mark.bound)) ∨
    ((∀ mark : Mark, ¬ mark.chars <:+: text) ∧
      segmentOccurs text = (.conditional, .one)) := by
  cases hfound : Text.findSuffix? (annotation? ['M', 'C']) text with
  | none =>
    right
    refine ⟨?_, by rw [segmentOccurs, hfound]⟩
    rintro mark ⟨front, rest, rfl⟩
    have hnone := Text.eq_none_of_findSuffix? hfound (mark.chars ++ rest)
      ⟨front, by rw [List.append_assoc]⟩
    rw [annotation?_eq_some_iff.2 ⟨mark, rest, rfl, rfl, rfl⟩] at hnone
    simp at hnone
  | some found =>
    left
    obtain ⟨flag, digits⟩ := found
    obtain ⟨front, behind, rfl, hread, hfirst⟩ := Text.exists_of_findSuffix? hfound
    obtain ⟨mark, rest, rfl, rfl, rfl⟩ := annotation?_eq_some_iff.1 hread
    refine ⟨mark, ⟨front, rest, rfl, fun other front' rest' hsplit => ?_⟩, ?_⟩
    · apply hfirst front' (other.chars ++ rest') hsplit
      rw [annotation?_eq_some_iff.2 ⟨other, rest', rfl, rfl, rfl⟩]
      rfl
    · rw [segmentOccurs, hfound]
      simp only [boundOf_digits, Text.contains_iff]

/-- What the marker of a segment says of its occurrences is read from the text of its entry without
the title. -/
theorem Entry.segmentOccurs_ofPlace {index : ℕ} {place : Html.Place} {s : SegmentMarker}
    (hentry : Entry.ofPlace index place = .segment s) :
    segmentOccurs (Text.eraseFirst (titleOf place) place.textChars) =
      (s.requirement, s.maxOccurs) := by
  unfold Entry.ofPlace at hentry
  dsimp only at hentry
  split at hentry
  · simp at hentry
  · split at hentry
    · simp [skipped] at hentry
    · split at hentry
      · simp [skipped] at hentry
      · rw [← Entry.segment.inj hentry]

/-- The first annotation of a text decides the requirement, unless its letter is a `C` and `M(`
occurs as well. -/
theorem Mark.IsFirst.decides_iff {mark : Mark} {text : List Char} (hfirst : mark.IsFirst text) :
    ((if ['M', '('] <:+: text then Requirement.mandatory else .conditional) = .mandatory ↔
        mark.flag = 'M') ↔
      (mark.flag = 'C' → ¬ ['M', '('] <:+: text) := by
  have hflag : mark.flag = 'M' ∨ mark.flag = 'C' := by simpa using mark.flag_mem
  rcases hflag with hmandatory | hconditional
  · -- The annotation itself starts like this.
    have hmark : ['M', '('] <:+: text := by
      obtain ⟨front, rest, rfl, -⟩ := hfirst
      exact ⟨front, mark.digits ++ ([')'] ++ rest), by simp [chars, hmandatory]⟩
    simp [hmandatory, hmark]
  · simp [hconditional]

/-- The bound of a segment is that of the first annotation in the text of its entry outside the
heading, and so is the requirement, unless the annotation has a `C` and `M(` occurs as well. Without
an annotation the segment is conditional and occurs once. -/
theorem occurs_of_mem_markers {page : Html.Node} {listing : Listing} {s : SegmentMarker}
    (hlisting : ofPageTree page = .ok listing) (hs : .segment s ∈ listing.markers) :
    ∃ entry, (entryPlaces page)[s.index]? = some entry ∧
      let text := Text.eraseFirst (titleOf entry) entry.textChars
      (TitleInHeading entry → text = outsideText entry) ∧
      ((∃ mark : Mark, mark.IsFirst text ∧ s.maxOccurs = mark.bound ∧
          ((s.requirement = .mandatory ↔ mark.flag = 'M') ↔
            (mark.flag = 'C' → ¬ ['M', '('] <:+: text))) ∨
        ((∀ mark : Mark, ¬ mark.chars <:+: text) ∧
          s.requirement = .conditional ∧ s.maxOccurs = .one)) := by
  obtain ⟨entry, hplace, hmarker⟩ := exists_place_of_mem_markers hlisting hs
  have hoccurs := Entry.segmentOccurs_ofPlace (Entry.eq_segment_of_marker? hmarker)
  refine ⟨entry, hplace, fun htitle => eraseFirst_titleOf htitle, ?_⟩
  rcases segmentOccurs_cases (Text.eraseFirst (titleOf entry) entry.textChars) with
    ⟨mark, hfirst, hread⟩ | ⟨hnone, hread⟩
  · left
    rw [hoccurs, Prod.mk.injEq] at hread
    obtain ⟨hrequirement, hbound⟩ := hread
    refine ⟨mark, hfirst, hbound, ?_⟩
    rw [hrequirement]
    exact hfirst.decides_iff
  · right
    rw [hoccurs, Prod.mk.injEq] at hread
    exact ⟨hnone, hread⟩

/-- An entry with its heading behind the description. The second text with an `M` is no annotation,
since a blank stands in front of the bracket. -/
theorem occurs_of_mem_markers_behind_description :
    let text : Html.Node := .element ⟨"p", []⟩ [.text "Up to (9) times"]
    let heading : Html.Node :=
      .element ⟨"h3", [("class", "deep")]⟩ [.text " ", .element ⟨"a", []⟩ [.text "QTY"]]
    let box : Html.Place :=
      ⟨⟨⟨"div", [("class", "isotope-container")]⟩, []⟩, [text, heading, .text "C(9), M (1)"], []⟩
    let page : Html.Node := .element box.here.tag box.children
    let s : SegmentMarker := ⟨"QTY", "Up to (9) times", .conditional, .bounded 9, 0, none⟩
    let listing : Listing := { markers := [.segment s] }
    ofPageTree page = .ok listing ∧ .segment s ∈ listing.markers ∧
    (entryPlaces page)[s.index]? = some box ∧ TitleInHeading box ∧
    outsideText box = "Up to (9) times C(9), M (1)".toList ∧
    ∃ mark : Mark, mark.IsFirst (outsideText box) ∧ s.maxOccurs = mark.bound ∧
      (s.requirement = .mandatory ↔ mark.flag = 'M') := by
  intro text heading box page s listing
  have hentries : entriesOf page = [.segment s] := by decide +kernel
  have hlisting : ofPageTree page = .ok listing := by
    rw [ofPageTree, hentries]
    rfl
  have hs : .segment s ∈ listing.markers := List.mem_singleton_self _
  have hbox : (entryPlaces page)[s.index]? = some box := by rfl
  have htitle : TitleInHeading box := by decide +kernel
  have houtside : outsideText box = "Up to (9) times C(9), M (1)".toList := by decide +kernel
  refine ⟨hlisting, hs, hbox, htitle, houtside, ?_⟩
  obtain ⟨entry, hentry, htext, hoccurs⟩ := occurs_of_mem_markers hlisting hs
  obtain rfl : box = entry := Option.some.inj (hbox.symm.trans hentry)
  rw [htext htitle] at hoccurs
  rcases hoccurs with ⟨mark, hfirst, hbound, hiff⟩ | ⟨hnone, -⟩
  · refine ⟨mark, hfirst, hbound, hiff.2 fun _ => ?_⟩
    rw [houtside]
    decide
  · have hmark : "C(9)".toList <:+: outsideText box := by rw [houtside]; decide
    exact absurd hmark (hnone ⟨'C', ['9'], by decide, by decide, List.all_eq_true.1 (by decide)⟩)

/-- A word of the description that ends in an `M` in front of a bracket makes a segment mandatory
that is annotated as conditional. -/
theorem mandatory_from_description :
    let markup := "<div class=isotope-container><h3 class=deep><a>FTX</a></h3>C(5)<p>On ITEM(S)"
    let s : SegmentMarker := ⟨"FTX", "On ITEM(S)", .mandatory, .bounded 5, 0, none⟩
    ofPage markup = .ok { markers := [.segment s] } ∧
    (entryPlaces (.ofPage markup))[s.index]?.map outsideText = some "C(5)On ITEM(S)".toList ∧
    ∃ mark : Mark, mark.IsFirst "C(5)On ITEM(S)".toList ∧ mark.flag = 'C' ∧
      s.requirement = .mandatory := by
  intro markup s
  have hentries : entriesOf (.ofPage markup) = [.segment s] := by decide +kernel
  refine ⟨by rw [ofPage, ofPageTree, hentries]; rfl, by decide +kernel, ?_⟩
  refine ⟨⟨'C', ['5'], by decide, by decide, List.all_eq_true.1 (by decide)⟩, ?_, rfl, rfl⟩
  exact ⟨[], "On ITEM(S)".toList, rfl, fun _ _ _ _ => Nat.zero_le _⟩

end EdiSchema.Listing
