import EdiSchema.Proofs.Html.Place
import EdiSchema.Proofs.Listing.Layout
import EdiSchema.Proofs.Text.Blank
import EdiSchema.Proofs.Text.Case
import EdiSchema.Proofs.Text.Digit
import EdiSchema.Proofs.Text.Scan

/-!
# Reading the boxes of a directory page

What a page says of a segment or a group is read back from its box, wherever on the page the box
stands: the tag or code from the heading, how often it occurs from its mark, and the description
from the paragraph. The group that a box lies in is told by the heading in front of the region
around it.

So the entries of a page are those of its outlines, numbered in the order in which the boxes start.
-/

namespace EdiSchema.Listing

open Layout

section Marks

variable {flag : Char} {flags : List Char}

/-- A mark is found where it stands. -/
theorem annotation?_mark (hflag : flag ∈ flags) (count : UInt32) (rest : List Char) :
    annotation? flags (mark flag count ++ rest) =
      some (flag, (Text.decimal count.toNat).toList) := by
  have hspan : ((Text.decimal count.toNat).toList ++ (')' :: rest)).span Text.isDigit =
      ((Text.decimal count.toNat).toList, ')' :: rest) := by
    refine Text.span_append (fun c hc => ?_) (by simp; decide)
    rw [Text.isDigit, Text.isDigit_of_mem_decimal hc, Bool.true_or]
  simp only [mark, List.append_assoc, List.cons_append, List.nil_append, annotation?, hspan]
  exact if_pos ⟨hflag, Text.decimal_ne_nil _, rfl⟩

/-- No mark starts with a character that is no flag. -/
theorem annotation?_cons {c : Char} (hc : c ∉ flags) (rest : List Char) :
    annotation? flags (c :: rest) = none := by
  cases rest with
  | nil => rfl
  | cons d rest =>
    by_cases hd : d = '('
    · subst hd; simp [annotation?, hc]
    · simp [annotation?, hd]

/-- A mark is found behind characters that are no flags. -/
theorem findSuffix?_mark {front : List Char} (hfront : ∀ c ∈ front, c ∉ flags)
    (hflag : flag ∈ flags) (count : UInt32) (rest : List Char) :
    Text.findSuffix? (annotation? flags) (front ++ (mark flag count ++ rest)) =
      some (flag, (Text.decimal count.toNat).toList) := by
  rw [Text.findSuffix?_append fun c hc => annotation?_cons (hfront c hc)]
  exact Text.findSuffix?_of_eq_some (annotation?_mark hflag count rest)

/-- The count in a mark is read back. -/
theorem boundOf_decimal (count : UInt32) :
    boundOf (Text.decimal count.toNat).toList = .bounded count := by
  rw [boundOf, Text.readCount32_decimal]

end Marks

section Codes

/-- A digit in ASCII is a digit. -/
theorem isDigit_of_ascii {c : Char} (hc : c.isDigit = true) : Text.isDigit c = true := by
  rw [Text.isDigit, hc, Bool.true_or]

/-- A capital letter is neither a blank nor a digit. -/
theorem isBlank_isDigit_of_isUpper {c : Char} (hc : c.isUpper = true) :
    Text.isBlank c = false ∧ Text.isDigit c = false := by
  rw [Text.isUpper_iff_toNat] at hc
  have hascii : c.isDigit = false := by
    rw [Bool.eq_false_iff, Ne, Text.isDigit_iff_toNat]
    omega
  constructor
  · simp only [Text.isBlank, Bool.or_eq_false_iff, Bool.and_eq_false_iff, decide_eq_false_iff_not,
      beq_eq_false_iff_ne]
    omega
  · rw [Text.isDigit, hascii, Bool.false_or, Bool.and_eq_false_iff, decide_eq_false_iff_not]
    omega

/-- A code is found at the front of a text. -/
theorem groupCode?_append (box : GroupBox) {rest : List Char}
    (hrest : ∀ c ∈ rest.head?, Text.isDigit c = false) :
    groupCode? (box.code.toList ++ rest) = some box.code := by
  have hdigits : (box.digits.toList ++ rest).takeWhile Text.isDigit = box.digits.toList := by
    have hspan := Text.span_append (fun c hc => isDigit_of_ascii (box.isDigit_digits c hc)) hrest
    rw [List.span_eq_takeWhile_dropWhile] at hspan
    exact congrArg Prod.fst hspan
  have hne : box.digits.toList ≠ [] := by simpa using box.digits_ne_empty
  have hfound : codeDigits? (box.code.toList ++ rest) = some box.digits.toList := by
    simp [GroupBox.code, codeDigits?, hdigits, hne]
  rw [groupCode?, Text.findSuffix?_of_eq_some hfound, GroupBox.code]
  simp [String.ext_iff]

/-- A text without digits has no code. -/
theorem groupCode?_eq_none {cs : List Char} (hcs : ∀ c ∈ cs, Text.isDigit c = false) :
    groupCode? cs = none := by
  have hnone : ∀ tail, tail <:+ cs → codeDigits? tail = none := by
    intro tail htail
    unfold codeDigits?
    split
    · next rest =>
      have hdigits : rest.takeWhile Text.isDigit = [] := by
        cases rest with
        | nil => rfl
        | cons c rest =>
          have hc := hcs c (htail.subset (by simp))
          rw [List.takeWhile_cons, hc]
          rfl
      rw [hdigits]
      rfl
    · rfl
  rw [groupCode?, Text.findSuffix?_eq_none hnone]
  rfl

/-- The heading of a group names it and says how often it occurs. -/
theorem heading_chars (box : GroupBox) :
    box.heading.toList = box.code.toList ++ (' ' :: mark 'C' box.count) := by
  simp [GroupBox.heading]

/-- The bound of a group is read from its heading. -/
theorem groupBound_heading (box : GroupBox) :
    groupBound box.heading.toList = .bounded box.count := by
  have hfront : ∀ c ∈ box.code.toList ++ [' '], c ∉ ['C'] := by
    have hdigit : ∀ c ∈ box.digits.toList, c ≠ 'C' := by
      rintro c hc rfl
      exact absurd (box.isDigit_digits _ hc) (by decide)
    simpa [GroupBox.code, or_imp, forall_and] using hdigit
  have hmark := findSuffix?_mark hfront (List.mem_singleton_self 'C') box.count []
  rw [List.append_nil, List.append_assoc, List.singleton_append, ← heading_chars] at hmark
  rw [groupBound, hmark]
  exact boundOf_decimal box.count

end Codes

section Segments

variable {blanks : List Char}

/-- A blank is none of the characters that are not blank. -/
theorem ne_of_isBlank {c d : Char} (hc : Text.isBlank c = true) (hd : Text.isBlank d = false) :
    c ≠ d := by
  rintro rfl
  simp [hc] at hd

/-- In the mark of a conditional segment no mark of a mandatory one starts. -/
theorem ne_of_mem_mark {count : UInt32} {c : Char} (hc : c ∈ mark 'C' count) : c ≠ 'M' := by
  have hdigit : ∀ c ∈ (Text.decimal count.toNat).toList, c ≠ 'M' := by
    rintro c hc rfl
    exact absurd (Text.isDigit_of_mem_decimal hc) (by decide)
  have hmark : ∀ c ∈ mark 'C' count, c ≠ 'M' := by
    simpa [mark, or_imp, forall_and] using hdigit
  exact hmark c hc

variable {front between back : List Char}

/-- A mark of a mandatory segment is found exactly where there is one, since the description does
not look like one. -/
theorem contains_mark (hfront : ∀ c ∈ front, Text.isBlank c = true)
    (hbetween : ∀ c ∈ between, Text.isBlank c = true) (hback : ∀ c ∈ back, Text.isBlank c = true)
    (box : SegmentBox) :
    Text.contains ['M', '('] (front ++ (mark (flag box.requirement) box.count ++
      (between ++ (box.description.toList ++ back)))) = box.requirement.isMandatory := by
  rw [Bool.eq_iff_iff, Text.contains_iff,
    Text.pair_infix_append_iff fun c hc => ne_of_isBlank (hfront c hc) rfl]
  cases box.requirement with
  | mandatory => exact iff_of_true (List.prefix_append _ _).isInfix rfl
  | conditional =>
    rw [flag, Text.pair_infix_append_iff fun _ => ne_of_mem_mark,
      Text.pair_infix_append_iff fun c hc => ne_of_isBlank (hbetween c hc) rfl,
      Text.pair_infix_append_iff_left fun c hc => ne_of_isBlank (hback c hc) rfl]
    exact iff_of_false box.mark_not_infix (by decide)

/-- How often a segment occurs is read from its mark, with blanks and the description around it. -/
theorem segmentOccurs_mark (hfront : ∀ c ∈ front, Text.isBlank c = true)
    (hbetween : ∀ c ∈ between, Text.isBlank c = true) (hback : ∀ c ∈ back, Text.isBlank c = true)
    (box : SegmentBox) :
    segmentOccurs (front ++ (mark (flag box.requirement) box.count ++
      (between ++ (box.description.toList ++ back)))) = (box.requirement, .bounded box.count) := by
  have hflag : flag box.requirement ∈ ['M', 'C'] := by
    cases box.requirement <;> decide
  have hflags : ∀ c ∈ front, c ∉ ['M', 'C'] := by
    intro c hc hmem
    have hsolid : ∀ d ∈ ['M', 'C'], Text.isBlank d = false :=
      List.forall_mem_cons.2 ⟨rfl, List.forall_mem_singleton.2 rfl⟩
    exact ne_of_isBlank (hfront c hc) (hsolid c hmem) rfl
  rw [segmentOccurs, findSuffix?_mark hflags hflag, contains_mark hfront hbetween hback]
  simp only [boundOf_decimal]
  cases box.requirement <;> rfl

end Segments

section Boxes

variable (gap : ℕ → Gap)

/-- The nodes of a text have this text. -/
theorem allTextChars_textNodes (text : String) :
    Html.Node.allTextChars (textNodes text) = text.toList := by
  unfold textNodes
  split
  · next hempty => simp [hempty, Html.Node.allTextChars]
  · simp [Html.Node.allTextChars, Html.Node.textChars]

/-- The nodes of a text are texts. -/
theorem areTexts_textNodes (text : String) : Html.AreTexts (textNodes text) := by
  unfold textNodes
  split
  · simp [Html.AreTexts]
  · simp [Html.AreTexts]

/-- A text of separated words loses nothing when it is trimmed and its words are joined. -/
theorem collapse_trim {description : String} (hdescription : IsCollapsed description) :
    Text.collapse (Text.trim description.toList) = description.toList := by
  rw [Text.collapse, Text.words_trim]
  exact hdescription

/-- Whether boxes with some elements around them lie in a group. -/
def LiesIn (above : List Html.Level) (site : Option String) : Prop :=
  ∀ before children, enclosingGroup? ⟨⟨boxTag, before⟩, children, above⟩ = site

/-- In the box of a segment are the heading, the link, the mark and the paragraph. -/
theorem Layout.SegmentBox.exists_places (box : SegmentBox) (level : ℕ) (levels : List Html.Level) :
    ∃ first second third : List Html.Node,
      Html.Node.allPlaces levels [] (box.content gap level) = [
        ⟨⟨⟨"h3", [("class", "deep")]⟩, first⟩, [link box.tag], levels⟩,
        ⟨⟨⟨"a", [("href", "../segment/" ++ box.tag ++ ".html")]⟩, []⟩, [.text box.tag],
          ⟨⟨"h3", [("class", "deep")]⟩, first⟩ :: levels⟩,
        ⟨⟨⟨"span", [("class", "occurs")]⟩, second⟩,
          [.text (String.ofList (mark (flag box.requirement) box.count))], levels⟩,
        ⟨⟨⟨"p", []⟩, third⟩, textNodes box.description, levels⟩] := by
  simp only [SegmentBox.content, Html.Node.allPlaces_append, gapNodes,
    Html.Node.allPlaces_of_areTexts _ _ (areTexts_textNodes _), Html.Node.allPlaces,
    Html.Node.places, link, List.nil_append, List.append_nil, List.cons_append]
  exact ⟨_, _, _, rfl⟩

/-- A tag consists of capital letters. -/
theorem Layout.SegmentBox.isUpper_of_mem_tag (box : SegmentBox) :
    box.tag.toList ≠ [] ∧ ∀ c ∈ box.tag.toList, c.isUpper = true := by
  have htag := box.isSegmentTag_tag
  rw [isSegmentTag, Bool.and_eq_true, beq_iff_eq, List.all_eq_true] at htag
  exact ⟨List.ne_nil_of_length_pos (by omega), htag.2⟩

/-- The title, the tag and the description of a segment are found in its box. -/
theorem Layout.SegmentBox.texts (box : SegmentBox) (level : ℕ) (before : List Html.Node)
    (above : List Html.Level) :
    let place : Html.Place := ⟨⟨boxTag, before⟩, box.content gap level, above⟩
    titleOf place = box.tag.toList ∧ tagOf place = box.tag.toList ∧
      descriptionOf place = box.description := by
  intro place
  obtain ⟨hne, hupper⟩ := box.isUpper_of_mem_tag
  have hplain : ∀ c ∈ box.tag.toList, Text.isBlank c = false := fun c hc =>
    (isBlank_isDigit_of_isUpper (hupper c hc)).1
  have hdeep : (⟨"h3", [("class", "deep")]⟩ : Html.Tag).hasClass "deep" = true := by
    decide +kernel
  obtain ⟨first, second, third, hplaces⟩ :=
    box.exists_places gap level (⟨boxTag, before⟩ :: above)
  have hinside : place.inside = _ := hplaces
  refine ⟨?_, ?_, ?_⟩
  · simp [titleOf, hinside, Html.Place.name, joinedText, link, Html.Place.textChars,
      Html.Node.allTextChars, Html.Node.textChars, Text.trim_of_not_isBlank hplain]
  · simp [tagOf, hinside, isSegmentLink, hdeep, Html.Place.name, joinedText, Html.Place.textChars,
      Html.Node.allTextChars, Html.Node.textChars, Text.trim_of_not_isBlank hplain,
      Text.collapse_of_not_isBlank hplain hne]
  · simp [descriptionOf, hinside, Html.Place.name, joinedText, Html.Place.textChars,
      allTextChars_textNodes, collapse_trim box.isCollapsed_description]

/-- The text in the box of a segment. -/
theorem Layout.SegmentBox.allTextChars_content (box : SegmentBox) (level : ℕ) :
    Html.Node.allTextChars (box.content gap level) = (gap (level + 1)).text.toList ++
      (box.tag.toList ++ ((gap (level + 1)).text.toList ++ (mark (flag box.requirement) box.count ++
        ((gap (level + 1)).text.toList ++
          (box.description.toList ++ (gap level).text.toList))))) := by
  simp [SegmentBox.content, gapNodes, Html.Node.allTextChars_append, allTextChars_textNodes, link,
    Html.Node.allTextChars, Html.Node.textChars]

/-- A segment is read back from its box. -/
theorem Layout.SegmentBox.ofPlace_content (box : SegmentBox) (index level : ℕ)
    (before : List Html.Node) {above : List Html.Level} {site : Option String}
    (hsite : LiesIn above site) :
    Entry.ofPlace index ⟨⟨boxTag, before⟩, box.content gap level, above⟩ =
      .segment (box.marker index site) := by
  obtain ⟨hne, hupper⟩ := box.isUpper_of_mem_tag
  obtain ⟨htitle, htag, hdescription⟩ := box.texts gap level before above
  have hcode : groupCode? box.tag.toList = none :=
    groupCode?_eq_none fun c hc => (isBlank_isDigit_of_isUpper (hupper c hc)).2
  have hsolid : Text.StartsSolid box.tag.toList := Text.startsSolid_of_not_isBlank hne fun c hc =>
    (isBlank_isDigit_of_isUpper (hupper c hc)).1
  have hoccurs : segmentOccurs (Text.eraseFirst box.tag.toList
      (Html.Node.allTextChars (box.content gap level))) =
        (box.requirement, .bounded box.count) := by
    have hblanks := (gap (level + 1)).isBlank_text
    rw [box.allTextChars_content, Text.eraseFirst_append hblanks hsolid, ← List.append_assoc]
    refine segmentOccurs_mark (fun c hc => ?_) hblanks (gap level).isBlank_text box
    exact hblanks c ((List.mem_append.1 hc).elim id id)
  have hempty : box.tag.toList.isEmpty = false := List.isEmpty_eq_false_iff.2 hne
  simp only [Entry.ofPlace, htitle, htag, hdescription, hcode, hempty, box.isSegmentTag_tag,
    Html.Place.textChars, hoccurs, hsite before (box.content gap level), Bool.not_true,
    Bool.false_eq_true, if_false, String.ofList_toList]
  rfl

/-- In the box of a group are the heading and the paragraph. -/
theorem Layout.GroupBox.exists_places (box : GroupBox) (level : ℕ) (levels : List Html.Level) :
    ∃ first second : List Html.Node,
      Html.Node.allPlaces levels [] (box.content gap level) = [
        ⟨⟨⟨"h3", []⟩, first⟩, [.text box.heading], levels⟩,
        ⟨⟨⟨"p", []⟩, second⟩, textNodes box.description, levels⟩] := by
  simp only [GroupBox.content, Html.Node.allPlaces_append, gapNodes,
    Html.Node.allPlaces_of_areTexts _ _ (areTexts_textNodes _), Html.Node.allPlaces,
    Html.Node.places, List.nil_append, List.append_nil, List.cons_append]
  exact ⟨_, _, rfl⟩

/-- A heading has no blanks around it. -/
theorem trim_heading (box : GroupBox) : Text.trim box.heading.toList = box.heading.toList := by
  have hstart : Text.StartsSolid box.heading.toList := by
    rw [heading_chars, GroupBox.code]
    exact ⟨'S', by simp, rfl⟩
  have hend : Text.EndsSolid box.heading.toList := by
    have hbracket : Text.EndsSolid [')'] := ⟨')', rfl, rfl⟩
    have hmark := hbracket.append (['C', '('] ++ (Text.decimal box.count.toNat).toList)
    rw [heading_chars, ← List.singleton_append, ← List.append_assoc]
    exact hmark.append _
  have htrim := Text.trim_append (List.forall_mem_nil _) hstart hend
  rwa [List.nil_append] at htrim

/-- The title and the description of a group are found in its box. -/
theorem Layout.GroupBox.texts (box : GroupBox) (level : ℕ) (before : List Html.Node)
    (above : List Html.Level) :
    let place : Html.Place := ⟨⟨boxTag, before⟩, box.content gap level, above⟩
    titleOf place = box.heading.toList ∧ descriptionOf place = box.description := by
  intro place
  obtain ⟨first, second, hplaces⟩ := box.exists_places gap level (⟨boxTag, before⟩ :: above)
  have hinside : place.inside = _ := hplaces
  constructor
  · simp [titleOf, hinside, Html.Place.name, joinedText, Html.Place.textChars,
      Html.Node.allTextChars, Html.Node.textChars, trim_heading]
  · simp [descriptionOf, hinside, Html.Place.name, joinedText, Html.Place.textChars,
      allTextChars_textNodes, collapse_trim box.isCollapsed_description]

/-- A group is read back from its box. -/
theorem Layout.GroupBox.ofPlace_content (box : GroupBox) (index level : ℕ)
    (before : List Html.Node) {above : List Html.Level} {site : Option String}
    (hsite : LiesIn above site) :
    Entry.ofPlace index ⟨⟨boxTag, before⟩, box.content gap level, above⟩ =
      .group (box.marker index) site := by
  obtain ⟨htitle, hdescription⟩ := box.texts gap level before above
  have hcode : groupCode? box.heading.toList = some box.code := by
    rw [heading_chars]
    exact groupCode?_append box (by simp; decide)
  simp only [Entry.ofPlace, htitle, hdescription, hcode, groupBound_heading,
    hsite before (box.content gap level)]
  rfl

end Boxes

section Pages

/-- The entries of some places, the boxes among them being numbered from an index on. -/
def entriesFrom (index : ℕ) (places : List Html.Place) : List Entry :=
  (places.filter fun place => place.here.tag.hasClass "isotope-container").mapIdx
    fun i => Entry.ofPlace (index + i)

/-- A page is read from its first box on. -/
theorem entriesOf_eq (page : Html.Node) : entriesOf page = entriesFrom 0 page.pagePlaces := by
  simp only [entriesOf, entriesFrom, Nat.zero_add]

/-- Places are read one part after the other. -/
theorem entriesFrom_append (index : ℕ) (first second : List Html.Place) :
    entriesFrom index (first ++ second) =
      entriesFrom index first ++
        entriesFrom (index + (entriesFrom index first).length) second := by
  simp only [entriesFrom, List.filter_append, List.mapIdx_append, List.length_mapIdx]
  congr 2
  funext i
  rw [Nat.add_assoc, Nat.add_comm i]

/-- A box is an entry. -/
theorem entriesFrom_box (index : ℕ) (before : List Html.Node) (children : List Html.Node)
    (above : List Html.Level) (rest : List Html.Place) :
    entriesFrom index (⟨⟨boxTag, before⟩, children, above⟩ :: rest) =
      Entry.ofPlace index ⟨⟨boxTag, before⟩, children, above⟩ :: entriesFrom (index + 1) rest := by
  have hbox : boxTag.hasClass "isotope-container" = true := by decide +kernel
  simp only [entriesFrom, List.filter_cons, hbox, if_true, List.mapIdx_cons, Nat.add_zero]
  congr 2
  funext i
  rw [Nat.add_assoc, Nat.add_comm 1]

/-- Other elements are passed over. -/
theorem entriesFrom_cons {place : Html.Place}
    (hplace : place.here.tag.hasClass "isotope-container" = false) (index : ℕ)
    (rest : List Html.Place) : entriesFrom index (place :: rest) = entriesFrom index rest := by
  rw [entriesFrom, List.filter_cons_of_neg (by simp [hplace])]
  rfl

/-- An element without a class attribute has no class. -/
theorem hasClass_eq_false {tag : Html.Tag} (htag : tag.attributes.lookup "class" = none)
    (name : String) : tag.hasClass name = false := by
  simp [Html.Tag.hasClass, Html.Tag.classes, htag]

variable (gap : ℕ → Gap)

/-- In the box of a segment is no other box. -/
theorem Layout.SegmentBox.entriesFrom_content (box : SegmentBox) (index level : ℕ)
    (levels : List Html.Level) :
    entriesFrom index (Html.Node.allPlaces levels [] (box.content gap level)) = [] := by
  have hheading :
      (⟨"h3", [("class", "deep")]⟩ : Html.Tag).hasClass "isotope-container" = false := by
    decide +kernel
  have hmark : (⟨"span", [("class", "occurs")]⟩ : Html.Tag).hasClass "isotope-container" =
      false := by
    decide +kernel
  obtain ⟨first, second, third, hplaces⟩ := box.exists_places gap level levels
  rw [hplaces, entriesFrom_cons hheading, entriesFrom_cons (hasClass_eq_false rfl _),
    entriesFrom_cons hmark, entriesFrom_cons (hasClass_eq_false rfl _)]
  rfl

/-- In the box of a group is no other box. -/
theorem Layout.GroupBox.entriesFrom_content (box : GroupBox) (index level : ℕ)
    (levels : List Html.Level) :
    entriesFrom index (Html.Node.allPlaces levels [] (box.content gap level)) = [] := by
  obtain ⟨first, second, hplaces⟩ := box.exists_places gap level levels
  rw [hplaces, entriesFrom_cons (hasClass_eq_false rfl _),
    entriesFrom_cons (hasClass_eq_false rfl _)]
  rfl

/-- Boxes in the region behind a heading lie in the group that the heading names. -/
theorem liesIn_region (box : GroupBox) {before : List Html.Node}
    (hbefore : Html.nearestElement? before = some ("h3", box.code.toList))
    (above : List Html.Level) : LiesIn (⟨regionTag, before⟩ :: above) (some box.code) := by
  have hbox : boxTag.hasClass "collapse" = false := by decide +kernel
  have hregion : regionTag.hasClass "collapse" = true := by decide +kernel
  have hcode : groupCode? (box.code.toList ++ []) = some box.code :=
    groupCode?_append box (by simp)
  rw [List.append_nil] at hcode
  intro _ _
  simp [enclosingGroup?, Html.Place.levels, List.find?, hbox, hregion, hbefore, hcode]

mutual
/-- The entries of a listing for an entry of a message are as many as its boxes. -/
theorem Layout.Outline.length_entries (index : ℕ) (site : Option String) (outline : Outline) :
    (outline.entries index site).length = outline.size := by
  cases outline with
  | segment box => rfl
  | group box children =>
    rw [Outline.entries, List.length_cons, length_allEntries, Outline.size, Nat.add_comm]

/-- The entries of a listing for the entries of a list are as many as their boxes. -/
theorem Layout.Outline.length_allEntries (index : ℕ) (site : Option String)
    (outlines : List Outline) :
    (Outline.allEntries index site outlines).length = Outline.sizeAll outlines := by
  cases outlines with
  | nil => rfl
  | cons outline rest =>
    rw [Outline.allEntries, List.length_append, length_entries, length_allEntries,
      Outline.sizeAll]
end

mutual
/-- An entry of a message is read back where it is laid out. -/
theorem entriesFrom_markup (index level : ℕ) {above : List Html.Level} {site : Option String}
    (hsite : LiesIn above site) (before : List Html.Node) (outline : Outline) :
    entriesFrom index (Html.Node.allPlaces above before (outline.markup gap level)) =
      outline.entries index site := by
  have htexts : Html.AreTexts (gapNodes gap level) := areTexts_textNodes _
  cases outline with
  | segment box =>
    rw [Outline.markup, Html.Node.allPlaces_append, Html.Node.allPlaces_of_areTexts _ _ htexts,
      List.nil_append, Html.Node.allPlaces, Html.Node.places, Html.Node.allPlaces,
      List.append_nil, entriesFrom_box, box.ofPlace_content gap index level _ hsite,
      box.entriesFrom_content]
    rfl
  | group box children =>
    have hregion : regionTag.hasClass "isotope-container" = false := by decide +kernel
    have hreverse : Html.AreTexts (gapNodes gap level).reverse := fun node hnode =>
      htexts node (List.mem_reverse.1 hnode)
    -- The nearest element before the region is the heading with the code.
    have hheading (nodes : List Html.Node) : Html.nearestElement? ((gapNodes gap level).reverse ++
        .element ⟨"h3", []⟩ [.text box.code] :: nodes) = some ("h3", box.code.toList) := by
      rw [Html.nearestElement?_append hreverse]
      simp [Html.nearestElement?, Html.Node.allTextChars, Html.Node.textChars]
    simp only [Outline.markup, Html.Node.allPlaces_append,
      Html.Node.allPlaces_of_areTexts _ _ htexts, List.nil_append, List.append_nil,
      Html.Node.allPlaces, Html.Node.places, List.append_assoc, List.cons_append]
    rw [entriesFrom_box, box.ofPlace_content gap index level _ hsite, entriesFrom_append,
      box.entriesFrom_content, List.nil_append, List.length_nil, Nat.add_zero,
      entriesFrom_cons (hasClass_eq_false rfl _), entriesFrom_cons hregion,
      entriesFrom_allMarkup (index + 1) (level + 1) (liesIn_region box (hheading _) above)]
    rfl

/-- The entries of a list are read back where they are laid out. -/
theorem entriesFrom_allMarkup (index level : ℕ) {above : List Html.Level} {site : Option String}
    (hsite : LiesIn above site) (before : List Html.Node) (outlines : List Outline) :
    entriesFrom index (Html.Node.allPlaces above before (Outline.allMarkup gap level outlines)) =
      Outline.allEntries index site outlines := by
  cases outlines with
  | nil => rfl
  | cons outline rest =>
    rw [Outline.allMarkup, Html.Node.allPlaces_append, entriesFrom_append,
      entriesFrom_markup index level hsite, outline.length_entries,
      entriesFrom_allMarkup (index + outline.size) level hsite, Outline.allEntries]
end

/-- The entries of a page are those of the outlines that are laid out on it. -/
theorem entriesOf_page (title : String) (outlines : List Outline) :
    entriesOf (page gap title outlines) = Outline.allEntries 0 none outlines := by
  have htexts (level : ℕ) : Html.AreTexts (gapNodes gap level) := areTexts_textNodes _
  have hstructure : ∀ name ∈ ["isotope-container", "collapse"],
      (⟨"div", [("class", "message-structure")]⟩ : Html.Tag).hasClass name = false := by
    decide +kernel
  have hbox : boxTag.hasClass "collapse" = false := by decide +kernel
  have hplain (name : String) : (⟨name, []⟩ : Html.Tag).hasClass "collapse" = false :=
    hasClass_eq_false rfl _
  have htop (structured body page : List Html.Node) :
      LiesIn [⟨⟨"div", [("class", "message-structure")]⟩, structured⟩, ⟨⟨"body", []⟩, body⟩,
        ⟨⟨"html", []⟩, page⟩] none := by
    intro _ _
    simp [enclosingGroup?, Html.Place.levels, List.find?, hbox, hstructure "collapse", hplain]
  rw [entriesOf_eq, page, Html.Node.pagePlaces]
  simp only [Html.Node.places, Html.Node.allPlaces, Html.Node.allPlaces_append,
    Html.Node.allPlaces_of_areTexts _ _ (htexts 0),
    Html.Node.allPlaces_of_areTexts _ _ (areTexts_textNodes title), List.nil_append,
    List.append_nil, List.cons_append]
  rw [entriesFrom_cons (hasClass_eq_false rfl _), entriesFrom_cons (hasClass_eq_false rfl _),
    entriesFrom_cons (hasClass_eq_false rfl _), entriesFrom_cons (hasClass_eq_false rfl _),
    entriesFrom_cons (hstructure _ (by simp)), entriesFrom_allMarkup gap 0 1 (htop _ _ _)]

end Pages

end EdiSchema.Listing
