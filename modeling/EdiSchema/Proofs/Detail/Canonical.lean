import Mathlib.Data.List.TakeDrop
import EdiSchema.Detail.Basic
import EdiSchema.Proofs.Structure.Canonical

/-!
# Items of a detail text are canonical

Whatever a detail text says, the items that are read from it can be saved and loaded without being
taken for something else: the code of an element starts with a digit, so it is not the code of a
composite, and the letters of a format are small, so they are not the label of a known data type.

Both are facts about single lines. They pass from the outcomes of the lines to the items, which
differ from these in their components and positions only.
-/

namespace EdiSchema

/-- A letter class gives a data type that is told from its label. -/
theorem DataType.canonical_ofLetterClass {letters : String}
    (hletters : ∀ c ∈ letters.toList, c.isLower = true) : (ofLetterClass letters).Canonical := by
  intro label hother
  have hlabel : letters = label := by
    unfold ofLetterClass at hother
    split_ifs at hother
    exact DataType.other.inj hother
  subst hlabel
  have hcapital : ∀ known ∈ knownLabels, known.toList.any (!·.isLower) = true := by
    decide
  intro hknown
  obtain ⟨c, hc, hlower⟩ := List.any_eq_true.1 (hcapital letters hknown)
  simp [hletters c hc] at hlower

namespace Detail

/-- The data type of a format can be told from its label. -/
theorem Format.canonical_ofChars? {cs : List Char} {format : Format}
    (hformat : ofChars? cs = some format) : format.dataType.Canonical := by
  have hlower : ∀ c ∈ (cs.span Char.isLower).1, c.isLower = true := by
    rw [List.span_eq_takeWhile_dropWhile]
    exact List.all_eq_true.1 List.all_takeWhile
  unfold ofChars? at hformat
  split at hformat
  · simp at hformat
  · next letters rest _ hspan =>
    rw [hspan] at hlower
    obtain ⟨range, -, rfl⟩ := Option.map_eq_some_iff.1 hformat
    exact DataType.canonical_ofLetterClass (by simpa using hlower)

/-- The code of a line is of the kind of the line. -/
theorem codeKind?_of_splitLine? {cs code payload : List Char} {kind : LineKind}
    (hsplit : splitLine? cs = some (kind, code, payload)) : codeKind? code = some kind := by
  have hcode : ∀ ds, splitCode? ds = some (kind, code, payload) → codeKind? code = some kind := by
    intro ds hds
    obtain ⟨found, hfound, hsame⟩ := Option.map_eq_some_iff.1 hds
    obtain ⟨rfl, hparts⟩ := Prod.mk.inj hsame
    obtain ⟨rfl, -⟩ := Prod.mk.inj hparts
    exact hfound
  unfold splitLine? at hsplit
  dsimp only at hsplit
  split at hsplit
  · exact hcode _ hsplit
  · exact hcode _ hsplit

/-- The code of a recognised line is of the kind of the line. -/
theorem Line.codeKind?_of_ofText? {tabWidth : ℕ} {text : String} {line : Line}
    (hline : Line.ofText? tabWidth text = some line) :
    codeKind? line.code.toList = some line.kind := by
  unfold Line.ofText? at hline
  dsimp only at hline
  split at hline
  · simp at hline
  · next kind code payload hsplit =>
    split at hline
    · simp at hline
    · obtain rfl := Option.some.inj hline
      simpa using codeKind?_of_splitLine? hsplit

/-- The code of an element is not one of a composite. -/
theorem not_isCode_of_codeKind? {code : String} (hkind : codeKind? code.toList = some .element) :
    ¬ Composite.IsCode code := by
  rintro ⟨letter, hletter, digits, hlength, hdigits, hcode⟩
  have hcomposite : codeKind? code.toList = some .composite := by
    have hall : digits.all Text.isDigit = true := by
      rw [List.all_eq_true]
      intro c hc
      simp [Text.isDigit, hdigits c hc]
    rw [hcode, codeKind?, if_pos ⟨hletter.symm, Or.inl hlength, hall⟩]
  simp [hcomposite] at hkind

/-- What is read from an element line has the code of the line and a canonical data type. -/
theorem element?_canonical {line : Line} {element : Element}
    (helement : element? line = some element) :
    element.code = line.code ∧ element.dataType.Canonical := by
  unfold element? at helement
  dsimp only at helement
  split at helement
  · next hformat =>
    obtain rfl := Option.some.inj helement
    exact ⟨rfl, Format.canonical_ofChars? hformat⟩
  · simp at helement

/-- A composite has the data type of composites and no components as long as its line is read by
itself. -/
theorem composite_canonical (line : Line) : (composite line).Canonical := by
  unfold composite
  split
  all_goals exact ⟨by simp [DataType.Canonical], by simp⟩

/-- An outcome that contributes canonical items. -/
def Outcome.Canonical : Outcome → Prop
  | .composite c => c.Canonical
  | .element e => (Item.simple e).Canonical
  | .component e => e.dataType.Canonical
  | .skip _ _ => True

/-- The outcome of a line whose code is of its kind is canonical. -/
theorem outcome_canonical {line : Line} (hcode : codeKind? line.code.toList = some line.kind)
    (underComposite : Bool) (level : ℕ) : (outcome underComposite level line).Canonical := by
  unfold outcome
  split
  · split
    · exact composite_canonical line
    · trivial
  · next hkind =>
    split
    · trivial
    · next element helement =>
      obtain ⟨hsame, htype⟩ := element?_canonical helement
      have hsimple : (Item.simple element).Canonical := by
        refine ⟨?_, htype⟩
        rw [hsame]
        exact not_isCode_of_codeKind? (hkind ▸ hcode)
      split_ifs
      · exact hsimple
      · exact htype
      · trivial

/-- The outcomes of recognised lines are canonical. -/
theorem outcomes_canonical {lines : List (Numbered Line)} (base : ℕ) (underComposite : Bool)
    (hlines : ∀ line ∈ lines, codeKind? line.content.code.toList = some line.content.kind) :
    ∀ result ∈ outcomes base underComposite lines, result.content.Canonical := by
  induction lines generalizing underComposite with
  | nil => simp [outcomes]
  | cons line rest ih =>
    obtain ⟨hline, hrest⟩ := List.forall_mem_cons.1 hlines
    exact List.forall_mem_cons.2 ⟨outcome_canonical hline _ _, ih _ hrest⟩

/-- What canonical outcomes are gathered to is canonical. -/
theorem gather_canonical {results : List Outcome}
    (hresults : ∀ result ∈ results, result.Canonical) :
    (∀ element ∈ (gather results).1, element.dataType.Canonical) ∧
      ∀ item ∈ (gather results).2, item.Canonical := by
  induction results with
  | nil => simp [gather]
  | cons result rest ih =>
    obtain ⟨hresult, hrest⟩ := List.forall_mem_cons.1 hresults
    obtain ⟨hcomponents, hitems⟩ := ih hrest
    cases result with
    | component element => exact ⟨List.forall_mem_cons.2 ⟨hresult, hcomponents⟩, hitems⟩
    | composite c =>
      have hcomposite : (Item.composite { c with components := (gather rest).1 }).Canonical :=
        ⟨hresult.dataType, hcomponents⟩
      exact ⟨by simp [gather], List.forall_mem_cons.2 ⟨hcomposite, hitems⟩⟩
    | element e => exact ⟨by simp [gather], List.forall_mem_cons.2 ⟨hresult, hitems⟩⟩
    | skip text reason => exact ⟨hcomponents, hitems⟩

/-- A canonical item stays so wherever it is placed. -/
theorem placeItem_canonical {item : Item} (hitem : item.Canonical) (position : String) :
    (placeItem position item).Canonical := by
  cases item with
  | simple e => exact hitem
  | composite c =>
    refine ⟨hitem.dataType, fun element helement => ?_⟩
    obtain ⟨i, hi, rfl⟩ := List.mem_mapIdx.1 helement
    exact hitem.components c.components[i] (List.getElem_mem hi)

/-- The items of a detail text are canonical. -/
theorem ofText_canonical (tabWidth : ℕ) (tag text : String) :
    ∀ item ∈ (ofText tabWidth tag text).items, item.Canonical := by
  intro item hitem
  obtain ⟨i, hi, rfl⟩ := List.mem_mapIdx.1 hitem
  refine placeItem_canonical ((gather_canonical ?_).2 _ (List.getElem_mem hi)) _
  intro result hresult
  obtain ⟨numbered, hnumbered, rfl⟩ := List.mem_map.1 hresult
  refine outcomes_canonical _ _ (fun line hline => ?_) numbered hnumbered
  obtain ⟨source, -, hsource⟩ := List.mem_filterMap.1 hline
  obtain ⟨content, hcontent, rfl⟩ := Option.map_eq_some_iff.1 hsource
  exact Line.codeKind?_of_ofText? hcontent

end Detail

end EdiSchema
