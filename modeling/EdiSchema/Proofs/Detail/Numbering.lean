import Mathlib.Data.List.Nodup
import EdiSchema.Detail.Builder
import EdiSchema.Proofs.Attribute.Position
import EdiSchema.Proofs.Detail.Accounting

/-!
# Numbers of items and components

The items of a segment are numbered in steps of ten from the counter of the builder, a composite when
it is opened although it is complete only later, and the components of a composite from the number of
those it already has. Lines that are left out use no number up.

What a builder will have built is told from what it has now and from the outcomes of the lines that
follow: the components in front belong to the composite that is open, and the items continue the
numbers. One more line moves an outcome from the second part to the first.

The counter is a natural number here. It stays within 32 bits along a text of fewer than 429496729
recognised lines.
-/

namespace EdiSchema

/-- The position of an item. -/
def Item.position : Item → String
  | .composite c => c.position
  | .simple e => e.position

/-- The positions in an item: its own, and those of its components. -/
def Item.positions : Item → List String
  | .composite c => c.position :: c.components.map Element.position
  | .simple e => [e.position]

/-- All positions in the items of a segment. -/
def Detail.positions (detail : Detail) : List String :=
  detail.items.flatMap Item.positions

namespace Detail

/-- Items with the positions that follow those of `start` items. -/
def placeItemsFrom (start : ℕ) (items : List Item) : List Item :=
  items.mapIdx fun i item => placeItem (Position.item ((start + i + 1) * Position.step)) item

/-- Components with the positions that follow those of `start` components of the same composite. -/
def placeComponentsFrom (start : ℕ) (parent : String) (components : List Element) : List Element :=
  components.mapIdx fun i component =>
    { component with position := Position.component parent (start + i) }

/-- The first item takes the next position, the others follow. -/
theorem placeItemsFrom_cons (start : ℕ) (item : Item) (items : List Item) :
    placeItemsFrom start (item :: items) =
      placeItem (Position.item ((start + 1) * Position.step)) item ::
        placeItemsFrom (start + 1) items := by
  simp only [placeItemsFrom, List.mapIdx_cons, Nat.add_assoc, Nat.add_comm 1]

/-- The first component takes the next position, the others follow. -/
theorem placeComponentsFrom_cons (start : ℕ) (parent : String) (component : Element)
    (components : List Element) :
    placeComponentsFrom start parent (component :: components) =
      { component with position := Position.component parent start } ::
        placeComponentsFrom (start + 1) parent components := by
  simp only [placeComponentsFrom, List.mapIdx_cons, Nat.add_zero, Nat.add_assoc, Nat.add_comm 1]

namespace Builder

/-- A composite with further components. -/
def withComponents (parent : Composite) (components : List Element) : Composite :=
  { parent with components := parent.components ++
      placeComponentsFrom parent.components.length parent.position components }

theorem withComponents_nil (parent : Composite) : withComponents parent [] = parent := by
  simp [withComponents, placeComponentsFrom]

theorem withComponents_cons (parent : Composite) (element : Element) (components : List Element) :
    withComponents parent (element :: components) =
      withComponents (withComponent parent element) components := by
  simp [withComponents, withComponent, placeComponentsFrom_cons]

/-- The items of a builder after further components of the open composite and further items. -/
def completed (builder : Builder) (gathered : List Element × List Item) : List Item :=
  builder.items ++ builder.opened.map (fun parent => .composite (withComponents parent gathered.1)) ++
    placeItemsFrom (builder.items.length + builder.opened.length) gathered.2

/-- Whether a composite is open. -/
def isOpen (builder : Builder) : Bool :=
  !builder.opened.isEmpty

/-- A builder with at most one open composite, and with a counter that is ahead of its items. -/
structure Sound (builder : Builder) : Prop where
  opened : builder.opened.length ≤ 1
  number : builder.number = (builder.items.length + builder.opened.length + 1) * Position.step

section Closing

variable {builder : Builder}

/-- Closing everything puts the open composites behind the items. -/
theorem closeTo_zero (builder : Builder) :
    builder.closeTo 0 = { builder with
      items := builder.items ++ builder.opened.map .composite
      opened := [] } := by
  simp [closeTo]

/-- A line above level zero closes nothing. -/
theorem Sound.closeTo_eq_self (hsound : builder.Sound) {level : ℕ} (hlevel : level ≠ 0) :
    builder.closeTo level = builder := by
  have hnone : builder.opened.length - level = 0 := by
    have hone := hsound.opened
    omega
  simp [closeTo, hnone]

theorem Sound.closed (hsound : builder.Sound) : (builder.closeTo 0).Sound := by
  rw [closeTo_zero]
  exact ⟨Nat.zero_le 1, by simp [hsound.number]⟩

/-- A closed composite gets no further components. -/
theorem completed_closeTo_zero (components : List Element) (items : List Item) :
    (builder.closeTo 0).completed (components, items) = builder.completed ([], items) := by
  rw [closeTo_zero]
  simp [completed, withComponents_nil]

end Closing

/-- What one more line does: it opens a composite or adds an element, and what was open is closed;
or it adds a component to the open composite; or it is left out, and then at most closes what is
open. -/
theorem push_cases {builder : Builder} (hsound : builder.Sound) (place : String) (level : ℕ)
    (line : Numbered Line) :
    let result := outcome builder.isOpen level line.content
    let under := isUnderComposite builder.isOpen level line.content
    let next := builder.push place level line
    (∃ c, c.components = [] ∧ result = .composite c ∧ under = true ∧
      next = (builder.closeTo 0).openComposite c) ∨
    (∃ e, result = .element e ∧ under = false ∧ next = (builder.closeTo 0).addElement e) ∨
    (∃ e parent, builder.opened = [parent] ∧ result = .component e ∧ under = true ∧
      next = { builder with opened := [withComponent parent e] }) ∨
    ∃ text reason, result = .skip text reason ∧
      ((under = false ∧ next = (builder.closeTo 0).leaveOut place line.number text reason) ∨
        (under = builder.isOpen ∧ next = builder.leaveOut place line.number text reason)) := by
  obtain ⟨number, line⟩ := line
  intro result under next
  by_cases hlevel : level = 0
  · subst hlevel
    cases hkind : line.kind with
    | composite =>
      left
      refine ⟨composite line, ?_, by simp [result, outcome, hkind],
        by simp [under, isUnderComposite, hkind], by simp [next, push, hkind]⟩
      unfold composite
      split <;> rfl
    | element =>
      have hunder : under = false := by simp [under, isUnderComposite, hkind]
      cases he : element? line with
      | none =>
        right; right; right
        exact ⟨line.code ++ " " ++ line.payload, .malformedElement,
          by simp [result, outcome, hkind, he], .inl ⟨hunder, by simp [next, push, hkind, he]⟩⟩
      | some e =>
        right; left
        exact ⟨e, by simp [result, outcome, hkind, he], hunder, by simp [next, push, hkind, he]⟩
  · have hunder : under = builder.isOpen := if_neg hlevel
    have hclosed := hsound.closeTo_eq_self hlevel
    cases hkind : line.kind with
    | composite =>
      right; right; right
      exact ⟨line.code, .nestedComposite, by simp [result, outcome, hkind, hlevel],
        .inr ⟨hunder, by simp [next, push, hkind, hlevel, hclosed]⟩⟩
    | element =>
      cases he : element? line with
      | none =>
        right; right; right
        exact ⟨line.code ++ " " ++ line.payload, .malformedElement,
          by simp [result, outcome, hkind, he],
          .inr ⟨hunder, by simp [next, push, hkind, he, hclosed]⟩⟩
      | some e =>
        cases hopened : builder.opened with
        | nil =>
          right; right; right
          exact ⟨line.code, .orphanElement,
            by simp [result, outcome, isOpen, hkind, he, hlevel, hopened],
            .inr ⟨hunder, by simp [next, push, hkind, he, hlevel, hclosed, hopened]⟩⟩
        | cons parent outer =>
          have hone := hsound.opened
          rw [hopened, List.length_cons] at hone
          obtain rfl : outer = [] := List.length_eq_zero_iff.1 (by omega)
          right; right; left
          exact ⟨e, parent, rfl, by simp [result, outcome, isOpen, hkind, he, hlevel, hopened],
            by rw [hunder, isOpen, hopened]; rfl,
            by simp [next, push, hkind, he, hlevel, hclosed, hopened]⟩

/-- Opening a composite takes its outcome from the front of those that follow. -/
theorem Sound.completed_openComposite {builder : Builder} (hsound : builder.Sound) {c : Composite}
    (hnew : c.components = []) (components : List Element) (items : List Item) :
    ((builder.closeTo 0).openComposite c).completed (components, items) =
      builder.completed ([], .composite { c with components } :: items) := by
  rw [← completed_closeTo_zero [], closeTo_zero]
  simp [completed, openComposite, placeItemsFrom_cons, placeItem, placeComponents, withComponents,
    placeComponentsFrom, hnew, hsound.number]

/-- Adding an element takes its outcome from the front of those that follow. -/
theorem Sound.completed_addElement {builder : Builder} (hsound : builder.Sound) (e : Element)
    (components : List Element) (items : List Item) :
    ((builder.closeTo 0).addElement e).completed (components, items) =
      builder.completed ([], .simple e :: items) := by
  rw [← completed_closeTo_zero [], closeTo_zero]
  simp [completed, addElement, placeItemsFrom_cons, placeItem, hsound.number, Nat.add_assoc]

section Push

variable {builder : Builder} (hsound : builder.Sound) (place : String) (level : ℕ)
  (line : Numbered Line)

include hsound

/-- The counter stays ahead of the items. -/
theorem Sound.push : (builder.push place level line).Sound := by
  have hclosed := hsound.closed
  have hnumber := hsound.number
  rw [closeTo_zero] at hclosed
  rcases push_cases hsound place level line with
    ⟨c, -, -, -, hnext⟩ | ⟨e, -, -, hnext⟩ | ⟨e, parent, hopened, -, -, hnext⟩ |
    ⟨text, reason, -, ⟨-, hnext⟩ | ⟨-, hnext⟩⟩
  · rw [hnext, closeTo_zero]
    exact ⟨Nat.le_refl 1, by
      simp only [openComposite, hnumber, Position.step, List.length_append, List.length_map,
        List.length_cons, List.length_nil]
      omega⟩
  · rw [hnext, closeTo_zero]
    exact ⟨Nat.zero_le 1, by
      simp only [addElement, hnumber, Position.step, List.length_append, List.length_map,
        List.length_cons, List.length_nil]
      omega⟩
  · rw [hnext]
    exact ⟨Nat.le_refl 1, by simpa [hopened] using hnumber⟩
  · rw [hnext, closeTo_zero]
    exact ⟨hclosed.opened, hclosed.number⟩
  · rw [hnext]
    exact ⟨hsound.opened, hnumber⟩

/-- A composite is open after a line that the lines below it are under. -/
theorem Sound.isOpen_push :
    (builder.push place level line).isOpen =
      isUnderComposite builder.isOpen level line.content := by
  rcases push_cases hsound place level line with
    ⟨c, -, -, hunder, hnext⟩ | ⟨e, -, hunder, hnext⟩ | ⟨e, parent, -, -, hunder, hnext⟩ |
    ⟨text, reason, -, ⟨hunder, hnext⟩ | ⟨hunder, hnext⟩⟩
  · rw [hunder, hnext]
    rfl
  · rw [hunder, hnext, closeTo_zero]
    rfl
  · rw [hunder, hnext]
    rfl
  · rw [hunder, hnext, closeTo_zero]
    rfl
  · rw [hunder, hnext]
    rfl

/-- A line is recorded if it is left out. -/
theorem Sound.skips_push :
    (builder.push place level line).skips = builder.skips ++
      (skip? place ⟨line.number, outcome builder.isOpen level line.content⟩).toList := by
  rcases push_cases hsound place level line with
    ⟨c, -, hresult, -, hnext⟩ | ⟨e, hresult, -, hnext⟩ | ⟨e, parent, -, hresult, -, hnext⟩ |
    ⟨text, reason, hresult, ⟨-, hnext⟩ | ⟨-, hnext⟩⟩
  · rw [hresult, hnext]
    exact (List.append_nil _).symm
  · rw [hresult, hnext]
    exact (List.append_nil _).symm
  · rw [hresult, hnext]
    exact (List.append_nil _).symm
  · rw [hresult, hnext]
    rfl
  · rw [hresult, hnext]
    rfl

/-- What is built in the end is the same before and after a line, if no components follow where no
composite is open. -/
theorem Sound.completed_push {rest : List Outcome}
    (hrest : (builder.push place level line).isOpen = false → (gather rest).1 = []) :
    (builder.push place level line).completed (gather rest) =
      builder.completed (gather (outcome builder.isOpen level line.content :: rest)) := by
  rcases push_cases hsound place level line with
    ⟨c, hnew, hresult, -, hnext⟩ | ⟨e, hresult, -, hnext⟩ | ⟨e, parent, hopened, hresult, -, hnext⟩ |
    ⟨text, reason, hresult, ⟨hunder, hnext⟩ | ⟨-, hnext⟩⟩
  · rw [hresult, hnext, gather]
    exact hsound.completed_openComposite hnew _ _
  · rw [hresult, hnext, gather]
    exact hsound.completed_addElement e _ _
  · rw [hresult, hnext, gather]
    simp [completed, hopened, withComponents_cons]
  · have hnone := hrest ((hsound.isOpen_push place level line).trans hunder)
    rw [hresult, hnext, gather]
    exact (completed_closeTo_zero (gather rest).1 (gather rest).2).trans
      (congrArg (fun components => builder.completed (components, (gather rest).2)) hnone.symm)
  · rw [hresult, hnext, gather]
    rfl

end Push

/-- Behind all lines nothing is open, and what has been built is complete. -/
theorem finish_eq (builder : Builder) :
    builder.finish = { items := builder.completed ([], []), skips := builder.skips } := by
  rw [← completed_closeTo_zero [], finish, closeTo_zero]
  simp [completed, placeItemsFrom]

/-- Without an open composite, no component comes in front of the first item. -/
theorem gather_fst_eq_nil (base : ℕ) (lines : List (Numbered Line)) :
    (gather ((outcomes base false lines).map (·.content))).1 = [] :=
  (nodeCodes_gather base false lines).2 rfl

/-- A builder builds what the outcomes of the lines are gathered to. -/
theorem Sound.foldl_push (place : String) (base : ℕ) (lines : List (Numbered Line))
    {builder : Builder} (hsound : builder.Sound) :
    (lines.foldl (fun builder line => builder.push place (line.content.level - base) line)
        builder).finish = {
      items := builder.completed (gather ((outcomes base builder.isOpen lines).map (·.content)))
      skips := builder.skips ++ (outcomes base builder.isOpen lines).filterMap (skip? place) } := by
  induction lines generalizing builder with
  | nil =>
    rw [List.foldl_nil, finish_eq]
    simp [outcomes, gather]
  | cons line rest ih =>
    let level := line.content.level - base
    let next := builder.push place level line
    have hopen : next.isOpen = isUnderComposite builder.isOpen level line.content :=
      hsound.isOpen_push place level line
    have hnone : next.isOpen = false →
        (gather ((outcomes base next.isOpen rest).map (·.content))).1 = [] :=
      fun hclosed => by rw [hclosed]; exact gather_fst_eq_nil base rest
    have hcompleted := hsound.completed_push place level line hnone
    have hskips := hsound.skips_push place level line
    rw [List.foldl_cons, ih (hsound.push place level line), hcompleted, hskips, hopen,
      List.append_assoc]
    simp only [outcomes, List.map_cons, List.filterMap_cons]
    cases skip? place _ <;> rfl

/-- A line raises the counter by one step at most. -/
theorem number_push_le (place : String) (level : ℕ) (builder : Builder) (line : Numbered Line) :
    (builder.push place level line).number ≤ builder.number + Position.step := by
  obtain ⟨number, line⟩ := line
  rw [push]
  cases line.kind with
  | composite =>
    by_cases hlevel : level = 0
    · simp only [hlevel, if_true]
      exact Nat.le_refl _
    · simp only [hlevel, if_false]
      exact Nat.le_add_right _ _
  | element =>
    cases element? line with
    | none => exact Nat.le_add_right _ _
    | some element =>
      by_cases hlevel : level = 0
      · simp only [hlevel, if_true]
        exact Nat.le_refl _
      · simp only [hlevel, if_false]
        cases (builder.closeTo level).opened <;> exact Nat.le_add_right _ _

/-- A line after the other, the counter stays within 32 bits if the lines are fewer than 429496729. -/
theorem number_foldl_push_lt (place : String) (base : ℕ) (skips : List Skip)
    {lines : List (Numbered Line)} (hfew : lines.length < 429496729) :
    (lines.foldl (fun builder line => builder.push place (line.content.level - base) line)
      ({ skips } : Builder)).number < 4294967296 := by
  have hraise : ∀ (lines : List (Numbered Line)) (builder : Builder),
      (lines.foldl (fun builder line => builder.push place (line.content.level - base) line)
        builder).number ≤ builder.number + lines.length * Position.step := by
    intro lines
    induction lines with
    | nil => exact fun builder => Nat.le_refl _
    | cons line rest ih =>
      intro builder
      have hrest := ih (builder.push place (line.content.level - base) line)
      have hline := number_push_le place (line.content.level - base) builder line
      rw [List.foldl_cons, List.length_cons, Nat.succ_mul]
      omega
  refine Nat.lt_of_le_of_lt (hraise lines { skips }) ?_
  change 10 + lines.length * 10 < 4294967296
  omega

end Builder

/-- At the start nothing has been built. -/
theorem Builder.completed_start (skips : List Skip) (gathered : List Element × List Item) :
    ({ skips := skips } : Builder).completed gathered = placeItems gathered.2 := by
  simp [completed, placeItemsFrom, placeItems]

/-- Building items line by line gives what is read from a detail text. -/
theorem build_eq_ofText (tabWidth : ℕ) (tag text : String) :
    build tabWidth tag text = ofText tabWidth tag text := by
  have hstart : ∀ skips : List Skip, ({ skips := skips } : Builder).Sound :=
    fun skips => ⟨Nat.zero_le 1, rfl⟩
  rw [build, (hstart _).foldl_push, Builder.completed_start]
  rfl

section Positions

variable {items : List Item}

/-- If the index of an entry tells its key, and no two indices the same, no key occurs twice. -/
theorem nodup_map_of_injective {α β : Type} {entries : List α} {key : α → β} {place : ℕ → β}
    (hplace : Function.Injective place)
    (hkey : ∀ i entry, entries[i]? = some entry → key entry = place i) :
    (entries.map key).Nodup := by
  have hrange : entries.map key = (List.range entries.length).map place := by
    apply List.ext_getElem (by simp)
    intro i hi _
    rw [List.getElem_map, List.getElem_map, List.getElem_range]
    rw [List.length_map] at hi
    exact hkey i _ (List.getElem?_eq_getElem hi)
  rw [hrange]
  exact List.nodup_range.map hplace

/-- Items that are numbered in steps of ten, each composite with its components one by one. -/
structure AreNumbered (items : List Item) : Prop where
  item : ∀ i item, items[i]? = some item → item.position = Position.item (10 * (i + 1))
  component : ∀ c, .composite c ∈ items → ∀ j e, c.components[j]? = some e →
    e.position = Position.component c.position j

/-- Items that have been placed are numbered. -/
theorem areNumbered_placeItems (items : List Item) : AreNumbered (placeItems items) := by
  constructor
  · intro i item hitem
    rw [placeItems, List.getElem?_mapIdx] at hitem
    obtain ⟨source, -, rfl⟩ := Option.map_eq_some_iff.1 hitem
    rw [Nat.mul_comm]
    cases source with
    | composite c => rfl
    | simple e => rfl
  · intro c hc j e he
    obtain ⟨i, hi, hplaced⟩ := List.mem_mapIdx.1 hc
    cases hsource : items[i] with
    | composite source =>
      rw [hsource] at hplaced
      obtain rfl := Item.composite.inj hplaced
      rw [placeComponents, List.getElem?_mapIdx] at he
      obtain ⟨component, -, rfl⟩ := Option.map_eq_some_iff.1 he
      rfl
    | simple source =>
      rw [hsource] at hplaced
      cases hplaced

namespace AreNumbered

variable (hnumbered : AreNumbered items)

include hnumbered

/-- Among less than a thousand items, each has a number of at most four digits. -/
theorem exists_number (hitems : items.length < 1000) {item : Item} (hitem : item ∈ items) :
    ∃ n, n < 10000 ∧ item.position = Position.item n := by
  obtain ⟨i, hi, rfl⟩ := List.mem_iff_getElem.1 hitem
  exact ⟨10 * (i + 1), by omega, hnumbered.item i _ (List.getElem?_eq_getElem hi)⟩

/-- Among less than a thousand components, each has the width of its composite and three more. -/
theorem exists_index {c : Composite} (hc : .composite c ∈ items)
    (hcomponents : c.components.length < 1000) {e : Element} (he : e ∈ c.components) :
    ∃ index, index + 1 < 1000 ∧ e.position = Position.component c.position index := by
  obtain ⟨j, hj, rfl⟩ := List.mem_iff_getElem.1 he
  exact ⟨j, by omega, hnumbered.component c hc j _ (List.getElem?_eq_getElem hj)⟩

/-- All positions in an item belong to the item. -/
theorem owner_of_mem_positions (hitems : items.length < 1000)
    (hcomponents : ∀ c, .composite c ∈ items → c.components.length < 1000) {item : Item}
    (hitem : item ∈ items) {position : String} (hposition : position ∈ item.positions) :
    Position.owner position = item.position.toList := by
  obtain ⟨n, hn, hself⟩ := hnumbered.exists_number hitems hitem
  have howner : Position.owner item.position = item.position.toList := by
    rw [hself, Position.owner_item hn]
  cases item with
  | simple e =>
    obtain rfl := List.mem_singleton.1 hposition
    exact howner
  | composite c =>
    rcases List.mem_cons.1 hposition with rfl | hposition
    · exact howner
    · obtain ⟨e, he, rfl⟩ := List.mem_map.1 hposition
      obtain ⟨index, hindex, hplaced⟩ := hnumbered.exists_index hitem (hcomponents c hitem) he
      have hwidth : 3 ≤ c.position.length := by
        change 3 ≤ (Item.composite c).position.length
        rw [hself]
        exact (Position.length_item hn).1
      rw [hplaced, Position.owner_component hwidth hindex]
      rfl

/-- The components of a composite have different positions. -/
theorem nodup_component_positions {c : Composite} (hc : .composite c ∈ items) :
    (c.components.map Element.position).Nodup :=
  nodup_map_of_injective (Position.component_injective c.position) (hnumbered.component c hc)

/-- The positions in an item are different. -/
theorem nodup_item_positions
    (hcomponents : ∀ c, .composite c ∈ items → c.components.length < 1000) {item : Item}
    (hitem : item ∈ items) : item.positions.Nodup := by
  cases item with
  | simple e => exact List.nodup_singleton e.position
  | composite c =>
    refine List.nodup_cons.2 ⟨?_, hnumbered.nodup_component_positions hitem⟩
    intro hmem
    obtain ⟨e, he, hsame⟩ := List.mem_map.1 hmem
    obtain ⟨index, hindex, hplaced⟩ := hnumbered.exists_index hitem (hcomponents c hitem) he
    have hlength := Position.length_component c.position hindex
    rw [← hplaced, hsame] at hlength
    omega

/-- The items of a segment have different positions. -/
theorem nodup_map_position : (items.map Item.position).Nodup := by
  have hinjective : Function.Injective fun i => Position.item (10 * (i + 1)) := by
    intro i j hsame
    have hnumber := Position.item_injective hsame
    omega
  exact nodup_map_of_injective hinjective hnumbered.item

/-- With less than a thousand items, and less than a thousand components in each, no position in a
segment occurs twice. -/
theorem nodup_positions (hitems : items.length < 1000)
    (hcomponents : ∀ c, .composite c ∈ items → c.components.length < 1000) :
    (items.flatMap Item.positions).Nodup := by
  refine List.nodup_flatMap.2 ⟨fun item hitem =>
    hnumbered.nodup_item_positions hcomponents hitem, ?_⟩
  have hdistinct : items.Pairwise fun first second => first.position ≠ second.position :=
    List.pairwise_map.1 hnumbered.nodup_map_position
  refine hdistinct.imp_of_mem ?_
  intro first second hfirst hsecond hne position hleft hright
  apply hne
  apply String.toList_injective
  rw [← hnumbered.owner_of_mem_positions hitems hcomponents hfirst hleft,
    hnumbered.owner_of_mem_positions hitems hcomponents hsecond hright]

end AreNumbered

end Positions

/-- The items of a detail text are numbered in steps of ten in the order in which they stand, and the
components of each composite one by one, whatever lines between them are left out. With less than a
thousand items, and less than a thousand components in each composite, no two items or components of
the segment have the same position. -/
theorem build_positions (tabWidth : ℕ) (tag text : String) :
    let detail := build tabWidth tag text
    detail = ofText tabWidth tag text ∧
    (∀ i item, detail.items[i]? = some item → item.position = Position.item (10 * (i + 1))) ∧
    (∀ c, .composite c ∈ detail.items → ∀ j e, c.components[j]? = some e →
      e.position = Position.component c.position j) ∧
    (detail.items.length < 1000 →
      (∀ c, .composite c ∈ detail.items → c.components.length < 1000) →
        detail.positions.Nodup) := by
  intro detail
  have hread : detail = ofText tabWidth tag text := build_eq_ofText tabWidth tag text
  have hnumbered : AreNumbered detail.items := by
    rw [hread]
    exact areNumbered_placeItems _
  exact ⟨hread, hnumbered.item, hnumbered.component, hnumbered.nodup_positions⟩

/-- A composite that is nested, an element without a format and an element under no composite use no
number up. -/
theorem build_positions_left_out :
    let text := "C002 A C\n   C003 B C\n   1001 X M n3\n   1131 Y C n3\n4343 Z\n   1000 V C n3\n" ++
      "1225 W C n3"
    let detail := build 3 "BGM" text
    detail.skips.length = 3 ∧ detail.positions = ["010", "010001", "010002", "020"] ∧
      detail.items.length < 1000 ∧
      (∀ c, .composite c ∈ detail.items → c.components.length < 1000) ∧ detail.positions.Nodup := by
  intro text detail
  have hitems : detail.items.length < 1000 := by decide +kernel
  have hcomponents : ∀ c, .composite c ∈ detail.items → c.components.length < 1000 := by
    have hall : ∀ item ∈ detail.items, item.positions.length < 1000 := by decide +kernel
    intro c hc
    have hpositions := hall _ hc
    rw [Item.positions, List.length_cons, List.length_map] at hpositions
    omega
  obtain ⟨-, -, -, hnodup⟩ := build_positions 3 "BGM" text
  exact ⟨by decide +kernel, by decide +kernel, hitems, hcomponents, hnodup hitems hcomponents⟩

end Detail

end EdiSchema
