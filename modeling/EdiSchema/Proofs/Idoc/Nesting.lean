import Mathlib.Data.List.Basic
import EdiSchema.Idoc.Block
import EdiSchema.Proofs.Steps

/-!
# Record lists as trees

What a record list says as a tree is given by a relation of its own. A list nests into blocks if
every group in it is ended; a list re-nests into blocks if, apart from that, some groups begun
last are open until its end. Reading a list gives the blocks that it re-nests into, and succeeds
if there are any.
-/

namespace EdiSchema.Idoc

open Steps

/-- The record of a field. -/
def Field.record (field : Field) : Record :=
  .field field.name field.length field.description

/-- Which blocks a list stands for whose groups are all ended. -/
inductive Nested : List Record → List Block → Prop
  | nil : Nested [] []
  | segment (tag typeName : String) (bound : MaxOccurs) (fields : List Field) {rest : List Record}
      {blocks : List Block} (hrest : Nested rest blocks) :
      Nested (.segment tag typeName bound :: (fields.map Field.record ++ rest))
        (.segment tag typeName bound fields :: blocks)
  | group (name : String) (bound : MaxOccurs) {inner rest : List Record}
      {content blocks : List Block} (hinner : Nested inner content) (hrest : Nested rest blocks) :
      Nested (.groupBegin name bound :: (inner ++ .groupEnd name :: rest))
        (.group name bound content :: blocks)

/-- Which blocks a list stands for; a group that is never ended goes on to the end of the list. -/
inductive Renests : List Record → List Block → Prop
  | closed {records : List Record} {blocks : List Block} (h : Nested records blocks) :
      Renests records blocks
  | opened (name : String) (bound : MaxOccurs) {before rest : List Record}
      {blocks content : List Block} (hbefore : Nested before blocks)
      (hrest : Renests rest content) :
      Renests (before ++ .groupBegin name bound :: rest) (blocks ++ [.group name bound content])

/-- Two nested lists, one behind the other, are nested. -/
theorem Nested.append {front rest : List Record} {first later : List Block}
    (hfront : Nested front first) (hrest : Nested rest later) :
    Nested (front ++ rest) (first ++ later) := by
  induction hfront with
  | nil => exact hrest
  | segment tag typeName bound fields _ ih =>
    rw [List.cons_append, List.append_assoc]
    exact .segment tag typeName bound fields ih
  | group name bound hinner _ _ ih =>
    rw [List.cons_append, List.append_assoc, List.cons_append]
    exact .group name bound hinner ih

/-- A nested list may stand in front of one that re-nests. -/
theorem Nested.renests_append {front rest : List Record} {first later : List Block}
    (hfront : Nested front first) (hrest : Renests rest later) :
    Renests (front ++ rest) (first ++ later) := by
  cases hrest with
  | closed hrest => exact .closed (hfront.append hrest)
  | opened name bound hbefore hrest =>
    rw [← List.append_assoc, ← List.append_assoc]
    exact .opened name bound (hfront.append hbefore) hrest

namespace Nesting

@[simp]
theorem closeSegment_none (groups : List OpenGroup) (blocks : List Block) :
    closeSegment ⟨groups, blocks, none⟩ = ⟨groups, blocks, none⟩ :=
  rfl

/-- Closing a segment leaves the open groups as they are. -/
theorem closeSegment_eq (nesting : Nesting) :
    nesting.closeSegment = ⟨nesting.groups, nesting.closeSegment.blocks, none⟩ := by
  obtain ⟨groups, blocks, segment⟩ := nesting
  cases segment <;> rfl

/-- Closing a segment closes no group. -/
theorem groups_closeSegment (nesting : Nesting) :
    nesting.closeSegment.groups = nesting.groups := by
  rw [closeSegment_eq]

/-- At the end the open segment is closed, and then all open groups. -/
theorem finish_eq (nesting : Nesting) :
    nesting.finish = (closeAll nesting.groups nesting.closeSegment.blocks).reverse := by
  rw [finish, closeSegment_eq]

/-- A group is always opened, empty and inside those that are open. -/
theorem read_groupBegin (nesting : Nesting) (name : String) (bound : MaxOccurs) :
    nesting.read (.groupBegin name bound) =
      .ok ⟨⟨name, bound, nesting.closeSegment.blocks⟩ :: nesting.groups, [], none⟩ := by
  rw [read, closeSegment_eq]

/-- A segment is always opened, empty and in the innermost open group. -/
theorem read_segment (nesting : Nesting) (tag typeName : String) (bound : MaxOccurs) :
    nesting.read (.segment tag typeName bound) =
      .ok ⟨nesting.groups, nesting.closeSegment.blocks, some ⟨tag, typeName, bound, []⟩⟩ := by
  rw [read, closeSegment_eq]

/-- The end of a group is taken if that group is the innermost open one. -/
theorem read_groupEnd_eq_ok_iff {nesting next : Nesting} {name : String} :
    nesting.read (.groupEnd name) = .ok next ↔
      ∃ g outer, nesting.groups = g :: outer ∧ g.name = name ∧
        next = ⟨outer, .group g.name g.maxOccurs nesting.closeSegment.blocks.reverse :: g.before,
          none⟩ := by
  rw [read, closeSegment_eq, endGroup]
  cases nesting.groups with
  | nil => simp
  | cons g outer =>
    by_cases hname : g.name = name
    · simp [hname, closeGroup, eq_comm]
    · simp [hname]

/-- A field is taken if a segment is open, and joins it. -/
theorem read_field_eq_ok_iff (field : Field) {nesting next : Nesting} :
    nesting.read field.record = .ok next ↔
      ∃ s, nesting.segment = some s ∧
        next = { nesting with segment := some { s with fields := field :: s.fields } } := by
  rw [Field.record, read]
  cases nesting.segment with
  | none => simp
  | some s => simp [eq_comm]

/-- Fields join the segment that is open. -/
theorem foldlM_read_fields (groups : List OpenGroup) (blocks : List Block) (opened : OpenSegment)
    (fields : List Field) :
    (fields.map Field.record).foldlM read ⟨groups, blocks, some opened⟩ =
      .ok ⟨groups, blocks, some { opened with fields := fields.reverse ++ opened.fields }⟩ := by
  induction fields generalizing opened with
  | nil => rfl
  | cons field rest ih =>
    rw [List.map_cons, List.reverse_cons, List.append_assoc, List.singleton_append]
    exact foldlM_cons_eq_ok_iff.2
      ⟨_, rfl, ih { opened with fields := field :: opened.fields }⟩

/-- Reading a list that nests adds its blocks to those of the innermost open group. -/
theorem exists_foldlM_read {records : List Record} {blocks : List Block}
    (h : Nested records blocks) (nesting : Nesting) :
    ∃ next, records.foldlM read nesting = .ok next ∧
      next.closeSegment =
        ⟨nesting.groups, blocks.reverse ++ nesting.closeSegment.blocks, none⟩ := by
  induction h generalizing nesting with
  | nil => exact ⟨nesting, rfl, nesting.closeSegment_eq⟩
  | segment tag typeName bound fields _ ih =>
    obtain ⟨next, hfold, hnext⟩ := ih ⟨nesting.groups, nesting.closeSegment.blocks,
      some ⟨tag, typeName, bound, fields.reverse ++ []⟩⟩
    refine ⟨next, ?_, ?_⟩
    · exact foldlM_cons_eq_ok_iff.2 ⟨_, nesting.read_segment tag typeName bound,
        foldlM_append_eq_ok_iff.2 ⟨_, foldlM_read_fields _ _ _ fields, hfold⟩⟩
    · rw [hnext]
      simp [closeSegment]
  | group name bound _ _ ihinner ihrest =>
    obtain ⟨inside, hinside, hcontent⟩ :=
      ihinner ⟨⟨name, bound, nesting.closeSegment.blocks⟩ :: nesting.groups, [], none⟩
    have hgroups :
        inside.groups = ⟨name, bound, nesting.closeSegment.blocks⟩ :: nesting.groups := by
      rw [← inside.groups_closeSegment, hcontent]
    have hend := read_groupEnd_eq_ok_iff.2 ⟨_, _, hgroups, rfl, rfl⟩
    rw [hcontent] at hend
    obtain ⟨next, hfold, hnext⟩ := ihrest _
    refine ⟨next, ?_, hnext.trans ?_⟩
    · exact foldlM_cons_eq_ok_iff.2 ⟨_, nesting.read_groupBegin name bound,
        foldlM_append_eq_ok_iff.2 ⟨_, hinside, foldlM_cons_eq_ok_iff.2 ⟨_, hend, hfold⟩⟩⟩
    · simp

/-- Reading the rest of a list that re-nests adds its blocks before the open groups are closed. -/
theorem exists_finish_of_renests {records : List Record} {blocks : List Block}
    (h : Renests records blocks) (nesting : Nesting) :
    ∃ next, records.foldlM read nesting = .ok next ∧
      next.finish =
        (closeAll nesting.groups (blocks.reverse ++ nesting.closeSegment.blocks)).reverse := by
  induction h generalizing nesting with
  | closed h =>
    obtain ⟨next, hfold, hnext⟩ := exists_foldlM_read h nesting
    exact ⟨next, hfold, by simp only [finish, hnext]⟩
  | opened name bound hbefore _ ih =>
    obtain ⟨start, hstart, hclosed⟩ := exists_foldlM_read hbefore nesting
    have hgroups : start.groups = nesting.groups := by
      rw [← start.groups_closeSegment, hclosed]
    obtain ⟨next, hfold, hnext⟩ :=
      ih ⟨⟨name, bound, start.closeSegment.blocks⟩ :: start.groups, [], none⟩
    refine ⟨next, ?_, hnext.trans ?_⟩
    · exact foldlM_append_eq_ok_iff.2
        ⟨_, hstart, foldlM_cons_eq_ok_iff.2 ⟨_, start.read_groupBegin name bound, hfold⟩⟩
    · simp [closeAll, hclosed, hgroups]

end Nesting

/-- A list that re-nests is read as the blocks that it re-nests into. -/
theorem Renests.ofRecords {records : List Record} {blocks : List Block}
    (h : Renests records blocks) : Block.ofRecords records = .ok blocks := by
  obtain ⟨next, hfold, hnext⟩ := Nesting.exists_finish_of_renests h {}
  rw [Block.ofRecords, hfold]
  refine congrArg Except.ok (hnext.trans ?_)
  simp [Nesting.closeAll, Nesting.closeSegment]

/-- Which lists have been read when some groups are open, innermost first, and the blocks in the
innermost one, all in reverse. -/
inductive Spine : List Record → List OpenGroup → List Block → Prop
  | top {records : List Record} {blocks : List Block} (h : Nested records blocks.reverse) :
      Spine records [] blocks
  | group (g : OpenGroup) {before inner : List Record} {outer : List OpenGroup}
      {blocks : List Block} (hbefore : Spine before outer g.before)
      (hinner : Nested inner blocks.reverse) :
      Spine (before ++ .groupBegin g.name g.maxOccurs :: inner) (g :: outer) blocks

/-- Which lists have been read at a state: without the records of the open segment, a list with
the open groups and their blocks. -/
def Reads (records : List Record) (nesting : Nesting) : Prop :=
  match nesting.segment with
  | none => Spine records nesting.groups nesting.blocks
  | some s => ∃ front, Spine front nesting.groups nesting.blocks ∧
      records = front ++ .segment s.segment s.typeName s.maxOccurs ::
        s.fields.reverse.map Field.record

/-- Blocks are added to the innermost open group. -/
theorem Spine.append {records more : List Record} {groups : List OpenGroup}
    {blocks later : List Block} (h : Spine records groups blocks) (hmore : Nested more later) :
    Spine (records ++ more) groups (later.reverse ++ blocks) := by
  cases h with
  | top h => exact .top (by simpa using h.append hmore)
  | group g hbefore hinner =>
    rw [List.append_assoc, List.cons_append]
    exact .group g hbefore (by simpa using hinner.append hmore)

/-- The end of the innermost open group adds that group to the one around it. -/
theorem Spine.closeGroup {records : List Record} {g : OpenGroup} {outer : List OpenGroup}
    {blocks : List Block} (h : Spine records (g :: outer) blocks) :
    Spine (records ++ [.groupEnd g.name]) outer
      (.group g.name g.maxOccurs blocks.reverse :: g.before) := by
  cases h with
  | group _ hbefore hinner =>
    have hgroup := hbefore.append (.group g.name g.maxOccurs hinner .nil)
    simpa using hgroup

/-- The blocks of a list once its open groups are closed, and those of a rest that follows. -/
theorem Spine.renests {records rest : List Record} {groups : List OpenGroup}
    {blocks later : List Block} (h : Spine records groups blocks) (hrest : Renests rest later) :
    Renests (records ++ rest)
      (Nesting.closeAll groups (later.reverse ++ blocks)).reverse := by
  induction h generalizing rest later with
  | top h => simpa [Nesting.closeAll] using h.renests_append hrest
  | group g _ hinner ih =>
    have hopen := ih (.opened g.name g.maxOccurs .nil (hinner.renests_append hrest))
    simpa [Nesting.closeAll] using hopen

namespace Reads

theorem start : Reads [] {} :=
  .top .nil

/-- Closing the open segment makes it a block. -/
theorem spine {records : List Record} {nesting : Nesting} (h : Reads records nesting) :
    Spine records nesting.groups nesting.closeSegment.blocks := by
  obtain ⟨groups, blocks, segment⟩ := nesting
  cases segment with
  | none => exact h
  | some s =>
    obtain ⟨front, hfront, rfl⟩ := h
    have hsegment := hfront.append
      (.segment s.segment s.typeName s.maxOccurs s.fields.reverse .nil)
    simpa [Nesting.closeSegment] using hsegment

/-- One more record is read. -/
theorem step {records : List Record} {record : Record} {nesting next : Nesting}
    (h : Reads records nesting) (hread : nesting.read record = .ok next) :
    Reads (records ++ [record]) next := by
  cases record with
  | groupBegin name bound =>
    rw [Nesting.read_groupBegin, Except.ok.injEq] at hread
    subst hread
    exact .group ⟨name, bound, _⟩ h.spine .nil
  | groupEnd name =>
    obtain ⟨g, outer, hgroups, rfl, rfl⟩ := Nesting.read_groupEnd_eq_ok_iff.1 hread
    have hspine := h.spine
    rw [hgroups] at hspine
    exact hspine.closeGroup
  | segment tag typeName bound =>
    rw [Nesting.read_segment, Except.ok.injEq] at hread
    subst hread
    exact ⟨records, h.spine, rfl⟩
  | field name length description =>
    obtain ⟨s, hsegment, rfl⟩ :=
      (Nesting.read_field_eq_ok_iff ⟨name, length, description⟩).1 hread
    rw [Reads, hsegment] at h
    obtain ⟨front, hfront, rfl⟩ := h
    refine ⟨front, hfront, ?_⟩
    simp [Field.record]

end Reads

/-- The blocks that a list is read as are those that it re-nests into. -/
theorem Block.ofRecords_eq_ok_iff {records : List Record} {blocks : List Block} :
    Block.ofRecords records = .ok blocks ↔ Renests records blocks := by
  refine ⟨fun h => ?_, Renests.ofRecords⟩
  obtain ⟨next, hfold, rfl⟩ := map_eq_ok_iff.1 h
  have hreads := foldlM_induct Reads.start (fun _ _ _ _ => Reads.step) hfold
  have hrenests := hreads.spine.renests (.closed .nil)
  rw [next.finish_eq]
  simpa using hrenests

end EdiSchema.Idoc
