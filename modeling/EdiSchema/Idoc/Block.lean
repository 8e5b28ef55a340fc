import EdiSchema.Idoc.Record

/-!
# Blocks

A record list read as a tree: a group holds what stands between its begin and its end, and a
segment holds the fields that follow it. A group that is never ended goes on to the end of the
list.

The list is refused when a field follows no segment, or when an end is not that of the group begun
last.
-/

namespace EdiSchema.Idoc

/-- A field of a segment. -/
structure Field where
  name : String
  length : UInt32
  description : String
  deriving DecidableEq

/-- A segment or a group of a record list. -/
inductive Block where
  | segment (segment typeName : String) (maxOccurs : MaxOccurs) (fields : List Field)
  | group (name : String) (maxOccurs : MaxOccurs) (blocks : List Block)

/-- Why a record list cannot be read as a tree. -/
inductive BlockFault where
  | fieldOutside (name : String)
  /-- The end of one group stands where another is open. -/
  | endsOther (group innermost : String)
  | endsNone (group : String)
  deriving DecidableEq

/-- The name of the element of a group. -/
def groupElement (group : String) : String := group ++ "_GROUP"

/-- The wording of a fault. -/
def BlockFault.message : BlockFault → String
  | .fieldOutside name => "field " ++ name ++ " outside a segment"
  | .endsOther group innermost => group ++ endSuffix ++ " closes " ++ groupElement innermost
  | .endsNone group => group ++ endSuffix ++ " without a matching begin"

/-- A group that is open, and the blocks before it in reverse. -/
structure OpenGroup where
  name : String
  maxOccurs : MaxOccurs
  before : List Block

/-- A segment that is open, its fields in reverse. -/
structure OpenSegment where
  segment : String
  typeName : String
  maxOccurs : MaxOccurs
  fields : List Field := []

/-- A record list as far as it has been read: the open groups, innermost first, the blocks in the
innermost one in reverse, and the segment that fields belong to. -/
structure Nesting where
  groups : List OpenGroup := []
  blocks : List Block := []
  segment : Option OpenSegment := none

namespace Nesting

/-- The segment that is open becomes a block. -/
def closeSegment (nesting : Nesting) : Nesting :=
  match nesting.segment with
  | none => nesting
  | some s =>
    ⟨nesting.groups, .segment s.segment s.typeName s.maxOccurs s.fields.reverse :: nesting.blocks,
      none⟩

/-- The innermost open group becomes a block. -/
def closeGroup (nesting : Nesting) (g : OpenGroup) (outer : List OpenGroup) : Nesting :=
  ⟨outer, .group g.name g.maxOccurs nesting.blocks.reverse :: g.before, none⟩

/-- Takes the end of a group. -/
def endGroup (group : String) (nesting : Nesting) : Except BlockFault Nesting :=
  match nesting.groups with
  | [] => .error (.endsNone group)
  | g :: outer =>
    if g.name = group then .ok (nesting.closeGroup g outer)
    else .error (.endsOther group g.name)

/-- Takes one record. -/
def read (nesting : Nesting) : Record → Except BlockFault Nesting
  | .groupBegin group bound =>
    let closed := nesting.closeSegment
    .ok ⟨⟨group, bound, closed.blocks⟩ :: closed.groups, [], none⟩
  | .groupEnd group => nesting.closeSegment.endGroup group
  | .segment segment typeName bound =>
    let closed := nesting.closeSegment
    .ok { closed with segment := some { segment, typeName, maxOccurs := bound } }
  | .field name length description =>
    match nesting.segment with
    | none => .error (.fieldOutside name)
    | some s =>
      let fields := ⟨name, length, description⟩ :: s.fields
      .ok { nesting with segment := some { s with fields } }

/-- The blocks once all open groups are closed, in reverse. -/
def closeAll : List OpenGroup → List Block → List Block
  | [], blocks => blocks
  | g :: outer, blocks => closeAll outer (.group g.name g.maxOccurs blocks.reverse :: g.before)

/-- The blocks of a list that has been read to its end. -/
def finish (nesting : Nesting) : List Block :=
  let closed := nesting.closeSegment
  (closeAll closed.groups closed.blocks).reverse

end Nesting

/-- The blocks of a record list. -/
def Block.ofRecords (records : List Record) : Except BlockFault (List Block) :=
  Nesting.finish <$> records.foldlM Nesting.read {}

end EdiSchema.Idoc
