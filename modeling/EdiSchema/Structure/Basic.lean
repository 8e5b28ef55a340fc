import EdiSchema.Attribute.DataType
import EdiSchema.Attribute.MaxOccurs
import EdiSchema.Attribute.Requirement

/-!
# Message structures

The definition of a message: its segments and groups in the order of the wire, and for each
segment its composites and simple elements. Groups nest to any depth, composites do not.

A group's own fields are kept apart from its children, so that functions on trees recurse over
`Node` alone.
-/

namespace EdiSchema

/-- The scope of an item unless it states another. -/
def usedScope : String := "Used"

/-- A simple data element; a maximal length of zero means that none is known. -/
structure Element where
  scope : String := usedScope
  position : String := ""
  code : String
  name : String := ""
  description : String := ""
  requirement : Requirement := .conditional
  dataType : DataType := .alphanumeric
  minLength : UInt32 := 1
  maxLength : UInt32 := 0
  deriving DecidableEq

/-- A data element that is made up of simple elements. -/
structure Composite where
  scope : String := usedScope
  position : String := ""
  code : String
  name : String := ""
  description : String := ""
  requirement : Requirement := .conditional
  dataType : DataType := .composite
  components : List Element := []
  deriving DecidableEq

/-- A data item of a segment. -/
inductive Item where
  | composite (composite : Composite)
  | simple (element : Element)
  deriving DecidableEq

/-- The code of an item. -/
def Item.code : Item → String
  | .composite c => c.code
  | .simple e => e.code

/-- The requirement of an item. -/
def Item.requirement : Item → Requirement
  | .composite c => c.requirement
  | .simple e => e.requirement

/-- A segment of a message, with its items in the order of the wire. -/
structure Segment where
  minOccurs : UInt32 := 0
  maxOccurs : MaxOccurs := .one
  scope : String := usedScope
  position : String := ""
  tag : String
  name : String := ""
  description : String := ""
  requirement : Requirement := .conditional
  items : List Item := []
  deriving DecidableEq

/-- The own fields of a group; without an upper bound, descriptors choose one. -/
structure Group where
  minOccurs : UInt32 := 0
  maxOccurs : Option MaxOccurs := none
  scope : String := usedScope
  position : String := ""
  code : String
  name : String := ""
  description : String := ""
  requirement : Requirement := .conditional
  deriving DecidableEq

/-- An entry of a message: a segment, or a group with the entries it repeats. -/
inductive Node where
  | segment (segment : Segment)
  | group (group : Group) (children : List Node)

namespace Node

/-- The segment tag or group code of an entry. -/
def code : Node → String
  | .segment s => s.tag
  | .group g _ => g.code

/-- The position of an entry. -/
def position : Node → String
  | .segment s => s.position
  | .group g _ => g.position

mutual
/-- Whether two entries are equal. -/
def decEq : (a b : Node) → Decidable (a = b)
  | .segment s, .segment t =>
    if h : s = t then isTrue (by rw [h]) else isFalse fun e => h (by injection e)
  | .group g as, .group h bs =>
    if hg : g = h then
      match decEqAll as bs with
      | isTrue e => isTrue (by rw [hg, e])
      | isFalse n => isFalse fun e => n (by injection e)
    else isFalse fun e => hg (by injection e)
  | .segment _, .group _ _ => isFalse (by intro e; cases e)
  | .group _ _, .segment _ => isFalse (by intro e; cases e)

/-- Whether two lists of entries are equal. -/
def decEqAll : (as bs : List Node) → Decidable (as = bs)
  | [], [] => isTrue rfl
  | [], _ :: _ => isFalse (by intro e; cases e)
  | _ :: _, [] => isFalse (by intro e; cases e)
  | a :: as, b :: bs =>
    match decEq a b with
    | isTrue h =>
      match decEqAll as bs with
      | isTrue e => isTrue (by rw [h, e])
      | isFalse n => isFalse fun e => n (by injection e)
    | isFalse n => isFalse fun e => n (by injection e)
end

instance : DecidableEq Node := decEq

end Node

/-- The definition of a message of a standard, in one revision of its directory. -/
structure Message where
  standard : String
  revision : String
  document : String
  nodes : List Node := []
  deriving DecidableEq

/-- Whether a message has no entries. -/
def Message.isEmpty (message : Message) : Bool :=
  message.nodes.isEmpty

end EdiSchema
