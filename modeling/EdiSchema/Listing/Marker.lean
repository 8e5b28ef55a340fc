import EdiSchema.Structure.Basic

/-!
# Markers

What the entries of a directory listing say: each names a group or a segment of the message. A
marker keeps the index of its entry, which decides where its node stands among its siblings.
-/

namespace EdiSchema

/-- An entry that names a group. -/
structure GroupMarker where
  code : String
  maxOccurs : MaxOccurs
  description : String
  index : Nat
  deriving DecidableEq

/-- An entry that names a segment, with the group whose region it lies in. -/
structure SegmentMarker where
  tag : String
  description : String
  requirement : Requirement
  maxOccurs : MaxOccurs
  index : Nat
  parent : Option String
  deriving DecidableEq

/-- An entry of a listing that can be used. -/
inductive Marker where
  | group (marker : GroupMarker)
  | segment (marker : SegmentMarker)
  deriving DecidableEq

/-- A marker whose segment has its items. -/
inductive ResolvedMarker where
  | group (marker : GroupMarker)
  | segment (marker : SegmentMarker) (items : List Item)
  deriving DecidableEq

/-- The index of the entry of a marker. -/
def Marker.index : Marker → Nat
  | .group m => m.index
  | .segment m => m.index

/-- The index of the entry of a marker. -/
def ResolvedMarker.index : ResolvedMarker → Nat
  | .group m => m.index
  | .segment m _ => m.index

end EdiSchema
