/-!
# Settings of descriptors
-/

namespace EdiSchema

/-- Settings of descriptors. -/
structure DescriptorOptions where
  /-- The bound of a group whose structure gives none. -/
  groupMax : String := "10"
  /-- The root of the fragments, as seen from a descriptor. -/
  fragmentRoot : String := "./../../SFEDI/format"
  deriving DecidableEq

end EdiSchema
