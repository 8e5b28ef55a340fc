import EdiSchema.Descriptor.Basic
import EdiSchema.Storage.Path

/-!
# Where descriptors are saved

Descriptors lie in a working folder, below the root of fragments. The body of a delimited message is
saved under its own path, and its wrapper beside it; a descriptor without a body lies in the folder
of its dialect.
-/

namespace EdiSchema.Layout

/-- The root of fragments in a working folder. -/
def root (folder : String) : String :=
  Path.join (Path.join folder "SFEDI") "format"

/-- The path of a fragment in a working folder. -/
def fragment (folder : String) (f : Fragment) : String :=
  Path.join (root folder) f.path

/-- The folder of a descriptor in a working folder. -/
def descriptorFolder (folder : String) (d : Descriptor) : String :=
  match d.body with
  | some f => (Path.parent? (fragment folder f)).getD (root folder)
  | none => Path.join (root folder) d.dialect.folder

/-- The path of a descriptor in a working folder. -/
def descriptor (folder : String) (d : Descriptor) : String :=
  Path.join (descriptorFolder folder d) d.fileName

end EdiSchema.Layout
