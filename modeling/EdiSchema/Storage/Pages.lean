import EdiSchema.Source
import EdiSchema.Storage.Disk
import EdiSchema.Text.Case

/-!
# Pages in a folder

A folder of saved directory pages has a folder for each revision, with one folder for listings and
one for segments in it. A page is named in upper case, and markup is preferred to plain text.
-/

namespace EdiSchema.Source

/-- The endings of the files that a page may be in, the preferred one first. -/
def pageEndings : List String := [".html", ".txt"]

/-- The page of a kind under a revision and a name. -/
def readPage (disk : Disk) (root revision kind name : String) : Except SourceFault String :=
  let folder := Path.join (Path.join root revision) kind
  let paths := pageEndings.map fun ending => Path.join folder (name ++ ending)
  match paths.find? disk.isFile with
  | some path => (disk.read path).mapError fun e => ⟨path, e.message⟩
  | none => .error ⟨Path.join folder (name ++ ".html"), "file not found"⟩

/-- The pages that are saved in a folder of a disk. -/
def ofFolder (disk : Disk) (root : String) : Source where
  listing revision document := readPage disk root revision "message" (Text.upper document)
  detail revision tag := readPage disk root revision "segment" (Text.upper tag)

end EdiSchema.Source
