import EdiSchema.Storage.Path

/-!
# A disk

Folders and files by the names that lead to them from the root. A path is followed one part after
the other: every part but the last has to be a folder that is there, also when two points lead out
of it again.

A fault is worded as the operating system words it.
-/

namespace EdiSchema

/-- What a file holds. -/
inductive Content where
  | text (value : String)
  /-- Octets that are not text in UTF-8. -/
  | binary
  deriving DecidableEq

/-- The names that lead from the root of a disk to a folder or a file. -/
abbrev Location := List String

/-- Why a disk cannot do what is asked of it. -/
inductive DiskFault where
  | notFound
  | exists
  | notAFolder
  | isAFolder
  | nameTooLong
  | nulInName
  | notText
  deriving DecidableEq

/-- The wording of a fault. -/
def DiskFault.message : DiskFault → String
  | .notFound => "No such file or directory (os error 2)"
  | .exists => "File exists (os error 17)"
  | .notAFolder => "Not a directory (os error 20)"
  | .isAFolder => "Is a directory (os error 21)"
  | .nameTooLong => "File name too long (os error 36)"
  | .nulInName => "file name contained an unexpected NUL byte"
  | .notText => "stream did not contain valid UTF-8"

/-- Folders and files, and the folder that relative paths start from. -/
structure Disk where
  here : Location := []
  folders : List Location := []
  files : List (Location × Content) := []

namespace Disk

/-- Whether a location is a folder; the root always is. -/
def isFolderAt (d : Disk) (place : Location) : Bool :=
  place.isEmpty || d.folders.contains place

/-- What the file at a location holds. -/
def contentAt? (d : Disk) (place : Location) : Option Content :=
  d.files.lookup place

/-- The disk with one more folder. -/
def addFolder (d : Disk) (place : Location) : Disk :=
  { d with folders := place :: d.folders }

/-- The disk with a file, in place of one that is there already. -/
def putFile (d : Disk) (place : Location) (content : Content) : Disk :=
  { d with files := (place, content) :: d.files.filter (·.1 != place) }

/-- The longest name, in octets. -/
def maxName : Nat := 255

/-- The longest path, in octets. -/
def maxPath : Nat := 4095

/-- Follows the parts of a path from a location. The last one need not exist. -/
def follow (d : Disk) : Location → List String → Except DiskFault Location
  | place, [] => .ok place
  | place, part :: parts =>
    if !d.isFolderAt place then
      .error (if (d.contentAt? place).isSome then .notAFolder else .notFound)
    else if part.isEmpty ∨ part = "." then d.follow place parts
    else if part = ".." then d.follow place.dropLast parts
    else if maxName < part.utf8ByteSize then .error .nameTooLong
    else d.follow (place ++ [part]) parts

/-- Whether a path can be followed at all. -/
def checkPath (path : String) : Except DiskFault Unit :=
  if path.toList.contains '\x00' then .error .nulInName
  else if path.isEmpty then .error .notFound
  else if maxPath < path.utf8ByteSize then .error .nameTooLong
  else .ok ()

/-- The location that a path starts from. -/
def start (d : Disk) (path : String) : Location :=
  if Path.isAbsolute path then [] else d.here

/-- Where a path leads to. -/
def locate (d : Disk) (path : String) : Except DiskFault Location := do
  checkPath path
  d.follow (d.start path) (Path.parts path)

/-- Whether a path leads to a file. -/
def isFile (d : Disk) (path : String) : Bool :=
  match d.locate path with
  | .ok place => (d.contentAt? place).isSome
  | .error _ => false

/-- The text of a file. -/
def read (d : Disk) (path : String) : Except DiskFault String := do
  let place ← d.locate path
  match d.contentAt? place with
  | some (.text value) => return value
  | some .binary => throw .notText
  | none => throw (if d.isFolderAt place then .isAFolder else .notFound)

/-- The disk with a text as the content of a file. -/
def write (d : Disk) (path text : String) : Except DiskFault Disk := do
  let place ← d.locate path
  if d.isFolderAt place then throw .isAFolder else return d.putFile place (.text text)

/-- The disk with a folder, which may be there already. -/
def makeFolder (d : Disk) (base : Location) (parts : List String) : Except DiskFault Disk := do
  let place ← d.follow base parts
  if d.isFolderAt place then return d
  else if (d.contentAt? place).isSome then throw .exists
  else return d.addFolder place

/-- Makes the folder that parts in reverse lead to, after the folders around it if one of them is
missing. The disk keeps what was made before a fault. -/
def makeParts (d : Disk) (base : Location) : List String → Except DiskFault Unit × Disk
  | [] => (.ok (), d)
  | part :: outer =>
    match d.makeFolder base (part :: outer).reverse with
    | .ok made => (.ok (), made)
    | .error .notFound =>
      match d.makeParts base outer with
      | (.ok (), d) =>
        match d.makeFolder base (part :: outer).reverse with
        | .ok made => (.ok (), made)
        | .error e => (.error e, d)
      | failed => failed
    | .error e => (.error e, d)

/-- Makes a folder and those around it, as far as they are missing. -/
def makeFolders (d : Disk) (path : String) : Except DiskFault Unit × Disk :=
  match checkPath path with
  | .ok () => d.makeParts (d.start path) (Path.names path).reverse
  | .error e => (if path.isEmpty then .ok () else .error e, d)

end Disk

end EdiSchema
