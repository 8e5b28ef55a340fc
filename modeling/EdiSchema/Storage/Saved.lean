import EdiSchema.Storage.Disk
import EdiSchema.Storage.Layout
import EdiSchema.Structure.Encode
import EdiSchema.Structure.Location
import EdiSchema.Structure.Source

/-!
# Saving and loading

Structures and descriptors are saved as files, each after the folders around it have been made. A
fault ends the work, and what was saved before it stays saved.
-/

namespace EdiSchema

namespace Disk

/-- Work on a disk that may end in a fault. -/
abbrev Work (ε α : Type) := ExceptT ε (StateM Disk) α

/-- Makes a folder and those around it. -/
def Work.makeFolders (path : String) : Work DiskFault Unit :=
  ExceptT.mk fun d => d.makeFolders path

/-- Writes a text to a file. -/
def Work.write (path text : String) : Work DiskFault Unit :=
  ExceptT.mk fun d =>
    match d.write path text with
    | .ok written => (.ok (), written)
    | .error e => (.error e, d)

end Disk

/-- What was being done with a file or folder. -/
inductive Task where
  | readSettings
  | makeFolder
  | write
  deriving DecidableEq

/-- The name of a task. -/
def Task.name : Task → String
  | .readSettings => "read config"
  | .makeFolder => "create directory"
  | .write => "write"

/-- A fault of the disk in the course of a task. -/
structure TaskFault where
  task : Task
  path : String
  fault : DiskFault
  deriving DecidableEq

/-- The wording of a fault. -/
def TaskFault.message (e : TaskFault) : String :=
  "IO error during " ++ e.task.name ++ " for '" ++ e.path ++ "': " ++ e.fault.message

/-- Saves a text as a file in folders that are made if need be. -/
def Disk.Work.save (path text : String) : Disk.Work TaskFault Unit := do
  match Path.parent? path with
  | some folder => ExceptT.adapt (⟨.makeFolder, folder, ·⟩) (makeFolders folder)
  | none => pure ()
  ExceptT.adapt (⟨.write, path, ·⟩) (write path text)

/-- Saves a message as a structure below a folder; the answer is its path. -/
def Message.save (folder : String) (m : Message) : Disk.Work DiskFault String := do
  ExceptT.adapt TaskFault.fault (Disk.Work.save (m.path folder) m.toText)
  return m.path folder

/-- Why a structure cannot be loaded. -/
inductive LoadFault where
  | disk (fault : DiskFault)
  | text (fault : Decoding.TextFault)
  deriving DecidableEq

/-- Loads a structure. -/
def Message.load (disk : Disk) (path : String) : Except LoadFault Message := do
  let text ← (disk.read path).mapError .disk
  (Message.ofText text).mapError .text

/-- The paths under which a descriptor has been saved. -/
structure SavedDescriptor where
  descriptor : String
  body : Option String
  deriving DecidableEq

/-- Saves a descriptor in a working folder, its body first. -/
def Descriptor.save (folder : String) (d : Descriptor) : Disk.Work TaskFault SavedDescriptor := do
  match d.body with
  | some f => Disk.Work.save (Layout.fragment folder f) f.content
  | none => pure ()
  Disk.Work.save (Layout.descriptor folder d) d.content
  return ⟨Layout.descriptor folder d, d.body.map (Layout.fragment folder)⟩

end EdiSchema
