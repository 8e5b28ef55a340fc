import EdiSchema.CommandLine.Execution

/-!
# The program

The part of the disk that the arguments name is read, the command is carried out on it, and what it
has changed is written back. Nothing is decided here.
-/

namespace EdiSchema.Main

/-- The path that leads to a location from everywhere. -/
def pathTo (place : Location) : String :=
  "/" ++ "/".intercalate place

/-- The location of a path, whether or not something is there. -/
def placeOf (disk : Disk) (path : String) : Location :=
  (Path.names path).foldl
    (fun place name => if name = ".." then place.dropLast else place ++ [name]) (disk.start path)

/-- Whether there is a folder at a location, if there is anything. -/
def isFolder? (place : Location) : IO (Option Bool) := do
  try return some (← (← IO.FS.realPath (pathTo place)).isDir)
  catch _ => return none

/-- What the file at a location holds; one that cannot be read counts as no text. -/
def contentOf (place : Location) : IO Content := do
  try
    match String.fromUTF8? (← IO.FS.readBinFile (pathTo place)) with
    | some text => return .text text
    | none => return .binary
  catch _ => return .binary

/-- The disk with everything at a location, its files with their contents only if these matter. -/
partial def addTree (contents : Bool) (disk : Disk) (place : Location) : IO Disk := do
  match ← isFolder? place with
  | none => return disk
  | some false => return disk.putFile place (← if contents then contentOf place else pure .binary)
  | some true =>
    let entries ← (← IO.FS.realPath (pathTo place)).readDir
    entries.foldlM (fun disk entry => addTree contents disk (place ++ [entry.fileName]))
      (disk.addFolder place)

/-- The disk with the folders that lead along a list of names, as far as they are there. -/
def addWay (disk : Disk) (place : Location) : List String → IO Disk
  | [] => return disk
  | name :: names => do
    let next := place ++ [name]
    match ← isFolder? next with
    | none => return disk
    | some false => return disk.putFile next .binary
    | some true => addWay (disk.addFolder next) next names

/-- The disk with everything that a path leads to. -/
def addPath (contents : Bool) (disk : Disk) (path : String) : IO Disk := do
  let place := placeOf disk path
  addTree contents (← addWay disk [] place) place

/-- The paths that a command reads. -/
def inputsOf : CommandLine.Command → List String
  | .extract origin _ _ => [Path.join origin.folder origin.revision]
  | .generate (.structure path _) _ => [path]
  | .generate (.records path _) _ => [path]
  | .run origin _ _ _ => [Path.join origin.folder origin.revision]

/-- The folders that a command writes to. -/
def outputsOf (settings : Settings) : CommandLine.Command → List String
  | .extract _ _ folder => folder.toList
  | .generate _ workFolder => workFolder.toList
  | .run _ _ workFolder saveStructures =>
    workFolder :: (if saveStructures then [settings.outputDir] else [])

/-- The part of the disk that an invocation needs. -/
def diskFor (invocation : CommandLine.Invocation) : IO Disk := do
  let here := Path.names (← IO.currentDir).toString
  let bare ← addWay { here := here } [] here
  let file := invocation.settingsFile.toList
  let known ← file.foldlM (addPath true) bare
  match CommandLine.settingsOf known invocation.settingsFile invocation.overrides with
  | .error _ => return known
  | .ok settings =>
    let disk ← (outputsOf settings invocation.command).foldlM (addPath false) bare
    (file ++ inputsOf invocation.command).foldlM (addPath true) disk

/-- Makes and writes what one disk has and another one lacks. -/
def writeBack (before after : Disk) : IO Unit := do
  for place in after.folders.reverse do
    unless before.isFolderAt place do IO.FS.createDirAll (pathTo place)
  for (place, content) in after.files do
    match content with
    | .text text => unless before.contentAt? place = some content do
        IO.FS.writeFile (pathTo place) text
    | .binary => pure ()

/-- Carries out the arguments and reports; the answer is the code to end with. -/
def runProgram (arguments : List String) : IO UInt32 := do
  let disk ← match CommandLine.Invocation.ofArguments arguments with
    | .ok invocation => diskFor invocation
    | .error _ => pure {}
  let (report, after) := (CommandLine.runArguments arguments).run disk
  writeBack disk after
  IO.print report.output
  report.complaints.forM fun line => IO.eprintln line
  return report.code.toUInt32

end EdiSchema.Main

def main (arguments : List String) : IO UInt32 := do
  try EdiSchema.Main.runProgram arguments
  catch e =>
    IO.eprintln s!"ERROR: {e}"
    return 3
