import EdiSchema.Batch.Delivery
import EdiSchema.CommandLine.Invocation
import EdiSchema.Idoc.Codec
import EdiSchema.Storage.Pages
import EdiSchema.Structure.Walk

/-!
# Executing an invocation

An invocation is carried out on a disk, and leaves a report: what is printed, what is complained
about, and the code that the program ends with. The code is 0 after success, 2 if some documents of
a batch failed or the arguments were not understood, 101 if a batch could not even start, and 3 after
any other failure.
-/

namespace EdiSchema.CommandLine

/-- What the program has to say when it ends. -/
structure Report where
  code : UInt8 := 0
  /-- What goes to the standard output. -/
  output : String := ""
  /-- The lines that go to the standard error output. -/
  complaints : List String := []
  deriving DecidableEq

/-- Why a command is given up. -/
inductive Failure where
  | readSettings (path : String) (fault : DiskFault)
  | settingsFile (path : String) (fault : SettingsFault)
  | settings (fault : SettingsFault)
  | extraction (fault : ExtractionFault)
  | load (path : String) (fault : LoadFault)
  | readRecords (path : String) (fault : DiskFault)
  | records (fault : Decoding.TextFault)
  | dialect (name : String)
  | descriptor (fault : DescriptorFault)
  | save (fault : SaveFault)
  /-- A batch needs more permits than can be given out. -/
  | permits
  deriving DecidableEq

/-- The wording of a fault of the disk together with its cause. -/
def causedMessage (fault : DiskFault) : String :=
  fault.plainMessage ++ ": " ++ fault.message

/-- The wording of a failure, with the causes that are known behind it. -/
def Failure.message : Failure → String
  | .readSettings path e =>
    "loading configuration " ++ path ++ ": " ++ (TaskFault.mk .readSettings path e).message
  | .settingsFile path e => "loading configuration " ++ path ++ ": " ++ e.message
  | .settings e => e.message
  | .extraction e => e.message
  | .load path (.disk e) => "loading structure " ++ path ++ ": " ++ causedMessage e
  | .load path (.text e) =>
    "loading structure " ++ path ++ ": Invalid structure format: " ++ e.message
  | .readRecords path e => "reading records " ++ path ++ ": " ++ e.message
  | .records e => "Invalid IDOC records: " ++ e.message
  | .dialect name => Dialect.unknownMessage name
  | .descriptor e => e.message
  | .save (.descriptor e) => e.message
  | .save (.structure e) => causedMessage e
  | .permits =>
    "a semaphore may not have more than MAX_PERMITS permits ("
      ++ Text.decimal Batch.maxPermits ++ ")"

/-- A command in the course of its execution. -/
abbrev Action (α : Type) := Disk.Work Failure α

/-- The settings of an invocation. -/
def settingsOf (disk : Disk) (file : Option String) (overrides : Overrides) :
    Except Failure Settings := do
  let settings ← match file with
    | none => .ok {}
    | some path => do
      let text ← (disk.read path).mapError (.readSettings path)
      (Settings.ofYaml text).mapError (.settingsFile path)
  (overrides.apply settings).check.mapError .settings

/-- Extracts a message, and saves or prints its structure. -/
def extractMessage (settings : Settings) (origin : Origin) (document : String)
    (folder : Option String) : Action Report := do
  let source := Source.ofFolder (← get) origin.folder
  let extraction ← liftExcept <|
    (Extraction.run source settings.tabWidth (origin.request document)).mapError Failure.extraction
  let output ← match folder with
    | some folder => do
      discard <| ExceptT.adapt (.save ∘ .structure) (extraction.message.save folder)
      pure ""
    | none => pure (extraction.message.toText ++ "\n")
  return {
    output := output
    complaints := ["Extract summary: nodes=" ++ Text.decimal extraction.message.count
      ++ ", skipped=" ++ Text.decimal extraction.skips.length] }

/-- The descriptor of an input. -/
def descriptorOf (settings : Settings) (disk : Disk) : Input → Except Failure Descriptor
  | .structure path dialect => do
    let message ← (Message.load disk path).mapError (.load path)
    let dialect ← (Dialect.ofName (dialect.getD message.standard)).mapError .dialect
    (Descriptor.ofMessage dialect settings.descriptorOptions message).mapError .descriptor
  | .records path document => do
    let text ← (disk.read path).mapError (.readRecords path)
    let records ← (Idoc.Record.listOfText text).mapError .records
    (Descriptor.ofRecords document records).mapError .descriptor

/-- What is printed of a descriptor that is not saved: its body, or all of it if it has none. -/
def printed (d : Descriptor) : String :=
  match d.body with
  | some f => f.content
  | none => d.content

/-- Generates a descriptor, and saves it with its paths printed, or prints it. -/
def generateDescriptor (settings : Settings) (input : Input) (workFolder : Option String) :
    Action Report := do
  let descriptor ← liftExcept (descriptorOf settings (← get) input)
  match workFolder with
  | none => return { output := printed descriptor }
  | some folder =>
    let saved ← ExceptT.adapt (.save ∘ .descriptor) (descriptor.save folder)
    return { output := saved.descriptor ++ "\n" ++ saved.body.elim "" (· ++ "\n") }

/-- The report on a batch that has been delivered. -/
def reportOf (deliveries : List Delivery) : Report :=
  let summary := Summary.ofDeliveries deliveries
  { code := if 0 < summary.failed then 2 else 0
    output := "Run summary: succeeded=" ++ Text.decimal summary.succeeded ++ ", failed="
      ++ Text.decimal summary.failed ++ ", skipped=" ++ Text.decimal summary.skipped ++ "\n"
    complaints := deliveries.filterMap Delivery.complaint? }

/-- Compiles a batch of documents, all of them before the first one is saved. -/
def runBatch (settings : Settings) (origin : Origin) (documents : List String)
    (workFolder : String) (saveStructures : Bool) : StateM Disk Report := do
  let source := Source.ofFolder (← get) origin.folder
  let outcomes := Batch.run settings source (documents.map origin.request)
  let folder := if saveStructures then some settings.outputDir else none
  return reportOf (← Batch.deliver ⟨workFolder, folder⟩ outcomes)

/-- Carries out a command. -/
def Command.execute (settings : Settings) : Command → Action Report
  | .extract origin document folder => extractMessage settings origin document folder
  | .generate input workFolder => generateDescriptor settings input workFolder
  | .run origin documents workFolder saveStructures =>
    runBatch settings origin documents workFolder saveStructures

/-- Whether a command can start: a batch needs its permits. -/
def Command.checkPermits (settings : Settings) : Command → Except Failure Unit
  | .run .. => if (Batch.permits? settings).isSome then .ok () else .error .permits
  | _ => .ok ()

/-- Carries out an invocation: the settings first, then the command. -/
def Invocation.execute (invocation : Invocation) : Action Report := do
  let settings ← liftExcept (settingsOf (← get) invocation.settingsFile invocation.overrides)
  liftExcept (invocation.command.checkPermits settings)
  invocation.command.execute settings

/-- How the program is used. -/
def usageText : String :=
  "Usage: edi [OPTIONS] <extract|generate|run> [OPTIONS]"

/-- The name and version of the program. -/
def versionText : String :=
  "edi 0.1.0"

/-- The report on arguments that are not carried out. -/
def Stop.report : Stop → Report
  | .usage => { code := 2, complaints := [usageText] }
  | .help => { output := usageText ++ "\n" }
  | .version => { output := versionText ++ "\n" }

/-- The report on a command that was given up; without its permits a batch breaks the program off. -/
def Failure.report (failure : Failure) : Report :=
  match failure with
  | .permits => { code := 101, complaints := [failure.message] }
  | _ => { code := 3, complaints := ["ERROR: " ++ failure.message] }

/-- Carries out the arguments of the program. -/
def runArguments (arguments : List String) : StateM Disk Report := do
  match Invocation.ofArguments arguments with
  | .error stop => return stop.report
  | .ok invocation =>
    match ← invocation.execute.run with
    | .ok report => return report
    | .error failure => return failure.report

end EdiSchema.CommandLine
