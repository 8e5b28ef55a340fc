import EdiSchema.Descriptor.Body
import EdiSchema.Descriptor.Wrapper
import EdiSchema.Idoc.Document

/-!
# Descriptors

A message becomes a descriptor for a dialect. For a delimited one it is a wrapper beside the body
of the message; for records of fixed width it is a single document. Only a message without entries
has no descriptor, and a record list that is no tree.
-/

namespace EdiSchema

/-- A part of a descriptor that stands in a file of its own. -/
structure Fragment where
  /-- The path of the file below the root of fragments. -/
  path : String
  content : String
  deriving DecidableEq

/-- The description of a message for a dialect. -/
structure Descriptor where
  dialect : Dialect
  content : String
  fileName : String
  /-- The name of the body in the wrapper, or of the message without its version. -/
  reference : String
  body : Option Fragment
  deriving DecidableEq

/-- Why a message cannot be described. -/
inductive DescriptorFault where
  | noEntries (message : Message)
  | noRecords (document : String)
  | records (fault : Idoc.BlockFault)
  deriving DecidableEq

/-- The wording of a fault. -/
def DescriptorFault.message : DescriptorFault → String
  | .noEntries m =>
    "Invalid model: " ++ m.standard ++ " " ++ m.revision ++ " " ++ m.document ++ " has no segments"
  | .noRecords document => "Invalid model: " ++ document ++ " has no IDOC records"
  | .records e => "Invalid model: " ++ e.message

namespace Descriptor

/-- The descriptor of a message for a delimited dialect. -/
def delimited (dialect : Dialect) (interchange : Interchange) (options : DescriptorOptions)
    (m : Message) : Descriptor where
  dialect := dialect
  content := Wrapper.text dialect interchange options m.revision m.document
  fileName := Naming.fileName dialect m.standard m.revision m.document
  reference := Naming.bodyEntity dialect m.document
  body := some {
    path := Naming.bodyPath dialect m.revision m.document
    content := (Body.ofMessage interchange.separators options m).text }

/-- The descriptor of blocks of records. -/
def ofBlocks (document : String) (blocks : List Idoc.Block) : Descriptor where
  dialect := .idoc
  content := (Idoc.documentOf (Naming.reference document) blocks).document
  fileName := Naming.fileName .idoc Dialect.idoc.name "" document
  reference := Naming.reference document
  body := none

/-- The descriptor of a record list. -/
def ofRecords (document : String) (records : List Idoc.Record) :
    Except DescriptorFault Descriptor :=
  if records.isEmpty then .error (.noRecords document)
  else match Idoc.Block.ofRecords records with
    | .ok blocks => .ok (ofBlocks document blocks)
    | .error e => .error (.records e)

/-- The descriptor of a message for a dialect. -/
def ofMessage (dialect : Dialect) (options : DescriptorOptions) (m : Message) :
    Except DescriptorFault Descriptor :=
  if m.isEmpty then .error (.noEntries m)
  else match dialect.interchange? with
    | some interchange => .ok (delimited dialect interchange options m)
    | none => ofRecords m.document (Idoc.linearize m)

end Descriptor

end EdiSchema
