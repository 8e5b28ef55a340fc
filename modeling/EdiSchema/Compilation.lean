import EdiSchema.Descriptor.Basic
import EdiSchema.Extraction
import EdiSchema.Settings

/-!
# Compilation

A request is compiled by extracting its message and describing it for the dialect that its standard
names. A standard that names no dialect is noticed before any page is asked for.
-/

namespace EdiSchema

/-- A message with its descriptor, and the number of things that were left out on the way. -/
structure Compilation where
  message : Message
  descriptor : Descriptor
  skipped : Nat

/-- Why a request cannot be compiled. -/
inductive CompilationFault where
  | dialect (name : String)
  | extraction (fault : ExtractionFault)
  | descriptor (fault : DescriptorFault)
  deriving DecidableEq

/-- The wording of an unknown dialect. -/
def Dialect.unknownMessage (name : String) : String :=
  "Unsupported dialect: " ++ name

/-- The wording of a fault. -/
def CompilationFault.message : CompilationFault → String
  | .dialect name => Dialect.unknownMessage name
  | .extraction e => e.message
  | .descriptor e => e.message

namespace Compilation

/-- Compiles a request. -/
def run (settings : Settings) (source : Source) (request : Request) :
    Except CompilationFault Compilation := do
  let dialect ← (Dialect.ofName request.standard).mapError .dialect
  let extraction ← (Extraction.run source settings.tabWidth request).mapError .extraction
  let descriptor ←
    (Descriptor.ofMessage dialect settings.descriptorOptions extraction.message).mapError .descriptor
  return ⟨extraction.message, descriptor, extraction.skips.length⟩

/-- The tags that a compilation asks the source for, in order. -/
def asked (settings : Settings) (source : Source) (request : Request) : List String :=
  match Dialect.ofName request.standard with
  | .ok _ => Extraction.asked source settings.tabWidth request
  | .error _ => []

end Compilation

end EdiSchema
