import EdiSchema.Batch.Basic
import EdiSchema.Storage.Saved

/-!
# Deliveries

The outcomes of a batch are delivered one after the other: the descriptor of a request that was
compiled is saved in a working folder, and its structure too if that is asked for. A request fails
if it was not compiled or if something of it could not be saved.
-/

namespace EdiSchema

/-- Why a compiled request cannot be saved. -/
inductive SaveFault where
  | descriptor (fault : TaskFault)
  | structure (fault : DiskFault)
  deriving DecidableEq

/-- The wording of a fault of the disk that has no task. -/
def DiskFault.plainMessage (fault : DiskFault) : String :=
  "IO error: " ++ fault.message

/-- The wording of a fault. -/
def SaveFault.message : SaveFault → String
  | .descriptor e => e.message
  | .structure e => e.plainMessage

/-- Where a batch is delivered to. -/
structure Destination where
  /-- The working folder for descriptors. -/
  workFolder : String
  /-- The folder for structures, if they are saved. -/
  structureFolder : Option String

/-- Saves a compiled request. -/
def Compilation.save (destination : Destination) (compiled : Compilation) :
    Disk.Work SaveFault Unit := do
  discard <| ExceptT.adapt .descriptor (compiled.descriptor.save destination.workFolder)
  match destination.structureFolder with
  | some folder => discard <| ExceptT.adapt .structure (compiled.message.save folder)
  | none => pure ()

/-- An outcome with the fault that stopped it from being saved, if there was one. -/
structure Delivery where
  outcome : Outcome
  fault : Option SaveFault

namespace Delivery

/-- Delivers an outcome; one that failed needs no saving. -/
def ofOutcome (destination : Destination) (outcome : Outcome) : StateM Disk Delivery := do
  match outcome.result with
  | .error _ => return ⟨outcome, none⟩
  | .ok compiled =>
    match ← (compiled.save destination).run with
    | .ok () => return ⟨outcome, none⟩
    | .error e => return ⟨outcome, some e⟩

/-- What is reported about a request that failed. -/
def complaint? (delivery : Delivery) : Option String :=
  let about (message : String) := some (delivery.outcome.request.document ++ ": " ++ message)
  match delivery.outcome.result, delivery.fault with
  | .error e, _ => about e.message
  | .ok _, some e => about e.message
  | .ok _, none => none

/-- Whether a request was compiled but not saved. -/
def isLost (delivery : Delivery) : Bool :=
  delivery.outcome.isSuccess && delivery.fault.isSome

end Delivery

namespace Summary

/-- The counts after one of the successes has turned into a failure. -/
def demote (summary : Summary) : Summary :=
  { summary with succeeded := summary.succeeded - 1, failed := summary.failed + 1 }

/-- The counts over deliveries: those over their outcomes, with each request that was not saved
moved to the failures. What was left out counts for every request that was compiled. -/
def ofDeliveries (deliveries : List Delivery) : Summary :=
  (deliveries.filter Delivery.isLost).foldl (fun summary _ => summary.demote)
    (ofOutcomes (deliveries.map Delivery.outcome))

end Summary

/-- Delivers the outcomes of a batch in order. -/
def Batch.deliver (destination : Destination) (outcomes : List Outcome) :
    StateM Disk (List Delivery) :=
  outcomes.mapM (Delivery.ofOutcome destination)

end EdiSchema
