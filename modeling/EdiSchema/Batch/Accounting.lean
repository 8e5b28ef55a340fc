import EdiSchema.Batch.Delivery

/-!
# Counts corrected along with the deliveries

The outcomes of a batch are counted before they are delivered, and each delivery that fails corrects
the counts. Taking a success away where none is left would stop the count.

What a delivery comes to depends on the disk that the deliveries before it have left.
-/

namespace EdiSchema

/-- Whether a request was compiled, and everything of it saved. -/
def Delivery.isComplete (delivery : Delivery) : Bool :=
  delivery.outcome.isSuccess && delivery.fault.isNone

/-- The number of things left out in a request that was compiled. -/
def Outcome.skipped (outcome : Outcome) : Nat :=
  match outcome.result with
  | .ok compiled => compiled.skipped
  | .error _ => 0

namespace Summary

/-- The counts after one of the successes has turned into a failure, if there is a success. -/
def demote? (summary : Summary) : Option Summary :=
  if summary.succeeded = 0 then none else some summary.demote

/-- The counts corrected by a delivery. A request that was not compiled has been counted. -/
def correct? (summary : Summary) (delivery : Delivery) : Option Summary :=
  match delivery.outcome.result, delivery.fault with
  | .error _, _ => some summary
  | .ok _, none => some summary
  | .ok _, some _ => summary.demote?

end Summary

/-- How an outcome is saved, from one disk to another, and the fault that stops it if there is one. -/
inductive Outcome.Saves (destination : Destination) (disk : Disk) (outcome : Outcome) :
    Option SaveFault → Disk → Prop
  /-- A request that was not compiled needs no saving. -/
  | uncompiled {fault : CompilationFault} (hresult : outcome.result = .error fault) :
      Saves destination disk outcome none disk
  /-- A descriptor that cannot be saved leaves the structure unsaved. -/
  | unwritten {next : Disk} {compiled : Compilation} {fault : TaskFault}
      (hresult : outcome.result = .ok compiled)
      (hwrite : (compiled.descriptor.save destination.workFolder).run.run disk =
        (.error fault, next)) :
      Saves destination disk outcome (some (.descriptor fault)) next
  /-- The descriptor is saved, and structures are not wanted. -/
  | written {next : Disk} {compiled : Compilation} {written : SavedDescriptor}
      (hresult : outcome.result = .ok compiled)
      (hwrite : (compiled.descriptor.save destination.workFolder).run.run disk =
        (.ok written, next))
      (hfolder : destination.structureFolder = none) :
      Saves destination disk outcome none next
  /-- The descriptor is saved, but the structure cannot be. -/
  | unsaved {between next : Disk} {compiled : Compilation} {written : SavedDescriptor}
      {folder : String} {fault : DiskFault}
      (hresult : outcome.result = .ok compiled)
      (hwrite : (compiled.descriptor.save destination.workFolder).run.run disk =
        (.ok written, between))
      (hfolder : destination.structureFolder = some folder)
      (hsave : (compiled.message.save folder).run.run between = (.error fault, next)) :
      Saves destination disk outcome (some (.structure fault)) next
  /-- Descriptor and structure are saved. -/
  | saved {between next : Disk} {compiled : Compilation} {written : SavedDescriptor}
      {folder path : String}
      (hresult : outcome.result = .ok compiled)
      (hwrite : (compiled.descriptor.save destination.workFolder).run.run disk =
        (.ok written, between))
      (hfolder : destination.structureFolder = some folder)
      (hsave : (compiled.message.save folder).run.run between = (.ok path, next)) :
      Saves destination disk outcome none next

/-- How outcomes are delivered one after the other, from one disk to another. -/
inductive Batch.Delivers (destination : Destination) :
    Disk → List Outcome → List Delivery → Disk → Prop
  | done (disk : Disk) : Delivers destination disk [] [] disk
  | next {disk between last : Disk} {outcome : Outcome} {outcomes : List Outcome}
      {fault : Option SaveFault} {deliveries : List Delivery}
      (hfirst : outcome.Saves destination disk fault between)
      (hrest : Delivers destination between outcomes deliveries last) :
      Delivers destination disk (outcome :: outcomes) (⟨outcome, fault⟩ :: deliveries) last

end EdiSchema
