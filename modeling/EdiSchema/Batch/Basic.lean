import EdiSchema.Compilation

/-!
# Batches

A batch compiles a list of requests against one source. Each request has its own outcome, in the
order of the requests, and one that fails does not stop the others.
-/

namespace EdiSchema

/-- What became of a request. -/
structure Outcome where
  request : Request
  result : Except CompilationFault Compilation

/-- Whether a request was compiled. -/
def Outcome.isSuccess (outcome : Outcome) : Bool :=
  outcome.result.isOk

/-- Counts over the outcomes of a batch. -/
structure Summary where
  succeeded : Nat := 0
  failed : Nat := 0
  /-- The number of things left out in the requests that succeeded. -/
  skipped : Nat := 0
  deriving DecidableEq

namespace Summary

/-- The counts with one more outcome. -/
def add (summary : Summary) (outcome : Outcome) : Summary :=
  match outcome.result with
  | .ok compiled =>
    { summary with
      succeeded := summary.succeeded + 1
      skipped := summary.skipped + compiled.skipped }
  | .error _ => { summary with failed := summary.failed + 1 }

/-- The counts over a list of outcomes. -/
def ofOutcomes (outcomes : List Outcome) : Summary :=
  outcomes.foldl add {}

/-- The number of outcomes. -/
def total (summary : Summary) : Nat :=
  summary.succeeded + summary.failed

end Summary

namespace Batch

/-- The outcomes of a list of requests. -/
def run (settings : Settings) (source : Source) (requests : List Request) : List Outcome :=
  requests.map fun request => ⟨request, Compilation.run settings source request⟩

/-- The number of detail pages that a batch asks the source for. -/
def asked (settings : Settings) (source : Source) (requests : List Request) : Nat :=
  requests.foldr (fun request n => (Compilation.asked settings source request).length + n) 0

/-- The largest number of permits that can be given out, an eighth of what a word counts. -/
def maxPermits : Nat := 2305843009213693951

/-- The number of requests that a batch works on at the same time. A batch that needs more permits
than can be given out does not start. -/
def permits? (settings : Settings) : Option Nat :=
  let permits := max settings.maxConcurrency 1
  if permits ≤ maxPermits then some permits else none

end Batch

end EdiSchema
