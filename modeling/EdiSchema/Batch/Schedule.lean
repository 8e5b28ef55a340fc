import EdiSchema.Batch.Basic
import EdiSchema.Batch.Inquiry

/-!
# Schedules of a batch

Every request of a batch waits for one of a fixed number of permits, asks the source for its pages
while it holds the permit, and keeps its result when it gives the permit back. The results are
collected in the order of the requests, each as soon as those before it are collected and it is
there itself. A batch whose number of permits is too large has no schedule at all.

Which move comes next is not determined: requests may take permits, ask and finish in any order,
and a schedule is any sequence of moves that are possible one after the other. The source counts
the detail pages that it is asked for, whoever asks.
-/

namespace EdiSchema.Batch

/-- How far a request has come. -/
inductive Phase where
  | waiting
  /-- The request holds a permit, and this is left to do. -/
  | running (rest : Inquiry (Except CompilationFault Compilation))
  | finished (result : Except CompilationFault Compilation)

namespace Phase

/-- Whether a request holds a permit. -/
def isRunning : Phase → Bool
  | .running _ => true
  | _ => false

/-- The result of a request that is finished. -/
def result? : Phase → Option (Except CompilationFault Compilation)
  | .finished result => some result
  | _ => none

end Phase

/-- A request in a batch that is under way. -/
structure Job where
  request : Request
  phase : Phase := .waiting

/-- A batch that is under way. -/
structure Progress where
  jobs : List Job
  /-- The number of permits that nobody holds. -/
  free : Nat
  /-- The number of detail pages that the source has been asked for. -/
  asked : Nat := 0
  /-- The outcomes collected so far. -/
  outcomes : List Outcome := []

namespace Progress

/-- A batch before its first move. -/
def start (permits : Nat) (requests : List Request) : Progress where
  jobs := requests.map fun request => { request }
  free := permits

/-- The number of requests that hold a permit. -/
def inFlight (progress : Progress) : Nat :=
  progress.jobs.countP (·.phase.isRunning)

/-- The batch with another job in the place of one. -/
def setJob (progress : Progress) (i : Nat) (job : Job) : Progress :=
  { progress with jobs := progress.jobs.set i job }

end Progress

/-- A move in a batch, with the number of the request that moves. -/
inductive Move where
  /-- A waiting request takes a permit. -/
  | take (i : Nat)
  /-- A request asks the source for a page. -/
  | ask (i : Nat)
  /-- A request has its result, and gives its permit back. -/
  | finish (i : Nat)
  /-- The next outcome is collected. -/
  | collect
  deriving DecidableEq

/-- The request that takes a permit by a move. -/
def Move.taken? : Move → Option Nat
  | .take i => some i
  | _ => none

/-- What a move does to a batch, where it is possible. -/
inductive Step (settings : Settings) (source : Source) : Progress → Move → Progress → Prop
  | take {progress : Progress} {i : Nat} {request : Request}
      (hjob : progress.jobs[i]? = some ⟨request, .waiting⟩) (hfree : 0 < progress.free) :
      Step settings source progress (.take i)
        { progress.setJob i ⟨request, .running (Compilation.inquiry settings request)⟩ with
          free := progress.free - 1 }
  | ask {progress : Progress} {i : Nat} {request : Request} {question : Question}
      {next : Answer → Inquiry (Except CompilationFault Compilation)}
      (hjob : progress.jobs[i]? = some ⟨request, .running (.ask question next)⟩) :
      Step settings source progress (.ask i)
        { progress.setJob i ⟨request, .running (next (source.answer question))⟩ with
          asked := progress.asked + question.details }
  | finish {progress : Progress} {i : Nat} {request : Request}
      {result : Except CompilationFault Compilation}
      (hjob : progress.jobs[i]? = some ⟨request, .running (.done result)⟩) :
      Step settings source progress (.finish i)
        { progress.setJob i ⟨request, .finished result⟩ with free := progress.free + 1 }
  | collect {progress : Progress} {request : Request}
      {result : Except CompilationFault Compilation}
      (hjob : progress.jobs[progress.outcomes.length]? = some ⟨request, .finished result⟩) :
      Step settings source progress .collect
        { progress with outcomes := progress.outcomes ++ [⟨request, result⟩] }

/-- Whether some moves lead to a batch under way, one after the other from its start. -/
inductive Schedule (settings : Settings) (source : Source) (requests : List Request) :
    List Move → Progress → Prop
  | start {permits : Nat} (hpermits : permits? settings = some permits) :
      Schedule settings source requests [] (.start permits requests)
  | move {moves : List Move} {before after : Progress} {move : Move}
      (hmoves : Schedule settings source requests moves before)
      (hmove : Step settings source before move after) :
      Schedule settings source requests (moves ++ [move]) after

end EdiSchema.Batch
