import Mathlib.Algebra.GroupWithZero.Nat
import Mathlib.Data.List.Count
import Mathlib.Data.List.Induction
import EdiSchema.Batch.Accounting
import EdiSchema.CommandLine.Execution
import EdiSchema.Proofs.Storage.Saved

/-!
# The counts of a batch and its exit code

Between two deliveries the counts say what has become of the requests delivered so far, and take the
others for delivered if they were compiled. So there is a success to take away whenever a compiled
request turns out not to be saved, and at the end the counts are those of the deliveries.
-/

namespace EdiSchema

namespace Delivery

variable (delivery : Delivery)

/-- A request that is lost was compiled, but not everything of it is saved. -/
theorem success_of_isLost (hlost : delivery.isLost = true) :
    delivery.outcome.isSuccess = true ∧ delivery.isComplete = false := by
  obtain ⟨hsuccess, hfault⟩ := Bool.and_eq_true_iff.1 hlost
  rw [isComplete, hsuccess, Option.isNone_eq_false_iff.2 hfault]
  exact ⟨rfl, rfl⟩

/-- Apart from those that are lost, the requests that were compiled have everything saved. -/
theorem isComplete_of_not_isLost (hlost : ¬delivery.isLost = true) :
    delivery.isComplete = delivery.outcome.isSuccess := by
  rw [isComplete]
  cases hsuccess : delivery.outcome.isSuccess with
  | false => rfl
  | true =>
    rw [isLost, hsuccess, Bool.true_and, Bool.not_eq_true, Option.isSome_eq_false_iff] at hlost
    exact hlost

end Delivery

namespace Summary

/-- An outcome is counted as a success or a failure. -/
theorem add_eq (summary : Summary) (outcome : Outcome) :
    summary.add outcome = {
      succeeded := summary.succeeded + if outcome.isSuccess then 1 else 0
      failed := summary.failed + if outcome.isSuccess then 0 else 1
      skipped := summary.skipped + outcome.skipped } := by
  rw [add, Outcome.isSuccess, Outcome.skipped]
  cases outcome.result with
  | ok compiled => rfl
  | error fault => rfl

/-- The counts over a list of outcomes. -/
theorem ofOutcomes_eq (outcomes : List Outcome) :
    ofOutcomes outcomes = {
      succeeded := outcomes.countP (·.isSuccess)
      failed := outcomes.countP (!·.isSuccess)
      skipped := (outcomes.map Outcome.skipped).sum } := by
  induction outcomes using List.reverseRecOn with
  | nil => rfl
  | append_singleton before outcome ih =>
    rw [ofOutcomes, List.foldl_append, ← ofOutcomes, ih, List.foldl_cons, List.foldl_nil, add_eq]
    cases hsuccess : outcome.isSuccess <;> simp [hsuccess]

/-- A delivery that is lost turns a success into a failure; the others have been counted. -/
theorem correct?_eq (summary : Summary) (delivery : Delivery) :
    summary.correct? delivery = if delivery.isLost then summary.demote? else some summary := by
  rw [correct?, Delivery.isLost, Outcome.isSuccess]
  cases delivery.outcome.result with
  | error reason => rfl
  | ok compiled =>
    cases delivery.fault with
    | none => rfl
    | some reason => rfl

/-- The counts when some deliveries have been made and others are to come. -/
def between (made rest : List Delivery) : Summary where
  succeeded := made.countP (·.isComplete) + rest.countP (·.outcome.isSuccess)
  failed := made.countP (!·.isComplete) + rest.countP (!·.outcome.isSuccess)
  skipped := ((made ++ rest).map (·.outcome.skipped)).sum

/-- Before the first delivery, the counts are those of the outcomes. -/
theorem between_nil (deliveries : List Delivery) :
    between [] deliveries = ofOutcomes (deliveries.map Delivery.outcome) := by
  rw [ofOutcomes_eq, between, List.countP_map, List.countP_map, List.map_map]
  simp [Function.comp_def]

/-- A delivery that is made corrects the counts, and finds a success where it takes one away. -/
theorem correct?_between (made rest : List Delivery) (delivery : Delivery) :
    (between made (delivery :: rest)).correct? delivery =
      some (between (made ++ [delivery]) rest) := by
  rw [correct?_eq]
  by_cases hlost : delivery.isLost = true
  · obtain ⟨hsuccess, hcomplete⟩ := delivery.success_of_isLost hlost
    rw [if_pos hlost, demote?, demote]
    simp [between, hsuccess, hcomplete]
    omega
  · have hcomplete := delivery.isComplete_of_not_isLost hlost
    rw [if_neg hlost]
    cases hsuccess : delivery.outcome.isSuccess with
    | true =>
      simp [between, hsuccess, hcomplete]
      omega
    | false =>
      simp [between, hsuccess, hcomplete]
      omega

/-- The deliveries that follow correct the counts one after the other. -/
theorem foldlM_correct?_between (made rest : List Delivery) :
    rest.foldlM correct? (between made rest) = some (between (made ++ rest) []) := by
  induction rest generalizing made with
  | nil => rw [List.append_nil, List.foldlM_nil]; rfl
  | cons delivery rest ih =>
    rw [List.foldlM_cons, correct?_between]
    have hrest := ih (made ++ [delivery])
    rw [List.append_assoc, List.singleton_append] at hrest
    exact hrest

/-- Where no correction stops the count, it comes to taking one success away for each delivery that
is lost. -/
theorem eq_foldl_demote_of_correct? {deliveries : List Delivery} {summary last : Summary}
    (h : deliveries.foldlM correct? summary = some last) :
    last = (deliveries.filter Delivery.isLost).foldl (fun summary _ => summary.demote) summary := by
  induction deliveries generalizing summary with
  | nil => exact (Option.some.inj h).symm
  | cons delivery rest ih =>
    rw [List.foldlM_cons, correct?_eq, demote?] at h
    by_cases hlost : delivery.isLost = true
    · rw [List.filter_cons_of_pos hlost, List.foldl_cons]
      rw [if_pos hlost] at h
      split at h
      · cases h
      · exact ih h
    · rw [List.filter_cons_of_neg hlost]
      rw [if_neg hlost] at h
      exact ih h

/-- The counts over deliveries are those that the last correction leaves. -/
theorem ofDeliveries_eq (deliveries : List Delivery) :
    ofDeliveries deliveries = between deliveries [] := by
  have hrun := foldlM_correct?_between [] deliveries
  rw [between_nil] at hrun
  exact (eq_foldl_demote_of_correct? hrun).symm

end Summary

/-- Work of which only the fault is looked at, reported in another way. -/
theorem Disk.Work.run_discard {ε δ α : Type} (f : ε → δ) {work : Disk.Work ε α} {disk next : Disk}
    {result : Except ε α} (hwork : work.run.run disk = (result, next)) :
    (discard (ExceptT.adapt f work) : Disk.Work δ Unit).run.run disk =
      ((result.mapError f).map fun _ => (), next) := by
  have hadapt : (ExceptT.adapt f work : Disk.Work δ α).run.run disk = (result.mapError f, next) := by
    change ((work.run.run disk).1.mapError f, (work.run.run disk).2) = _
    rw [hwork]
  change ((ExceptT.adapt f work : Disk.Work δ α) >>= fun _ => pure ()).run.run disk = _
  cases result with
  | error fault => exact run_bind_of_error hadapt
  | ok a => exact run_bind_of_ok hadapt

variable (destination : Destination)

/-- The fault that saving ended in, if there was one. -/
def SaveFault.of? : Except SaveFault Unit → Option SaveFault
  | .ok () => none
  | .error fault => some fault

/-- What is delivered of a compiled request depends on how it is saved. -/
theorem Delivery.run_ofOutcome {outcome : Outcome} {compiled : Compilation} {disk next : Disk}
    {result : Except SaveFault Unit} (hresult : outcome.result = .ok compiled)
    (hsave : (compiled.save destination).run.run disk = (result, next)) :
    (ofOutcome destination outcome).run disk =
      (⟨outcome, SaveFault.of? result⟩, next) := by
  rw [ofOutcome, hresult]
  change ((compiled.save destination).run >>= _).run disk = _
  rw [StateT.run_bind, hsave]
  cases result with
  | ok _ => rfl
  | error fault => rfl

/-- An outcome is delivered as it can be saved. -/
theorem Delivery.exists_saves (disk : Disk) (outcome : Outcome) :
    ∃ fault next, outcome.Saves destination disk fault next ∧
      (ofOutcome destination outcome).run disk = (⟨outcome, fault⟩, next) := by
  cases hresult : outcome.result with
  | error fault =>
    refine ⟨none, disk, .uncompiled hresult, ?_⟩
    rw [ofOutcome, hresult]
    rfl
  | ok compiled =>
    rcases hwrite : (compiled.descriptor.save destination.workFolder).run.run disk with
      ⟨fault | written, between⟩
    · have hsave : (compiled.save destination).run.run disk =
          (.error (.descriptor fault), between) :=
        Disk.Work.run_bind_of_error (Disk.Work.run_discard _ hwrite)
      exact ⟨_, between, .unwritten hresult hwrite, run_ofOutcome destination hresult hsave⟩
    · cases hfolder : destination.structureFolder with
      | none =>
        have hsave : (compiled.save destination).run.run disk = (.ok (), between) := by
          rw [Compilation.save, hfolder]
          exact Disk.Work.run_bind_of_ok (Disk.Work.run_discard _ hwrite)
        exact ⟨_, between, .written hresult hwrite hfolder, run_ofOutcome destination hresult hsave⟩
      | some folder =>
        have hnext : (compiled.save destination).run.run disk =
            (discard (ExceptT.adapt .structure (compiled.message.save folder)) :
              Disk.Work SaveFault Unit).run.run between := by
          rw [Compilation.save, hfolder]
          exact Disk.Work.run_bind_of_ok (Disk.Work.run_discard _ hwrite)
        rcases hstructure : (compiled.message.save folder).run.run between with
          ⟨fault | path, next⟩
        · have hsave := hnext.trans (Disk.Work.run_discard _ hstructure)
          exact ⟨_, next, .unsaved hresult hwrite hfolder hstructure,
            run_ofOutcome destination hresult hsave⟩
        · have hsave := hnext.trans (Disk.Work.run_discard _ hstructure)
          exact ⟨_, next, .saved hresult hwrite hfolder hstructure,
            run_ofOutcome destination hresult hsave⟩

/-- A request is complete if it was compiled, its descriptor is saved, and its structure too if
structures are wanted. -/
theorem Outcome.Saves.isComplete_iff {destination : Destination} {disk next : Disk}
    {outcome : Outcome} {fault : Option SaveFault}
    (h : outcome.Saves destination disk fault next) :
    (Delivery.mk outcome fault).isComplete = true ↔
      ∃ compiled written between, outcome.result = .ok compiled ∧
        (compiled.descriptor.save destination.workFolder).run.run disk = (.ok written, between) ∧
        ∀ folder, destination.structureFolder = some folder →
          ∃ path, (compiled.message.save folder).run.run between = (.ok path, next) := by
  constructor
  · intro hcomplete
    obtain ⟨hsuccess, hfault⟩ := Bool.and_eq_true_iff.1 hcomplete
    cases h with
    | uncompiled hresult =>
      rw [isSuccess, hresult] at hsuccess
      cases hsuccess
    | unwritten hresult hwrite => cases hfault
    | written hresult hwrite hfolder =>
      refine ⟨_, _, next, hresult, hwrite, fun folder hsome => ?_⟩
      rw [hfolder] at hsome
      cases hsome
    | unsaved hresult hwrite hfolder hsave => cases hfault
    | saved hresult hwrite hfolder hsave =>
      refine ⟨_, _, _, hresult, hwrite, fun folder hsome => ?_⟩
      rw [hfolder] at hsome
      cases hsome
      exact ⟨_, hsave⟩
  · intro ⟨compiled, files, between, hresult, hwrite, hstructure⟩
    have hsuccess : outcome.isSuccess = true := by
      rw [isSuccess, hresult]
      rfl
    rw [Delivery.isComplete, hsuccess, Bool.true_and]
    cases h with
    | uncompiled hresult' => rfl
    | unwritten hresult' hwrite' =>
      rw [hresult] at hresult'
      cases hresult'
      rw [hwrite] at hwrite'
      cases hwrite'
    | written hresult' hwrite' hfolder => rfl
    | unsaved hresult' hwrite' hfolder hsave =>
      rw [hresult] at hresult'
      cases hresult'
      rw [hwrite] at hwrite'
      cases hwrite'
      obtain ⟨path, hpath⟩ := hstructure _ hfolder
      rw [hpath] at hsave
      cases hsave
    | saved hresult' hwrite' hfolder hsave => rfl

namespace Batch

/-- The outcomes of a batch are delivered one after the other. -/
theorem exists_delivers (outcomes : List Outcome) (disk : Disk) :
    ∃ deliveries last, Delivers destination disk outcomes deliveries last ∧
      (deliver destination outcomes).run disk = (deliveries, last) := by
  induction outcomes generalizing disk with
  | nil => exact ⟨[], disk, .done disk, rfl⟩
  | cons outcome outcomes ih =>
    obtain ⟨fault, between, hfirst, hrun⟩ := Delivery.exists_saves destination disk outcome
    obtain ⟨deliveries, last, hrest, hothers⟩ := ih between
    refine ⟨⟨outcome, fault⟩ :: deliveries, last, .next hfirst hrest, ?_⟩
    rw [deliver] at hothers ⊢
    rw [List.mapM_cons, StateT.run_bind, hrun]
    change ((outcomes.mapM (Delivery.ofOutcome destination)) >>= _).run between = _
    rw [StateT.run_bind, hothers]
    rfl

/-- Each delivery saves an outcome, on the disk that those before it have left. -/
theorem Delivers.exists_saves_of_mem {destination : Destination} {disk last : Disk}
    {outcomes : List Outcome} {deliveries : List Delivery}
    (h : Delivers destination disk outcomes deliveries last) {delivery : Delivery}
    (hdelivery : delivery ∈ deliveries) :
    ∃ before after, delivery.outcome.Saves destination before delivery.fault after := by
  induction h with
  | done disk => cases hdelivery
  | next hfirst hrest ih =>
    rcases List.mem_cons.1 hdelivery with rfl | hother
    · exact ⟨_, _, hfirst⟩
    · exact ih hother

/-- There is one delivery for each outcome. -/
theorem Delivers.map_outcome {destination : Destination} {disk last : Disk}
    {outcomes : List Outcome} {deliveries : List Delivery}
    (h : Delivers destination disk outcomes deliveries last) :
    deliveries.map Delivery.outcome = outcomes := by
  induction h with
  | done disk => rfl
  | next hfirst hrest ih => rw [List.map_cons, ih]

end Batch

namespace CommandLine

/-- What the report on a batch says of its deliveries. -/
theorem reportOf_eq (deliveries : List Delivery) :
    reportOf deliveries = {
      code := if deliveries.countP (!·.isComplete) = 0 then 0 else 2
      output := "Run summary: succeeded=" ++ Text.decimal (deliveries.countP (·.isComplete))
        ++ ", failed=" ++ Text.decimal (deliveries.countP (!·.isComplete))
        ++ ", skipped=" ++ Text.decimal (deliveries.map (·.outcome.skipped)).sum ++ "\n"
      complaints := deliveries.filterMap Delivery.complaint? } := by
  rw [reportOf, Summary.ofDeliveries_eq, Summary.between, List.append_nil]
  simp only [List.countP_nil, Nat.add_zero, Nat.pos_iff_ne_zero, ite_not]

/-- A batch is run by compiling all its documents, and then delivering the outcomes. -/
theorem execute_run {settings : Settings} {origin : Origin} {documents : List String}
    {workFolder : String} {saveStructures : Bool} {disk last : Disk} {deliveries : List Delivery}
    (hdeliver : (Batch.deliver ⟨workFolder, if saveStructures then some settings.outputDir else none⟩
      (Batch.run settings (Source.ofFolder disk origin.folder)
        (documents.map origin.request))).run disk = (deliveries, last)) :
    ((Command.run origin documents workFolder saveStructures).execute settings).run.run disk =
      (.ok (reportOf deliveries), last) := by
  have hbatch : (runBatch settings origin documents workFolder saveStructures).run disk =
      (reportOf deliveries, last) := by
    rw [runBatch, StateT.run_bind, StateT.run_get, pure_bind, StateT.run_bind, hdeliver]
    rfl
  rw [Command.execute]
  change (Except.ok <$> (runBatch settings origin documents workFolder saveStructures)).run disk = _
  rw [StateT.run_map, hbatch]
  rfl

/-- However the requests of a batch end, and whatever of them cannot be saved, the counts over the
outcomes can be corrected delivery by delivery, and never is a success taken away where none is
left. The report gives the number of requests that were compiled with everything saved, that of all
others, and how much was left out in those that were compiled; its code is 0 if none has failed, and
2 otherwise. This is the report of a batch that is run, with a delivery for each document. A delivery
is complete exactly if its request was compiled, the descriptor could be saved on the disk as it was
then, and so could the structure if structures are saved. -/
theorem run_accounts :
    (∀ deliveries : List Delivery,
      let succeeded := deliveries.countP (·.isComplete)
      let failed := deliveries.countP (!·.isComplete)
      let skipped := (deliveries.map (·.outcome.skipped)).sum
      deliveries.foldlM Summary.correct? (Summary.ofOutcomes (deliveries.map Delivery.outcome)) =
          some ⟨succeeded, failed, skipped⟩ ∧
        succeeded + failed = deliveries.length ∧
        (reportOf deliveries).output =
          "Run summary: succeeded=" ++ Text.decimal succeeded ++ ", failed=" ++ Text.decimal failed
            ++ ", skipped=" ++ Text.decimal skipped ++ "\n" ∧
        (reportOf deliveries).code = if failed = 0 then 0 else 2) ∧
    ∀ (settings : Settings) (origin : Origin) (documents : List String) (workFolder : String)
      (saveStructures : Bool) (disk : Disk),
      let source := Source.ofFolder disk origin.folder
      let folder := if saveStructures then some settings.outputDir else none
      let command := Command.run origin documents workFolder saveStructures
      ∃ deliveries last,
        Batch.Delivers ⟨workFolder, folder⟩ disk
          (Batch.run settings source (documents.map origin.request)) deliveries last ∧
        (command.execute settings).run.run disk = (.ok (reportOf deliveries), last) ∧
        deliveries.length = documents.length ∧
        ∀ delivery ∈ deliveries, ∃ before after,
          delivery.outcome.Saves ⟨workFolder, folder⟩ before delivery.fault after ∧
          (delivery.isComplete = true ↔ ∃ compiled written between,
            delivery.outcome.result = .ok compiled ∧
            (compiled.descriptor.save workFolder).run.run before = (.ok written, between) ∧
            ∀ place, folder = some place →
              ∃ path, (compiled.message.save place).run.run between = (.ok path, after)) := by
  constructor
  · intro deliveries succeeded failed skipped
    have hcorrected := Summary.foldlM_correct?_between [] deliveries
    rw [Summary.between_nil, List.nil_append, Summary.between, List.append_nil] at hcorrected
    have htotal : deliveries.length = succeeded + failed := by
      rw [List.length_eq_countP_add_countP Delivery.isComplete]
      simp only [Bool.not_eq_true, Bool.decide_eq_false, succeeded, failed]
    refine ⟨hcorrected, htotal.symm, ?_, ?_⟩
    · rw [reportOf_eq]
    · rw [reportOf_eq]
  · intro settings origin documents workFolder saveStructures disk source folder command
    let outcomes := Batch.run settings source (documents.map origin.request)
    obtain ⟨deliveries, last, hdelivers, hrun⟩ :=
      Batch.exists_delivers ⟨workFolder, folder⟩ outcomes disk
    refine ⟨deliveries, last, hdelivers, ?_, ?_, fun delivery hdelivery => ?_⟩
    · exact execute_run hrun
    · rw [← List.length_map (f := Delivery.outcome), hdelivers.map_outcome]
      simp only [outcomes, Batch.run, List.length_map]
    · obtain ⟨before, after, hsaves⟩ := hdelivers.exists_saves_of_mem hdelivery
      exact ⟨before, after, hsaves, hsaves.isComplete_iff⟩

end CommandLine

end EdiSchema
