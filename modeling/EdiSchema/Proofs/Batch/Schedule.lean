import Mathlib.Algebra.BigOperators.Group.List.Basic
import Mathlib.Data.List.Range
import EdiSchema.Batch.Schedule
import EdiSchema.Proofs.Batch.Inquiry

/-!
# Batches under any schedule

However the requests of a batch are scheduled, each of them runs once, no more of them hold a
permit than there are permits, and the outcomes are collected in the order of the requests with the
results that the requests have alone. A batch with an outcome still to come can always move, and no
schedule goes on for ever, so every batch that starts comes to its end; it starts if its permits can
be given out.

What a move does is said once: it brings one request forward and leaves the others as they are, or
it collects an outcome. What is left of a request then carries every invariant, since a move may
shorten it but does not change its result.
-/

namespace EdiSchema.Batch

namespace Job

variable (settings : Settings) (source : Source)

/-- What is left to do for a request. -/
def rest (job : Job) : Inquiry (Except CompilationFault Compilation) :=
  match job.phase with
  | .waiting => Compilation.inquiry settings job.request
  | .running rest => rest
  | .finished result => .done result

/-- The number of detail pages that are still to be asked for. -/
def pending (job : Job) : ℕ :=
  (((job.rest settings).questions source).map Question.details).sum

/-- The number of permits that a request holds. -/
def permit (job : Job) : ℕ :=
  if job.phase.isRunning then 1 else 0

/-- The number of moves that a request has still to make before its outcome can be collected. -/
def remaining (job : Job) : ℕ :=
  ((job.rest settings).questions source).length +
    match job.phase with
    | .waiting => 2
    | .running _ => 1
    | .finished _ => 0

end Job

/-- The number of moves that a request makes until its outcome is collected: it takes a permit, asks
for its pages and gives the permit back. -/
def movesOf (settings : Settings) (source : Source) (request : Request) : ℕ :=
  ((Compilation.inquiry settings request).questions source).length + 3

/-- How a move brings one request forward; the result of what is left of it stays the same. -/
structure Advances (settings : Settings) (source : Source) (before after : Progress) (move : Move)
    (i : ℕ) (job next : Job) : Prop where
  place : before.jobs[i]? = some job
  jobs : after.jobs = before.jobs.set i next
  outcomes : after.outcomes = before.outcomes
  unfinished : job.phase.result? = none
  request : next.request = job.request
  result : (next.rest settings).result source = (job.rest settings).result source
  permit : next.permit + after.free = job.permit + before.free
  asked : after.asked + next.pending settings source = before.asked + job.pending settings source
  remaining : next.remaining settings source + 1 = job.remaining settings source
  started : next.phase ≠ .waiting
  taken : (job.phase = .waiting ∧ move.taken? = some i) ∨
    (job.phase ≠ .waiting ∧ move.taken? = none)

section Moves

variable {settings : Settings} {source : Source} {before after : Progress} {move : Move}

/-- A move brings one request forward, or collects the outcome of the next one. -/
theorem Step.advances_or_collects (hmove : Step settings source before move after) :
    (∃ i job next, Advances settings source before after move i job next) ∨
      ∃ request result,
        before.jobs[before.outcomes.length]? = some ⟨request, .finished result⟩ ∧
        after = { before with outcomes := before.outcomes ++ [⟨request, result⟩] } ∧
        move.taken? = none := by
  cases hmove with
  | @take i request hjob hfree =>
    have hrest : (⟨request, .running (Compilation.inquiry settings request)⟩ : Job).rest settings =
        (⟨request, .waiting⟩ : Job).rest settings := rfl
    refine .inl ⟨i, ⟨request, .waiting⟩, ⟨request, .running (Compilation.inquiry settings request)⟩, {
      place := hjob
      jobs := rfl
      outcomes := rfl
      unfinished := rfl
      request := rfl
      result := by rw [hrest]
      permit := by
        simp only [Job.permit, Phase.isRunning, if_true, Bool.false_eq_true, if_false]
        omega
      asked := by rw [Job.pending, hrest, Job.pending, Progress.setJob]
      remaining := by simp only [Job.remaining, hrest]
      started := by simp
      taken := .inl ⟨rfl, rfl⟩ }⟩
  | @ask i request question next hjob =>
    refine .inl ⟨i, ⟨request, .running (.ask question next)⟩,
      ⟨request, .running (next (source.answer question))⟩, {
      place := hjob
      jobs := rfl
      outcomes := rfl
      unfinished := rfl
      request := rfl
      result := rfl
      permit := rfl
      asked := by
        simp only [Job.pending, Job.rest, Inquiry.questions, List.map_cons, List.sum_cons]
        omega
      remaining := by
        simp only [Job.remaining, Job.rest, Inquiry.questions, List.length_cons]
      started := by simp
      taken := .inr ⟨by simp, rfl⟩ }⟩
  | @finish i request result hjob =>
    refine .inl ⟨i, ⟨request, .running (.done result)⟩, ⟨request, .finished result⟩, {
      place := hjob
      jobs := rfl
      outcomes := rfl
      unfinished := rfl
      request := rfl
      result := rfl
      permit := by
        simp only [Job.permit, Phase.isRunning, if_true, Bool.false_eq_true, if_false]
        omega
      asked := rfl
      remaining := rfl
      started := by simp
      taken := .inr ⟨by simp, rfl⟩ }⟩
  | @collect request result hjob => exact .inr ⟨request, result, hjob, rfl, rfl⟩

end Moves

/-- A sum over requests changes by the part of the one that is replaced. -/
theorem sum_map_set {jobs : List Job} {i : ℕ} {job : Job} (weight : Job → ℕ) (next : Job)
    (hjob : jobs[i]? = some job) :
    ((jobs.set i next).map weight).sum + weight job = (jobs.map weight).sum + weight next := by
  induction jobs generalizing i with
  | nil => simp at hjob
  | cons first others ih =>
    cases i with
    | zero =>
      obtain rfl : first = job := by simpa using hjob
      simp only [List.set_cons_zero, List.map_cons, List.sum_cons]
      omega
    | succ i =>
      have hothers := ih (i := i) (by simpa using hjob)
      simp only [List.set_cons_succ, List.map_cons, List.sum_cons]
      omega

theorem Progress.inFlight_eq_sum (progress : Progress) :
    progress.inFlight = (progress.jobs.map Job.permit).sum := by
  rw [inFlight]
  induction progress.jobs with
  | nil => rfl
  | cons job others ih =>
    rw [List.countP_cons, ih, List.map_cons, List.sum_cons, Job.permit, Nat.add_comm]

/-- A batch has as many permits as the settings allow, at least one, if these can be given out. -/
theorem permits?_eq_some_iff {settings : Settings} {permits : ℕ} :
    permits? settings = some permits ↔
      permits = max 1 settings.maxConcurrency ∧ max 1 settings.maxConcurrency ≤ maxPermits := by
  rw [permits?, Nat.max_comm]
  split
  · next hle => rw [Option.some.injEq, eq_comm, and_iff_left hle]
  · next hnle => simp only [reduceCtorEq, hnle, and_false]

/-- What is true of a batch after some moves. -/
structure Sound (settings : Settings) (source : Source) (requests : List Request)
    (moves : List Move) (progress : Progress) : Prop where
  jobs : progress.jobs.map Job.request = requests
  permits : permits? settings = some (progress.inFlight + progress.free)
  results : ∀ job ∈ progress.jobs,
    (job.rest settings).result source = Compilation.run settings source job.request
  asked : progress.asked + (progress.jobs.map (Job.pending settings source)).sum =
    (requests.map fun request => (Compilation.asked settings source request).length).sum
  length : moves.length + (progress.jobs.map (Job.remaining settings source)).sum =
    progress.outcomes.length +
      (requests.map fun request => Job.remaining settings source { request }).sum
  collected : ∀ (i : ℕ) (outcome : Outcome), progress.outcomes[i]? = some outcome →
    progress.jobs[i]? = some ⟨outcome.request, .finished outcome.result⟩
  once : (moves.filterMap Move.taken?).Nodup
  taken : ∀ i, i ∈ moves.filterMap Move.taken? ↔
    ∃ job, progress.jobs[i]? = some job ∧ job.phase ≠ .waiting

namespace Sound

variable {settings : Settings} {source : Source} {requests : List Request} {moves : List Move}
  {progress : Progress}

/-- A batch that starts is sound. -/
theorem start {permits : ℕ} (hpermits : permits? settings = some permits) :
    Sound settings source requests [] (.start permits requests) where
  jobs := by simp [Progress.start, Function.comp_def]
  permits := by
    have hjobs : (Progress.start permits requests).inFlight = 0 := by
      simp [Progress.inFlight, Progress.start, Phase.isRunning]
    rw [hjobs, Nat.zero_add]
    exact hpermits
  results := by
    intro job hjob
    obtain ⟨request, -, rfl⟩ := List.mem_map.1 hjob
    exact Compilation.result_inquiry source settings request
  asked := by
    simp only [Progress.start, List.map_map, Function.comp_def, Job.pending, Job.rest,
      Compilation.sum_details_inquiry, Nat.zero_add]
  length := by
    simp only [Progress.start, List.map_map, Function.comp_def, List.length_nil]
  collected := by simp [Progress.start]
  once := List.nodup_nil
  taken := by
    intro i
    simp only [List.filterMap_nil, List.not_mem_nil, false_iff]
    intro ⟨job, hjob, hphase⟩
    obtain ⟨request, -, rfl⟩ := List.mem_map.1 (List.mem_of_getElem? hjob)
    exact hphase rfl

/-- A request that is brought forward leaves a batch sound. -/
theorem advance {after : Progress} {move : Move} {i : ℕ} {job next : Job}
    (h : Sound settings source requests moves progress)
    (hmove : Advances settings source progress after move i job next) :
    Sound settings source requests (moves ++ [move]) after where
  jobs := by
    rw [hmove.jobs, List.map_set, hmove.request, ← h.jobs]
    apply List.ext_getElem?
    intro j
    rw [List.getElem?_set]
    split
    · next hij =>
      subst hij
      have hlength := (List.getElem?_eq_some_iff.1 hmove.place).1
      rw [List.getElem?_map, hmove.place, List.length_map, if_pos hlength, Option.map_some]
    · rfl
  permits := by
    have hsum := sum_map_set Job.permit next hmove.place
    have hpermit := hmove.permit
    rw [h.permits, Progress.inFlight_eq_sum, Progress.inFlight_eq_sum, hmove.jobs]
    congr 1
    omega
  results := by
    intro other hother
    rw [hmove.jobs] at hother
    rcases List.mem_or_eq_of_mem_set hother with hother | rfl
    · exact h.results other hother
    · rw [hmove.result, hmove.request]
      exact h.results job (List.mem_of_getElem? hmove.place)
  asked := by
    have hsum := sum_map_set (Job.pending settings source) next hmove.place
    have hasked := h.asked
    have hpending := hmove.asked
    rw [hmove.jobs]
    omega
  length := by
    have hsum := sum_map_set (Job.remaining settings source) next hmove.place
    have hlength := h.length
    have hremaining := hmove.remaining
    rw [hmove.jobs, hmove.outcomes, List.length_append, List.length_singleton]
    omega
  collected := by
    intro j outcome houtcome
    rw [hmove.outcomes] at houtcome
    have hfinished := h.collected j outcome houtcome
    have hne : i ≠ j := by
      intro hij
      subst hij
      have hjob := Option.some.inj (hmove.place.symm.trans hfinished)
      have hunfinished := hmove.unfinished
      rw [hjob] at hunfinished
      cases hunfinished
    rw [hmove.jobs, List.getElem?_set_ne hne]
    exact hfinished
  once := by
    rw [List.filterMap_append]
    rcases hmove.taken with ⟨hwaiting, htaken⟩ | ⟨-, htaken⟩
    · have hnew : i ∉ moves.filterMap Move.taken? := by
        intro hmem
        obtain ⟨other, hother, hphase⟩ := (h.taken i).1 hmem
        obtain rfl := Option.some.inj (hmove.place.symm.trans hother)
        exact hphase hwaiting
      rw [List.filterMap_cons, htaken, List.filterMap_nil]
      exact List.nodup_append.2 ⟨h.once, List.pairwise_singleton _ i, by
        intro j hj k hk hjk
        rw [List.mem_singleton.1 hk] at hjk
        exact hnew (hjk ▸ hj)⟩
    · simpa [htaken] using h.once
  taken := by
    intro j
    have hlength := (List.getElem?_eq_some_iff.1 hmove.place).1
    have hbefore := h.taken j
    rw [List.filterMap_append, List.mem_append, hbefore, hmove.jobs]
    by_cases hij : i = j
    · subst hij
      simp only [List.getElem?_set_self hlength, Option.some.injEq, exists_eq_left', hmove.started,
        ne_eq, not_false_eq_true, iff_true]
      rcases hmove.taken with ⟨-, htaken⟩ | ⟨hstarted, -⟩
      · exact .inr (by simp [htaken])
      · exact .inl ⟨job, hmove.place, hstarted⟩
    · have hother : j ∉ [move].filterMap Move.taken? := by
        rcases hmove.taken with ⟨-, htaken⟩ | ⟨-, htaken⟩
        · simp [htaken, Ne.symm hij]
        · simp [htaken]
      rw [List.getElem?_set_ne hij, or_iff_left hother]

/-- An outcome that is collected leaves a batch sound. -/
theorem collect {move : Move} {request : Request} {result : Except CompilationFault Compilation}
    (h : Sound settings source requests moves progress)
    (hjob : progress.jobs[progress.outcomes.length]? = some ⟨request, .finished result⟩)
    (hmove : move.taken? = none) :
    Sound settings source requests (moves ++ [move])
      { progress with outcomes := progress.outcomes ++ [⟨request, result⟩] } where
  jobs := h.jobs
  permits := h.permits
  results := h.results
  asked := h.asked
  length := by
    have hlength := h.length
    simp only [List.length_append, List.length_singleton]
    omega
  collected := by
    intro i outcome houtcome
    rcases Nat.lt_trichotomy i progress.outcomes.length with hlt | rfl | hgt
    · rw [List.getElem?_append_left hlt] at houtcome
      exact h.collected i outcome houtcome
    · obtain rfl : (⟨request, result⟩ : Outcome) = outcome := by simpa using houtcome
      exact hjob
    · have hlong : (progress.outcomes ++ [(⟨request, result⟩ : Outcome)]).length ≤ i := by
        rw [List.length_append, List.length_singleton]
        omega
      rw [List.getElem?_eq_none hlong] at houtcome
      cases houtcome
  once := by simpa [hmove] using h.once
  taken := by simpa [hmove] using h.taken

/-- A move leaves a batch sound. -/
theorem step {after : Progress} {move : Move} (h : Sound settings source requests moves progress)
    (hmove : Step settings source progress move after) :
    Sound settings source requests (moves ++ [move]) after := by
  rcases hmove.advances_or_collects with ⟨i, job, next, hadvance⟩ | ⟨_, _, hjob, rfl, htaken⟩
  · exact h.advance hadvance
  · exact h.collect hjob htaken

end Sound

/-- A batch is sound after any schedule. -/
theorem Schedule.sound {settings : Settings} {source : Source} {requests : List Request}
    {moves : List Move} {progress : Progress}
    (h : Schedule settings source requests moves progress) :
    Sound settings source requests moves progress := by
  induction h with
  | start hpermits => exact .start hpermits
  | move _ hmove ih => exact ih.step hmove

namespace Sound

variable {settings : Settings} {source : Source} {requests : List Request} {moves : List Move}
  {progress : Progress}

theorem length_jobs (h : Sound settings source requests moves progress) :
    progress.jobs.length = requests.length := by
  rw [← h.jobs, List.length_map]

/-- A collected outcome is that of the request in its place, with the result it has alone. -/
theorem run_getElem? (h : Sound settings source requests moves progress) {i : ℕ}
    {outcome : Outcome} (houtcome : progress.outcomes[i]? = some outcome) :
    (run settings source requests)[i]? = some outcome := by
  have hjob := h.collected i outcome houtcome
  have hresult : outcome.result = Compilation.run settings source outcome.request :=
    h.results _ (List.mem_of_getElem? hjob)
  rw [run, ← h.jobs, List.map_map, List.getElem?_map, hjob, Option.map_some, Function.comp_apply,
    ← hresult]

/-- The outcomes collected so far are the first ones of the batch. -/
theorem outcomes_prefix (h : Sound settings source requests moves progress) :
    progress.outcomes <+: run settings source requests := by
  apply List.prefix_iff_getElem?.2
  intro i hi
  exact h.run_getElem? (List.getElem?_eq_getElem hi)

theorem length_outcomes_le (h : Sound settings source requests moves progress) :
    progress.outcomes.length ≤ requests.length := by
  have hle := h.outcomes_prefix.length_le
  rwa [run, List.length_map] at hle

/-- A request without a result is one whose outcome is still to come. -/
theorem length_outcomes_lt (h : Sound settings source requests moves progress) {job : Job}
    (hjob : job ∈ progress.jobs) (hphase : job.phase.result? = none) :
    progress.outcomes.length < requests.length := by
  obtain ⟨i, hi⟩ := List.mem_iff_getElem?.1 hjob
  have hlength : i < progress.jobs.length := (List.getElem?_eq_some_iff.1 hi).1
  rw [h.length_jobs] at hlength
  by_contra hle
  have hcollected := h.collected i _ (List.getElem?_eq_getElem (by omega))
  rw [hi, Option.some.injEq] at hcollected
  rw [hcollected] at hphase
  cases hphase

/-- A request that holds a permit can move. -/
theorem exists_step_of_running {i : ℕ} {request : Request}
    {rest : Inquiry (Except CompilationFault Compilation)}
    (hjob : progress.jobs[i]? = some ⟨request, .running rest⟩) :
    ∃ move next, Step settings source progress move next := by
  cases rest with
  | done result => exact ⟨_, _, .finish hjob⟩
  | ask question next => exact ⟨_, _, .ask hjob⟩

/-- A batch with an outcome still to come can move. -/
theorem exists_step (h : Sound settings source requests moves progress)
    (hlt : progress.outcomes.length < requests.length) :
    ∃ move next, Step settings source progress move next := by
  rw [← h.length_jobs] at hlt
  -- If the request whose outcome comes next cannot take a permit, then another one holds it.
  rcases hjob : progress.jobs[progress.outcomes.length] with ⟨request, phase⟩
  have hplace := (List.getElem?_eq_getElem hlt).trans (congrArg some hjob)
  cases phase with
  | running rest => exact exists_step_of_running hplace
  | finished result => exact ⟨_, _, .collect hplace⟩
  | waiting =>
    by_cases hfree : 0 < progress.free
    · exact ⟨_, _, .take hplace hfree⟩
    · have hpermits := (permits?_eq_some_iff.1 h.permits).1
      have hflight : 0 < progress.inFlight := by omega
      obtain ⟨⟨other, phase⟩, hother, hrunning⟩ := List.countP_pos_iff.1 hflight
      obtain ⟨i, hi⟩ := List.mem_iff_getElem?.1 hother
      cases phase with
      | running rest => exact exists_step_of_running hi
      | waiting => cases hrunning
      | finished result => cases hrunning

/-- No schedule makes more moves than its requests have to make. -/
theorem length_moves_le (h : Sound settings source requests moves progress) :
    moves.length ≤ (requests.map (movesOf settings source)).sum := by
  have hlength := h.length
  have houtcomes := h.length_outcomes_le
  have hsum : (requests.map (movesOf settings source)).sum =
      (requests.map fun request => Job.remaining settings source { request }).sum +
        requests.length := by
    change (requests.map fun request => Job.remaining settings source { request } + 1).sum = _
    rw [List.sum_map_add, List.map_const', List.sum_replicate, Nat.nsmul_eq_mul, Nat.mul_one]
  omega

/-- The outcomes of a batch that cannot move are complete. -/
theorem outcomes_eq (h : Sound settings source requests moves progress)
    (hend : ∀ move next, ¬ Step settings source progress move next) :
    progress.outcomes = run settings source requests := by
  apply h.outcomes_prefix.eq_of_length_le
  by_contra hlt
  rw [run, List.length_map, Nat.not_le] at hlt
  obtain ⟨move, next, hstep⟩ := h.exists_step hlt
  exact hend move next hstep

/-- Every request of a batch that cannot move is finished. -/
theorem exists_finished (h : Sound settings source requests moves progress)
    (hend : ∀ move next, ¬ Step settings source progress move next) {job : Job}
    (hjob : job ∈ progress.jobs) : ∃ result, job.phase = .finished result := by
  have hlength := congrArg List.length (h.outcomes_eq hend)
  rw [run, List.length_map] at hlength
  cases hphase : job.phase with
  | finished result => exact ⟨result, rfl⟩
  | waiting => exact absurd (h.length_outcomes_lt hjob (by rw [hphase]; rfl)) (by omega)
  | running rest => exact absurd (h.length_outcomes_lt hjob (by rw [hphase]; rfl)) (by omega)

/-- A batch that cannot move has asked for the pages that its requests ask for alone. -/
theorem asked_eq (h : Sound settings source requests moves progress)
    (hend : ∀ move next, ¬ Step settings source progress move next) :
    progress.asked =
      (requests.map fun request => (Compilation.asked settings source request).length).sum := by
  have hpending : (progress.jobs.map (Job.pending settings source)).sum = 0 := by
    apply List.sum_eq_zero
    intro n hn
    obtain ⟨job, hjob, rfl⟩ := List.mem_map.1 hn
    obtain ⟨result, hphase⟩ := h.exists_finished hend hjob
    rw [Job.pending, Job.rest, hphase]
    rfl
  have hasked := h.asked
  rwa [hpending, Nat.add_zero] at hasked

/-- In a batch that cannot move every request has taken a permit, and once. -/
theorem taken_perm (h : Sound settings source requests moves progress)
    (hend : ∀ move next, ¬ Step settings source progress move next) :
    (moves.filterMap Move.taken?).Perm (List.range requests.length) := by
  apply (List.perm_ext_iff_of_nodup h.once List.nodup_range).2
  intro i
  rw [h.taken i, List.mem_range, ← h.length_jobs]
  constructor
  · intro ⟨job, hjob, _⟩
    exact (List.getElem?_eq_some_iff.1 hjob).1
  · intro hi
    obtain ⟨result, hphase⟩ := h.exists_finished hend (List.getElem_mem hi)
    exact ⟨_, List.getElem?_eq_getElem hi, by rw [hphase]; simp⟩

end Sound

/-- A batch has schedules exactly if its permits can be given out. After any schedule of it no more
requests hold a permit than the settings allow, of which zero allows one; no request has run twice;
the schedule is no longer than the moves that its requests have to make; and the outcomes collected so
far are the first ones of those that the requests have alone, in their order. As long as a request is
unfinished, the batch can move. When it cannot, all outcomes are there, each request has run, and the
source has been asked for as many detail pages as it is by the requests one after the other. -/
theorem Schedule.orderly (settings : Settings) (source : Source) (requests : List Request) :
    ((∃ progress, Schedule settings source requests [] progress) ↔
      max 1 settings.maxConcurrency ≤ maxPermits) ∧
    ∀ moves progress, Schedule settings source requests moves progress →
      progress.inFlight ≤ max 1 settings.maxConcurrency ∧
      (moves.filterMap Move.taken?).Nodup ∧
      moves.length ≤ (requests.map (movesOf settings source)).sum ∧
      progress.outcomes <+:
        (requests.map fun request => ⟨request, Compilation.run settings source request⟩) ∧
      ((∃ job ∈ progress.jobs, job.phase.result? = none) →
        ∃ move next, Step settings source progress move next) ∧
      ((∀ move next, ¬ Step settings source progress move next) →
        progress.outcomes =
          requests.map (fun request => ⟨request, Compilation.run settings source request⟩) ∧
        (moves.filterMap Move.taken?).Perm (List.range requests.length) ∧
        progress.asked =
          (requests.map fun request => (Compilation.asked settings source request).length).sum) := by
  refine ⟨⟨?_, ?_⟩, ?_⟩
  · intro ⟨progress, hstart⟩
    exact (permits?_eq_some_iff.1 hstart.sound.permits).2
  · intro hle
    exact ⟨_, .start (permits?_eq_some_iff.2 ⟨rfl, hle⟩)⟩
  · intro moves progress hmoves
    have hsound := hmoves.sound
    refine ⟨?_, hsound.once, hsound.length_moves_le, hsound.outcomes_prefix, ?_, ?_⟩
    · have hpermits := (permits?_eq_some_iff.1 hsound.permits).1
      omega
    · intro ⟨job, hjob, hphase⟩
      exact hsound.exists_step (hsound.length_outcomes_lt hjob hphase)
    · intro hend
      exact ⟨hsound.outcomes_eq hend, hsound.taken_perm hend, hsound.asked_eq hend⟩

/-- With no permits allowed, a service segment is asked for before a request of an unknown standard
runs, and the outcomes are still those of the two requests in their order. -/
theorem Schedule.orderly_one_permit :
    let settings : Settings := { maxConcurrency := 0 }
    let source : Source := .ofPages [] []
    let unknown : Request := ⟨"none", "D97A", "BGM"⟩
    let service : Request := ⟨"edifact", "D97A", "bgm"⟩
    ∃ progress,
      Schedule settings source [unknown, service]
        [.take 1, .ask 1, .finish 1, .take 0, .finish 0, .collect, .collect] progress ∧
      progress.inFlight ≤ 1 ∧
      progress.outcomes = [⟨unknown, Compilation.run settings source unknown⟩,
        ⟨service, Compilation.run settings source service⟩] ∧
      progress.asked = 1 := by
  intro settings source unknown service
  have hunknown : Compilation.inquiry settings unknown = .done (.error (.dialect "none")) := by
    have hdialect : Dialect.ofName unknown.standard = .error "none" := by decide +kernel
    rw [Compilation.inquiry, hdialect]
  obtain ⟨result, hservice⟩ : ∃ result : Answer → Except CompilationFault Compilation,
      Compilation.inquiry settings service =
        .ask (.detail "D97A" "BGM") fun answer => .done (result answer) := by
    have hdialect : Dialect.ofName service.standard = .ok .edifact := by decide +kernel
    have hdocument : Extraction.isService service.document = true := by decide +kernel
    have htag : Text.upper service.document = "BGM" := by decide +kernel
    rw [Compilation.inquiry, hdialect]
    simp only [Extraction.inquiry, hdocument, if_true, Extraction.serviceInquiry, htag]
    exact ⟨_, rfl⟩
  have h₁ := @Schedule.move settings source [unknown, service] _ _ _ _ (.start rfl)
    (@Step.take _ _ _ 1 service rfl Nat.one_pos)
  rw [hservice] at h₁
  have h₂ := h₁.move (@Step.ask _ _ _ 1 service _ _ rfl)
  have h₃ := h₂.move (@Step.finish _ _ _ 1 service _ rfl)
  have h₄ := h₃.move (@Step.take _ _ _ 0 unknown rfl Nat.one_pos)
  rw [hunknown] at h₄
  have h₅ := h₄.move (@Step.finish _ _ _ 0 unknown _ rfl)
  have h₆ := h₅.move (@Step.collect _ _ _ unknown _ rfl)
  have h₇ := h₆.move (@Step.collect _ _ _ service _ rfl)
  obtain ⟨-, horderly⟩ := orderly settings source [unknown, service]
  obtain ⟨hflight, -, -, -, -, hcomplete⟩ := horderly _ _ h₇
  have hend := hcomplete <| by
    intro move next hstep
    cases hstep with
    | @take i _ hjob _ => rcases i with _ | _ | i <;> cases hjob
    | @ask i _ _ _ hjob => rcases i with _ | _ | i <;> cases hjob
    | @finish i _ _ hjob => rcases i with _ | _ | i <;> cases hjob
    | collect hjob => cases hjob
  exact ⟨_, h₇, hflight, hend.1, hend.2.2.trans (by decide +kernel)⟩

/-- Settings that pass their check may ask for more permits than there can be, and then no request is
ever run. -/
theorem Schedule.none_of_too_many_permits :
    let settings : Settings := { maxConcurrency := 2305843009213693952 }
    let request : Request := ⟨"edifact", "D97A", "bgm"⟩
    settings.check = .ok settings ∧
      ∀ moves progress, ¬ Schedule settings (.ofPages [] []) [request] moves progress := by
  intro settings request
  refine ⟨by decide +kernel, fun moves progress hmoves => ?_⟩
  have hpermits := hmoves.sound.permits
  have hnone : permits? settings = none := by decide +kernel
  rw [hnone] at hpermits
  cases hpermits

end EdiSchema.Batch
