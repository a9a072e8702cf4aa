import XCron.Agents.Ownership
import XCron.Agents.Validation

/-!
# What a verified job went through

A job is verified by the answer of a validator. The registry does not look at the status
of a job for which a validator is nominated, keeps the nominations of a job that it has
cleaned, and lets one nomination take the place of another; these are the ways in which a
job comes to be verified without a proof, or by an answer that was not about it.
-/

namespace XCron.Agents.Validation

open Platform

variable {chain : Chain} {start w next : World} {past : List Step} {move : Step}
  {jobId requestHash : Bytes}

/-! ## The history of a job -/

def Step.inits (jobId : Bytes) : Step → Bool
  | .initJob _ _ _ opened _ _ => opened = jobId
  | _ => false

def Step.proves (jobId : Bytes) : Step → Bool
  | .submitProof _ _ proved _ | .submitProofWithNft _ _ proved _ => proved = jobId
  | _ => false

def Step.requests (requestHash : Bytes) : Step → Bool
  | .validationRequest _ _ _ _ _ requested => requested = requestHash
  | _ => false

def Opened (jobId : Bytes) (past : List Step) : Prop :=
  ∃ opening ∈ past, opening.inits jobId = true

def Proved (jobId : Bytes) (past : List Step) : Prop :=
  Opened jobId past ∧ ∃ proof ∈ sinceLatest (Step.inits jobId) past, proof.proves jobId = true

/-- For a job that was proved, the owner of its agent nominated a validator that was then
on the whitelist. The job was not initialized again, nor was its nomination replaced. -/
inductive Nominated (chain : Chain) (start : World) (past : List Step) (jobId requestHash : Bytes)
    (validator : Address) : Prop where
  | intro {earlier later : List Step} {before : World} {registries : Registries}
      {call : CallContext} {requestUri : Bytes} {job : JobData}
      (split : past = earlier ++
        .validationRequest registries call jobId validator requestUri requestHash :: later)
      (reached : Trace (step chain) (fun _ _ => True) start earlier before)
      (proved : Proved jobId earlier)
      (found : before.jobData.get? jobId = some job)
      (owned : (before.identity registries).agents.getValue job.agentNonce = some call.caller)
      (whitelisted : validator ∈ before.whitelistedValidators.items)
      (standing : ∀ move ∈ later, move.inits jobId = false ∧ move.requests requestHash = false)

def Step.approves (requestHash : Bytes) (validator : Address) : Step → Prop
  | .validationResponse call answered response _ _ _ =>
      answered = requestHash ∧ call.caller = validator ∧ 70 ≤ response
  | _ => False

def World.verified (jobId : Bytes) (w : World) : Prop :=
  ∃ job, w.jobData.get? jobId = some job ∧ job.status = .verified

/-- What is asked of a step: it verifies no job but one that was proved and nominated, by
the answer of its validator, and it keeps every nomination for the job that it is for. -/
structure Justified (chain : Chain) (start : World) (past : List Step) (w : World) (move : Step)
    (next : World) : Prop where
  validated : ∀ jobId, ¬w.verified jobId → next.verified jobId → ∃ requestHash validator,
    move.approves requestHash validator ∧ Nominated chain start past jobId requestHash validator
  kept : ∀ requestHash request request', w.validationRequestData.get? requestHash = some request →
    next.validationRequestData.get? requestHash = some request' → request'.jobId = request.jobId

/-- Every step of a run is justified by the steps before it. -/
def JobsValidated (chain : Chain) (start : World) (steps : List Step) : Prop :=
  ∀ past move rest w next, steps = past ++ move :: rest →
    Trace (step chain) (fun _ _ => True) start past w → step chain w move = .ok next →
    Justified chain start past w move next

/-! ## When steps are justified -/

def World.requested (jobId : Bytes) (w : World) : Nat :=
  w.validationRequestData.total fun request => if request.jobId = jobId then 1 else 0

/-- A job is initialized only if no nomination for it is stored, and a validator is
nominated only for a job that is not new, under a hash that no other job has. -/
def Fair (w : World) : Step → Prop
  | .initJob _ _ _ jobId _ _ => w.requested jobId = 0
  | .validationRequest _ _ jobId _ _ requestHash =>
      (∀ job ∈ w.jobData.get? jobId, job.status ≠ .new) ∧
        ∀ request ∈ w.validationRequestData.get? requestHash, request.jobId = jobId
  | _ => True

instance (w : World) : (move : Step) → Decidable (Fair w move)
  | .initJob _ _ _ _ _ _ => inferInstanceAs (Decidable (_ = _))
  | .validationRequest _ _ _ _ _ _ => inferInstanceAs (Decidable (_ ∧ _))
  | .submitProof _ _ _ _ | .submitProofWithNft _ _ _ _ | .validationResponse _ _ _ _ _ _
  | .cleanOldJobs _ _ _ | .configure _ _ => isTrue trivial

/-! ## What a step does -/

structure Unsettled (w next : World) : Prop where
  jobs : ∀ jobId job, next.jobData.get? jobId = some job → w.jobData.get? jobId = some job
  requests : next.validationRequestData = w.validationRequestData

def Step.Quiet (move : Step) : Prop :=
  ∀ key, move.inits key = false ∧ move.requests key = false

/-- What a step does to the jobs and the nominations. -/
inductive Change (chain : Chain) (w : World) : Step → World → Prop where
  | opened {registries : Registries} {call : CallContext} {now : UInt64} {jobId : Bytes}
      {agentNonce : Nat} {serviceId : Option UInt32} {next : World} :
      next.jobData = w.jobData.set jobId ⟨.new, [], call.caller, now, agentNonce⟩ →
      next.validationRequestData = w.validationRequestData →
      Change chain w (.initJob registries call now jobId agentNonce serviceId) next
  | proved {move : Step} {jobId : Bytes} {job : JobData} {proof : Bytes} {next : World} :
      move.proves jobId = true → move.Quiet → w.jobData.get? jobId = some job →
      next.jobData = (w.prove jobId job proof).jobData →
      next.validationRequestData = w.validationRequestData → Change chain w move next
  | nominated {registries : Registries} {call : CallContext} {jobId : Bytes}
      {validatorAddress : Address} {requestUri requestHash : Bytes} {job : JobData} {next : World} :
      w.jobData.get? jobId = some job →
      (w.identity registries).agents.getValue job.agentNonce = some call.caller →
      validatorAddress ∈ w.whitelistedValidators.items →
      next.jobData = w.jobData.set jobId { job with status := .validationRequested } →
      next.validationRequestData = w.validationRequestData.set requestHash
        ⟨validatorAddress, job.agentNonce, jobId, 0, [], [], 0⟩ →
      Change chain w (.validationRequest registries call jobId validatorAddress requestUri
        requestHash) next
  | answered {call : CallContext} {requestHash : Bytes} {response : UInt8}
      {responseUri responseHash tag : Bytes} {data : ValidationRequestData} {next : World} :
      w.validationRequestData.get? requestHash = some data →
      call.caller = data.validatorAddress →
      (∀ jobId job, next.jobData.get? jobId = some job → w.jobData.get? jobId = some job ∨
        jobId = data.jobId ∧ ∃ old, w.jobData.get? jobId = some old ∧ job = scored response old) →
      next.validationRequestData = w.validationRequestData.set requestHash
        { data with
          response := response
          responseHash := responseHash
          tag := tag
          lastUpdate := call.blockTimestamp } →
      Change chain w (.validationResponse call requestHash response responseUri responseHash tag)
        next
  | unsettled {move : Step} {next : World} :
      move.Quiet → Unsettled w next → Change chain w move next

theorem payService_same {call : CallContext} {owner : Address} {price : Payment}
    (paid : payService call owner price w = .ok next) :
    next.jobData = w.jobData ∧ next.validationRequestData = w.validationRequestData := by
  simp only [payService, Outcome.bind_eq_ok] at paid
  obtain ⟨optional, _, paid⟩ := paid
  cases optional with
  | none =>
      simp only [Outcome.bind_eq_ok, Outcome.pure_eq_ok] at paid
      obtain ⟨_, _, rfl⟩ := paid
      exact ⟨rfl, rfl⟩
  | some payment =>
      simp only [Outcome.bind_eq_ok, Outcome.pure_eq_ok] at paid
      obtain ⟨_, _, _, _, rfl⟩ := paid
      split <;> exact ⟨rfl, rfl⟩

theorem initJob_change {registries : Registries} {call : CallContext} {now : UInt64}
    {agentNonce : Nat} {serviceId : Option UInt32}
    (stepped : step chain w (.initJob registries call now jobId agentNonce serviceId) = .ok next) :
    Change chain w (.initJob registries call now jobId agentNonce serviceId) next := by
  simp only [step, initJob, Outcome.bind_eq_ok] at stepped
  obtain ⟨_, _, _, _, stepped⟩ := stepped
  cases serviceId with
  | none =>
      simp only [Outcome.pure_eq_ok] at stepped
      subst stepped
      exact .opened rfl rfl
  | some id =>
      simp only [Outcome.bind_eq_ok] at stepped
      obtain ⟨owner, _, stepped⟩ := stepped
      split at stepped
      · obtain ⟨jobs, requests⟩ := payService_same stepped
        exact .opened jobs requests
      · simp only [Outcome.pure_eq_ok] at stepped
        subst stepped
        exact .opened rfl rfl

theorem validationRequest_change {registries : Registries} {call : CallContext}
    {validatorAddress : Address} {requestUri : Bytes}
    (stepped : step chain w (.validationRequest registries call jobId validatorAddress requestUri
      requestHash) = .ok next) :
    Change chain w (.validationRequest registries call jobId validatorAddress requestUri
      requestHash) next := by
  simp only [step, validationRequest, Outcome.bind_eq_ok, Outcome.pure_eq_ok, job_eq_ok,
    Outcome.load_eq_ok, Outcome.require_eq_ok] at stepped
  obtain ⟨_, _, _, _, job, found, owner, owned, _, rfl, _, whitelisted, rfl⟩ := stepped
  exact .nominated found owned whitelisted rfl rfl

theorem validationResponse_change {call : CallContext} {response : UInt8}
    {responseUri responseHash tag : Bytes}
    (stepped : step chain w (.validationResponse call requestHash response responseUri responseHash
      tag) = .ok next) :
    Change chain w (.validationResponse call requestHash response responseUri responseHash tag)
      next := by
  simp only [step, validationResponse, Outcome.bind_eq_ok] at stepped
  obtain ⟨_, _, _, _, stepped⟩ := stepped
  split at stepped
  next missing => cases stepped
  next data stored =>
    simp only [Outcome.bind_eq_ok, Outcome.require_eq_ok, Outcome.pure_eq_ok] at stepped
    obtain ⟨_, answerer, rfl⟩ := stepped
    refine .answered stored answerer ?_ rfl
    intro other job found
    simp only [World.emit] at found
    split at found
    next old present =>
      rcases Cells.of_get?_set found with ⟨same, rfl⟩ | ⟨_, found⟩
      · exact .inr ⟨same, old, same ▸ present, rfl⟩
      · exact .inl found
    next absent => exact .inl found

theorem get?_of_cleaned {now : UInt64} {jobIds : List Bytes} {jobs : Cells Bytes JobData}
    {job : JobData} (found : (jobIds.foldl (cleanJob now) jobs).get? jobId = some job) :
    jobs.get? jobId = some job := by
  induction jobIds generalizing jobs with
  | nil => exact found
  | cons cleaned rest inductionHypothesis =>
      have remaining := inductionHypothesis found
      unfold cleanJob at remaining
      split at remaining
      · split at remaining
        · exact Cells.get?_of_clear remaining
        · exact remaining
      · exact remaining

theorem step_change (stepped : step chain w move = .ok next) : Change chain w move next := by
  cases move with
  | initJob registries call now jobId agentNonce serviceId => exact initJob_change stepped
  | submitProof registries call jobId proof =>
      simp only [step, submitProof, Outcome.bind_eq_ok, Outcome.pure_eq_ok, job_eq_ok] at stepped
      obtain ⟨_, _, _, _, job, found, _, _, _, _, _, _, rfl⟩ := stepped
      exact .proved (decide_eq_true rfl) (fun _ => ⟨rfl, rfl⟩) found rfl rfl
  | submitProofWithNft registries call jobId proof =>
      simp only [step, submitProofWithNft, Outcome.bind_eq_ok, Outcome.pure_eq_ok, job_eq_ok]
        at stepped
      obtain ⟨_, _, job, found, payment, _, _, _, _, _, _, _, rfl⟩ := stepped
      exact .proved (decide_eq_true rfl) (fun _ => ⟨rfl, rfl⟩) found rfl rfl
  | validationRequest registries call jobId validatorAddress requestUri requestHash =>
      exact validationRequest_change stepped
  | validationResponse call requestHash response responseUri responseHash tag =>
      exact validationResponse_change stepped
  | cleanOldJobs call now jobIds =>
      simp only [step, Outcome.bind_eq_ok, Outcome.pure_eq_ok] at stepped
      obtain ⟨_, _, _, _, rfl⟩ := stepped
      exact .unsettled (fun _ => ⟨rfl, rfl⟩) ⟨fun _ _ found => get?_of_cleaned found, rfl⟩
  | configure call change =>
      simp only [step, Outcome.bind_eq_ok, Outcome.pure_eq_ok] at stepped
      obtain ⟨_, _, _, _, _, _, rfl⟩ := stepped
      cases change with
      | _ => exact .unsettled (fun _ => ⟨rfl, rfl⟩) ⟨fun _ _ found => found, rfl⟩

/-! ## What the history says about the state -/

theorem Opened.append (opened : Opened jobId past) (later : List Step) :
    Opened jobId (past ++ later) := by
  obtain ⟨opening, member, opens⟩ := opened
  exact ⟨opening, List.mem_append_left _ member, opens⟩

theorem Proved.append {later : List Step} (proved : Proved jobId past)
    (silent : ∀ move ∈ later, move.inits jobId = false) : Proved jobId (past ++ later) := by
  obtain ⟨opened, proof, member, proves⟩ := proved
  refine ⟨opened.append later, proof, ?_, proves⟩
  rw [sinceLatest_append silent]
  exact List.mem_append_left _ member

theorem Opened.proved (opened : Opened jobId past) (other : move.inits jobId = false)
    (proves : move.proves jobId = true) : Proved jobId (past ++ [move]) := by
  refine ⟨opened.append [move], move, ?_, proves⟩
  rw [sinceLatest_concat, other]
  exact List.mem_append_right _ (List.mem_singleton_self move)

theorem Nominated.concat {validator : Address}
    (nominated : Nominated chain start past jobId requestHash validator)
    (other : move.inits jobId = false) (stands : move.requests requestHash = false) :
    Nominated chain start (past ++ [move]) jobId requestHash validator := by
  cases nominated with
  | @intro earlier later before registries call requestUri job split reached proved found owned
      whitelisted standing =>
      have split' : past ++ [move] = earlier ++ .validationRequest registries call jobId validator
          requestUri requestHash :: (later ++ [move]) := by
        rw [split, List.append_assoc, List.cons_append]
      refine .intro split' reached proved found owned whitelisted ?_
      intro after member
      rcases List.mem_append.mp member with known | last
      · exact standing after known
      · obtain rfl := List.mem_singleton.mp last
        exact ⟨other, stands⟩

theorem Nominated.proved {validator : Address}
    (nominated : Nominated chain start past jobId requestHash validator) : Proved jobId past := by
  cases nominated with
  | @intro earlier later before registries call requestUri job split reached proved found owned
      whitelisted standing =>
      rw [split]
      apply proved.append
      intro after member
      rcases List.mem_cons.mp member with rfl | known
      · rfl
      · exact (standing after known).1

/-- Every job was initialized, every job that is not new was proved, and every nomination
that is stored stands. -/
structure Recorded (chain : Chain) (start : World) (past : List Step) (w : World) : Prop where
  reached : Trace (step chain) (fun _ _ => True) start past w
  jobs : ∀ jobId job, w.jobData.get? jobId = some job →
    Opened jobId past ∧ (job.status ≠ .new → Proved jobId past)
  nominated : ∀ requestHash request, w.validationRequestData.get? requestHash = some request →
    Nominated chain start past request.jobId requestHash request.validatorAddress

theorem requested_eq_zero :
    w.requested jobId = 0 ↔ ∀ requestHash request,
      w.validationRequestData.get? requestHash = some request → request.jobId ≠ jobId := by
  unfold World.requested
  rw [Cells.total_eq_zero_iff]
  simp

theorem Recorded.keeps_jobs (recorded : Recorded chain start past w)
    (silent : ∀ jobId, move.inits jobId = false)
    (known : ∀ jobId job, next.jobData.get? jobId = some job →
      ∃ old, w.jobData.get? jobId = some old ∧
        (job.status ≠ .new → old.status = .new → Proved jobId (past ++ [move]))) :
    ∀ jobId job, next.jobData.get? jobId = some job →
      Opened jobId (past ++ [move]) ∧ (job.status ≠ .new → Proved jobId (past ++ [move])) := by
  intro jobId job found
  obtain ⟨old, present, starts⟩ := known jobId job found
  obtain ⟨opened, proved⟩ := recorded.jobs jobId old present
  refine ⟨opened.append _, ?_⟩
  intro started
  by_cases fresh : old.status = .new
  · exact starts started fresh
  · apply (proved fresh).append
    intro after member
    rw [List.mem_singleton.mp member]
    exact silent jobId

theorem Recorded.keeps_nominations (recorded : Recorded chain start past w) (quiet : move.Quiet)
    (same : next.validationRequestData = w.validationRequestData) :
    ∀ requestHash request, next.validationRequestData.get? requestHash = some request →
      Nominated chain start (past ++ [move]) request.jobId requestHash request.validatorAddress := by
  intro requestHash request stored
  rw [same] at stored
  exact (recorded.nominated requestHash request stored).concat (quiet _).1 (quiet _).2

theorem Recorded.initialize (recorded : Recorded chain start past w) {registries : Registries}
    {call : CallContext} {now : UInt64} {agentNonce : Nat} {serviceId : Option UInt32}
    (reached : Trace (step chain) (fun _ _ => True) start
      (past ++ [.initJob registries call now jobId agentNonce serviceId]) next)
    (fair : w.requested jobId = 0)
    (jobs : next.jobData = w.jobData.set jobId ⟨.new, [], call.caller, now, agentNonce⟩)
    (requests : next.validationRequestData = w.validationRequestData) :
    Recorded chain start (past ++ [.initJob registries call now jobId agentNonce serviceId])
      next := by
  have others : ∀ other, other ≠ jobId →
      (Step.initJob registries call now jobId agentNonce serviceId).inits other = false :=
    fun other different => decide_eq_false (Ne.symm different)
  refine ⟨reached, ?_, ?_⟩
  · intro other job found
    rw [jobs] at found
    rcases Cells.of_get?_set found with ⟨same, rfl⟩ | ⟨different, found⟩
    · refine ⟨⟨_, List.mem_append_right _ (List.mem_singleton_self _), ?_⟩, ?_⟩
      · exact decide_eq_true same.symm
      · exact fun started => absurd rfl started
    · obtain ⟨opened, proved⟩ := recorded.jobs other job found
      refine ⟨opened.append _, fun started => (proved started).append ?_⟩
      intro after member
      rw [List.mem_singleton.mp member]
      exact others other different
  · intro requestHash request stored
    rw [requests] at stored
    have different := requested_eq_zero.mp fair requestHash request stored
    exact (recorded.nominated requestHash request stored).concat (others _ different) rfl

theorem Recorded.nominate (recorded : Recorded chain start past w) {registries : Registries}
    {call : CallContext} {validatorAddress : Address} {requestUri : Bytes} {job : JobData}
    (reached : Trace (step chain) (fun _ _ => True) start
      (past ++ [.validationRequest registries call jobId validatorAddress requestUri requestHash])
      next)
    (started : job.status ≠ .new) (found : w.jobData.get? jobId = some job)
    (owned : (w.identity registries).agents.getValue job.agentNonce = some call.caller)
    (whitelisted : validatorAddress ∈ w.whitelistedValidators.items)
    (jobs : next.jobData = w.jobData.set jobId { job with status := .validationRequested })
    (requests : next.validationRequestData = w.validationRequestData.set requestHash
      ⟨validatorAddress, job.agentNonce, jobId, 0, [], [], 0⟩) :
    Recorded chain start
      (past ++ [.validationRequest registries call jobId validatorAddress requestUri requestHash])
      next := by
  refine ⟨reached, recorded.keeps_jobs (fun _ => rfl) ?_, ?_⟩
  · intro other job' found'
    rw [jobs] at found'
    rcases Cells.of_get?_set found' with ⟨rfl, _⟩ | ⟨_, found'⟩
    · exact ⟨job, found, fun _ fresh => absurd fresh started⟩
    · exact ⟨job', found', fun started' fresh => absurd fresh started'⟩
  · intro other request stored
    rw [requests] at stored
    rcases Cells.of_get?_set stored with ⟨same, rfl⟩ | ⟨different, stored⟩
    · subst same
      have proved := (recorded.jobs jobId job found).2 started
      exact .intro rfl recorded.reached proved found owned whitelisted
        (fun _ member => absurd member List.not_mem_nil)
    · exact (recorded.nominated other request stored).concat rfl
        (decide_eq_false (Ne.symm different))

theorem Recorded.answer (recorded : Recorded chain start past w)
    (reached : Trace (step chain) (fun _ _ => True) start (past ++ [move]) next)
    (quiet : move.Quiet) {data updated : ValidationRequestData}
    (stored : w.validationRequestData.get? requestHash = some data)
    (jobs : ∀ jobId job, next.jobData.get? jobId = some job → w.jobData.get? jobId = some job ∨
      jobId = data.jobId ∧ ∃ old, w.jobData.get? jobId = some old)
    (requests : next.validationRequestData = w.validationRequestData.set requestHash updated)
    (same : updated.jobId = data.jobId ∧ updated.validatorAddress = data.validatorAddress) :
    Recorded chain start (past ++ [move]) next := by
  have stands := (recorded.nominated requestHash data stored).concat (quiet _).1 (quiet _).2
  refine ⟨reached, recorded.keeps_jobs (fun other => (quiet other).1) ?_, ?_⟩
  · intro other job found
    rcases jobs other job found with unchanged | ⟨rfl, old, present⟩
    · exact ⟨job, unchanged, fun started fresh => absurd fresh started⟩
    · exact ⟨old, present, fun _ _ => stands.proved⟩
  · intro other request stored'
    rw [requests] at stored'
    rcases Cells.of_get?_set stored' with ⟨again, rfl⟩ | ⟨_, stored'⟩
    · rw [again, same.1, same.2]
      exact stands
    · exact (recorded.nominated other request stored').concat (quiet _).1 (quiet _).2

theorem Recorded.step (recorded : Recorded chain start past w) (fair : Fair w move)
    (stepped : Validation.step chain w move = .ok next) :
    Recorded chain start (past ++ [move]) next := by
  have reached := recorded.reached.concat trivial stepped
  cases step_change stepped with
  | opened jobs requests => exact recorded.initialize reached fair jobs requests
  | @proved _ jobId job proof _ proves quiet found jobs requests =>
      refine ⟨reached, recorded.keeps_jobs (fun other => (quiet other).1) ?_,
        recorded.keeps_nominations quiet requests⟩
      intro other job' found'
      rw [jobs, World.prove] at found'
      rcases Cells.of_get?_set found' with ⟨rfl, _⟩ | ⟨_, found'⟩
      · have opened := (recorded.jobs other job found).1
        exact ⟨job, found, fun _ _ => opened.proved (quiet other).1 proves⟩
      · exact ⟨job', found', fun started fresh => absurd fresh started⟩
  | @nominated _ _ _ _ _ _ job _ found owned whitelisted jobs requests =>
      exact recorded.nominate reached (fair.1 job found) found owned whitelisted jobs requests
  | answered stored _ jobs requests =>
      refine recorded.answer reached (fun _ => ⟨rfl, rfl⟩) stored ?_ requests ⟨rfl, rfl⟩
      intro other job found
      rcases jobs other job found with unchanged | ⟨same, old, present, _⟩
      · exact .inl unchanged
      · exact .inr ⟨same, old, present⟩
  | unsettled quiet unsettled =>
      refine ⟨reached, recorded.keeps_jobs (fun other => (quiet other).1) ?_,
        recorded.keeps_nominations quiet unsettled.requests⟩
      intro other job found
      exact ⟨job, unsettled.jobs other job found, fun started fresh => absurd fresh started⟩

theorem Deployed.recorded (deployed : Deployed start) : Recorded chain start [] start := by
  obtain ⟨identityRegistryAddress, rfl⟩ := deployed
  refine ⟨.nil _, ?_, ?_⟩
  · intro jobId job found
    simp [init] at found
  · intro requestHash request stored
    simp [init] at stored

theorem run_recorded (deployed : Deployed start) (trace : Trace (step chain) Fair start past w) :
    Recorded chain start past w := by
  have recorded : Recorded chain start ([] ++ past) w :=
    trace.history_allowed (Recorded chain start) (fun _ _ _ _ fair recorded stepped =>
      recorded.step fair stepped) deployed.recorded
  exact recorded

/-! ## Verified jobs -/

theorem verified_of_set {job : JobData} {other : Bytes}
    (jobs : next.jobData = w.jobData.set jobId job) (unsettled : job.status ≠ .verified)
    (verified : next.verified other) : w.verified other := by
  obtain ⟨job', found, status⟩ := verified
  rw [jobs] at found
  rcases Cells.of_get?_set found with ⟨_, rfl⟩ | ⟨_, found⟩
  · exact absurd status unsettled
  · exact ⟨job', found, status⟩

theorem scored_verified {response : UInt8} {job : JobData}
    (verified : (scored response job).status = .verified) : 70 ≤ response := by
  unfold scored at verified
  split at verified
  · assumption
  · cases verified

theorem Recorded.validates (recorded : Recorded chain start past w)
    (stepped : Validation.step chain w move = .ok next) (unverified : ¬w.verified jobId)
    (verified : next.verified jobId) : ∃ requestHash validator,
      move.approves requestHash validator ∧
        Nominated chain start past jobId requestHash validator := by
  cases step_change stepped with
  | opened jobs _ => exact absurd (verified_of_set jobs nofun verified) unverified
  | proved _ _ _ jobs _ => exact absurd (verified_of_set jobs nofun verified) unverified
  | nominated _ _ _ jobs _ => exact absurd (verified_of_set jobs nofun verified) unverified
  | @answered call requestHash response _ _ _ data _ stored answerer jobs _ =>
      obtain ⟨job, found, status⟩ := verified
      rcases jobs jobId job found with unchanged | ⟨rfl, old, _, rfl⟩
      · exact absurd ⟨job, unchanged, status⟩ unverified
      · exact ⟨requestHash, data.validatorAddress, ⟨rfl, answerer, scored_verified status⟩,
          recorded.nominated requestHash data stored⟩
  | unsettled _ unsettled =>
      obtain ⟨job, found, status⟩ := verified
      exact absurd ⟨job, unsettled.jobs jobId job found, status⟩ unverified

theorem nominations_kept {request request' : ValidationRequestData} (fair : Fair w move)
    (stepped : step chain w move = .ok next)
    (stored : w.validationRequestData.get? requestHash = some request)
    (stored' : next.validationRequestData.get? requestHash = some request') :
    request'.jobId = request.jobId := by
  have unwritten (same : next.validationRequestData = w.validationRequestData) :
      request'.jobId = request.jobId := by
    rw [same, stored] at stored'
    rw [Option.some.inj stored']
  cases step_change stepped with
  | opened _ requests => exact unwritten requests
  | proved _ _ _ _ requests => exact unwritten requests
  | nominated _ _ _ _ requests =>
      rw [requests] at stored'
      rcases Cells.of_get?_set stored' with ⟨rfl, rfl⟩ | ⟨_, stored'⟩
      · exact (fair.2 request stored).symm
      · rw [Option.some.inj (stored.symm.trans stored')]
  | answered answered _ _ requests =>
      rw [requests] at stored'
      rcases Cells.of_get?_set stored' with ⟨rfl, rfl⟩ | ⟨_, stored'⟩
      · obtain rfl := Option.some.inj (stored.symm.trans answered)
        rfl
      · rw [Option.some.inj (stored.symm.trans stored')]
  | unsettled _ unsettled => exact unwritten unsettled.requests

/-- In a run of fair steps, every job that is verified was proved, then nominated, then
approved, and no nomination gave way to one for another job. -/
theorem jobs_validated {final : World} {steps : List Step} (deployed : Deployed start)
    (trace : Trace (step chain) Fair start steps final) : JobsValidated chain start steps := by
  rintro past move rest w next rfl reached stepped
  obtain ⟨fairPast, fair⟩ := trace.at_step reached
  have recorded := run_recorded deployed fairPast
  constructor
  · intro jobId unverified verified
    exact recorded.validates stepped unverified verified
  · intro requestHash request request' stored stored'
    exact nominations_kept fair stepped stored stored'

namespace Sample

def validator : Address := .fill 31

def carol : Address := .fill 32

def identity : Identity.World :=
  { Identity.init with
    agents := BiDiMap.empty.insert 1 Identity.Sample.alice
    agentDetails := Cells.empty.set 1 ⟨[1], Identity.Sample.alice.val⟩ }

def registries : Registries := fun _ => identity

def call (caller : Address) : CallContext := Identity.Sample.agentCall caller []

def carolsJob : Bytes := [7]

def carolsHash : Bytes := [8]

def opening : List Step :=
  [.configure (call (.fill 2)) (.addWhitelistedValidator validator),
    .initJob registries (call carol) 1000 carolsJob 1 none]

def proof : Step := .submitProof registries (call Identity.Sample.alice) carolsJob [9]

def nomination : Step :=
  .validationRequest registries (call Identity.Sample.alice) carolsJob validator [] carolsHash

def approval : Step := .validationResponse (call validator) carolsHash 100 [] [] []

def job (status : JobStatus) (proof : Bytes) : JobData := ⟨status, proof, carol, 1000, 1⟩

end Sample

theorem jobs_validated_sample :
    ∃ final, Trace (step sampleChain) Fair (init (.fill 40))
        (Sample.opening ++ [Sample.proof, Sample.nomination, Sample.approval]) final ∧
      final.jobData.get? Sample.carolsJob = some (Sample.job .verified [9]) ∧
      JobsValidated sampleChain (init (.fill 40))
        (Sample.opening ++ [Sample.proof, Sample.nomination, Sample.approval]) := by
  obtain ⟨final, trace, verified⟩ := Trace.of_runChecked (step sampleChain) Fair (init (.fill 40))
    (Sample.opening ++ [Sample.proof, Sample.nomination, Sample.approval])
    (fun final => final.jobData.get? Sample.carolsJob = some (Sample.job .verified [9]))
    (by decide +kernel)
  exact ⟨final, trace, verified, jobs_validated ⟨_, rfl⟩ trace⟩

/-- Without any proof, Alice nominates the validator for Carol's job and the validator
approves: the job is verified. -/
theorem verified_without_proof :
    ∃ final, Trace (step sampleChain) (fun _ _ => True) (init (.fill 40))
        (Sample.opening ++ [Sample.nomination, Sample.approval]) final ∧
      final.jobData.get? Sample.carolsJob = some (Sample.job .verified []) ∧
      ¬JobsValidated sampleChain (init (.fill 40))
        (Sample.opening ++ [Sample.nomination, Sample.approval]) := by
  obtain ⟨w, reached, nominated, approved⟩ := Trace.of_runChecked (step sampleChain)
    (fun _ _ => True) (init (.fill 40)) (Sample.opening ++ [Sample.nomination])
    (fun w => w.jobData.get? Sample.carolsJob = some (Sample.job .validationRequested []) ∧
      endsIn (fun next => next.jobData.get? Sample.carolsJob = some (Sample.job .verified []))
        (step sampleChain w Sample.approval) = true)
    (by decide +kernel)
  obtain ⟨next, stepped, verified⟩ := endsIn_iff.mp approved
  refine ⟨next, reached.concat trivial stepped, verified, ?_⟩
  intro justified
  have unverified : ¬w.verified Sample.carolsJob := by
    rintro ⟨job, found, status⟩
    rw [Option.some.inj (nominated.symm.trans found).symm] at status
    cases status
  have validated := (justified _ _ [] _ _ rfl reached stepped).validated Sample.carolsJob unverified
    ⟨_, verified, rfl⟩
  obtain ⟨requestHash, validator, _, standing⟩ := validated
  obtain ⟨_, proof, member, proves⟩ := standing.proved
  revert proof
  decide

end XCron.Agents.Validation
