import XCron.Agents.Ownership
import XCron.Agents.Reputation

/-!
# Whose reputation a rating moves

Of the three inputs of a rating only the job is checked: the agent that the employer names
need not be the one that did the job, and the rating may be any number.
-/

namespace XCron.Agents.Reputation

open Platform

variable {chain : Chain} {start w next : World} {past : List Step} {move : Step}
  {jobId : Bytes} {agentNonce : Nat}

/-! ## Earned reputation -/

def Step.rates (jobId : Bytes) : Step → Bool
  | .giveFeedbackSimple _ _ rated _ _ => rated = jobId
  | _ => false

def Step.earns (agentNonce : Nat) (w : World) : Step → Prop
  | .giveFeedbackSimple validations call jobId rated _ =>
      rated = agentNonce ∧ ∃ job, w.externalJob validations jobId = .ok job ∧
        call.caller = job.employer ∧ job.agentNonce = agentNonce
  | _ => False

def baseValue (netMonthlyEarnings : Nat) (expectedAprBasisPoints : UInt32) : Nat :=
  netMonthlyEarnings * 12 * 10000 / expectedAprBasisPoints.toNat

/-- No score exceeds 100, and no fair value the base value. -/
structure WithinRange (w : World) : Prop where
  score : ∀ agentNonce, w.reputationScore agentNonce ≤ 100
  fairValue : ∀ agentNonce netMonthlyEarnings expectedAprBasisPoints value,
    evaluateAgentFairValue agentNonce netMonthlyEarnings expectedAprBasisPoints w = .ok value →
      value ≤ baseValue netMonthlyEarnings expectedAprBasisPoints

/-- Reputation belongs to the agents that did the jobs, throughout a run. -/
structure ReputationEarned (chain : Chain) (start : World) (steps : List Step) : Prop where
  earned : ∀ past move rest w next, steps = past ++ move :: rest →
    Trace (step chain) (fun _ _ => True) start past w → step chain w move = .ok next →
    ∀ agentNonce, next.reputationScore agentNonce ≠ w.reputationScore agentNonce ∨
      next.totalJobs agentNonce ≠ w.totalJobs agentNonce → move.earns agentNonce w
  once : ∀ jobId, steps.countP (Step.rates jobId) ≤ 1
  within : ∀ past rest w, steps = past ++ rest →
    Trace (step chain) (fun _ _ => True) start past w → WithinRange w

/-- A rating is for the agent that the job has, and does not lift the sum of the agent's
ratings, of which the score is the floored mean, to 101 for each of them. -/
def Fair (w : World) : Step → Prop
  | .giveFeedbackSimple validations _ jobId agentNonce rating =>
      (∀ job ∈ (validations w.validationContractAddress).jobData.get? jobId,
        job.agentNonce = agentNonce) ∧
      w.reputationScore agentNonce * (w.totalJobs agentNonce).toNat + rating <
        101 * ((w.totalJobs agentNonce).toNat + 1)
  | _ => True

instance (w : World) : (move : Step) → Decidable (Fair w move)
  | .giveFeedbackSimple _ _ _ _ _ => inferInstanceAs (Decidable (_ ∧ _))
  | .giveFeedback _ _ _ _ | .revokeFeedback _ _ _ | .appendResponse _ _ _ _ | .configure _ _ =>
      isTrue trivial

/-! ## What a step does -/

structure Rated (validations : Validations) (call : CallContext) (jobId : Bytes)
    (agentNonce rating : Nat) (job : JobData) (w next : World) : Prop where
  found : w.externalJob validations jobId = .ok job
  employer : call.caller = job.employer
  first : w.hasGivenFeedback jobId = false
  counted : (w.totalJobs agentNonce + 1).toNat = (w.totalJobs agentNonce).toNat + 1
  score : next.reputationScore = Function.update w.reputationScore agentNonce
    ((w.reputationScore agentNonce * (w.totalJobs agentNonce).toNat + rating) /
      ((w.totalJobs agentNonce).toNat + 1))
  total : next.totalJobs = Function.update w.totalJobs agentNonce (w.totalJobs agentNonce + 1)
  given : next.hasGivenFeedback = Function.update w.hasGivenFeedback jobId true

structure SameRatings (w next : World) : Prop where
  score : next.reputationScore = w.reputationScore
  total : next.totalJobs = w.totalJobs
  given : next.hasGivenFeedback = w.hasGivenFeedback

/-- What a step does to the ratings. -/
inductive Change (w : World) : Step → World → Prop where
  | rated {validations : Validations} {call : CallContext} {jobId : Bytes}
      {agentNonce rating : Nat} {job : JobData} {next : World} :
      Rated validations call jobId agentNonce rating job w next →
      Change w (.giveFeedbackSimple validations call jobId agentNonce rating) next
  | same {move : Step} {next : World} :
      (∀ jobId, move.rates jobId = false) → SameRatings w next → Change w move next

theorem toNat_succ {count : UInt64} (counted : 1 ≤ (count + 1).toNat) :
    (count + 1).toNat = count.toNat + 1 := by
  rw [UInt64.toNat_add] at counted ⊢
  have bound := count.toNat_lt
  change 1 ≤ (count.toNat + 1) % 2 ^ 64 at counted
  change (count.toNat + 1) % 2 ^ 64 = _
  omega

theorem giveFeedbackSimple_rated {validations : Validations} {call : CallContext} {rating : Nat}
    (given : giveFeedbackSimple validations call jobId agentNonce rating w = .ok next) :
    ∃ job, Rated validations call jobId agentNonce rating job w next := by
  simp only [giveFeedbackSimple, calculateNewScore, Outcome.bind_eq_ok, Outcome.require_eq_ok,
    Outcome.ensure_eq_ok, bigUintDiv_eq_ok, Outcome.pure_eq_ok] at given
  obtain ⟨job, found, _, employer, _, first, _, ⟨_, positive, score, ⟨_, rfl⟩, rfl⟩, rfl⟩ := given
  have counted := toNat_succ positive
  refine ⟨job, found, employer, first, counted, ?_, rfl, rfl⟩
  rw [counted, Nat.add_sub_cancel]
  rfl

theorem step_change (stepped : step chain w move = .ok next) : Change w move next := by
  cases move with
  | giveFeedbackSimple validations call jobId agentNonce rating =>
      simp only [step, Outcome.bind_eq_ok] at stepped
      obtain ⟨_, _, _, _, given⟩ := stepped
      obtain ⟨job, rated⟩ := giveFeedbackSimple_rated given
      exact .rated rated
  | giveFeedback registries call agentNonce feedback =>
      simp only [step, giveFeedback, Outcome.bind_eq_ok, Outcome.pure_eq_ok] at stepped
      obtain ⟨_, _, _, _, _, _, _, _, rfl⟩ := stepped
      exact .same (fun _ => rfl) ⟨rfl, rfl, rfl⟩
  | revokeFeedback call agentNonce feedbackIndex =>
      simp only [step, revokeFeedback, Outcome.bind_eq_ok] at stepped
      obtain ⟨_, _, _, _, stepped⟩ := stepped
      split at stepped
      · cases stepped
      · simp only [Outcome.bind_eq_ok, Outcome.pure_eq_ok] at stepped
        obtain ⟨_, _, rfl⟩ := stepped
        exact .same (fun _ => rfl) ⟨rfl, rfl, rfl⟩
  | appendResponse validations call jobId responseUri =>
      simp only [step, appendResponse, Outcome.bind_eq_ok, Outcome.pure_eq_ok] at stepped
      obtain ⟨_, _, _, _, _, _, rfl⟩ := stepped
      exact .same (fun _ => rfl) ⟨rfl, rfl, rfl⟩
  | configure call change =>
      simp only [step, Outcome.bind_eq_ok, Outcome.pure_eq_ok] at stepped
      obtain ⟨_, _, _, _, _, _, rfl⟩ := stepped
      cases change with
      | _ => exact .same (fun _ => rfl) ⟨rfl, rfl, rfl⟩

/-! ## When reputation is earned -/

theorem mean_le_iff (sum count : Nat) : sum / (count + 1) ≤ 100 ↔ sum < 101 * (count + 1) := by
  rw [← Nat.lt_succ_iff, Nat.div_lt_iff_lt_mul (Nat.succ_pos count)]

theorem withinRange_of_score (inRange : ∀ agentNonce, w.reputationScore agentNonce ≤ 100) :
    WithinRange w := by
  refine ⟨inRange, ?_⟩
  intro agentNonce netMonthlyEarnings expectedAprBasisPoints value evaluated
  simp only [evaluateAgentFairValue, Outcome.bind_eq_ok, bigUintDiv_eq_ok] at evaluated
  obtain ⟨_, _, base, ⟨_, rfl⟩, _, rfl⟩ := evaluated
  have adjusted : (if w.reputationScore agentNonce = 0 then 80 else w.reputationScore agentNonce) ≤
      100 := by
    split
    · decide
    · exact inRange agentNonce
  exact Nat.div_le_of_le_mul (by
    rw [Nat.mul_comm 100]
    exact Nat.mul_le_mul_left _ adjusted)

variable {validations : Validations} {call : CallContext} {rating : Nat} {job : JobData}

theorem Rated.recounted (rated : Rated validations call jobId agentNonce rating job w next) :
    next.totalJobs agentNonce ≠ w.totalJobs agentNonce := by
  intro same
  have counted := rated.counted
  rw [rated.total, Function.update_self] at same
  rw [same] at counted
  omega

theorem Rated.score_le_iff (rated : Rated validations call jobId agentNonce rating job w next) :
    next.reputationScore agentNonce ≤ 100 ↔
      w.reputationScore agentNonce * (w.totalJobs agentNonce).toNat + rating <
        101 * ((w.totalJobs agentNonce).toNat + 1) := by
  rw [rated.score, Function.update_self]
  exact mean_le_iff _ _

theorem Rated.ours_iff (rated : Rated validations call jobId agentNonce rating job w next) :
    (∀ job ∈ (validations w.validationContractAddress).jobData.get? jobId,
      job.agentNonce = agentNonce) ↔ job.agentNonce = agentNonce := by
  have found := Validation.job_eq_ok.mp rated.found
  constructor
  · intro ours
    exact ours job found
  · rintro ours other found'
    obtain rfl := Option.some.inj (found.symm.trans found')
    exact ours

theorem counted_step {w next : World}
    (counts : ∀ jobId, past.countP (Step.rates jobId) = (w.hasGivenFeedback jobId).toNat)
    (stepped : step chain w move = .ok next) :
    ∀ jobId, (past ++ [move]).countP (Step.rates jobId) = (next.hasGivenFeedback jobId).toNat := by
  intro other
  rw [List.countP_append, counts]
  cases step_change stepped with
  | @rated _ _ jobId _ _ _ _ rated =>
      rw [rated.given]
      by_cases same : other = jobId
      · subst same
        simp [Step.rates, rated.first]
      · simp [Step.rates, same, Ne.symm same]
  | same silent same => simp [silent, same.given]

theorem rated_once {final : World} {steps : List Step} {allowed : World → Step → Prop}
    (deployed : Deployed start) (trace : Trace (step chain) allowed start steps final)
    (jobId : Bytes) : steps.countP (Step.rates jobId) ≤ 1 := by
  have counts : ∀ jobId, ([] ++ steps).countP (Step.rates jobId) =
      (final.hasGivenFeedback jobId).toNat := by
    refine trace.history (fun past w => ∀ jobId,
      past.countP (Step.rates jobId) = (w.hasGivenFeedback jobId).toNat)
      (fun _ _ _ _ counts stepped => counted_step counts stepped) ?_
    obtain ⟨_, _, rfl⟩ := deployed
    intro _
    rfl
  rw [List.nil_append] at counts
  rw [counts]
  exact Bool.toNat_le _

theorem score_step (fair : Fair w move) (inRange : ∀ agentNonce, w.reputationScore agentNonce ≤ 100)
    (stepped : step chain w move = .ok next) (agentNonce : Nat) :
    next.reputationScore agentNonce ≤ 100 := by
  cases step_change stepped with
  | @rated _ _ _ rated' _ _ _ rated =>
      by_cases same : agentNonce = rated'
      · subst same
        exact rated.score_le_iff.mpr fair.2
      · rw [rated.score, Function.update_of_ne same]
        exact inRange agentNonce
  | same _ same =>
      rw [same.score]
      exact inRange agentNonce

theorem score_run (deployed : Deployed start) (trace : Trace (step chain) Fair start past w) :
    ∀ agentNonce, w.reputationScore agentNonce ≤ 100 := by
  refine trace.preserves (fun w => ∀ agentNonce, w.reputationScore agentNonce ≤ 100)
    (fun _ _ _ fair inRange stepped => score_step fair inRange stepped) ?_
  obtain ⟨_, _, rfl⟩ := deployed
  intro _
  exact Nat.zero_le _

theorem earns_of_changed (fair : Fair w move) (stepped : step chain w move = .ok next)
    (changed : next.reputationScore agentNonce ≠ w.reputationScore agentNonce ∨
      next.totalJobs agentNonce ≠ w.totalJobs agentNonce) : move.earns agentNonce w := by
  cases step_change stepped with
  | @rated _ _ _ rated' _ job _ rated =>
      by_cases same : agentNonce = rated'
      · subst same
        exact ⟨rfl, job, rated.found, rated.employer, rated.ours_iff.mp fair.1⟩
      · rw [rated.score, rated.total, Function.update_of_ne same, Function.update_of_ne same]
          at changed
        simp at changed
  | same _ same =>
      rw [same.score, same.total] at changed
      simp at changed

/-- In a run, reputation belongs to the agents that did the jobs exactly if every rating is
fair. -/
theorem reputationEarned_iff {final : World} {steps : List Step} (deployed : Deployed start)
    (trace : Trace (step chain) (fun _ _ => True) start steps final) :
    ReputationEarned chain start steps ↔ Trace (step chain) Fair start steps final := by
  constructor
  · intro earned
    rw [trace.fair_iff]
    rintro past move rest before after rfl reached stepped
    cases move with
    | giveFeedbackSimple validations call jobId agentNonce rating =>
        cases step_change stepped with
        | rated rated =>
            obtain ⟨_, job, found, _, ours⟩ :=
              earned.earned past _ rest _ _ rfl reached stepped agentNonce (.inr rated.recounted)
            obtain rfl := Except.ok.inj (rated.found.symm.trans found)
            have after := earned.within (past ++ [_]) rest after (by simp)
              (reached.concat trivial stepped)
            exact ⟨rated.ours_iff.mpr ours, rated.score_le_iff.mp (after.score agentNonce)⟩
        | same silent _ => simpa [Step.rates] using silent jobId
    | _ => trivial
  · intro fairTrace
    refine ⟨?_, rated_once deployed trace, ?_⟩
    · rintro past move rest w next rfl reached stepped agentNonce changed
      exact earns_of_changed (fairTrace.at_step reached).2 stepped changed
    · rintro past rest w rfl reached
      exact withinRange_of_score (score_run deployed (fairTrace.split reached).1)

namespace Sample

def carol : Address := .fill 32

def registries : Validations := fun _ =>
  { Validation.init (.fill 40) with
    jobData := Cells.empty.set [7] ⟨.pending, [9], carol, 1000, 1⟩ }

def rates (agentNonce rating : Nat) : Step :=
  .giveFeedbackSimple registries (Identity.Sample.agentCall carol []) [7] agentNonce rating

end Sample

theorem reputationEarned_iff_sample :
    ∃ final, Trace (step sampleChain) (fun _ _ => True) (init (.fill 41) (.fill 40))
        [Sample.rates 1 90] final ∧ final.reputationScore 1 = 90 ∧
      ReputationEarned sampleChain (init (.fill 41) (.fill 40)) [Sample.rates 1 90] := by
  obtain ⟨final, trace, score⟩ := Trace.of_runChecked (step sampleChain) Fair
    (init (.fill 41) (.fill 40)) [Sample.rates 1 90] (fun final => final.reputationScore 1 = 90)
    (by decide +kernel)
  have run := trace.weaken fun _ _ _ => trivial
  exact ⟨final, run, score, (reputationEarned_iff ⟨_, _, rfl⟩ run).mpr trace⟩

/-- For her job of the first agent Carol rates the ninth with 1000, and its fair value is ten
times the base value. -/
theorem rating_misdirected :
    ∃ final, Trace (step sampleChain) (fun _ _ => True) (init (.fill 41) (.fill 40))
        [Sample.rates 9 1000] final ∧ final.reputationScore 9 = 1000 ∧
      evaluateAgentFairValue 9 100 1200 final = .ok (10 * baseValue 100 1200) ∧
      ¬ReputationEarned sampleChain (init (.fill 41) (.fill 40)) [Sample.rates 9 1000] := by
  obtain ⟨final, trace, score, value⟩ := Trace.of_runChecked (step sampleChain) (fun _ _ => True)
    (init (.fill 41) (.fill 40)) [Sample.rates 9 1000]
    (fun final => final.reputationScore 9 = 1000 ∧
      endsIn (· = 10 * baseValue 100 1200) (evaluateAgentFairValue 9 100 1200 final) = true)
    (by decide +kernel)
  refine ⟨final, trace, score, ?_, ?_⟩
  · obtain ⟨amount, evaluated, same⟩ := endsIn_iff.mp value
    rw [evaluated, same]
  · intro earned
    have inRange := (earned.within [Sample.rates 9 1000] [] final rfl trace).score 9
    omega

end XCron.Agents.Reputation
