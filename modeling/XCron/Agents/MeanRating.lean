import XCron.Agents.Feedback
import XCron.Platform.RunningMean

/-!
# How far a score is from the mean rating

The score is a running mean in whole numbers: each rating drops the remainder of a
division, and nothing makes up for it later. An agent rated better from job to job can
keep the score of its first one.
-/

namespace XCron.Agents.Reputation

open Platform

variable {chain : Chain} {start w next final : World} {past steps : List Step} {move : Step}
  {agentNonce : Nat}

/-! ## The ratings of a run -/

def Step.rating? (agentNonce : Nat) : Step → Option Nat
  | .giveFeedbackSimple _ _ _ rated rating => if rated = agentNonce then some rating else none
  | _ => none

def ratingsOf (agentNonce : Nat) (steps : List Step) : List Nat :=
  steps.filterMap (Step.rating? agentNonce)

/-- Every rating counts as a job, and the score is less than one away from their mean. -/
structure TracksMean (agentNonce : Nat) (ratings : List Nat) (w : World) : Prop where
  counted : (w.totalJobs agentNonce).toNat = ratings.length
  close : |(w.reputationScore agentNonce : ℚ) - mean ratings| < 1

/-- The division for a rating drops at most one, or the score is the highest there is, as it
is only where every rating so far was. -/
def SteadyAt (score jobs rating : Nat) : Prop :=
  score = 100 ∨ (score * jobs + rating) % (jobs + 1) ≤ 1

instance (score jobs rating : Nat) : Decidable (SteadyAt score jobs rating) :=
  inferInstanceAs (Decidable (_ ∨ _))

/-- A rating is at most 100 and drops at most one. -/
def Steady (w : World) : Step → Prop
  | .giveFeedbackSimple _ _ _ agentNonce rating =>
      rating ≤ 100 ∧ SteadyAt (w.reputationScore agentNonce) (w.totalJobs agentNonce).toNat rating
  | _ => True

instance (w : World) : (move : Step) → Decidable (Steady w move)
  | .giveFeedbackSimple _ _ _ _ _ => inferInstanceAs (Decidable (_ ∧ _))
  | .giveFeedback _ _ _ _ | .revokeFeedback _ _ _ | .appendResponse _ _ _ _ | .configure _ _ =>
      isTrue trivial

/-! ## The running mean -/

/-- The registry keeps the running mean of every agent's ratings. -/
structure Averaged (past : List Step) (w : World) : Prop where
  counted : ∀ agentNonce, (w.totalJobs agentNonce).toNat = (ratingsOf agentNonce past).length
  score : ∀ agentNonce,
    w.reputationScore agentNonce = (RunningMean.of (ratingsOf agentNonce past)).value

theorem ratingsOf_silent (silent : ∀ jobId, move.rates jobId = false) (agentNonce : Nat) :
    ratingsOf agentNonce (past ++ [move]) = ratingsOf agentNonce past := by
  have nothing : move.rating? agentNonce = none := by
    cases move with
    | giveFeedbackSimple _ _ jobId _ _ => simpa [Step.rates] using silent jobId
    | _ => rfl
  simp [ratingsOf, nothing]

theorem ratingsOf_rated (validations : Validations) (call : CallContext) (jobId : Bytes)
    (rated rating : Nat) (agentNonce : Nat) :
    ratingsOf agentNonce (past ++ [.giveFeedbackSimple validations call jobId rated rating]) =
      ratingsOf agentNonce past ++ if rated = agentNonce then [rating] else [] := by
  unfold ratingsOf
  rw [List.filterMap_append]
  by_cases same : rated = agentNonce <;> simp [Step.rating?, same]

theorem Averaged.step (averaged : Averaged past w)
    (stepped : Reputation.step chain w move = .ok next) : Averaged (past ++ [move]) next := by
  cases step_change stepped with
  | @rated validations call jobId rated' rating _ _ rated =>
      have given : ∀ agentNonce,
          ratingsOf agentNonce (past ++ [.giveFeedbackSimple validations call jobId rated' rating]) =
            ratingsOf agentNonce past ++ if rated' = agentNonce then [rating] else [] :=
        ratingsOf_rated validations call jobId rated' rating
      constructor
      · intro agentNonce
        rw [given, rated.total]
        by_cases same : rated' = agentNonce
        · subst same
          rw [Function.update_self, rated.counted, averaged.counted, if_pos rfl]
          simp
        · rw [Function.update_of_ne (Ne.symm same), averaged.counted, if_neg same,
            List.append_nil]
      · intro agentNonce
        rw [given, rated.score]
        by_cases same : rated' = agentNonce
        · subst same
          rw [Function.update_self, if_pos rfl, RunningMean.of_concat, averaged.score,
            averaged.counted]
          simp only [RunningMean.add, RunningMean.count_of]
        · rw [Function.update_of_ne (Ne.symm same), averaged.score, if_neg same, List.append_nil]
  | same silent same =>
      constructor
      · intro agentNonce
        rw [ratingsOf_silent silent, same.total]
        exact averaged.counted agentNonce
      · intro agentNonce
        rw [ratingsOf_silent silent, same.score]
        exact averaged.score agentNonce

theorem Deployed.averaged (deployed : Deployed start) : Averaged [] start := by
  obtain ⟨_, _, rfl⟩ := deployed
  exact ⟨fun _ => rfl, fun _ => rfl⟩

theorem averaged_run {allowed : World → Step → Prop} (deployed : Deployed start)
    (trace : Trace (Reputation.step chain) allowed start steps final) : Averaged steps final := by
  have averaged := trace.history Averaged (fun _ _ _ _ averaged stepped => averaged.step stepped)
    deployed.averaged
  rwa [List.nil_append] at averaged

/-- In every run a score is never above the mean, and falls short of it by at most half a
unit for each rating but one. -/
theorem score_below_mean {allowed : World → Step → Prop} (deployed : Deployed start)
    (trace : Trace (step chain) allowed start steps final) (agentNonce : Nat) :
    ∃ dropped, (ratingsOf agentNonce steps).sum =
        final.reputationScore agentNonce * (ratingsOf agentNonce steps).length + dropped ∧
      2 * dropped ≤ (ratingsOf agentNonce steps).length * ((ratingsOf agentNonce steps).length - 1) := by
  refine ⟨_, ?_, RunningMean.dropped_le _⟩
  rw [(averaged_run deployed trace).score]
  exact RunningMean.sum_eq _

/-- The mean is tracked exactly while less has been dropped than there are ratings. -/
theorem Averaged.tracksMean_iff (averaged : Averaged past w) :
    TracksMean agentNonce (ratingsOf agentNonce past) w ↔
      ratingsOf agentNonce past = [] ∨ (RunningMean.of (ratingsOf agentNonce past)).dropped <
        (ratingsOf agentNonce past).length := by
  have counted := averaged.counted agentNonce
  have score := averaged.score agentNonce
  generalize ratingsOf agentNonce past = ratings at *
  by_cases none : ratings = []
  · subst none
    refine iff_of_true ⟨counted, ?_⟩ (.inl rfl)
    rw [score]
    simp [RunningMean.of, mean]
  · have close := RunningMean.close_iff none
    rw [← score] at close
    rw [or_iff_right none]
    constructor
    · intro tracks
      exact close.mp tracks.close
    · intro kept
      exact ⟨counted, close.mpr kept⟩

theorem TracksMean.apart {other : World} {ratings ratings' : List Nat} {agentNonce' : Nat}
    (tracks : TracksMean agentNonce ratings w) (tracks' : TracksMean agentNonce' ratings' other)
    (same : mean ratings = mean ratings') :
    w.reputationScore agentNonce ≤ other.reputationScore agentNonce' + 1 := by
  obtain ⟨_, above⟩ := abs_lt.mp tracks.close
  obtain ⟨below, _⟩ := abs_lt.mp tracks'.close
  have apart : (w.reputationScore agentNonce : ℚ) < other.reputationScore agentNonce' + 2 := by
    rw [same] at above
    linarith
  have apart' : w.reputationScore agentNonce < other.reputationScore agentNonce' + 2 := by
    exact_mod_cast apart
  exact Nat.le_of_lt_succ apart'

/-! ## Steady ratings -/

/-- Ratings of at most 100 that have dropped less than one each. -/
structure Kept (ratings : List Nat) : Prop where
  bounded : ∀ rating ∈ ratings, rating ≤ 100
  lost : ratings = [] ∨ (RunningMean.of ratings).dropped < ratings.length

theorem Kept.dropped_of_highest {ratings : List Nat} (kept : Kept ratings)
    (highest : (RunningMean.of ratings).value = 100) : (RunningMean.of ratings).dropped = 0 := by
  have parts := RunningMean.sum_eq ratings
  have total : ratings.sum ≤ ratings.length * 100 := by
    simpa using List.sum_le_card_nsmul ratings 100 kept.bounded
  rw [highest] at parts
  omega

theorem Kept.concat {ratings : List Nat} {rating : Nat} (kept : Kept ratings) (bounded : rating ≤ 100)
    (steady : SteadyAt (RunningMean.of ratings).value ratings.length rating) :
    Kept (ratings ++ [rating]) := by
  constructor
  · intro other member
    rcases List.mem_append.mp member with earlier | last
    · exact kept.bounded other earlier
    · rw [List.mem_singleton.mp last]
      exact bounded
  · right
    have less : ((RunningMean.of ratings).value * ratings.length + rating) % (ratings.length + 1) <
      ratings.length + 1 := Nat.mod_lt _ (Nat.succ_pos _)
    rw [RunningMean.dropped_concat, List.length_append, List.length_singleton]
    rcases steady with highest | steady
    · have nothing := kept.dropped_of_highest highest
      omega
    · rcases kept.lost with rfl | lost
      · exact Nat.lt_of_le_of_lt (Nat.le_of_eq (Nat.zero_add _)) less
      · omega

theorem kept_step (averaged : Averaged past w) (kept : ∀ agentNonce, Kept (ratingsOf agentNonce past))
    (steady : Steady w move) (stepped : step chain w move = .ok next) (agentNonce : Nat) :
    Kept (ratingsOf agentNonce (past ++ [move])) := by
  cases step_change stepped with
  | @rated validations call jobId rated' rating _ _ _ =>
      rw [ratingsOf_rated]
      obtain ⟨bounded, steady⟩ := steady
      rw [averaged.score, averaged.counted] at steady
      by_cases same : rated' = agentNonce
      · subst same
        rw [if_pos rfl]
        exact (kept rated').concat bounded steady
      · rw [if_neg same, List.append_nil]
        exact kept agentNonce
  | same silent _ =>
      rw [ratingsOf_silent silent]
      exact kept agentNonce

theorem kept_run (deployed : Deployed start) (trace : Trace (step chain) Steady start steps final) :
    ∀ agentNonce, Kept (ratingsOf agentNonce steps) := by
  have fresh : Averaged [] start ∧ ∀ agentNonce, Kept (ratingsOf agentNonce []) :=
    ⟨deployed.averaged, fun _ => ⟨by simp [ratingsOf], .inl rfl⟩⟩
  have kept := trace.history_allowed
    (fun past w => Averaged past w ∧ ∀ agentNonce, Kept (ratingsOf agentNonce past))
    (fun _ _ _ _ steady both stepped =>
      ⟨both.1.step stepped, kept_step both.1 both.2 steady stepped⟩) fresh
  rw [List.nil_append] at kept
  exact kept.2

theorem tracksMean_of_steady (deployed : Deployed start)
    (trace : Trace (step chain) Steady start steps final) (agentNonce : Nat) :
    TracksMean agentNonce (ratingsOf agentNonce steps) final :=
  (averaged_run deployed trace).tracksMean_iff.mpr (kept_run deployed trace agentNonce).lost

/-! ## No other condition on the score and the jobs will do -/

/-- The call by which an employer rates an agent for a job that nobody has rated. -/
def rates (jobId : Bytes) (agentNonce rating : Nat) : Step :=
  .giveFeedbackSimple
    (fun _ =>
      { Validation.init (.fill 2) with
        jobData := Cells.empty.set jobId ⟨.pending, [], .fill 1, 0, agentNonce⟩ })
    { caller := .fill 1
      egldValue := 0
      esdtTransfers := []
      blockTimestamp := 0
      blockRound := 0
      blockRandomSeed := []
      gasLeft := 0 } jobId agentNonce rating

theorem rates_succeeds (chain : Chain) {jobId : Bytes} (fresh : w.hasGivenFeedback jobId = false)
    (room : (w.totalJobs agentNonce).toNat + 1 < 2 ^ 64) (rating : Nat) :
    ∃ next, step chain w (rates jobId agentNonce rating) = .ok next := by
  have counted : (w.totalJobs agentNonce + 1).toNat = (w.totalJobs agentNonce).toNat + 1 := by
    rw [UInt64.toNat_add]
    exact Nat.mod_eq_of_lt room
  have delivered : CallContext.Delivered chain
      { caller := .fill 1, egldValue := 0, esdtTransfers := [], blockTimestamp := 0, blockRound := 0,
        blockRandomSeed := [], gasLeft := 0 } := ⟨by decide, by simp, by simp⟩
  simp [rates, step, delivered, CallContext.notPayable, giveFeedbackSimple, World.externalJob,
    Validation.World.job, calculateNewScore, fresh, counted, bigUintDiv, ensure, require,
    Bind.bind, Except.bind, pure, Except.pure]

/-- A run of steady ratings that gives an agent these, and after which not all jobs have been
rated. -/
structure Reaches (chain : Chain) (start : World) (agentNonce : Nat) (ratings : List Nat)
    (steps : List Step) (w : World) : Prop where
  trace : Trace (step chain) Steady start steps w
  same : ratingsOf agentNonce steps = ratings
  free : ∀ id, ratings.length ≤ id → w.hasGivenFeedback (natBytes id) = false

theorem Reaches.extend {ratings : List Nat} {rating : Nat} (deployed : Deployed start)
    (reaches : Reaches chain start agentNonce ratings steps w) (room : ratings.length + 1 < 2 ^ 64)
    (bounded : rating ≤ 100)
    (steady : SteadyAt (RunningMean.of ratings).value ratings.length rating) :
    ∃ move next, Reaches chain start agentNonce (ratings ++ [rating]) (steps ++ [move]) next := by
  obtain ⟨trace, same, free⟩ := reaches
  have averaged := averaged_run deployed trace
  have counted := averaged.counted agentNonce
  rw [same] at counted
  obtain ⟨next, stepped⟩ := rates_succeeds chain (free ratings.length (Nat.le_refl _))
    (counted ▸ room) rating
  have allowed : Steady w (rates (natBytes ratings.length) agentNonce rating) := by
    refine ⟨bounded, ?_⟩
    rw [averaged.score, counted, same]
    exact steady
  refine ⟨_, next, trace.concat allowed stepped, ?_, ?_⟩
  · rw [rates, ratingsOf_rated, if_pos rfl, same]
  · intro id later
    rw [List.length_append, List.length_singleton] at later
    cases step_change stepped with
    | rated rated =>
        have other : natBytes id ≠ natBytes ratings.length := fun equal =>
          absurd (natBytes_injective equal) (by omega)
        rw [rated.given, Function.update_of_ne other]
        exact free id (by omega)
    | same silent _ => simpa [rates, Step.rates] using silent (natBytes ratings.length)

/-- A score below the highest can have lost one with every job but the first. -/
theorem exists_climbing (chain : Chain) (deployed : Deployed start) (agentNonce jobs : Nat)
    {score : Nat} (below : score < 100) (room : jobs + 1 < 2 ^ 64) :
    ∃ steps w, Reaches chain start agentNonce (score :: List.replicate jobs (score + 1)) steps w := by
  induction jobs with
  | zero =>
      have empty : Reaches chain start agentNonce [] [] start := by
        refine ⟨.nil _, rfl, ?_⟩
        obtain ⟨_, _, rfl⟩ := deployed
        intro _ _
        rfl
      obtain ⟨move, next, reaches⟩ := empty.extend deployed room (Nat.le_of_lt below)
        (.inr (by simp [Nat.mod_one]))
      exact ⟨_, next, reaches⟩
  | succ jobs inductionHypothesis =>
      obtain ⟨steps, w, reaches⟩ := inductionHypothesis (by omega)
      have one : (score * (jobs + 1) + (score + 1)) % (jobs + 2) ≤ 1 := by
        have weighted : score * (jobs + 1) + (score + 1) = 1 + (jobs + 2) * score := by ring
        rw [weighted, Nat.add_mul_mod_self_left]
        exact Nat.mod_le _ _
      have steady : SteadyAt (RunningMean.of (score :: List.replicate jobs (score + 1))).value
          (score :: List.replicate jobs (score + 1)).length (score + 1) := by
        rw [RunningMean.of_climbing, List.length_cons, List.length_replicate]
        exact .inr one
      obtain ⟨move, next, reaches⟩ := reaches.extend deployed
        (by rw [List.length_cons, List.length_replicate]; exact room) below steady
      rw [List.cons_append, ← List.replicate_succ'] at reaches
      exact ⟨_, next, reaches⟩

/-- A rating that is not steady loses the mean after some run of steady ones. -/
theorem exists_lost (chain : Chain) (deployed : Deployed start) (agentNonce : Nat)
    {score jobs rating : Nat} (within : score ≤ 100) (room : jobs + 1 < 2 ^ 64)
    (unsteady : ¬SteadyAt score jobs rating) :
    ∃ past move before after, Trace (step chain) Steady start past before ∧
      before.reputationScore agentNonce = score ∧
      (before.totalJobs agentNonce).toNat = jobs ∧ move.rating? agentNonce = some rating ∧
      step chain before move = .ok after ∧
      ¬TracksMean agentNonce (ratingsOf agentNonce (past ++ [move])) after := by
  obtain ⟨below, dropped⟩ := not_or.mp unsteady
  cases jobs with
  | zero =>
      rw [Nat.zero_add, Nat.mod_one] at dropped
      exact absurd (Nat.zero_le 1) dropped
  | succ jobs =>
      obtain ⟨past, before, reaches⟩ := exists_climbing chain deployed agentNonce jobs
        (Nat.lt_of_le_of_ne within below) (by omega)
      obtain ⟨trace, same, free⟩ := reaches
      have averaged := averaged_run deployed trace
      have score' := averaged.score agentNonce
      have counted := averaged.counted agentNonce
      rw [same, RunningMean.of_climbing] at score'
      rw [same, List.length_cons, List.length_replicate] at counted
      obtain ⟨after, stepped⟩ := rates_succeeds chain (free _ (Nat.le_refl _))
        (counted ▸ room) rating
      refine ⟨past, _, before, after, trace, score', counted,
        by simp [rates, Step.rating?], stepped, ?_⟩
      rw [(averaged.step stepped).tracksMean_iff, rates, ratingsOf_rated, if_pos rfl, same,
        RunningMean.dropped_concat, RunningMean.of_climbing]
      simp only [List.length_append, List.length_cons, List.length_replicate, List.length_nil]
      rintro (empty | less)
      · simp at empty
      · omega

/-- After any run of steady ratings the score of an agent tracks the mean of its ratings, and
the same ratings in another order give a score that is at most one away. Whether a rating
is steady depends on the score and the number of jobs before it, and it is exactly if the
mean is tracked after it whatever steady ratings led to them. -/
theorem mean_tracked (deployed : Deployed start)
    (trace : Trace (step chain) Steady start steps final) (agentNonce : Nat) :
    TracksMean agentNonce (ratingsOf agentNonce steps) final ∧
      (∀ {start' final' : World} {steps' : List Step}, Deployed start' →
        Trace (step chain) Steady start' steps' final' →
        (ratingsOf agentNonce steps').Perm (ratingsOf agentNonce steps) →
        final.reputationScore agentNonce ≤ final'.reputationScore agentNonce + 1 ∧
          final'.reputationScore agentNonce ≤ final.reputationScore agentNonce + 1) ∧
      ∀ score jobs rating, score ≤ 100 → rating ≤ 100 → jobs + 1 < 2 ^ 64 →
        (SteadyAt score jobs rating ↔ ∀ past move before after,
          Trace (step chain) Steady start past before →
          before.reputationScore agentNonce = score →
          (before.totalJobs agentNonce).toNat = jobs → move.rating? agentNonce = some rating →
          step chain before move = .ok after →
          TracksMean agentNonce (ratingsOf agentNonce (past ++ [move])) after) := by
  have tracks := tracksMean_of_steady deployed trace agentNonce
  refine ⟨tracks, ?_, ?_⟩
  · intro start' final' steps' deployed' trace' permuted
    have tracks' := tracksMean_of_steady deployed' trace' agentNonce
    have means : mean (ratingsOf agentNonce steps) = mean (ratingsOf agentNonce steps') := by
      unfold mean
      rw [permuted.sum_eq, permuted.length_eq]
    exact ⟨tracks.apart tracks' means, tracks'.apart tracks means.symm⟩
  · intro score jobs rating within bounded room
    constructor
    · rintro steady past move before after reached rfl rfl given stepped
      refine tracksMean_of_steady deployed (reached.concat ?_ stepped) agentNonce
      cases move with
      | giveFeedbackSimple _ _ _ rated rating' =>
          by_cases same : rated = agentNonce
          · subst same
            obtain rfl := Option.some.inj ((if_pos rfl).symm.trans given)
            exact ⟨bounded, steady⟩
          · simp [Step.rating?, same] at given
      | _ => trivial
    · intro always
      by_contra unsteady
      obtain ⟨past, move, before, after, reached, score', counted, given, stepped, lost⟩ :=
        exists_lost chain deployed agentNonce within room unsteady
      exact lost (always past move before after reached score' counted given stepped)

namespace Sample

def threeJobs : Validations := fun _ =>
  { Validation.init (.fill 40) with
    jobData := [7, 8, 9].foldl (fun jobs id => jobs.set [id] ⟨.pending, [9], carol, 1000, 1⟩)
      Cells.empty }

def ratesJobs (ratings : List Nat) : List Step :=
  ([7, 8, 9].zip ratings).map fun (id, rating) =>
    .giveFeedbackSimple threeJobs (Identity.Sample.agentCall carol []) [id] 1 rating

end Sample

theorem mean_tracked_sample :
    ∃ final, Trace (step sampleChain) Steady (init (.fill 41) (.fill 40))
        (Sample.ratesJobs [80, 61, 100]) final ∧ final.reputationScore 1 = 80 ∧
      TracksMean 1 [80, 61, 100] final := by
  obtain ⟨final, trace, score⟩ := Trace.of_runChecked (step sampleChain) Steady
    (init (.fill 41) (.fill 40)) (Sample.ratesJobs [80, 61, 100])
    (fun final => final.reputationScore 1 = 80) (by decide +kernel)
  have ratings : ratingsOf 1 (Sample.ratesJobs [80, 61, 100]) = [80, 61, 100] := by decide +kernel
  have tracked := (mean_tracked ⟨_, _, rfl⟩ trace 1).1
  rw [ratings] at tracked
  exact ⟨final, trace, score, tracked⟩

/-- Ratings of 0, 1 and 2 leave a score of 0, and their mean is 1. -/
theorem mean_lost :
    ∃ final, Trace (step sampleChain) (fun _ _ => True) (init (.fill 41) (.fill 40))
        (Sample.ratesJobs [0, 1, 2]) final ∧ final.reputationScore 1 = 0 ∧
      ratingsOf 1 (Sample.ratesJobs [0, 1, 2]) = [0, 1, 2] ∧ mean [0, 1, 2] = 1 ∧
      ¬TracksMean 1 [0, 1, 2] final := by
  obtain ⟨final, trace, score⟩ := Trace.of_runChecked (step sampleChain) (fun _ _ => True)
    (init (.fill 41) (.fill 40)) (Sample.ratesJobs [0, 1, 2])
    (fun final => final.reputationScore 1 = 0) (by decide +kernel)
  have exactMean : mean [0, 1, 2] = 1 := by norm_num [mean]
  refine ⟨final, trace, score, by decide +kernel, exactMean, ?_⟩
  intro tracks
  have close := tracks.close
  rw [score, exactMean] at close
  norm_num at close

end XCron.Agents.Reputation
