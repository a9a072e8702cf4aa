import XCron.Agents.Custody
import XCron.Agents.MeanRating
import XCron.Agents.Verification
import XCron.Platform.Components

/-!
# What a price rests on

The validation registry, the reputation registry and the marketplace on one chain, each
reading the storage of the one before it: a sale is at the fair value, the fair value comes
from the ratings of the agent, and every rating is by someone who opened the job it is for.
-/

namespace XCron.Agents

open Platform

/-! ## The three contracts -/

structure Chains where
  validation : Chain
  reputation : Chain
  marketplace : Chain

structure System where
  validation : Validation.World
  reputation : Reputation.World
  marketplace : Marketplace.World

namespace System

inductive Step where
  | validation (move : Validation.Step)
  | reputation (move : Reputation.Step)
  | marketplace (move : Marketplace.Step)

def step (chains : Chains) (s : System) : Step → Outcome System
  | .validation move => do
      let validation ← Validation.step chains.validation s.validation move
      pure { s with validation := validation }
  | .reputation move => do
      let reputation ← Reputation.step chains.reputation s.reputation move
      pure { s with reputation := reputation }
  | .marketplace move => do
      let marketplace ← Marketplace.step chains.marketplace s.marketplace move
      pure { s with marketplace := marketplace }

/-- A call reads the other contracts as they are then, and the reputation registry is not
pointed at another validation registry. -/
def Reads (chains : Chains) (s : System) : Step → Prop
  | .reputation (.giveFeedbackSimple validations _ _ _ _) =>
      validations chains.validation.scAddress = s.validation
  | .reputation (.appendResponse validations _ _ _) =>
      validations chains.validation.scAddress = s.validation
  | .reputation (.configure _ (.setValidationContractAddress address)) =>
      address = chains.validation.scAddress
  | .marketplace (.buyAgent reputations _ _) =>
      reputations chains.reputation.scAddress = s.reputation
  | _ => True

/-- The contracts have just been deployed, and know each other. -/
structure Deployed (chains : Chains) (s : System) : Prop where
  validation : Validation.Deployed s.validation
  reputation : Reputation.Deployed s.reputation
  marketplace : Marketplace.Deployed chains.marketplace s.marketplace
  readsJobs : s.reputation.validationContractAddress = chains.validation.scAddress
  readsScores : s.marketplace.reputationRegistryAddress = chains.reputation.scAddress

def Step.reputation? : Step → Option Reputation.Step
  | .reputation move => some move
  | _ => none

variable {chains : Chains} {s next : System} {past steps : List Step} {taken : Step}

theorem step_cases (stepped : step chains s taken = .ok next) :
    (∃ move validation, taken = .validation move ∧
      Validation.step chains.validation s.validation move = .ok validation ∧
      next = { s with validation := validation }) ∨
    (∃ move reputation, taken = .reputation move ∧
      Reputation.step chains.reputation s.reputation move = .ok reputation ∧
      next = { s with reputation := reputation }) ∨
    ∃ move marketplace, taken = .marketplace move ∧
      Marketplace.step chains.marketplace s.marketplace move = .ok marketplace ∧
      next = { s with marketplace := marketplace } := by
  cases taken with
  | validation move =>
      simp only [step, Outcome.bind_eq_ok, Outcome.pure_eq_ok] at stepped
      obtain ⟨validation, moved, rfl⟩ := stepped
      exact .inl ⟨move, validation, rfl, moved, rfl⟩
  | reputation move =>
      simp only [step, Outcome.bind_eq_ok, Outcome.pure_eq_ok] at stepped
      obtain ⟨reputation, moved, rfl⟩ := stepped
      exact .inr (.inl ⟨move, reputation, rfl, moved, rfl⟩)
  | marketplace move =>
      simp only [step, Outcome.bind_eq_ok, Outcome.pure_eq_ok] at stepped
      obtain ⟨marketplace, moved, rfl⟩ := stepped
      exact .inr (.inr ⟨move, marketplace, rfl, moved, rfl⟩)

def reputationComponent (chains : Chains) :
    Component (step chains) (Reputation.step chains.reputation) where
  part := System.reputation
  own := Step.reputation?
  acts := by
    intro state next taken move owned stepped
    rcases step_cases stepped with ⟨_, _, rfl, _, rfl⟩ | ⟨_, _, rfl, moved, rfl⟩ |
      ⟨_, _, rfl, _, rfl⟩
    · cases owned
    · cases owned
      exact moved
    · cases owned
  rests := by
    intro state next taken other stepped
    rcases step_cases stepped with ⟨_, _, rfl, _, rfl⟩ | ⟨_, _, rfl, _, rfl⟩ | ⟨_, _, rfl, _, rfl⟩
    · rfl
    · cases other
    · rfl

/-! ## What the history says -/

def Opens (jobId : Bytes) (employer : Address) (past : List Step) : Prop :=
  ∃ registries opener now agentNonce serviceId,
    .validation (.initJob registries opener now jobId agentNonce serviceId) ∈ past ∧
      opener.caller = employer

def Step.relists (nonce : Nat) : Step → Bool
  | .marketplace move => move.lists nonce || move.settles nonce
  | _ => false

/-- The seller brought the NFT with these terms, and that listing still stands. -/
def Lists (nonce : Nat) (seller : Address) (netMonthlyEarnings : Nat)
    (expectedAprBasisPoints : UInt32) (token : TokenIdentifier) (past : List Step) : Prop :=
  ∃ front listing since,
    past = front ++ .marketplace (.listAgent listing netMonthlyEarnings expectedAprBasisPoints) ::
      since ∧
    listing.caller = seller ∧ listing.esdtTransfers = [⟨token, nonce, 1⟩] ∧
    ∀ taken ∈ since, taken.relists nonce = false

theorem Opens.append {jobId : Bytes} {employer : Address} (opens : Opens jobId employer past)
    (later : List Step) : Opens jobId employer (past ++ later) := by
  obtain ⟨registries, opener, now, agentNonce, serviceId, member, caller⟩ := opens
  exact ⟨registries, opener, now, agentNonce, serviceId, List.mem_append_left _ member, caller⟩

theorem Lists.concat {nonce netMonthlyEarnings : Nat} {seller : Address}
    {expectedAprBasisPoints : UInt32} {token : TokenIdentifier}
    (lists : Lists nonce seller netMonthlyEarnings expectedAprBasisPoints token past)
    (other : taken.relists nonce = false) :
    Lists nonce seller netMonthlyEarnings expectedAprBasisPoints token (past ++ [taken]) := by
  obtain ⟨front, listing, since, rfl, caller, brought, still⟩ := lists
  refine ⟨front, listing, since ++ [taken], by simp, caller, brought, ?_⟩
  intro later member
  rcases List.mem_append.mp member with before | last
  · exact still later before
  · rw [List.mem_singleton.mp last]
    exact other

/-- Every job was opened by its employer, and every listing has the terms that its seller
asked for. -/
structure Backed (chains : Chains) (past : List Step) (s : System) : Prop where
  readsJobs : s.reputation.validationContractAddress = chains.validation.scAddress
  readsScores : s.marketplace.reputationRegistryAddress = chains.reputation.scAddress
  agentToken : s.marketplace.agentNftTokenId ≠ egldTokenId
  opened : ∀ jobId job, s.validation.jobData.get? jobId = some job → Opens jobId job.employer past
  listed : ∀ nonce seller, s.marketplace.listings.get? nonce = some seller →
    Lists nonce seller (s.marketplace.listingEarnings nonce) (s.marketplace.listingApr nonce)
      s.marketplace.agentNftTokenId past

theorem Deployed.backed (deployed : Deployed chains s) : Backed chains [] s := by
  obtain ⟨identity, fresh⟩ := deployed.validation
  obtain ⟨_, _, _, _, agentToken, _, empty⟩ := deployed.marketplace
  refine ⟨deployed.readsJobs, deployed.readsScores, ?_, ?_, ?_⟩
  · rw [← empty]
    exact agentToken
  · intro jobId job found
    rw [← fresh] at found
    simp [Validation.init] at found
  · intro nonce seller found
    rw [← empty] at found
    simp [Marketplace.init] at found

theorem opened_step {chain : Chain} {w after : Validation.World} {move : Validation.Step}
    (stepped : Validation.step chain w move = .ok after) {jobId : Bytes} {job : JobData}
    (found : after.jobData.get? jobId = some job) :
    (∃ old, w.jobData.get? jobId = some old ∧ old.employer = job.employer) ∨
      Opens jobId job.employer [.validation move] := by
  cases Validation.step_change stepped with
  | @opened registries call now opened agentNonce serviceId _ jobs _ =>
      rw [jobs] at found
      rcases Cells.of_get?_set found with ⟨rfl, rfl⟩ | ⟨_, found⟩
      · exact .inr ⟨_, _, _, _, _, List.mem_singleton_self _, rfl⟩
      · exact .inl ⟨job, found, rfl⟩
  | @proved _ proved old proof _ _ _ present jobs _ =>
      rw [jobs] at found
      rcases Cells.of_get?_set found with ⟨rfl, rfl⟩ | ⟨_, found⟩
      · exact .inl ⟨old, present, rfl⟩
      · exact .inl ⟨job, found, rfl⟩
  | @nominated _ _ _ _ _ _ old _ present _ _ jobs _ =>
      rw [jobs] at found
      rcases Cells.of_get?_set found with ⟨rfl, rfl⟩ | ⟨_, found⟩
      · exact .inl ⟨old, present, rfl⟩
      · exact .inl ⟨job, found, rfl⟩
  | answered _ _ jobs _ =>
      rcases jobs jobId job found with kept | ⟨_, old, present, rfl⟩
      · exact .inl ⟨job, kept, rfl⟩
      · exact .inl ⟨old, present, rfl⟩
  | unsettled _ unsettled => exact .inl ⟨job, unsettled.jobs jobId job found, rfl⟩

theorem listed_step {chain : Chain} {w after : Marketplace.World} {move : Marketplace.Step}
    (agentToken : w.agentNftTokenId ≠ egldTokenId)
    (stepped : Marketplace.step chain w move = .ok after) :
    after.agentNftTokenId = w.agentNftTokenId ∧
      after.reputationRegistryAddress = w.reputationRegistryAddress ∧
      ∀ nonce seller, after.listings.get? nonce = some seller →
        (w.listings.get? nonce = some seller ∧
          after.listingEarnings nonce = w.listingEarnings nonce ∧
          after.listingApr nonce = w.listingApr nonce ∧
          (Step.marketplace move).relists nonce = false) ∨
        ∃ call, move = .listAgent call (after.listingEarnings nonce) (after.listingApr nonce) ∧
          call.caller = seller ∧ call.esdtTransfers = [⟨w.agentNftTokenId, nonce, 1⟩] := by
  cases Marketplace.step_change agentToken stepped with
  | @listed call netMonthlyEarnings expectedAprBasisPoints brought _ listed =>
      rw [listed.written]
      refine ⟨rfl, rfl, ?_⟩
      intro nonce seller found
      rcases Cells.of_get?_set found with ⟨rfl, rfl⟩ | ⟨different, found⟩
      · dsimp only
        rw [Function.update_self, Function.update_self]
        exact .inr ⟨call, rfl, rfl, listed.brought⟩
      · dsimp only
        rw [Function.update_of_ne different, Function.update_of_ne different]
        refine .inl ⟨found, rfl, rfl, ?_⟩
        simp [Step.relists, Marketplace.Step.lists, Marketplace.Step.settles, listed.brought,
          Ne.symm different]
  | @settled _ _ ended _ settled released =>
      rw [settled.written]
      refine ⟨rfl, rfl, ?_⟩
      intro nonce seller found
      by_cases same : nonce = ended
      · subst same
        simp [Marketplace.World.clearListing] at found
      · refine .inl ⟨Cells.get?_of_clear found, ?_, ?_, ?_⟩
        · exact Function.update_of_ne same _ _
        · exact Function.update_of_ne same _ _
        · cases released <;>
            simp [Step.relists, Marketplace.Step.lists, Marketplace.Step.settles, Ne.symm same]
  | moved silent written _ =>
      rw [written]
      refine ⟨rfl, rfl, fun nonce seller found => .inl ⟨found, rfl, rfl, ?_⟩⟩
      simp [Step.relists, silent nonce]

theorem readsJobs_step {chain : Chain} {w after : Reputation.World} {move : Reputation.Step}
    (stepped : Reputation.step chain w move = .ok after) :
    after.validationContractAddress = w.validationContractAddress ∨
      ∃ call, move = .configure call (.setValidationContractAddress after.validationContractAddress) := by
  cases move with
  | giveFeedbackSimple validations call jobId agentNonce rating =>
      simp only [Reputation.step, Reputation.giveFeedbackSimple, Reputation.calculateNewScore,
        Outcome.bind_eq_ok, Outcome.pure_eq_ok] at stepped
      obtain ⟨_, _, _, _, _, _, _, _, _, _, _, ⟨_, _, _, _, rfl⟩, rfl⟩ := stepped
      exact .inl rfl
  | giveFeedback registries call agentNonce feedback =>
      simp only [Reputation.step, Reputation.giveFeedback, Outcome.bind_eq_ok, Outcome.pure_eq_ok]
        at stepped
      obtain ⟨_, _, _, _, _, _, _, _, rfl⟩ := stepped
      exact .inl rfl
  | revokeFeedback call agentNonce feedbackIndex =>
      simp only [Reputation.step, Reputation.revokeFeedback, Outcome.bind_eq_ok] at stepped
      obtain ⟨_, _, _, _, stepped⟩ := stepped
      split at stepped
      · cases stepped
      · simp only [Outcome.bind_eq_ok, Outcome.pure_eq_ok] at stepped
        obtain ⟨_, _, rfl⟩ := stepped
        exact .inl rfl
  | appendResponse validations call jobId responseUri =>
      simp only [Reputation.step, Reputation.appendResponse, Outcome.bind_eq_ok,
        Outcome.pure_eq_ok] at stepped
      obtain ⟨_, _, _, _, _, _, rfl⟩ := stepped
      exact .inl rfl
  | configure call change =>
      simp only [Reputation.step, Outcome.bind_eq_ok, Outcome.pure_eq_ok] at stepped
      obtain ⟨_, _, _, _, _, _, rfl⟩ := stepped
      cases change with
      | setValidationContractAddress address => exact .inr ⟨call, rfl⟩
      | setIdentityContractAddress address => exact .inl rfl
      | upgrade => exact .inl rfl

/-- What one step keeps. -/
theorem Backed.step (backed : Backed chains past s) (reads : Reads chains s taken)
    (stepped : System.step chains s taken = .ok next) : Backed chains (past ++ [taken]) next := by
  have opened := fun jobId job found => (backed.opened jobId job found).append [taken]
  have listed := fun nonce seller found (other : taken.relists nonce = false) =>
    (backed.listed nonce seller found).concat other
  rcases step_cases stepped with ⟨move, after, rfl, moved, rfl⟩ | ⟨move, after, rfl, moved, rfl⟩ |
    ⟨move, after, rfl, moved, rfl⟩
  · refine ⟨backed.readsJobs, backed.readsScores, backed.agentToken, ?_,
      fun nonce seller found => listed nonce seller found rfl⟩
    intro jobId job found
    rcases opened_step moved found with ⟨old, present, same⟩ | opens
    · rw [← same]
      exact opened jobId old present
    · obtain ⟨registries, opener, now, agentNonce, serviceId, member, caller⟩ := opens
      exact ⟨registries, opener, now, agentNonce, serviceId, List.mem_append_right _ member, caller⟩
  · refine ⟨?_, backed.readsScores, backed.agentToken, opened,
      fun nonce seller found => listed nonce seller found rfl⟩
    rcases readsJobs_step moved with same | ⟨call, rfl⟩
    · exact same.trans backed.readsJobs
    · exact reads
  · obtain ⟨token, address, terms⟩ := listed_step backed.agentToken moved
    refine ⟨backed.readsJobs, address.trans backed.readsScores, ?_, opened, ?_⟩
    · rw [token]
      exact backed.agentToken
    · intro nonce seller found
      dsimp only at found ⊢
      rw [token]
      rcases terms nonce seller found with ⟨present, earnings, apr, other⟩ |
        ⟨listing, same, caller, brought⟩
      · rw [earnings, apr]
        exact listed nonce seller present other
      · exact ⟨past, listing, [], by rw [← same], caller, brought, by simp⟩

theorem Deployed.run {start : System} (deployed : Deployed chains start)
    (trace : Trace (System.step chains) (Reads chains) start past s) : Backed chains past s := by
  have backed : Backed chains ([] ++ past) s :=
    trace.history_allowed (Backed chains)
      (fun _ _ _ _ reads backed stepped => backed.step reads stepped) deployed.backed
  exact backed

/-! ## Ratings -/

def Step.opens? : Step → Option Bytes
  | .validation (.initJob _ _ _ jobId _ _) => some jobId
  | _ => none

def Step.rates? (agentNonce : Nat) : Step → Option Bytes
  | .reputation (.giveFeedbackSimple _ _ jobId rated _) =>
      if rated = agentNonce then some jobId else none
  | _ => none

theorem length_filterMap_rates? (agentNonce : Nat) (steps : List Step) :
    (steps.filterMap (Step.rates? agentNonce)).length =
      (Reputation.ratingsOf agentNonce (steps.filterMap Step.reputation?)).length := by
  unfold Reputation.ratingsOf
  rw [List.filterMap_filterMap, List.length_filterMap_eq_countP, List.length_filterMap_eq_countP]
  apply List.countP_congr
  intro taken _
  cases taken with
  | reputation move =>
      cases move with
      | giveFeedbackSimple _ _ jobId rated _ =>
          by_cases same : rated = agentNonce <;>
            simp [Step.rates?, Step.reputation?, Reputation.Step.rating?, same]
      | _ => rfl
  | _ => rfl

theorem count_filterMap_rates?_le (agentNonce : Nat) (steps : List Step) (jobId : Bytes) :
    (steps.filterMap (Step.rates? agentNonce)).count jobId ≤
      (steps.filterMap Step.reputation?).countP (Reputation.Step.rates jobId) := by
  rw [List.count, List.countP_filterMap, List.countP_filterMap]
  apply List.countP_mono_left
  intro taken _ rated
  cases taken with
  | reputation move =>
      cases move with
      | giveFeedbackSimple _ _ other named _ =>
          by_cases same : named = agentNonce
          · simpa [Step.rates?, Step.reputation?, Reputation.Step.rates, same] using rated
          · simp [Step.rates?, same] at rated
      | _ => exact rated
  | _ => exact rated

theorem Deployed.opens {start final : System} (deployed : Deployed chains start)
    {rest : List Step} {validations : Reputation.Validations} {rater : CallContext} {jobId : Bytes}
    {agentNonce rating : Nat}
    (trace : Trace (System.step chains) (Reads chains) start
      (past ++ .reputation (.giveFeedbackSimple validations rater jobId agentNonce rating) :: rest)
      final) : Opens jobId rater.caller past := by
  obtain ⟨before, after, reached, reads, stepped, _⟩ := trace.at_middle
  have backed := deployed.run reached
  rcases step_cases stepped with ⟨_, _, other, _, _⟩ | ⟨_, _, same, moved, _⟩ | ⟨_, _, other, _, _⟩
  · cases other
  · cases same
    cases Reputation.step_change moved with
    | @rated _ _ _ _ _ job _ rated =>
        have found := rated.found
        unfold Reputation.World.externalJob at found
        rw [backed.readsJobs, reads, Validation.job_eq_ok] at found
        rw [rated.employer]
        exact backed.opened jobId job found
    | same silent _ =>
        have rates := silent jobId
        simp [Reputation.Step.rates] at rates
  · cases other

end System

/-- In a run of the registries together, every rating is by the employer who opened the job
before, no job is rated twice, and no agent has more rated jobs than jobs were opened. -/
theorem ratings_backed {chains : Chains} {start final : System} {steps : List System.Step}
    (deployed : System.Deployed chains start)
    (trace : Trace (System.step chains) (System.Reads chains) start steps final) :
    (∀ past rest validations rater jobId agentNonce rating, steps =
        past ++ .reputation (.giveFeedbackSimple validations rater jobId agentNonce rating) :: rest →
      System.Opens jobId rater.caller past) ∧
    (∀ jobId, (steps.filterMap System.Step.reputation?).countP (Reputation.Step.rates jobId) ≤ 1) ∧
    ∀ agentNonce, (final.reputation.totalJobs agentNonce).toNat ≤
      (steps.filterMap System.Step.opens?).length := by
  have ratings := (System.reputationComponent chains).trace trace
  have once (jobId : Bytes) :
      (steps.filterMap System.Step.reputation?).countP (Reputation.Step.rates jobId) ≤ 1 :=
    Reputation.rated_once deployed.reputation ratings jobId
  have opens : ∀ past rest validations rater jobId agentNonce rating, steps =
      past ++ .reputation (.giveFeedbackSimple validations rater jobId agentNonce rating) :: rest →
        System.Opens jobId rater.caller past := by
    rintro past rest validations rater jobId agentNonce rating rfl
    exact deployed.opens trace
  refine ⟨opens, once, ?_⟩
  intro agentNonce
  have averaged := Reputation.averaged_run deployed.reputation ratings
  have counted : (final.reputation.totalJobs agentNonce).toNat =
      (steps.filterMap (System.Step.rates? agentNonce)).length :=
    (averaged.counted agentNonce).trans (System.length_filterMap_rates? agentNonce steps).symm
  rw [counted]
  have distinct : (steps.filterMap (System.Step.rates? agentNonce)).Nodup := by
    rw [List.nodup_iff_count_le_one]
    intro jobId
    exact (System.count_filterMap_rates?_le agentNonce steps jobId).trans (once jobId)
  apply (List.subperm_of_subset distinct _).length_le
  intro jobId member
  obtain ⟨taken, inside, rates⟩ := List.mem_filterMap.mp member
  obtain ⟨past, rest, rfl⟩ := List.append_of_mem inside
  cases taken with
  | reputation move =>
      cases move with
      | giveFeedbackSimple validations rater rated named rating =>
          have same : rated = jobId := by
            by_cases ours : named = agentNonce
            · simpa [System.Step.rates?, ours] using rates
            · simp [System.Step.rates?, ours] at rates
          obtain ⟨_, _, _, _, _, opening, _⟩ := opens past rest validations rater rated named rating rfl
          rw [← same]
          exact List.mem_filterMap.mpr ⟨_, List.mem_append_left _ opening, rfl⟩
      | _ => cases rates
  | _ => cases rates

/-! ## Prices -/

/-- What a score makes of a base value; an agent without a score has 80. -/
def adjusted (baseValue score : Nat) : Nat := baseValue * (if score = 0 then 80 else score) / 100

theorem evaluateAgentFairValue_eq_ok {w : Reputation.World} {agentNonce netMonthlyEarnings value : Nat}
    {expectedAprBasisPoints : UInt32}
    (evaluated : Reputation.evaluateAgentFairValue agentNonce netMonthlyEarnings
      expectedAprBasisPoints w = .ok value) :
    value = adjusted (Reputation.baseValue netMonthlyEarnings expectedAprBasisPoints)
      (w.reputationScore agentNonce) := by
  simp only [Reputation.evaluateAgentFairValue, Outcome.bind_eq_ok, bigUintDiv_eq_ok] at evaluated
  obtain ⟨_, _, base, ⟨_, rfl⟩, _, rfl⟩ := evaluated
  rfl

/-- A score is the mean of ratings, less what was rounded off; zero if there are none. -/
def Averages (score : Nat) (ratings : List Nat) : Prop :=
  (ratings = [] → score = 0) ∧
    ∃ dropped, ratings.sum = score * ratings.length + dropped ∧
      2 * dropped ≤ ratings.length * (ratings.length - 1)

/-- The sale of an agent: the buyer pays what the stored score makes of the terms of the
standing listing, the seller of that listing gets the price but for the part of the
treasury, and the buyer the NFT. -/
structure Sold (before after : System) (buyer : CallContext) (nonce : Nat) (seller : Address) :
    Prop where
  listed : before.marketplace.listings.get? nonce = some seller
  price : buyer.egldValue =
    adjusted (Reputation.baseValue (before.marketplace.listingEarnings nonce)
      (before.marketplace.listingApr nonce)) (before.reputation.reputationScore nonce)
  sent : after.marketplace.sent = before.marketplace.sent ++
    [⟨buyer.caller, ⟨before.marketplace.agentNftTokenId, nonce, 1⟩⟩] ++
    Marketplace.payout seller (buyer.egldValue - buyer.egldValue * 5 / 100) ++
    Marketplace.payout before.marketplace.treasuryAddress (buyer.egldValue * 5 / 100)

/-- In a run of the contracts together, an agent is sold on the terms of the standing
listing, as its seller, who is paid, asked for them in the run, and at the stored score,
which is the mean of its ratings so far, less what was rounded off. -/
theorem sale_price_backed {chains : Chains} {start final : System} {past rest : List System.Step}
    {reputations : Marketplace.Reputations} {buyer : CallContext} {nonce : Nat}
    (deployed : System.Deployed chains start)
    (trace : Trace (System.step chains) (System.Reads chains) start
      (past ++ .marketplace (.buyAgent reputations buyer nonce) :: rest) final) :
    ∃ before after seller,
      Trace (System.step chains) (System.Reads chains) start past before ∧
      System.step chains before (.marketplace (.buyAgent reputations buyer nonce)) = .ok after ∧
      Sold before after buyer nonce seller ∧
      System.Lists nonce seller (before.marketplace.listingEarnings nonce)
        (before.marketplace.listingApr nonce) before.marketplace.agentNftTokenId past ∧
      Averages (before.reputation.reputationScore nonce)
        (Reputation.ratingsOf nonce (past.filterMap System.Step.reputation?)) := by
  obtain ⟨before, after, reached, reads, stepped, _⟩ := trace.at_middle
  have backed := deployed.run reached
  have ratings := (System.reputationComponent chains).trace reached
  have averages : Averages (before.reputation.reputationScore nonce)
      (Reputation.ratingsOf nonce (past.filterMap System.Step.reputation?)) := by
    refine ⟨?_, Reputation.score_below_mean deployed.reputation ratings nonce⟩
    intro unrated
    have averaged := Reputation.averaged_run deployed.reputation ratings
    calc before.reputation.reputationScore nonce
        = (RunningMean.of (Reputation.ratingsOf nonce
            (past.filterMap System.Step.reputation?))).value := averaged.score nonce
      _ = 0 := by rw [unrated]; rfl
  refine ⟨before, after, ?_⟩
  rcases System.step_cases stepped with ⟨_, _, other, _, _⟩ | ⟨_, _, other, _, _⟩ |
    ⟨_, _, same, moved, rfl⟩
  · cases other
  · cases other
  · cases same
    cases Marketplace.buyAgent_change moved with
    | settled settled released =>
        cases released with
        | @sold _ _ seller fairValue _ listed valued paid _ sent =>
            refine ⟨seller, reached, stepped, ⟨listed, ?_, ?_⟩, backed.listed nonce seller listed,
              averages⟩
            · unfold Marketplace.World.fairValue at valued
              rw [backed.readsScores, reads] at valued
              rw [paid]
              exact evaluateAgentFairValue_eq_ok valued
            · rw [paid]
              exact sent
    | moved silent _ _ =>
        have settles := (silent nonce).2
        simp [Marketplace.Step.settles] at settles

namespace Sample

def contracts : Chains where
  validation := { sampleChain with scAddress := .fill 41 }
  reputation := { sampleChain with scAddress := .fill 50 }
  marketplace := sampleChain

def deployed : System where
  validation := Validation.init (.fill 40)
  reputation := Reputation.init (.fill 41) (.fill 40)
  marketplace := Marketplace.Sample.deployed

def after (s : System) (taken : System.Step) : System :=
  match System.step contracts s taken with
  | .ok next => next
  | .error _ => s

theorem step_after {s : System} {taken : System.Step}
    (succeeds : endsIn (fun _ => True) (System.step contracts s taken) = true) :
    System.step contracts s taken = .ok (after s taken) := by
  obtain ⟨next, stepped, _⟩ := endsIn_iff.mp succeeds
  rw [after, stepped]

def opening : System.Step :=
  .validation (.initJob (fun _ => Validation.Sample.identity)
    (Validation.Sample.call Validation.Sample.carol) 1000 Validation.Sample.carolsJob 1 none)

def opened : System := after deployed opening

def rating : System.Step :=
  .reputation (.giveFeedbackSimple (fun _ => opened.validation)
    (Validation.Sample.call Validation.Sample.carol) Validation.Sample.carolsJob 1 90)

def rated : System := after opened rating

def listing : System.Step :=
  .marketplace (.listAgent (Identity.Sample.shows Identity.Sample.alice) 100 1200)

def listed : System := after rated listing

def buyer : CallContext := { Identity.Sample.agentCall Identity.Sample.bob [] with egldValue := 9000 }

def sale : System.Step := .marketplace (.buyAgent (fun _ => listed.reputation) buyer 1)

theorem deployed_contracts : System.Deployed contracts deployed where
  validation := ⟨_, rfl⟩
  reputation := ⟨_, _, rfl⟩
  marketplace := by
    refine ⟨_, _, _, _, ?_, ?_, rfl⟩
    · decide +kernel
    · intro nonce
      split
      · decide
      · intro same
        cases same
  readsJobs := rfl
  readsScores := rfl

theorem run : Trace (System.step contracts) (System.Reads contracts) deployed
    ([opening, rating, listing] ++ sale :: []) (after listed sale) :=
  .cons trivial (step_after (by decide +kernel)) (.cons rfl (step_after (by decide +kernel))
    (.cons trivial (step_after (by decide +kernel)) (.cons rfl (step_after (by decide +kernel))
      (.nil _))))

end Sample

theorem ratings_backed_sample :
    System.Opens Validation.Sample.carolsJob Validation.Sample.carol [Sample.opening] ∧
      ((Sample.after Sample.listed Sample.sale).reputation.totalJobs 1).toNat ≤ 1 := by
  obtain ⟨opens, _, total⟩ := ratings_backed Sample.deployed_contracts Sample.run
  exact ⟨opens [Sample.opening] [Sample.listing, Sample.sale] _ _ _ _ _ rfl, total 1⟩

theorem sale_price_backed_sample :
    ∃ before after seller, Sold before after Sample.buyer 1 seller ∧
      System.Lists 1 seller (before.marketplace.listingEarnings 1) (before.marketplace.listingApr 1)
        before.marketplace.agentNftTokenId [Sample.opening, Sample.rating, Sample.listing] ∧
      before.reputation.reputationScore 1 = 90 := by
  obtain ⟨before, after, seller, _, _, sold, lists, _, dropped, sum, few⟩ :=
    sale_price_backed Sample.deployed_contracts Sample.run
  have ratings : Reputation.ratingsOf 1
      ([Sample.opening, Sample.rating, Sample.listing].filterMap System.Step.reputation?) = [90] :=
    rfl
  rw [ratings] at sum few
  simp only [List.sum_cons, List.sum_nil, List.length_singleton] at sum few
  exact ⟨before, after, seller, sold, lists, by omega⟩

end XCron.Agents
