import Mathlib.Data.List.Perm.Basic
import XCron.Shield.Contract

/-!
# The daily limit

A proposal is counted against the limit of the day it is made on, and only a failure
takes it off the count of that day again, however late it is reported. So the count is
exactly what is in flight or has succeeded, and the owner's changes of the limit do not
touch it.
-/

namespace XCron.Shield

open Platform

variable {chain : Chain} {isValidEsdtIdentifier : TokenIdentifier → Bool} {w next : World}
  {move : Step} {token : TokenIdentifier} {day : UInt64}

/-! ## What is outstanding -/

def Promise.spends (token : TokenIdentifier) (day : UInt64) (promise : Promise) : Nat :=
  if promise.tokenId = token ∧ promise.currentDay = day then promise.amount else 0

/-- What the proposals for a token on a day come to that are in flight or succeeded. -/
def World.outstanding (token : TokenIdentifier) (day : UInt64) (w : World) : Nat :=
  (w.promises.map (Promise.spends token day)).sum + (w.succeeded.map (Promise.spends token day)).sum

def Step.charge : Step → Option (TokenIdentifier × UInt64 × Nat)
  | .agentProposeExecution call proposal =>
      some (proposal.tokenId, currentDay call, proposal.amount)
  | _ => none

def Promise.charge (promise : Promise) : TokenIdentifier × UInt64 × Nat :=
  (promise.tokenId, promise.currentDay, promise.amount)

def World.accepted (w : World) : List Promise := w.promises ++ w.succeeded ++ w.failed

/-- What every step keeps. -/
structure Tallied (past : List Step) (w : World) : Prop where
  spent : ∀ token day, w.dailySpent.amount (token, day) = w.outstanding token day
  charged : (w.accepted.map Promise.charge).Perm (past.filterMap Step.charge)

/-! ## Sums over promises -/

theorem sum_eraseIdx (measure : Promise → Nat) {promises : List Promise} {index : Nat}
    {promise : Promise} (found : promises[index]? = some promise) :
    ((promises.eraseIdx index).map measure).sum + measure promise = (promises.map measure).sum := by
  induction promises generalizing index with
  | nil => cases found
  | cons first rest inductionHypothesis =>
      cases index with
      | zero =>
          cases found
          simp [Nat.add_comm]
      | succ index =>
          have later := inductionHypothesis found
          simp only [List.eraseIdx_cons_succ, List.map_cons, List.sum_cons]
          omega

theorem perm_eraseIdx {promises : List Promise} {index : Nat} {promise : Promise}
    (found : promises[index]? = some promise) :
    (promises.eraseIdx index ++ [promise]).Perm promises := by
  obtain ⟨within, rfl⟩ := List.getElem?_eq_some_iff.mp found
  exact (List.perm_append_singleton _ _).trans (List.getElem_cons_eraseIdx_perm within)

/-! ## One step -/

section Proposal

variable (call : CallContext) (proposal : Proposal)

theorem proposed_outstanding (w : World) (token : TokenIdentifier) (day : UInt64) :
    (w.proposed call proposal).outstanding token day =
      w.outstanding token day + (proposal.promise call).spends token day := by
  change ((w.promises ++ [proposal.promise call]).map (Promise.spends token day)).sum +
    (w.succeeded.map (Promise.spends token day)).sum = _
  rw [List.map_append, List.sum_append, List.map_singleton, List.sum_singleton]
  unfold World.outstanding
  omega

theorem proposed_dailySpent (w : World) (token : TokenIdentifier) (day : UInt64) :
    (w.proposed call proposal).dailySpent.amount (token, day) =
      w.dailySpent.amount (token, day) + (proposal.promise call).spends token day := by
  change (w.dailySpent.set (proposal.tokenId, currentDay call) (w.spending call proposal)).amount
    (token, day) = _
  rw [Cells.amount_set]
  unfold Promise.spends Proposal.promise World.spending
  split
  next same =>
    obtain ⟨rfl, rfl⟩ := Prod.mk.inj same
    simp
  next other =>
    have others : ¬(proposal.tokenId = token ∧ currentDay call = day) := by
      rintro ⟨rfl, rfl⟩
      exact other rfl
    simp [others]

end Proposal

theorem Tallied.proposed {past : List Step} {call : CallContext} {proposal : Proposal}
    (tallied : Tallied past w) :
    Tallied (past ++ [.agentProposeExecution call proposal]) (w.proposed call proposal) where
  spent := by
    intro token day
    rw [proposed_dailySpent, proposed_outstanding, tallied.spent]
  charged := by
    have charged := tallied.charged
    rw [List.filterMap_append]
    have rotated : (w.proposed call proposal).accepted.Perm (w.accepted ++ [proposal.promise call]) := by
      change (w.promises ++ [proposal.promise call] ++ w.succeeded ++ w.failed).Perm
        (w.promises ++ w.succeeded ++ w.failed ++ [proposal.promise call])
      have moved : ([proposal.promise call] ++ (w.succeeded ++ w.failed)).Perm
          (w.succeeded ++ w.failed ++ [proposal.promise call]) := List.perm_append_comm
      simp only [List.append_assoc] at moved ⊢
      exact moved.append_left _
    refine (rotated.map _).trans ?_
    rw [List.map_append]
    exact charged.append_right _

/-- A promise in flight is counted in full, so the callback never skips its correction. -/
theorem amount_le_spent (spent : ∀ token day, w.dailySpent.amount (token, day) =
    w.outstanding token day) {promise : Promise} (inFlight : promise ∈ w.promises) :
    promise.amount ≤ w.dailySpent.amount (promise.tokenId, promise.currentDay) := by
  have own : promise.spends promise.tokenId promise.currentDay = promise.amount :=
    if_pos ⟨rfl, rfl⟩
  have counted := List.single_le_sum (l := w.promises.map (Promise.spends promise.tokenId
    promise.currentDay)) (fun _ _ => Nat.zero_le _) _ (List.mem_map_of_mem inFlight)
  rw [spent, World.outstanding]
  omega

section Return

variable {index : Nat} {promise : Promise}

theorem succeeded_outstanding (found : w.promises[index]? = some promise) :
    (w.settle index promise true).outstanding token day = w.outstanding token day := by
  have erased := sum_eraseIdx (Promise.spends token day) found
  change ((w.promises.eraseIdx index).map (Promise.spends token day)).sum +
    ((w.succeeded ++ [promise]).map (Promise.spends token day)).sum = _
  rw [List.map_append, List.sum_append, List.map_singleton, List.sum_singleton]
  unfold World.outstanding
  omega

def World.refunded (index : Nat) (promise : Promise) (w : World) : World :=
  agentExecutionCallback promise.tokenId promise.currentDay promise.amount false
    (w.settle index promise false)

theorem refunded_eq (within : promise.amount ≤
      w.dailySpent.amount (promise.tokenId, promise.currentDay)) :
    w.refunded index promise = { w.settle index promise false with
      dailySpent := w.dailySpent.set (promise.tokenId, promise.currentDay)
        (w.dailySpent.amount (promise.tokenId, promise.currentDay) - promise.amount) } :=
  if_pos within

theorem refunded_outstanding (found : w.promises[index]? = some promise)
    (within : promise.amount ≤ w.dailySpent.amount (promise.tokenId, promise.currentDay)) :
    (w.refunded index promise).outstanding token day + promise.spends token day =
      w.outstanding token day := by
  have erased := sum_eraseIdx (Promise.spends token day) found
  rw [refunded_eq within]
  change ((w.promises.eraseIdx index).map (Promise.spends token day)).sum +
    (w.succeeded.map (Promise.spends token day)).sum + _ = _
  unfold World.outstanding
  omega

theorem refunded_dailySpent (within : promise.amount ≤
      w.dailySpent.amount (promise.tokenId, promise.currentDay)) :
    (w.refunded index promise).dailySpent.amount (token, day) + promise.spends token day =
      w.dailySpent.amount (token, day) := by
  rw [refunded_eq within, Cells.amount_set]
  unfold Promise.spends
  split
  next same =>
    obtain ⟨rfl, rfl⟩ := Prod.mk.inj same
    rw [if_pos ⟨rfl, rfl⟩]
    exact Nat.sub_add_cancel within
  next other =>
    rw [if_neg]
    · rfl
    · rintro ⟨rfl, rfl⟩
      exact other rfl

end Return

theorem Tallied.succeeded {past : List Step} {index : Nat} {promise : Promise}
    (tallied : Tallied past w) (found : w.promises[index]? = some promise) :
    Tallied (past ++ [.agentExecutionCallback index true]) (w.settle index promise true) where
  spent := by
    intro token day
    rw [succeeded_outstanding found]
    exact tallied.spent token day
  charged := by
    have charged := tallied.charged
    rw [List.filterMap_append]
    change (List.map _ (w.promises.eraseIdx index ++ (w.succeeded ++ [promise]) ++ w.failed)).Perm
      (past.filterMap Step.charge ++ [])
    rw [List.append_nil]
    refine (List.Perm.map _ ?_).trans charged
    have moved : (w.succeeded ++ [promise]).Perm ([promise] ++ w.succeeded) := List.perm_append_comm
    have rejoined := ((moved.append_left (w.promises.eraseIdx index)).append_right w.failed)
    refine rejoined.trans ?_
    rw [← List.append_assoc (w.promises.eraseIdx index)]
    exact ((perm_eraseIdx found).append_right _).append_right _

theorem Tallied.failed {past : List Step} {index : Nat} {promise : Promise}
    (tallied : Tallied past w) (found : w.promises[index]? = some promise) :
    Tallied (past ++ [.agentExecutionCallback index false]) (w.refunded index promise) := by
  have within := amount_le_spent tallied.spent (List.mem_of_getElem? found)
  constructor
  · intro token day
    have counted : (w.refunded index promise).dailySpent.amount (token, day) +
        promise.spends token day = _ := refunded_dailySpent within
    have outstanding : _ + promise.spends token day = w.outstanding token day :=
      refunded_outstanding found within
    have spent := tallied.spent token day
    omega
  · have charged := tallied.charged
    rw [List.filterMap_append, refunded_eq within]
    change (List.map _ (w.promises.eraseIdx index ++ w.succeeded ++ (w.failed ++ [promise]))).Perm
      (past.filterMap Step.charge ++ [])
    rw [List.append_nil]
    refine (List.Perm.map _ ?_).trans charged
    have moved : (w.succeeded ++ (w.failed ++ [promise])).Perm
        ([promise] ++ (w.succeeded ++ w.failed)) := by
      rw [← List.append_assoc]
      exact List.perm_append_comm
    rw [List.append_assoc]
    refine (moved.append_left _).trans ?_
    rw [← List.append_assoc]
    refine ((perm_eraseIdx found).append_right _).trans ?_
    rw [World.accepted, List.append_assoc]

structure Untouched (w next : World) : Prop where
  dailySpent : next.dailySpent = w.dailySpent
  promises : next.promises = w.promises
  succeeded : next.succeeded = w.succeeded
  failed : next.failed = w.failed

theorem Untouched.outstanding (untouched : Untouched w next) :
    next.outstanding token day = w.outstanding token day := by
  unfold World.outstanding
  rw [untouched.promises, untouched.succeeded]

theorem Tallied.untouched {past : List Step} (tallied : Tallied past w)
    (untouched : Untouched w next) (silent : move.charge = none) :
    Tallied (past ++ [move]) next where
  spent := by
    intro token day
    rw [untouched.dailySpent, untouched.outstanding]
    exact tallied.spent token day
  charged := by
    have same : next.accepted = w.accepted := by
      rw [World.accepted, untouched.promises, untouched.succeeded, untouched.failed, World.accepted]
    rw [List.filterMap_append, same]
    simpa [silent] using tallied.charged

theorem untouched_apply {ownerCall : OwnerCall} (applied : w.apply ownerCall = .ok next) :
    Untouched w next := by
  cases ownerCall with
  | emergencyWithdraw tokenIdentifier amount =>
      simp only [World.apply] at applied
      split at applied
      next covered =>
        cases applied
        exact ⟨rfl, rfl, rfl, rfl⟩
      next short => cases applied
  | _ =>
      simp only [World.apply, Outcome.pure_eq_ok] at applied
      subst applied
      exact ⟨rfl, rfl, rfl, rfl⟩

theorem untouched_paid (payments : List EsdtPayment) :
    Untouched w (payments.foldl World.paid w) := by
  induction payments generalizing w with
  | nil => exact ⟨rfl, rfl, rfl, rfl⟩
  | cons payment payments inductionHypothesis =>
      have later := inductionHypothesis (w := w.paid payment)
      have first : Untouched w (w.paid payment) := by
        unfold World.paid
        split <;> exact ⟨rfl, rfl, rfl, rfl⟩
      exact ⟨later.dailySpent.trans first.dailySpent, later.promises.trans first.promises,
        later.succeeded.trans first.succeeded, later.failed.trans first.failed⟩

/-- What a step does to the accounts. -/
inductive Accounting (chain : Chain) (isValidEsdtIdentifier : TokenIdentifier → Bool) (w : World) :
    Step → World → Prop where
  | proposed {call : CallContext} {proposal : Proposal} :
      w.spending call proposal ≤ w.shieldDailyLimit.amount proposal.tokenId →
      Accounting chain isValidEsdtIdentifier w (.agentProposeExecution call proposal)
        (w.proposed call proposal)
  | returned {index : Nat} {promise : Promise} {succeeded : Bool} :
      w.promises[index]? = some promise →
      Accounting chain isValidEsdtIdentifier w (.agentExecutionCallback index succeeded)
        (agentExecutionCallback promise.tokenId promise.currentDay promise.amount succeeded
          (w.settle index promise succeeded))
  | untouched {move : Step} {next : World} :
      move.charge = none → Untouched w next → Accounting chain isValidEsdtIdentifier w move next

theorem step_accounting (stepped : step chain isValidEsdtIdentifier w move = .ok next) :
    Accounting chain isValidEsdtIdentifier w move next := by
  cases move with
  | agentProposeExecution call proposal =>
      simp only [step, Outcome.bind_eq_ok, agentProposeExecution_eq_ok] at stepped
      obtain ⟨_, _, _, _, _, _, within, _, _, rfl⟩ := stepped
      exact .proposed within
  | agentExecutionCallback index succeeded =>
      simp only [step] at stepped
      split at stepped
      next missing => cases stepped
      next promise found =>
        cases stepped
        exact .returned found
  | owner call ownerCall =>
      simp only [step, Outcome.bind_eq_ok] at stepped
      obtain ⟨_, _, _, _, _, _, applied⟩ := stepped
      exact .untouched rfl (untouched_apply applied)
  | fundTreasury call =>
      simp only [step, Outcome.bind_eq_ok, Outcome.pure_eq_ok] at stepped
      obtain ⟨_, _, rfl⟩ := stepped
      exact .untouched rfl (untouched_paid _)
  | receiveEsdt token amount =>
      simp only [step, Outcome.pure_eq_ok] at stepped
      subst stepped
      exact .untouched rfl ⟨rfl, rfl, rfl, rfl⟩

theorem step_tallied {past : List Step} (tallied : Tallied past w)
    (stepped : step chain isValidEsdtIdentifier w move = .ok next) :
    Tallied (past ++ [move]) next := by
  cases step_accounting stepped with
  | proposed _ => exact tallied.proposed
  | @returned index promise succeeded found =>
      cases succeeded with
      | true => exact tallied.succeeded found
      | false => exact tallied.failed found
  | untouched silent untouched => exact tallied.untouched untouched silent

/-! ## Every run -/

/-- Some proposal for a token on a day was accepted while its limit was at least a bound. -/
def LimitInForce (chain : Chain) (isValidEsdtIdentifier : TokenIdentifier → Bool) (start : World)
    (steps : List Step) (token : TokenIdentifier) (day : UInt64) (bound : Nat) : Prop :=
  ∃ past call proposal rest before, steps = past ++ .agentProposeExecution call proposal :: rest ∧
    Trace (step chain isValidEsdtIdentifier) (fun _ _ => True) start past before ∧
    proposal.tokenId = token ∧ currentDay call = day ∧
    bound ≤ before.shieldDailyLimit.amount token

theorem LimitInForce.later {start : World} {past : List Step} {bound : Nat}
    (inForce : LimitInForce chain isValidEsdtIdentifier start past token day bound) (move : Step)
    {less : Nat} (lower : less ≤ bound) :
    LimitInForce chain isValidEsdtIdentifier start (past ++ [move]) token day less := by
  obtain ⟨earlier, call, proposal, rest, before, rfl, reached, same, sameDay, bounded⟩ := inForce
  exact ⟨earlier, call, proposal, rest ++ [move], before, by simp, reached, same, sameDay,
    lower.trans bounded⟩

/-- What is outstanding for a token on a day is nothing, or was within a limit that was
in force when it was last added to. -/
def Capped (chain : Chain) (isValidEsdtIdentifier : TokenIdentifier → Bool) (start : World)
    (past : List Step) (w : World) : Prop :=
  ∀ token day, w.outstanding token day = 0 ∨
    LimitInForce chain isValidEsdtIdentifier start past token day (w.outstanding token day)

theorem Capped.lower {start : World} {past : List Step}
    (capped : Capped chain isValidEsdtIdentifier start past w) (move : Step)
    (lower : next.outstanding token day ≤ w.outstanding token day) :
    next.outstanding token day = 0 ∨ LimitInForce chain isValidEsdtIdentifier start (past ++ [move])
      token day (next.outstanding token day) := by
  rcases capped token day with nothing | inForce
  · exact .inl (Nat.le_zero.mp (nothing ▸ lower))
  · exact .inr (inForce.later move lower)

theorem step_capped {start : World} {past : List Step}
    (reached : Trace (step chain isValidEsdtIdentifier) (fun _ _ => True) start past w)
    (tallied : Tallied past w) (capped : Capped chain isValidEsdtIdentifier start past w)
    (stepped : step chain isValidEsdtIdentifier w move = .ok next) :
    Capped chain isValidEsdtIdentifier start (past ++ [move]) next := by
  intro token day
  cases step_accounting stepped with
  | @proposed call proposal within =>
      have raised := proposed_outstanding call proposal w token day
      by_cases same : proposal.tokenId = token ∧ currentDay call = day
      · obtain ⟨rfl, rfl⟩ := same
        refine .inr ⟨past, call, proposal, [], w, rfl, reached, rfl, rfl, ?_⟩
        rw [raised, ← tallied.spent, ← proposed_dailySpent]
        change (w.dailySpent.set _ (w.spending call proposal)).amount _ ≤ _
        rw [Cells.amount_set, if_pos rfl]
        exact within
      · have nothing : (proposal.promise call).spends token day = 0 := if_neg same
        apply capped.lower
        rw [raised, nothing]
        exact Nat.le_refl _
  | @returned index promise succeeded found =>
      apply capped.lower
      cases succeeded with
      | true => exact (succeeded_outstanding found).le
      | false =>
          have within := amount_le_spent tallied.spent (List.mem_of_getElem? found)
          exact Nat.le_of_add_right_le (refunded_outstanding found within).le
  | untouched silent untouched => exact capped.lower _ untouched.outstanding.le

theorem Deployed.tallied (deployed : Deployed w) : Tallied [] w := by
  obtain ⟨_, _, _, rfl⟩ := deployed
  exact ⟨fun _ _ => rfl, .refl _⟩

theorem Deployed.capped (deployed : Deployed w) (start : World) :
    Capped chain isValidEsdtIdentifier start [] w := by
  obtain ⟨_, _, _, rfl⟩ := deployed
  exact fun _ _ => .inl rfl

/-- The count of a token and a day is what its accepted proposals of that day come to that
have not failed. So no failure is ever skipped, and what is in flight or succeeded is
within a limit in force when a proposal of that day was accepted. -/
theorem daily_limit_kept {start final : World} {steps : List Step} (deployed : Deployed start)
    (trace : Trace (step chain isValidEsdtIdentifier) (fun _ _ => True) start steps final)
    (token : TokenIdentifier) (day : UInt64) :
    final.dailySpent.amount (token, day) = final.outstanding token day ∧
      (final.accepted.map Promise.charge).Perm (steps.filterMap Step.charge) ∧
      (∀ promise ∈ final.promises,
        promise.amount ≤ final.dailySpent.amount (promise.tokenId, promise.currentDay)) ∧
      (final.outstanding token day = 0 ∨
        LimitInForce chain isValidEsdtIdentifier start steps token day
          (final.outstanding token day)) := by
  have kept : Trace (step chain isValidEsdtIdentifier) (fun _ _ => True) start ([] ++ steps) final ∧
      Tallied ([] ++ steps) final ∧ Capped chain isValidEsdtIdentifier start ([] ++ steps) final := by
    refine trace.history (fun past w =>
      Trace (step chain isValidEsdtIdentifier) (fun _ _ => True) start past w ∧ Tallied past w ∧
        Capped chain isValidEsdtIdentifier start past w) ?_
      ⟨.nil start, deployed.tallied, deployed.capped start⟩
    rintro past w move next ⟨reached, tallied, capped⟩ stepped
    exact ⟨reached.concat trivial stepped, step_tallied tallied stepped,
      step_capped reached tallied capped stepped⟩
  obtain ⟨_, tallied, capped⟩ := kept
  exact ⟨tallied.spent token day, tallied.charged,
    fun _ inFlight => amount_le_spent tallied.spent inFlight, capped token day⟩

namespace Sample

def usdc : TokenIdentifier := "USDC-c76f1f".toUTF8.toList

def wellFormed (token : TokenIdentifier) : Bool := token = usdc

def shieldCall (caller : Address) (time : UInt64) : CallContext :=
  { caller := caller
    egldValue := 0
    esdtTransfers := []
    blockTimestamp := time
    blockRound := 1
    blockRandomSeed := []
    gasLeft := 20000000 }

def proposes (amount : Nat) : Step :=
  .agentProposeExecution (shieldCall (.fill 7) 90000)
    { targetContract := .fill 8
      tokenId := usdc
      amount := amount
      funcName := "swap".toUTF8.toList
      args := [] }

def shieldRun : List Step :=
  [.receiveEsdt usdc 1000, .owner (shieldCall (.fill 2) 0) (.setShieldLimit usdc 100), proposes 60,
    proposes 40, .owner (shieldCall (.fill 2) 0) (.setShieldLimit usdc 30),
    .agentExecutionCallback 0 false, .agentExecutionCallback 0 true]

end Sample

theorem daily_limit_kept_sample :
    ∃ final, Trace (step sampleChain Sample.wellFormed) (fun _ _ => True)
        (init (.fill 4) (.fill 5) (.fill 7)) Sample.shieldRun final ∧
      final.dailySpent.amount (Sample.usdc, 1) = 40 ∧ final.outstanding Sample.usdc 1 = 40 ∧
      (final.accepted.map Promise.charge).Perm [(Sample.usdc, 1, 60), (Sample.usdc, 1, 40)] ∧
      LimitInForce sampleChain Sample.wellFormed (init (.fill 4) (.fill 5) (.fill 7))
        Sample.shieldRun Sample.usdc 1 40 := by
  obtain ⟨final, trace, spent⟩ := Trace.of_runChecked (step sampleChain Sample.wellFormed)
    (fun _ _ => True) (init (.fill 4) (.fill 5) (.fill 7)) Sample.shieldRun
    (fun final => final.dailySpent.amount (Sample.usdc, 1) = 40) (by decide +kernel)
  obtain ⟨counted, accepted, _, capped⟩ :=
    daily_limit_kept ⟨.fill 4, .fill 5, .fill 7, rfl⟩ trace Sample.usdc 1
  have outstanding : final.outstanding Sample.usdc 1 = 40 := counted.symm.trans spent
  rw [outstanding] at capped
  exact ⟨final, trace, spent, outstanding, accepted, capped.resolve_left (by decide)⟩

end XCron.Shield
