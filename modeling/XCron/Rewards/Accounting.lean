import XCron.Rewards.Contract

/-!
# What the rewards contract owes

The treasury and the pending rewards are paid out independently of one another, and the
share of the treasury may change between two fees. What is owed is nevertheless always
the fees received less what was paid out, and the EGLD of the contract covers it.
-/

namespace XCron.Rewards

open Platform

variable {chain : Chain} {w next : World} {move : Step}

/-! ## The records of a run -/

def Event.transfer : Event → Option Transfer
  | .rewardAccrued _ _ _ => none
  | .rewardsClaimed keeper amount => some ⟨keeper, amount⟩
  | .treasuryWithdrawn receiver amount => some ⟨receiver, amount⟩

def Event.bonus (keeper : Address) : Event → Nat
  | .rewardAccrued _ credited amount => if credited = keeper then amount else 0
  | _ => 0

def Event.claim (keeper : Address) : Event → Nat
  | .rewardsClaimed claimant amount => if claimant = keeper then amount else 0
  | _ => 0

def Event.claimed : Event → Nat
  | .rewardsClaimed _ amount => amount
  | _ => 0

def Event.withdrawn : Event → Nat
  | .treasuryWithdrawn _ amount => amount
  | _ => 0

namespace World

def recorded (measure : Event → Nat) (w : World) : Nat := (w.events.map measure).sum

def owed (w : World) : Nat := w.treasuryBalance + w.pendingRewards.total id

end World

def Step.fee : Step → Nat
  | .receiveExecutionFee call _ _ => call.egldValue
  | _ => 0

/-! ## One step -/

/-- What every step keeps, `fees` being the fees received so far. -/
structure Accounted (fees : Nat) (w : World) : Prop where
  balanced : w.owed + w.recorded Event.claimed + w.recorded Event.withdrawn = fees
  covered : w.owed ≤ w.egld
  credited : ∀ keeper, w.pendingRewards.amount keeper + w.recorded (Event.claim keeper) =
    w.recorded (Event.bonus keeper)
  sent : w.sent = w.events.filterMap Event.transfer

theorem Accounted.credit {fees : Nat} (accounted : Accounted fees w) (call : CallContext) :
    Accounted fees (w.credit call) where
  balanced := accounted.balanced
  covered := accounted.covered.trans (Nat.le_add_right _ _)
  credited := accounted.credited
  sent := accounted.sent

theorem Accounted.emitted {fees : Nat} (accounted : Accounted fees w) (event : Event) (fee : Nat)
    (events : next.events = w.events ++ [event])
    (sent : next.sent = w.sent ++ event.transfer.toList)
    (owed : next.owed + event.claimed + event.withdrawn = w.owed + fee)
    (covered : next.owed ≤ next.egld)
    (pending : ∀ keeper, next.pendingRewards.amount keeper + event.claim keeper =
      w.pendingRewards.amount keeper + event.bonus keeper) :
    Accounted (fees + fee) next := by
  have recorded : ∀ measure, next.recorded measure = w.recorded measure + measure event := by
    intro measure
    simp [World.recorded, events]
  refine ⟨?_, covered, ?_, ?_⟩
  · have balanced := accounted.balanced
    rw [recorded, recorded]
    omega
  · intro keeper
    have credited := accounted.credited keeper
    have moved := pending keeper
    rw [recorded, recorded]
    omega
  · rw [sent, events, accounted.sent, List.filterMap_append]
    cases reported : event.transfer <;> simp [reported]

theorem received_owed {call : CallContext} (keeper : Address) (taskId : UInt64)
    (accepts : Accepts chain w call) :
    (w.received call keeper taskId).owed = w.owed + call.egldValue := by
  have whole := accepts.total keeper
  have credited := w.pendingRewards.total_set_amount keeper
    (w.pendingRewards.amount keeper + (w.split call keeper).keeperBonus)
  change w.treasuryBalance + (w.split call keeper).treasuryCut +
    (w.pendingRewards.set keeper _).total id = w.treasuryBalance + w.pendingRewards.total id + _
  unfold Credit.total at whole
  omega

theorem received_accounted {fees : Nat} {call : CallContext} (keeper : Address) (taskId : UInt64)
    (accepts : Accepts chain (w.credit call) call) (accounted : Accounted fees w) :
    Accounted (fees + call.egldValue) ((w.credit call).received call keeper taskId) := by
  have owed := received_owed keeper taskId accepts
  refine accounted.emitted (.rewardAccrued taskId keeper _) call.egldValue rfl
    (List.append_nil _).symm owed ?_ ?_
  · rw [owed]
    exact Nat.add_le_add_right accounted.covered _
  · intro other
    change ((w.pendingRewards.set keeper _).amount other) + 0 = w.pendingRewards.amount other +
      if keeper = other then _ else 0
    rw [Cells.amount_set]
    by_cases same : other = keeper
    · subst same
      simp only [if_true]
      rfl
    · simp [same, Ne.symm same]

theorem covered_pay {receiver : Address} (amount : Nat) {left : Nat} (covered : left + amount ≤ w.egld) :
    left ≤ (w.pay chain receiver amount).egld := by
  unfold World.pay
  dsimp only
  split <;> omega

theorem claimed_owed (chain : Chain) (call : CallContext) (w : World) :
    (w.claimed chain call).owed + w.pendingRewards.amount call.caller = w.owed := by
  have cleared := w.pendingRewards.total_clear_amount call.caller
  change w.treasuryBalance + (w.pendingRewards.clear call.caller).total id + _ =
    w.treasuryBalance + w.pendingRewards.total id
  omega

theorem claimed_accounted {fees : Nat} (call : CallContext) (accounted : Accounted fees w) :
    Accounted fees (w.claimed chain call) := by
  have owed := claimed_owed chain call w
  refine accounted.emitted (.rewardsClaimed call.caller _) 0 rfl rfl owed ?_ ?_
  · refine covered_pay (w.pendingRewards.amount call.caller) ?_
    rw [owed]
    exact accounted.covered
  · intro keeper
    change (w.pendingRewards.clear call.caller).amount keeper + (if call.caller = keeper then _ else 0) =
      w.pendingRewards.amount keeper + 0
    rw [Cells.amount_clear]
    by_cases same : keeper = call.caller
    · subst same
      simp
    · simp [same, Ne.symm same]

theorem withdrew_owed (chain : Chain) (receiver : Address) {amount : Nat}
    (within : amount ≤ w.treasuryBalance) :
    (w.withdrew chain receiver amount).owed + amount = w.owed := by
  change w.treasuryBalance - amount + w.pendingRewards.total id + amount =
    w.treasuryBalance + w.pendingRewards.total id
  omega

theorem withdrew_accounted {fees : Nat} (receiver : Address) {amount : Nat}
    (within : amount ≤ w.treasuryBalance) (accounted : Accounted fees w) :
    Accounted fees (w.withdrew chain receiver amount) := by
  have owed := withdrew_owed chain receiver within
  refine accounted.emitted (.treasuryWithdrawn receiver amount) 0 rfl rfl owed ?_ (fun keeper => rfl)
  refine covered_pay amount ?_
  rw [owed]
  exact accounted.covered

/-- A step leaves the accounts in order, with the fee that it hands in. -/
theorem step_accounted {fees : Nat} (accounted : Accounted fees w)
    (stepped : step chain w move = .ok next) : Accounted (fees + move.fee) next := by
  cases move with
  | receiveExecutionFee call keeper taskId =>
      simp only [step, Step.call?, body, Outcome.bind_eq_ok, receiveExecutionFee_eq_ok] at stepped
      obtain ⟨_, _, _, _, accepts, rfl⟩ := stepped
      exact received_accounted keeper taskId accepts accounted
  | claimRewards call =>
      simp only [step, Step.call?, body, Outcome.bind_eq_ok, claimRewards_eq_ok] at stepped
      obtain ⟨_, _, _, _, _, _, _, rfl⟩ := stepped
      exact claimed_accounted call (accounted.credit call)
  | withdrawTreasury call receiver amount =>
      simp only [step, Step.call?, body, Outcome.bind_eq_ok, withdrawTreasury_eq_ok] at stepped
      obtain ⟨_, _, _, _, _, _, within, _, rfl⟩ := stepped
      exact withdrew_accounted receiver within (accounted.credit call)
  | configure call change =>
      simp only [step, Step.call?, body, Outcome.bind_eq_ok, Outcome.pure_eq_ok] at stepped
      obtain ⟨_, _, _, _, _, _, config, _, rfl⟩ := stepped
      have credited := accounted.credit call
      exact ⟨credited.balanced, credited.covered, credited.credited, credited.sent⟩
  | receiveEgld amount =>
      simp only [step, Step.call?, body, Outcome.pure_eq_ok] at stepped
      subst stepped
      exact ⟨accounted.balanced, accounted.covered.trans (Nat.le_add_right _ _),
        accounted.credited, accounted.sent⟩

/-! ## Every run -/

theorem deployed_accounted (deployed : Deployed w) : Accounted 0 w := by
  obtain ⟨keeperRegistry, treasurySplitBps, rfl⟩ := deployed
  exact ⟨rfl, le_refl _, fun keeper => rfl, rfl⟩

theorem run_accounted {start final : World} {steps : List Step} (deployed : Deployed start)
    (trace : Trace (step chain) (fun _ _ => True) start steps final) :
    Accounted (steps.map Step.fee).sum final := by
  have reached : Accounted (([] ++ steps).map Step.fee).sum final := by
    refine trace.history (fun past w => Accounted (past.map Step.fee).sum w) ?_
      (deployed_accounted deployed)
    intro past w move next accounted stepped
    rw [List.map_append, List.sum_append, List.map_singleton, List.sum_singleton]
    exact step_accounted accounted stepped
  exact reached

theorem claim_covered {fees : Nat} (accounted : Accounted fees w) {call : CallContext}
    (plain : call.Plain chain) (unpaused : w.config.paused = false)
    (positive : 0 < w.pendingRewards.amount call.caller) :
    ∃ next, step chain w (.claimRewards call) = .ok next := by
  have owed := w.pendingRewards.amount_le_total call.caller
  have covered := accounted.covered
  unfold World.owed at covered
  refine ⟨(w.credit call).claimed chain call, ?_⟩
  simp only [step, Step.call?, body, Outcome.bind_eq_ok, claimRewards_eq_ok,
    CallContext.notPayable, Outcome.ensure_eq_ok]
  refine ⟨(), plain.delivered, (), ⟨plain.noEgld, plain.noEsdt⟩, unpaused, positive, ?_, trivial⟩
  change w.pendingRewards.amount call.caller ≤ w.egld + call.egldValue
  omega

theorem withdrawal_covered {fees : Nat} (accounted : Accounted fees w) {call : CallContext}
    (plain : call.Plain chain) (owner : call.caller = chain.ownerAddress) (receiver : Address)
    {amount : Nat} (within : amount ≤ w.treasuryBalance) :
    ∃ next, step chain w (.withdrawTreasury call receiver amount) = .ok next := by
  have covered := accounted.covered
  unfold World.owed at covered
  refine ⟨(w.credit call).withdrew chain receiver amount, ?_⟩
  simp only [step, Step.call?, body, Outcome.bind_eq_ok, withdrawTreasury_eq_ok,
    CallContext.notPayable, CallContext.onlyOwner, Outcome.ensure_eq_ok]
  refine ⟨(), plain.delivered, (), ⟨plain.noEgld, plain.noEsdt⟩, (), owner, within, ?_, trivial⟩
  change amount ≤ w.egld + call.egldValue
  omega

/-- What the treasury and the keepers are owed is what was received in fees less what was
claimed and withdrawn, and the EGLD of the contract covers it. So claims and withdrawals
are paid, and no keeper is paid more than it was credited. -/
theorem rewards_accounted {start final : World} {steps : List Step} (deployed : Deployed start)
    (trace : Trace (step chain) (fun _ _ => True) start steps final) :
    final.treasuryBalance + final.pendingRewards.total id + final.recorded Event.claimed +
        final.recorded Event.withdrawn = (steps.map Step.fee).sum ∧
      final.treasuryBalance + final.pendingRewards.total id ≤ final.egld ∧
      (∀ call : CallContext, call.Plain chain → final.config.paused = false →
        0 < final.pendingRewards.amount call.caller →
        ∃ next, step chain final (.claimRewards call) = .ok next) ∧
      (∀ (call : CallContext) receiver amount, call.Plain chain → call.caller = chain.ownerAddress →
        amount ≤ final.treasuryBalance →
        ∃ next, step chain final (.withdrawTreasury call receiver amount) = .ok next) ∧
      (∀ keeper, final.recorded (Event.claim keeper) ≤ final.recorded (Event.bonus keeper)) ∧
      final.sent = final.events.filterMap Event.transfer := by
  have accounted := run_accounted deployed trace
  refine ⟨accounted.balanced, accounted.covered, ?_, ?_, ?_, accounted.sent⟩
  · intro call plain unpaused positive
    exact claim_covered accounted plain unpaused positive
  · intro call receiver amount plain owner within
    exact withdrawal_covered accounted plain owner receiver within
  · intro keeper
    have credited := accounted.credited keeper
    omega

namespace Sample

def rewardsCall (caller : Address) (egldValue : Nat) : CallContext :=
  { caller := caller
    egldValue := egldValue
    esdtTransfers := []
    blockTimestamp := 1000
    blockRound := 1
    blockRandomSeed := []
    gasLeft := 1000 }

def splitRun : List Step :=
  [.configure (rewardsCall (.fill 2) 0) (.addAuthorizedScheduler (.fill 9)),
    .receiveExecutionFee (rewardsCall (.fill 9) 35) (.fill 7) 1,
    .claimRewards (rewardsCall (.fill 7) 0),
    .configure (rewardsCall (.fill 2) 0) (.setTreasurySplitBps 5000),
    .receiveExecutionFee (rewardsCall (.fill 9) 35) (.fill 7) 2,
    .withdrawTreasury (rewardsCall (.fill 2) 0) (.fill 8) 20]

end Sample

theorem rewards_accounted_sample :
    ∃ final, Trace (step sampleChain) (fun _ _ => True) (init (.fill 3) 3000) Sample.splitRun final ∧
      final.treasuryBalance = 7 ∧ final.pendingRewards.amount (.fill 7) = 18 ∧
      final.recorded Event.claimed = 25 ∧ final.recorded Event.withdrawn = 20 ∧
      final.treasuryBalance + final.pendingRewards.total id + 25 + 20 = 70 ∧
      final.treasuryBalance + final.pendingRewards.total id ≤ final.egld := by
  obtain ⟨final, trace, treasury, pending, claimed, withdrawn⟩ := Trace.of_runChecked
    (step sampleChain) (fun _ _ => True) (init (.fill 3) 3000) Sample.splitRun
    (fun final => final.treasuryBalance = 7 ∧ final.pendingRewards.amount (.fill 7) = 18 ∧
      final.recorded Event.claimed = 25 ∧ final.recorded Event.withdrawn = 20)
    (by decide +kernel)
  obtain ⟨balanced, covered, _⟩ := rewards_accounted ⟨.fill 3, 3000, rfl⟩ trace
  rw [claimed, withdrawn] at balanced
  exact ⟨final, trace, treasury, pending, claimed, withdrawn, balanced, covered⟩

end XCron.Rewards
