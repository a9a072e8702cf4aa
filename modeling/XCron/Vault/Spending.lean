import XCron.Vault.Totals

/-!
# What automation may spend

`swap`, `emergency_swap`, `mint` and `rescue_yield` take from what the vault holds
beyond the pending withdrawals, whatever amounts are configured. The least output
asked of the pair rests on the bound that `set_max_slippage_bps` puts on a cell
which the swaps subtract from without a check.
-/

namespace XCron.Vault

open Platform Outcome

variable {chain : Chain} {w next : World} {move : Step}

def Step.spends : Step → Bool
  | .swap _ | .emergencySwap _ | .mint _ | .rescueYield _ _ => true
  | _ => false

def Step.swaps : Step → Bool
  | .swap _ | .emergencySwap _ => true
  | _ => false

namespace World

def outgoing (w : World) : Nat :=
  (w.promises.map Promise.egldValue).sum + (w.sent.map Transfer.amount).sum

theorem outgoing_enqueue (promise : Promise) (w : World) :
    (w.enqueue promise).outgoing = w.outgoing + promise.egldValue := by
  simp only [outgoing, enqueue, List.map_append, List.sum_append, List.map_singleton,
    List.sum_singleton]
  omega

theorem outgoing_pay (chain : Chain) (transfer : Transfer) (w : World) :
    (w.pay chain transfer).outgoing = w.outgoing + transfer.amount := by
  simp only [outgoing, pay, List.map_append, List.sum_append, List.map_singleton,
    List.sum_singleton]
  omega

theorem safeLiquid_eq (w : World) : w.safeLiquid = w.egld - w.ledger.totalPendingWithdrawals := by
  unfold safeLiquid
  split <;> omega

end World

/-- A step that sends no more than what is safe, and leaves the ledger alone. -/
structure Spared (w next : World) : Prop where
  within : next.outgoing ≤ w.outgoing + w.safeLiquid
  balance : w.egld ≤ next.egld + w.safeLiquid
  ledger : next.ledger = w.ledger

theorem Spared.refl (w : World) : Spared w w :=
  ⟨Nat.le_add_right _ _, Nat.le_add_right _ _, rfl⟩

theorem Spared.enqueue {promise : Promise} (safe : promise.egldValue ≤ w.safeLiquid) :
    Spared w (w.enqueue promise) := by
  refine ⟨?_, ?_, rfl⟩
  · rw [World.outgoing_enqueue]
    omega
  · simp only [World.enqueue]
    omega

theorem Spared.pay {transfer : Transfer} (safe : transfer.amount ≤ w.safeLiquid) :
    Spared w (w.pay chain transfer) := by
  refine ⟨?_, ?_, rfl⟩
  · rw [World.outgoing_pay]
    omega
  · simp only [World.pay]
    split <;> omega

theorem Spared.covered (spared : Spared w next)
    (before : w.ledger.totalPendingWithdrawals ≤ w.egld) :
    next.ledger.totalPendingWithdrawals ≤ next.egld := by
  have balance := spared.balance
  rw [World.safeLiquid_eq] at balance
  rw [spared.ledger]
  omega

theorem spared_step (faithful : FaithfulPromises w) (spends : move.spends = true)
    (stepped : step chain w move = .ok next) : Spared w next := by
  cases step_effect faithful stepped with
  | automation _ automated => exact .enqueue automated.affordable
  | idle => exact .refl w
  | rescueYield _ safe => exact .pay safe
  | _ => cases spends

/-! ## The least output of a swap -/

/-- The bound of `set_max_slippage_bps`. -/
def Config.SlippageBounded (c : Config) : Prop := c.maxSlippageBps ≤ 5000

theorem init_slippageBounded (delegationContract schedulerAddress : Address) :
    (init delegationContract schedulerAddress).config.SlippageBounded :=
  (by decide : (300 : UInt64) ≤ 5000)

theorem Config.SlippageBounded.apply {c changed : Config} {change : ConfigCall}
    (bounded : c.SlippageBounded) (applied : c.apply change = .ok changed) :
    changed.SlippageBounded := by
  cases change with
  | setMaxSlippageBps bps =>
      simp only [Config.apply, bind_eq_ok, require_eq_ok, pure_eq_ok] at applied
      obtain ⟨_, within, rfl⟩ := applied
      exact within
  | _ =>
      obtain rfl := (pure_eq_ok _ _).mp applied
      exact bounded

theorem slippageBounded_step (faithful : FaithfulPromises w)
    (bounded : w.config.SlippageBounded) (stepped : step chain w move = .ok next) :
    next.config.SlippageBounded := by
  cases step_effect faithful stepped with
  | configure _ applied => exact bounded.apply applied
  | _ => exact bounded

theorem minAmountOut_eq {slippageBps : UInt64} (bounded : slippageBps ≤ 5000) (amount : Nat) :
    minAmountOut amount slippageBps = amount * (10000 - slippageBps.toNat) / 10000 := by
  have below : slippageBps ≤ 10000 := UInt64.le_trans bounded (by decide)
  unfold minAmountOut
  rw [UInt64.toNat_sub_of_le _ _ below]
  rfl

theorem half_le_minAmountOut {slippageBps : UInt64} (bounded : slippageBps ≤ 5000) (amount : Nat) :
    amount / 2 ≤ minAmountOut amount slippageBps := by
  have within : slippageBps.toNat ≤ 5000 := UInt64.le_iff_toNat_le.mp bounded
  rw [minAmountOut_eq bounded, Nat.le_div_iff_mul_le (by decide)]
  calc amount / 2 * 10000 = amount / 2 * 2 * 5000 := by rw [Nat.mul_assoc]
    _ ≤ amount * 5000 := Nat.mul_le_mul_right 5000 (Nat.div_mul_le_self amount 2)
    _ ≤ amount * (10000 - slippageBps.toNat) := Nat.mul_le_mul_left amount (by omega)

theorem swap_step (swaps : move.swaps = true) (stepped : step chain w move = .ok next) :
    next = w ∨ ∃ dexAddr callback, next = w.enqueue (swapCall w dexAddr callback) := by
  have inverted : ∀ call callback, swapWith callback call w = .ok next →
      next = w ∨ ∃ dexAddr callback, next = w.enqueue (swapCall w dexAddr callback) := by
    intro call callback swapped
    simp only [swapWith, bind_eq_ok] at swapped
    obtain ⟨_, _, _, _, _, _, _, _, dexAddr, _, swapped⟩ := swapped
    split at swapped
    · obtain ⟨_, rfl⟩ := registerPromise_eq_ok.mp swapped
      exact .inr ⟨dexAddr, callback, rfl⟩
    · exact .inl ((pure_eq_ok _ _).mp swapped).symm
  cases move with
  | swap call =>
      simp only [step, bind_eq_ok] at stepped
      obtain ⟨_, _, swapped⟩ := stepped
      exact inverted call .swap swapped
  | emergencySwap call =>
      simp only [step, bind_eq_ok] at stepped
      obtain ⟨_, _, swapped⟩ := stepped
      exact inverted call .emergencySwap swapped
  | _ => cases swaps

/-- In every run, the automation endpoints and `rescueYield` send out at most what
the balance exceeds the pending withdrawals by, so that withdrawals that were
covered stay covered; and a swap of an amount asks for at least the amount less the
slippage, which never exceeds one half. -/
theorem automation_spares_withdrawals {delegationContract schedulerAddress : Address}
    {steps : List Step} {allowed : World → Step → Prop}
    (trace : Trace (step chain) allowed (init delegationContract schedulerAddress) steps w)
    (stepped : step chain w move = .ok next) :
    (move.spends = true →
      next.outgoing ≤ w.outgoing + (w.egld - w.ledger.totalPendingWithdrawals) ∧
      w.egld ≤ next.egld + (w.egld - w.ledger.totalPendingWithdrawals) ∧
      (w.ledger.totalPendingWithdrawals ≤ w.egld →
        next.ledger.totalPendingWithdrawals ≤ next.egld)) ∧
    (move.swaps = true → next = w ∨ ∃ promise, next = w.enqueue promise ∧
      w.config.maxSlippageBps.toNat ≤ 10000 ∧
      promise.arguments = [natBytes (promise.egldValue *
        (10000 - w.config.maxSlippageBps.toNat) / 10000)] ∧
      promise.egldValue / 2 ≤
        promise.egldValue * (10000 - w.config.maxSlippageBps.toNat) / 10000) := by
  have kept : FaithfulPromises w ∧ w.config.SlippageBounded := by
    refine trace.preserves (fun w => FaithfulPromises w ∧ w.config.SlippageBounded) ?_
      ⟨init_faithful _ _, init_slippageBounded _ _⟩
    rintro _ _ _ _ ⟨faithful, bounded⟩ stepped
    exact ⟨faithful.step stepped, slippageBounded_step faithful bounded stepped⟩
  obtain ⟨faithful, bounded⟩ := kept
  constructor
  · intro spends
    have spared := spared_step faithful spends stepped
    rw [← World.safeLiquid_eq]
    exact ⟨spared.within, spared.balance, spared.covered⟩
  · intro swaps
    rcases swap_step swaps stepped with idle | ⟨dexAddr, callback, rfl⟩
    · exact .inl idle
    · refine .inr ⟨swapCall w dexAddr callback, rfl, ?_, ?_, ?_⟩
      · have below : w.config.maxSlippageBps ≤ 10000 := UInt64.le_trans bounded (by decide)
        exact UInt64.le_iff_toNat_le.mp below
      · rw [← minAmountOut_eq bounded]
        rfl
      · rw [← minAmountOut_eq bounded]
        exact half_le_minAmountOut bounded _

namespace Sample

def schedulerCall : CallContext := { call 0 with caller := .fill 4 }

def ownerCall : CallContext := { call 0 with caller := sampleChain.ownerAddress }

def configuredRun : List Step :=
  [.deposit (call 100), .withdraw (call 0) 40, .receiveEgld 100,
    .configure ownerCall (.setDexPairContract (.fill 9)), .configure ownerCall (.setSwapAmount 50),
    .configure ownerCall (.setMaxSlippageBps 5000)]

end Sample

theorem automation_spares_withdrawals_sample :
    ∃ w next, Trace (step sampleChain) (fun _ _ => True) Sample.vault Sample.configuredRun w ∧
      step sampleChain w (.swap Sample.schedulerCall) = .ok next ∧
      (next.egld = 50 ∧ next.ledger.totalPendingWithdrawals = 40) ∧
      next.outgoing ≤ w.outgoing + (w.egld - w.ledger.totalPendingWithdrawals) := by
  obtain ⟨next, trace, left⟩ := Trace.of_runChecked (step sampleChain) (fun _ _ => True)
    Sample.vault (Sample.configuredRun ++ [.swap Sample.schedulerCall])
    (fun next => next.egld = 50 ∧ next.ledger.totalPendingWithdrawals = 40) (by decide +kernel)
  obtain ⟨w, before, _, stepped⟩ := trace.last
  exact ⟨w, next, before, stepped, left, ((automation_spares_withdrawals before stepped).1 rfl).1⟩

end XCron.Vault
