import XCron.Vault.Credit

/-!
# The totals of the vault

`total_deposited` and `total_pending_withdrawals` are kept beside the cells they
sum up. The pending total stays exact whatever happens. The deposited total goes
wrong where `deposit_callback` undoes a deposit that its user has withdrawn in
the meantime: the balance is clamped at zero, the total is not.
-/

namespace XCron.Vault

open Platform

variable {chain : Chain} {w next : World} {move : Step}

namespace Ledger

variable {l : Ledger}

/-- The deposited total is the sum of the users' balances. -/
def Tallied (l : Ledger) : Prop := l.totalDeposited = l.userBalance.total id

/-- The pending total is the sum of the users' pending withdrawals. -/
def Reserved (l : Ledger) : Prop := l.totalPendingWithdrawals = l.pendingWithdrawals.total id

theorem Tallied.deposit (tallied : l.Tallied) (caller : Address) (payment : Nat) :
    (l.deposit caller payment).Tallied := by
  have moved := l.userBalance.total_set_amount caller (l.userBalance.amount caller + payment)
  unfold Tallied at tallied ⊢
  simp only [Ledger.deposit]
  omega

theorem Tallied.withdraw (tallied : l.Tallied) {caller : Address} {amount : Nat}
    (covered : amount ≤ l.userBalance.amount caller) : (l.withdraw caller amount).Tallied := by
  have moved := l.userBalance.total_set_amount caller (l.userBalance.amount caller - amount)
  have share := l.userBalance.amount_le_total caller
  unfold Tallied at tallied ⊢
  simp only [Ledger.withdraw]
  rw [if_pos (by omega)]
  omega

theorem Tallied.undoWithdraw (tallied : l.Tallied) (caller : Address) (amount : Nat) :
    (l.undoWithdraw caller amount).Tallied := by
  have moved := l.userBalance.total_set_amount caller (l.userBalance.amount caller + amount)
  unfold Tallied at tallied ⊢
  simp only [Ledger.undoWithdraw]
  split <;> simp only <;> omega

theorem Tallied.undoDeposit_iff (tallied : l.Tallied) (caller : Address) (depositAmount : Nat) :
    (l.undoDeposit caller depositAmount).Tallied ↔
      depositAmount ≤ l.userBalance.amount caller ∨
        (l.userBalance.amount caller = 0 ∧ l.totalDeposited < depositAmount) := by
  have share := l.userBalance.amount_le_total caller
  unfold Tallied at tallied ⊢
  simp only [Ledger.undoDeposit]
  by_cases enough : depositAmount ≤ l.userBalance.amount caller
  · have moved := l.userBalance.total_set_amount caller
      (l.userBalance.amount caller - depositAmount)
    rw [if_pos enough, if_pos (by omega)]
    refine iff_of_true ?_ (.inl enough)
    omega
  · have moved := l.userBalance.total_set_amount caller 0
    rw [if_neg enough]
    split <;> omega

theorem Reserved.withdraw (reserved : l.Reserved) (caller : Address) (amount : Nat) :
    (l.withdraw caller amount).Reserved := by
  have moved := l.pendingWithdrawals.total_set_amount caller
    (l.pendingWithdrawals.amount caller + amount)
  unfold Reserved at reserved ⊢
  simp only [Ledger.withdraw]
  omega

theorem Reserved.amount_le (reserved : l.Reserved) (user : Address) :
    l.pendingWithdrawals.amount user ≤ l.totalPendingWithdrawals := by
  rw [reserved]
  exact l.pendingWithdrawals.amount_le_total user

theorem Reserved.undoWithdraw (reserved : l.Reserved) (caller : Address) (amount : Nat) :
    (l.undoWithdraw caller amount).Reserved := by
  have moved := l.pendingWithdrawals.total_set_amount caller
    (l.pendingWithdrawals.amount caller - amount)
  have share := reserved.amount_le caller
  unfold Reserved at reserved ⊢
  simp only [Ledger.undoWithdraw]
  split
  · simp only
    rw [if_pos (by omega)]
    omega
  · exact reserved

theorem Reserved.collect (reserved : l.Reserved) (caller : Address) :
    (l.collect caller).Reserved := by
  have moved := l.pendingWithdrawals.total_clear_amount caller
  have share := reserved.amount_le caller
  unfold Reserved at reserved ⊢
  simp only [Ledger.collect]
  rw [if_pos share]
  omega

end Ledger

/-- A failed deposit is still in the balance of its user; or neither the balance
nor the deposited total holds anything that undoing it could take away. -/
def Undoable (w : World) : Step → Prop
  | .callback index false _ _ =>
      match w.promises[index]?.map Promise.callback with
      | some (.deposit caller amount) =>
          amount ≤ w.ledger.userBalance.amount caller ∨
            (w.ledger.userBalance.amount caller = 0 ∧ w.ledger.totalDeposited < amount)
      | _ => True
  | _ => True

instance (w : World) (move : Step) : Decidable (Undoable w move) := by
  cases move with
  | callback index succeeded returned time =>
      cases succeeded with
      | true => exact inferInstanceAs (Decidable True)
      | false =>
          dsimp only [Undoable]
          generalize w.promises[index]?.map Promise.callback = found
          rcases found with _ | callback
          · exact inferInstanceAs (Decidable True)
          · cases callback <;> infer_instance
  | _ => exact inferInstanceAs (Decidable True)

/-- The deposited total stays right over a step exactly if the step does not undo
a deposit that is gone. -/
theorem tallied_step_iff (faithful : FaithfulPromises w) (tallied : w.ledger.Tallied)
    (stepped : step chain w move = .ok next) : next.ledger.Tallied ↔ Undoable w move := by
  cases step_effect faithful stepped with
  | deposit => exact iff_of_true (tallied.deposit _ _) trivial
  | withdraw _ covered => exact iff_of_true (tallied.withdraw covered) trivial
  | withdrawUnbonded => exact iff_of_true tallied trivial
  | automation kind =>
      refine iff_of_true tallied ?_
      cases move <;> trivial
  | idle kind =>
      refine iff_of_true tallied ?_
      cases move <;> trivial
  | rescueYield => exact iff_of_true tallied trivial
  | configure => exact iff_of_true tallied trivial
  | @refused index returned time promise caller amount inFlight kind =>
      simp only [Undoable, inFlight, Option.map_some, kind]
      exact tallied.undoDeposit_iff caller amount
  | @unbondingRefused index returned time promise caller amount inFlight kind =>
      simp only [Undoable, inFlight, Option.map_some, kind]
      exact iff_of_true (tallied.undoWithdraw caller amount) trivial
  | @settled index returned time count succeeded promise events inFlight notDeposit _ =>
      refine iff_of_true tallied ?_
      cases succeeded with
      | true => trivial
      | false =>
          simp only [Undoable, inFlight, Option.map_some]
          split
          · exact absurd (Option.some.inj ‹_›) (notDeposit rfl _ _)
          · trivial
  | receiveEgld => exact iff_of_true tallied trivial

theorem reserved_step (faithful : FaithfulPromises w) (reserved : w.ledger.Reserved)
    (stepped : step chain w move = .ok next) : next.ledger.Reserved := by
  cases step_effect faithful stepped with
  | deposit => exact reserved
  | withdraw => exact reserved.withdraw _ _
  | withdrawUnbonded => exact reserved.collect _
  | refused => exact reserved
  | unbondingRefused => exact reserved.undoWithdraw _ _
  | _ => exact reserved

/-- In any run, the deposited total equals the sum of the users' balances in every
state passed exactly if every failed deposit could be undone: its user's balance
held it, or there was nothing to take from balance and total. -/
theorem deposits_tallied {delegationContract schedulerAddress : Address} {steps : List Step}
    {allowed : World → Step → Prop}
    (trace : Trace (step chain) allowed (init delegationContract schedulerAddress) steps w) :
    Throughout (step chain) (fun w => w.ledger.totalDeposited = w.ledger.userBalance.total id)
        (init delegationContract schedulerAddress) steps ↔
      Trace (step chain) Undoable (init delegationContract schedulerAddress) steps w := by
  refine trace.throughout_iff FaithfulPromises ?_ ?_ (init_faithful _ _) rfl
  · intro _ _ _ faithful stepped
    exact faithful.step stepped
  · intro _ _ _ faithful tallied stepped
    exact tallied_step_iff faithful tallied stepped

namespace Sample

def bob : Address := .fill 5

def undoneRun : List Step :=
  [.deposit (call 100), .deposit { call 60 with caller := bob }, .callback 0 false 0 1001,
    .callback 0 true 0 1001]

def mistalliedRun : List Step :=
  [.deposit (call 100), .deposit { call 100 with caller := bob }, .withdraw (call 0) 100,
    .callback 0 false 0 1001]

def overdrawnRun : List Step :=
  [.deposit (call 100), .deposit { call 60 with caller := bob }, .withdraw (call 0) 100,
    .withdraw { call 0 with caller := bob } 40, .receiveEgld 200, .withdrawUnbonded (call 0),
    .callback 2 false 0 1001]

end Sample

theorem deposits_tallied_sample :
    ∃ w, Trace (step sampleChain) Undoable Sample.vault Sample.undoneRun w ∧
      w.ledger.totalDeposited = 60 ∧
      Throughout (step sampleChain)
        (fun w => w.ledger.totalDeposited = w.ledger.userBalance.total id) Sample.vault
        Sample.undoneRun := by
  obtain ⟨w, trace, left⟩ := Trace.of_runChecked (step sampleChain) Undoable Sample.vault
    Sample.undoneRun (fun w => w.ledger.totalDeposited = 60) (by decide +kernel)
  exact ⟨w, trace, left, (deposits_tallied trace).mpr trace⟩

/-- Bob's balance is there, and the total has lost it. -/
theorem deposits_mistallied :
    ∃ w, Trace (step sampleChain) (fun _ _ => True) Sample.vault Sample.mistalliedRun w ∧
      w.ledger.userBalance.amount Sample.bob = 100 ∧ w.ledger.userBalance.total id = 100 ∧
      w.ledger.totalDeposited = 0 :=
  Trace.of_runChecked _ _ _ _ _ (by decide +kernel)

/-- In every run the pending total equals the sum of the pending withdrawals, so
that neither `withdraw_callback` nor `withdraw_unbonded` ever finds it smaller
than what it takes away. -/
theorem pending_withdrawals_exact {delegationContract schedulerAddress : Address}
    {steps : List Step} {allowed : World → Step → Prop}
    (trace : Trace (step chain) allowed (init delegationContract schedulerAddress) steps w) :
    w.ledger.totalPendingWithdrawals = w.ledger.pendingWithdrawals.total id ∧
      (∀ (index : Nat) promise caller amount, w.promises[index]? = some promise →
        promise.callback = .withdraw caller amount →
        amount ≤ w.ledger.pendingWithdrawals.amount caller →
        amount ≤ w.ledger.totalPendingWithdrawals) ∧
      ∀ caller, w.ledger.pendingWithdrawals.amount caller ≤ w.ledger.totalPendingWithdrawals := by
  have kept : FaithfulPromises w ∧ w.ledger.Reserved := by
    refine trace.preserves (fun w => FaithfulPromises w ∧ w.ledger.Reserved) ?_
      ⟨init_faithful _ _, rfl⟩
    rintro _ _ _ _ ⟨faithful, reserved⟩ stepped
    exact ⟨faithful.step stepped, reserved_step faithful reserved stepped⟩
  obtain ⟨_, reserved⟩ := kept
  refine ⟨reserved, ?_, reserved.amount_le⟩
  intro _ _ caller _ _ _ covered
  exact Nat.le_trans covered (reserved.amount_le caller)

theorem pending_withdrawals_exact_sample :
    ∃ w, Trace (step sampleChain) (fun _ _ => True) Sample.vault Sample.overdrawnRun w ∧
      w.ledger.totalPendingWithdrawals = 40 ∧
      w.ledger.totalPendingWithdrawals = w.ledger.pendingWithdrawals.total id := by
  obtain ⟨w, trace, left⟩ := Trace.of_runChecked (step sampleChain) (fun _ _ => True) Sample.vault
    Sample.overdrawnRun (fun w => w.ledger.totalPendingWithdrawals = 40) (by decide +kernel)
  exact ⟨w, trace, left, (pending_withdrawals_exact trace).1⟩

end XCron.Vault
