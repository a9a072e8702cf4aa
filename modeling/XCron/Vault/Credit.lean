import XCron.Vault.Effects

/-!
# What users get out of the vault

Paid refunds, paid withdrawals, the balance and the pending withdrawals of a
user add up to at least what the user sent to `deposit`, and to more exactly if
a failure callback had nothing to take back: `deposit_callback` then clamps the
balance at zero and still refunds, `withdraw_callback` then skips the pending
amount and still restores the balance.
-/

namespace XCron.Vault

open Platform

variable {chain : Chain} {w next : World} {move : Step}

namespace Ledger

def owed (user : Address) (l : Ledger) : Nat :=
  l.userBalance.amount user + l.pendingWithdrawals.amount user

theorem owed_deposit (user caller : Address) (payment : Nat) (l : Ledger) :
    (l.deposit caller payment).owed user = l.owed user + if caller = user then payment else 0 := by
  unfold owed deposit
  rw [Cells.amount_set]
  by_cases same : user = caller
  · subst same
    simp only [if_true]
    omega
  · simp [same, Ne.symm same]

theorem owed_withdraw (user : Address) {caller : Address} {amount : Nat} {l : Ledger}
    (covered : amount ≤ l.userBalance.amount caller) :
    (l.withdraw caller amount).owed user = l.owed user := by
  unfold owed withdraw
  rw [Cells.amount_set, Cells.amount_set]
  by_cases same : user = caller
  · subst same
    simp only [if_true]
    omega
  · simp [same]

theorem owed_collect (user caller : Address) (l : Ledger) :
    (l.collect caller).owed user +
        (if caller = user then l.pendingWithdrawals.amount caller else 0) = l.owed user := by
  unfold owed collect
  rw [Cells.amount_clear]
  by_cases same : user = caller
  · subst same
    simp
  · simp [same, Ne.symm same]

theorem owed_undoDeposit (user caller : Address) (depositAmount : Nat) (l : Ledger) :
    (l.undoDeposit caller depositAmount).owed user +
        (if caller = user then min depositAmount (l.userBalance.amount caller) else 0) =
      l.owed user := by
  unfold owed undoDeposit
  rw [Cells.amount_set]
  by_cases same : user = caller
  · subst same
    simp only [if_true]
    split <;> omega
  · simp [same, Ne.symm same]

theorem owed_undoWithdraw (user caller : Address) (amount : Nat) (l : Ledger) :
    (l.undoWithdraw caller amount).owed user = l.owed user +
      if caller = user ∧ l.pendingWithdrawals.amount caller < amount then amount else 0 := by
  unfold owed undoWithdraw
  by_cases enough : amount ≤ l.pendingWithdrawals.amount caller
  · simp only [enough, if_true, Cells.amount_set, Nat.not_lt.mpr enough, and_false, if_false]
    by_cases same : user = caller
    · subst same
      simp only [if_true]
      omega
    · simp [same]
  · simp only [enough, if_false, Cells.amount_set, Nat.lt_of_not_le enough, and_true]
    by_cases same : user = caller
    · subst same
      simp only [if_true]
      omega
    · simp [same, Ne.symm same]

end Ledger

def Transfer.creditTo (user : Address) : Transfer → Nat
  | .depositRefund receiver amount | .unbonded receiver amount =>
      if receiver = user then amount else 0
  | .yield _ _ => 0

/-- The EGLD paid to a user by `deposit_callback` and `withdrawUnbonded`. -/
def paidTo (user : Address) (w : World) : Nat := (w.sent.map (Transfer.creditTo user)).sum

/-- Everything a user has been credited with. -/
def credited (user : Address) (w : World) : Nat := paidTo user w + w.ledger.owed user

def Step.payment (user : Address) : Step → Nat
  | .deposit call => if call.caller = user then call.egldValue else 0
  | _ => 0

/-- A failure callback for the user finds what it has to take back. -/
def Compensated (user : Address) (w : World) : Step → Prop
  | .callback index false _ _ =>
      match w.promises[index]?.map Promise.callback with
      | some (.deposit caller amount) =>
          caller = user → amount ≤ w.ledger.userBalance.amount user
      | some (.withdraw caller amount) =>
          caller = user → amount ≤ w.ledger.pendingWithdrawals.amount user
      | _ => True
  | _ => True

instance (user : Address) (w : World) (move : Step) : Decidable (Compensated user w move) := by
  unfold Compensated
  repeat' split
  all_goals infer_instance

theorem paidTo_pay (user : Address) (transfer : Transfer) (w : World) :
    paidTo user (w.pay chain transfer) = paidTo user w + transfer.creditTo user := by
  simp [paidTo, World.pay]

theorem credited_of_same {user : Address} (ledger : next.ledger = w.ledger)
    (sent : next.sent = w.sent) : credited user next = credited user w := by
  unfold credited paidTo
  rw [ledger, sent]

/-- What a step credits a user beyond the deposit it brings. -/
def Step.surplus (user : Address) (w : World) : Step → Nat
  | .callback index false _ _ =>
      match w.promises[index]?.map Promise.callback with
      | some (.deposit caller amount) =>
          if caller = user then amount - w.ledger.userBalance.amount user else 0
      | some (.withdraw caller amount) =>
          if caller = user ∧ w.ledger.pendingWithdrawals.amount user < amount then amount else 0
      | _ => 0
  | _ => 0

/-- The ledger of one user over a step: the deposit it brings, and the surplus. -/
theorem credited_step (user : Address) (faithful : FaithfulPromises w)
    (stepped : step chain w move = .ok next) :
    credited user next = credited user w + move.payment user + move.surplus user w := by
  cases step_effect faithful stepped with
  | @deposit call _ _ =>
      have owed := w.ledger.owed_deposit user call.caller call.egldValue
      simp only [credited, Step.payment, Step.surplus]
      change paidTo user w + (w.ledger.deposit call.caller call.egldValue).owed user = _
      omega
  | @withdraw call amount _ covered =>
      have owed := Ledger.owed_withdraw user covered
      simp only [credited, Step.payment, Step.surplus]
      change paidTo user w + (w.ledger.withdraw call.caller amount).owed user = _
      omega
  | @withdrawUnbonded call _ _ =>
      have owed := w.ledger.owed_collect user call.caller
      simp only [credited, Step.payment, Step.surplus, paidTo_pay, Transfer.creditTo]
      change paidTo user w + _ + (w.ledger.collect call.caller).owed user = _
      omega
  | automation kind _ =>
      cases move <;> first | exact credited_of_same rfl rfl | cases kind
  | idle kind =>
      cases move <;> first | rfl | cases kind
  | rescueYield =>
      simp only [credited, paidTo_pay, Transfer.creditTo, Step.payment, Step.surplus]
      rfl
  | @refused index returned time promise caller amount inFlight kind =>
      have owed := w.ledger.owed_undoDeposit user caller amount
      simp only [credited, Step.payment, Step.surplus, paidTo_pay, Transfer.creditTo, inFlight,
        Option.map_some, kind]
      change paidTo user w + _ + (w.ledger.undoDeposit caller amount).owed user = _
      split at owed
      next same =>
        subst same
        simp only [if_true]
        omega
      next different =>
        simp only [different, if_false]
        omega
  | @unbondingRefused index returned time promise caller amount inFlight kind =>
      have owed := w.ledger.owed_undoWithdraw user caller amount
      simp only [credited, Step.payment, Step.surplus, inFlight, Option.map_some, kind]
      change paidTo user w + (w.ledger.undoWithdraw caller amount).owed user = _
      rw [owed, ← Nat.add_assoc]
      by_cases same : caller = user
      · subst same
        rfl
      · simp [same]
  | @settled index returned time count succeeded promise events inFlight notDeposit notWithdraw =>
      have none : (Step.callback index succeeded returned time).surplus user w = 0 := by
        cases succeeded with
        | true => rfl
        | false =>
            simp only [Step.surplus, inFlight, Option.map_some]
            split
            · exact absurd (Option.some.inj ‹_›) (notDeposit rfl _ _)
            · exact absurd (Option.some.inj ‹_›) (notWithdraw rfl _ _)
            · rfl
      rw [none]
      exact credited_of_same rfl rfl
  | configure => exact credited_of_same rfl rfl
  | receiveEgld => exact credited_of_same rfl rfl

theorem surplus_eq_zero_iff (user : Address) (w : World) (move : Step) :
    move.surplus user w = 0 ↔ Compensated user w move := by
  unfold Step.surplus Compensated
  split
  · split
    · split <;> simp_all; omega
    · split <;> simp_all; omega
    · simp
  · simp

/-- Over any run, a user has been credited no more than the user sent to
`deposit` exactly if every failure callback for the user found what it had to
take back. -/
theorem credit_within_deposits {delegationContract schedulerAddress : Address} {steps : List Step}
    {allowed : World → Step → Prop} (user : Address)
    (trace : Trace (step chain) allowed (init delegationContract schedulerAddress) steps w) :
    paidTo user w + w.ledger.userBalance.amount user + w.ledger.pendingWithdrawals.amount user ≤
        (steps.map (Step.payment user)).sum ↔
      Trace (step chain) (Compensated user) (init delegationContract schedulerAddress) steps w := by
  have raised : ∀ state move after, FaithfulPromises state → step chain state move = .ok after →
      credited user state + move.payment user ≤ credited user after := by
    intro state move after faithful stepped
    rw [credited_step user faithful stepped]
    exact Nat.le_add_right _ _
  have conserved : ∀ state move after, FaithfulPromises state → step chain state move = .ok after →
      (credited user after ≤ credited user state + move.payment user ↔
        Compensated user state move) := by
    intro state move after faithful stepped
    rw [credited_step user faithful stepped, ← surplus_eq_zero_iff]
    omega
  have start := init_faithful delegationContract schedulerAddress
  have nothing : credited user (init delegationContract schedulerAddress) = 0 := by
    simp [credited, paidTo, init, Ledger.owed]
  have metered := trace.measure_le_input_iff FaithfulPromises (credited user) (Step.payment user)
    (fun _ _ _ faithful stepped => faithful.step stepped) raised (Compensated user) conserved start
  rw [nothing, Nat.zero_add] at metered
  rw [← metered, credited, Ledger.owed, Nat.add_assoc]

namespace Sample

def vault : World := init (.fill 3) (.fill 4)

def alice : Address := .fill 6

def call (egldValue : Nat) : CallContext :=
  { caller := alice
    egldValue := egldValue
    esdtTransfers := []
    blockTimestamp := 1000
    blockRound := 1
    blockRandomSeed := []
    gasLeft := 500000000 }

def fairRun : List Step :=
  [.deposit (call 100), .deposit (call 60), .callback 0 false 0 1001, .callback 0 true 0 1001,
    .withdraw (call 0) 40, .callback 0 false 0 1002]

def overtakingRun : List Step :=
  [.deposit (call 100), .withdraw (call 0) 100, .callback 0 false 0 1001]

end Sample

theorem credit_within_deposits_sample :
    ∃ w, Trace (step sampleChain) (Compensated Sample.alice) Sample.vault Sample.fairRun w ∧
      paidTo Sample.alice w = 100 ∧
      paidTo Sample.alice w + w.ledger.userBalance.amount Sample.alice +
          w.ledger.pendingWithdrawals.amount Sample.alice ≤
        (Sample.fairRun.map (Step.payment Sample.alice)).sum := by
  obtain ⟨w, trace, paid⟩ := Trace.of_runChecked (step sampleChain)
    (Compensated Sample.alice) Sample.vault Sample.fairRun
    (fun w => paidTo Sample.alice w = 100) (by decide +kernel)
  exact ⟨w, trace, paid, (credit_within_deposits Sample.alice trace).mpr trace⟩

/-- The refund is paid although the balance is already on its way out. -/
theorem credit_overtaken :
    ∃ w, Trace (step sampleChain) (fun _ _ => True) Sample.vault Sample.overtakingRun w ∧
      (Sample.overtakingRun.map (Step.payment Sample.alice)).sum <
        paidTo Sample.alice w + w.ledger.userBalance.amount Sample.alice +
          w.ledger.pendingWithdrawals.amount Sample.alice :=
  Trace.of_runChecked _ _ _ _ _ (by decide +kernel)

end XCron.Vault
