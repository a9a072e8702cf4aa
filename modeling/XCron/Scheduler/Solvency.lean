import XCron.Scheduler.Lifecycle

/-!
# Solvency

Four ledgers share the contract's EGLD: task deposits, accrued fees, clone-key
budgets and the fees of pending intents. No step shrinks the surplus of the
balance over what these ledgers owe, so a balance that covers them covers them
for ever, and no payout is refused for lack of EGLD.
-/

namespace XCron.Scheduler

open Platform

/-! ## What is owed -/

namespace IntentBook

variable {Terms : Type}

def pendingTotal (weight : IntentRecord Terms → Nat) (book : IntentBook Terms) : Nat :=
  book.byId.total fun intent => if intent.status = .pending then weight intent else 0

variable {weight : IntentRecord Terms → Nat} {book : IntentBook Terms} {id : Nat}
  {intent : IntentRecord Terms}

theorem pendingTotal_set (found : book.byId.get? id = some intent)
    (pending : intent.status = .pending) (closed : IntentRecord Terms)
    (left : closed.status ≠ .pending) :
    ({ book with byId := book.byId.set id closed } : IntentBook Terms).pendingTotal weight +
      weight intent = book.pendingTotal weight := by
  have moved := Cells.total_set_of_some
    (fun intent : IntentRecord Terms => if intent.status = .pending then weight intent else 0)
    closed found
  simpa [pending, left, pendingTotal] using moved

theorem pendingTotal_cancel (weight : IntentRecord Terms → Nat)
    (found : book.byId.get? id = some intent) (pending : intent.status = .pending) :
    ({ book with byId := book.byId.set id intent.cancelled } : IntentBook Terms).pendingTotal weight +
      weight intent = book.pendingTotal weight :=
  pendingTotal_set found pending intent.cancelled (by simp [IntentRecord.cancelled])

theorem pendingTotal_settle (weight : IntentRecord Terms → Nat) (keeper : Address)
    (found : book.byId.get? id = some intent) (pending : intent.status = .pending) :
    (book.settle id intent keeper).pendingTotal weight + weight intent =
      book.pendingTotal weight :=
  pendingTotal_set found pending (intent.settled keeper) (by simp [IntentRecord.settled])

theorem weight_le_pendingTotal (weight : IntentRecord Terms → Nat)
    (found : book.byId.get? id = some intent)
    (pending : intent.status = .pending) : weight intent ≤ book.pendingTotal weight := by
  have bound := Cells.measure_le_total
    (fun intent : IntentRecord Terms => if intent.status = .pending then weight intent else 0) found
  simpa [pending, pendingTotal] using bound

end IntentBook

def taskDeposits (w : World) : Nat := w.quantumTasks.total QuantumTaskState.deposit

def cloneBudgets (w : World) : Nat := w.cloneKeyProps.total CloneKeyProperties.unspent

def intentFees (w : World) : Nat :=
  w.intents.pendingTotal IntentRecord.fee + w.multiIntents.pendingTotal IntentRecord.fee +
    w.preCognitiveIntents.pendingTotal IntentRecord.fee

/-- Everything the scheduler owes in EGLD. -/
def liabilities (w : World) : Nat :=
  taskDeposits w + w.accruedProtocolFees + cloneBudgets w + intentFees w

/-- The balance covers what is owed. -/
def Solvent (w : World) : Prop := liabilities w ≤ w.egld

/-- The surplus of the balance over what is owed does not shrink. -/
def KeepsSurplus (w next : World) : Prop := w.egld + liabilities next ≤ next.egld + liabilities w

theorem KeepsSurplus.solvent {w next : World} (kept : KeepsSurplus w next) (solvent : Solvent w) :
    Solvent next := by
  unfold KeepsSurplus at kept
  unfold Solvent at solvent ⊢
  omega

section Surplus

variable {chain : Chain} {w next : World} {hash : TaskHash} {state : QuantumTaskState}

theorem pay_egld (chain : Chain) (receiver : Address) (amount : Nat) (w : World) :
    w.egld ≤ (w.pay chain receiver amount).egld + amount := by
  unfold World.pay
  dsimp only
  split <;> omega

theorem payIfPositive_egld (chain : Chain) (receiver : Address) (amount : Nat) (w : World) :
    w.egld ≤ (w.payIfPositive chain receiver amount).egld + amount := by
  unfold World.payIfPositive
  dsimp only
  split <;> omega

theorem forwardProtocolFee_accrued (fee : Nat) (w : World) :
    (w.forwardProtocolFee fee).accruedProtocolFees = w.accruedProtocolFees + fee := by
  unfold World.forwardProtocolFee
  dsimp only
  split <;> omega

theorem closing_surplus {paid : Nat} (fee : Nat) (found : w.quantumTasks.get? hash = some state)
    (tasks : next.quantumTasks = w.quantumTasks.clear hash)
    (accrued : next.accruedProtocolFees = w.accruedProtocolFees + fee)
    (budgets : cloneBudgets next = cloneBudgets w) (fees : intentFees next = intentFees w)
    (balance : w.egld ≤ next.egld + paid) (split : paid + fee = state.deposit) :
    KeepsSurplus w next := by
  have cleared := Cells.total_clear QuantumTaskState.deposit found
  unfold KeepsSurplus liabilities taskDeposits
  rw [tasks, accrued, budgets, fees]
  omega

theorem cancelled_surplus (bounded : w.FeeBounded) (found : w.quantumTasks.get? hash = some state) :
    KeepsSurplus w (w.cancelled chain hash state) :=
  closing_surplus _ found rfl (forwardProtocolFee_accrued (protocolFee w state.deposit) w) rfl rfl
    (payIfPositive_egld chain state.owner (cancellationRefund w state.deposit) w)
    (cancellation_split bounded state.deposit)

theorem succeeded_surplus (chain : Chain) (targetContract keeper : Address)
    (path : Option DispatchPath)
    (bounded : w.FeeBounded) (found : w.quantumTasks.get? hash = some state) :
    KeepsSurplus w
      (w.succeeded chain hash targetContract keeper state.deposit state.owner path) := by
  have rewarded := pay_egld chain keeper (calculateReward w state.deposit) w
  have refunded := payIfPositive_egld chain state.owner
    (remainder state.deposit (calculateReward w state.deposit + protocolFee w state.deposit))
    (w.pay chain keeper (calculateReward w state.deposit))
  have split := success_split bounded state.deposit
  have final : (w.succeeded chain hash targetContract keeper state.deposit state.owner path).egld =
      ((w.pay chain keeper (calculateReward w state.deposit)).payIfPositive chain state.owner
        (remainder state.deposit
          (calculateReward w state.deposit + protocolFee w state.deposit))).egld := rfl
  refine closing_surplus _ found rfl (forwardProtocolFee_accrued (protocolFee w state.deposit) w) rfl
    rfl ?_ split
  omega

theorem failed_surplus (chain : Chain) (targetContract keeper : Address)
    (path : Option DispatchPath)
    (bounded : w.FeeBounded) (found : w.quantumTasks.get? hash = some state) :
    KeepsSurplus w (w.failed chain hash targetContract keeper state.deposit state.owner path) :=
  closing_surplus _ found rfl (forwardProtocolFee_accrued (protocolFee w state.deposit) w) rfl rfl
    (payIfPositive_egld chain state.owner (remainder state.deposit (protocolFee w state.deposit)) w)
    (failure_split bounded state.deposit)

theorem rescued_surplus {keeper : Address} (found : w.quantumTasks.get? hash = some state) :
    KeepsSurplus w (w.rescued chain hash state keeper) :=
  closing_surplus 0 found rfl rfl rfl rfl (pay_egld chain state.owner state.deposit w) rfl

theorem dispatched_surplus {d : Dispatch} {before : World} (dispatched : Dispatched chain d w next)
    (egld : w.egld = before.egld) (owed : liabilities w = liabilities before)
    (covered : d.state.deposit ≤ (before.view d.taskHash).deposit)
    (tasks : w.quantumTasks = before.quantumTasks) : KeepsSurplus before next := by
  rcases dispatched with ⟨_, _, rfl⟩ | ⟨_, rfl⟩ | rfl
  · exact Nat.le_of_eq (congrArg₂ _ egld.symm owed)
  · exact Nat.le_of_eq (congrArg₂ _ egld.symm owed)
  · have restored : taskDeposits (w.startExecution chain d) ≤ taskDeposits w := by
      unfold taskDeposits World.startExecution
      unfold TaskView.deposit World.view at covered
      dsimp only at covered ⊢
      rw [← tasks] at covered
      cases stored : w.quantumTasks.get? d.taskHash with
      | none =>
          rw [Cells.total_set_of_none _ _ stored]
          simp only [stored] at covered
          have nothing : d.executingState.deposit = 0 := Nat.le_zero.mp covered
          omega
      | some old =>
          have replaced := Cells.total_set_of_some QuantumTaskState.deposit d.executingState stored
          simp only [stored] at covered
          have same : d.executingState.deposit = d.state.deposit := rfl
          omega
    have egldKept : (w.startExecution chain d).egld = before.egld := egld
    have owedKept : liabilities (w.startExecution chain d) + taskDeposits w =
        taskDeposits (w.startExecution chain d) + liabilities w := by
      unfold liabilities
      have accrued : (w.startExecution chain d).accruedProtocolFees = w.accruedProtocolFees := rfl
      have budgets : cloneBudgets (w.startExecution chain d) = cloneBudgets w := rfl
      have fees : intentFees (w.startExecution chain d) = intentFees w := rfl
      omega
    unfold KeepsSurplus
    omega

theorem budget_surplus (tasks : taskDeposits next = taskDeposits w)
    (accrued : next.accruedProtocolFees = w.accruedProtocolFees)
    (fees : intentFees next = intentFees w)
    (budgets : w.egld + cloneBudgets next ≤ next.egld + cloneBudgets w) : KeepsSurplus w next := by
  unfold KeepsSurplus liabilities
  omega

theorem intent_surplus (tasks : taskDeposits next = taskDeposits w)
    (accrued : next.accruedProtocolFees = w.accruedProtocolFees)
    (budgets : cloneBudgets next = cloneBudgets w)
    (fees : w.egld + intentFees next ≤ next.egld + intentFees w) : KeepsSurplus w next := by
  unfold KeepsSurplus liabilities
  omega

theorem cloneBudgets_charged {cloneAddress : Address} {props : CloneKeyProperties} {amount : Nat}
    (found : w.cloneKeyProps.get? cloneAddress = some props)
    (within : props.spentAmount + amount ≤ props.spendLimit) :
    cloneBudgets (w.charged cloneAddress props amount) + amount = cloneBudgets w := by
  have replaced := Cells.total_set_of_some CloneKeyProperties.unspent
    { props with spentAmount := props.spentAmount + amount } found
  have rest : CloneKeyProperties.unspent { props with spentAmount := props.spentAmount + amount } +
      amount = props.unspent := by
    unfold CloneKeyProperties.unspent
    dsimp only
    omega
  unfold cloneBudgets World.charged
  dsimp only
  omega

theorem storeTask_surplus {call : CallContext} {requested : Option Nat} {deposit : Nat}
    {paid : World} (owner : Address)
    (taken : takeDeposit call requested (w.credit call) = .ok (deposit, paid))
    (free : paid.quantumTasks.get? hash = none) :
    KeepsSurplus w (storeTask hash owner deposit paid) := by
  have stored : taskDeposits (storeTask hash owner deposit paid) = deposit + taskDeposits paid :=
    Cells.total_set_of_none _ _ free
  have accrued : (storeTask hash owner deposit paid).accruedProtocolFees =
    paid.accruedProtocolFees := rfl
  have budgets : cloneBudgets (storeTask hash owner deposit paid) = cloneBudgets paid := rfl
  have fees : intentFees (storeTask hash owner deposit paid) = intentFees paid := rfl
  have balance : (storeTask hash owner deposit paid).egld = paid.egld := rfl
  unfold KeepsSurplus liabilities
  rw [stored, accrued, budgets, fees, balance]
  rcases takeDeposit_cases taken with ⟨rfl, rfl⟩ | ⟨props, found, within, rfl⟩
  · have credited : (w.credit call).egld = w.egld + call.egldValue := rfl
    have tasks : taskDeposits (w.credit call) = taskDeposits w := rfl
    have accrued' : (w.credit call).accruedProtocolFees = w.accruedProtocolFees := rfl
    have budgets' : cloneBudgets (w.credit call) = cloneBudgets w := rfl
    have fees' : intentFees (w.credit call) = intentFees w := rfl
    omega
  · have charged := cloneBudgets_charged found within
    have credited : ((w.credit call).charged call.caller props deposit).egld =
      w.egld + call.egldValue := rfl
    have tasks : taskDeposits ((w.credit call).charged call.caller props deposit) =
      taskDeposits w := rfl
    have accrued' : ((w.credit call).charged call.caller props deposit).accruedProtocolFees =
      w.accruedProtocolFees := rfl
    have budgets' : cloneBudgets (w.credit call) = cloneBudgets w := rfl
    have fees' : intentFees ((w.credit call).charged call.caller props deposit) =
      intentFees w := rfl
    omega

theorem authorized_surplus {call : CallContext} {cloneAddress : Address} {ttlSeconds : UInt64}
    (free : w.cloneKeyProps.get? cloneAddress = none) :
    KeepsSurplus w ((w.credit call).authorized call cloneAddress ttlSeconds) := by
  refine budget_surplus rfl rfl rfl ?_
  have added : cloneBudgets ((w.credit call).authorized call cloneAddress ttlSeconds) =
    call.egldValue + cloneBudgets w := Cells.total_set_of_none _ _ free
  have credited : ((w.credit call).authorized call cloneAddress ttlSeconds).egld =
    w.egld + call.egldValue := rfl
  omega

theorem revoked_surplus {caller cloneAddress : Address} {props : CloneKeyProperties}
    (found : w.cloneKeyProps.get? cloneAddress = some props) :
    KeepsSurplus w (w.revoked chain caller cloneAddress props) := by
  refine budget_surplus rfl rfl rfl ?_
  have cleared : cloneBudgets (w.revoked chain caller cloneAddress props) + props.unspent =
    cloneBudgets w := Cells.total_clear CloneKeyProperties.unspent found
  have paid : w.egld ≤ (w.revoked chain caller cloneAddress props).egld + props.unspent :=
    payIfPositive_egld chain caller props.unspent w
  omega

theorem toppedUp_surplus {call : CallContext} {cloneAddress : Address} {props : CloneKeyProperties}
    (found : w.cloneKeyProps.get? cloneAddress = some props) :
    KeepsSurplus w ((w.credit call).toppedUp call cloneAddress props) := by
  refine budget_surplus rfl rfl rfl ?_
  have replaced : cloneBudgets ((w.credit call).toppedUp call cloneAddress props) + props.unspent =
      CloneKeyProperties.unspent { props with spendLimit := props.spendLimit + call.egldValue } +
        cloneBudgets w := Cells.total_set_of_some _ _ found
  have grown : CloneKeyProperties.unspent
      { props with spendLimit := props.spendLimit + call.egldValue } ≤
        props.unspent + call.egldValue := by
    unfold CloneKeyProperties.unspent
    dsimp only
    omega
  have credited : ((w.credit call).toppedUp call cloneAddress props).egld =
    w.egld + call.egldValue := rfl
  omega

theorem flushed_surplus {rewards caller : Address} (affordable : w.accruedProtocolFees ≤ w.egld) :
    KeepsSurplus w (w.flushed rewards caller) := by
  have tasks : taskDeposits (w.flushed rewards caller) = taskDeposits w := rfl
  have accrued : (w.flushed rewards caller).accruedProtocolFees = 0 := rfl
  have budgets : cloneBudgets (w.flushed rewards caller) = cloneBudgets w := rfl
  have fees : intentFees (w.flushed rewards caller) = intentFees w := rfl
  have balance : (w.flushed rewards caller).egld = w.egld - w.accruedProtocolFees := rfl
  unfold KeepsSurplus liabilities
  omega

theorem paidOut_surplus {Terms : Type} {closing : World} {receiver : Address}
    {intent : IntentRecord Terms} (tasks : taskDeposits closing = taskDeposits w)
    (accrued : closing.accruedProtocolFees = w.accruedProtocolFees)
    (budgets : cloneBudgets closing = cloneBudgets w) (balance : w.egld ≤ closing.egld)
    (released : intentFees closing + intent.fee = intentFees w) :
    KeepsSurplus w (closing.paidOut chain receiver intent) := by
  refine intent_surplus tasks accrued budgets ?_
  have paid : closing.egld ≤ (closing.paidOut chain receiver intent).egld + intent.fee :=
    payIfPositive_egld chain receiver intent.fee
      (closing.payEsdt chain receiver intent.tokenIn 0 intent.amountIn)
  have fees : intentFees (closing.paidOut chain receiver intent) = intentFees closing := rfl
  omega

theorem delivered_owed (chain : Chain) (owner : Address) (payments : List EsdtPayment)
    (w : World) :
    taskDeposits (w.delivered chain owner payments) = taskDeposits w ∧
      (w.delivered chain owner payments).accruedProtocolFees = w.accruedProtocolFees ∧
      cloneBudgets (w.delivered chain owner payments) = cloneBudgets w ∧
      (w.delivered chain owner payments).egld = w.egld ∧
      intentFees (w.delivered chain owner payments) = intentFees w := by
  rw [World.delivered_eq]
  exact ⟨rfl, rfl, rfl, rfl, rfl⟩

theorem settled_surplus {Terms : Type} {closing : World} {receiver : Address}
    {intent : IntentRecord Terms} (payments : List EsdtPayment)
    (tasks : taskDeposits closing = taskDeposits w)
    (accrued : closing.accruedProtocolFees = w.accruedProtocolFees)
    (budgets : cloneBudgets closing = cloneBudgets w) (balance : w.egld ≤ closing.egld)
    (released : intentFees closing + intent.fee = intentFees w) :
    KeepsSurplus w
      ((closing.delivered chain intent.owner payments).paidOut chain receiver intent) := by
  obtain ⟨tasks', accrued', budgets', balance', fees'⟩ :=
    delivered_owed chain intent.owner payments closing
  refine paidOut_surplus (tasks'.trans tasks) (accrued'.trans accrued) (budgets'.trans budgets)
    ?_ ?_
  · rw [balance']
    exact balance
  · rw [fees']
    exact released

theorem frame_deposit {loss compressed : Prop} {frame : Frame} {rest : List Frame} {d : Dispatch}
    (orderly : Orderly loss compressed w) (waiting : w.frames = frame :: rest)
    (kind : (frame = .oracle d ∨ frame = .xwap d) ∨ ∃ call hash payload,
      frame = .proof call hash payload ∧ d = compressedDispatch call hash payload) :
    d.state.deposit ≤ (w.view d.taskHash).deposit := by
  have about : frame.taskHash = d.taskHash := by
    rcases kind with (rfl | rfl) | ⟨call, hash, payload, rfl, rfl⟩ <;> rfl
  have top := (view_pop waiting).1
  rw [about] at top
  rcases kind with kind | ⟨call, hash, payload, rfl, rfl⟩
  · obtain ⟨_, opening | ⟨_, call, payload, same, presenting⟩⟩ :=
      (orderly.phase d.taskHash).of_query top kind
    · simp [TaskView.deposit, opening.stored]
    · rw [← same]
      exact presenting.presentable.deposit_le
  · obtain ⟨_, _, presenting⟩ := (orderly.phase hash).of_proof top
    exact presenting.presentable.deposit_le

/-- No step of an orderly scheduler shrinks the surplus. -/
theorem step_surplus {loss compressed : Prop} {move : Step} (orderly : Orderly loss compressed w)
    (stepped : step chain w move = .ok next) : KeepsSurplus w next := by
  have bounded := orderly.bounded
  cases step_effect stepped with
  | @scheduleQuantumTask call _ _ _ _ _ _ taken free =>
      have kept := storeTask_surplus (resolveCaller call w).1 taken free
      exact kept
  | @scheduleSovereignTask call _ _ _ _ _ _ _ taken free =>
      have kept := storeTask_surplus (resolveCaller call w).1 taken free
      exact kept
  | cancelQuantumTask _ found _ _ _ => exact cancelled_surplus bounded found
  | executeQuantumTask _ found _ _ dispatched =>
      refine dispatched_surplus dispatched rfl rfl ?_ rfl
      simp [TaskView.deposit, World.view, found]
  | settleXseTask _ found _ _ _ closed =>
      obtain ⟨_, _, rfl⟩ := finalizeSuccessfulExecution_eq_ok.mp closed
      exact succeeded_surplus chain _ _ _ bounded found
  | rescueStuckXseTask _ found _ _ _ _ => exact rescued_surplus found
  | authorizeCloneKey _ _ free => exact authorized_surplus free
  | revokeCloneKey _ found _ _ => exact revoked_surplus found
  | fundCloneKey _ _ found _ => exact toppedUp_surplus found
  | cancelIntent _ found _ pending _ _ =>
      refine paidOut_surplus rfl rfl rfl (Nat.le_refl _) ?_
      have released := IntentBook.pendingTotal_cancel IntentRecord.fee found pending
      simp only [intentFees]
      omega
  | cancelMultiIntent _ found _ pending _ _ =>
      refine paidOut_surplus rfl rfl rfl (Nat.le_refl _) ?_
      have released := IntentBook.pendingTotal_cancel IntentRecord.fee found pending
      simp only [intentFees]
      omega
  | cancelPreCognitiveIntent _ found _ pending _ _ =>
      refine paidOut_surplus rfl rfl rfl (Nat.le_refl _) ?_
      have released := IntentBook.pendingTotal_cancel IntentRecord.fee found pending
      simp only [intentFees]
      omega
  | flushProtocolFees _ affordable => exact flushed_surplus affordable
  | @solveIntent call id intent payment _ _ found pending _ _ _ _ _ =>
      refine settled_surplus [payment] rfl rfl rfl (Nat.le_add_right _ _) ?_
      have released := IntentBook.pendingTotal_settle IntentRecord.fee call.caller found pending
      simp only [intentFees, World.credit]
      omega
  | @solveMultiIntent call id intent _ _ found pending _ _ _ _ =>
      refine settled_surplus call.esdtTransfers rfl rfl rfl (Nat.le_add_right _ _) ?_
      have released := IntentBook.pendingTotal_settle IntentRecord.fee call.caller found pending
      simp only [intentFees, World.credit, World.emit]
      omega
  | @executePreCognitiveLeaf call id _ _ intent payment _ _ found pending _ _ _ _ _ _ =>
      refine settled_surplus [payment] rfl rfl rfl (Nat.le_add_right _ _) ?_
      have released := IntentBook.pendingTotal_settle IntentRecord.fee call.caller found pending
      simp only [intentFees, World.credit]
      omega
  | @syncReturn _ frame rest _ waiting resumed =>
      rcases resume_ok resumed with ⟨d, kind, dispatched⟩ | ⟨call, hash, payload, same, dispatched⟩ |
        ⟨hash, enforcer, state, rfl, closed⟩
      · exact dispatched_surplus dispatched rfl rfl (frame_deposit orderly waiting (.inl kind)) rfl
      · exact dispatched_surplus dispatched rfl rfl
          (frame_deposit orderly waiting (.inr ⟨call, hash, payload, same, rfl⟩)) rfl
      · obtain ⟨_, _, rfl⟩ := finalizeSuccessfulExecution_eq_ok.mp closed
        have top := (view_pop waiting).1
        obtain ⟨record, sealed⟩ := (orderly.phase hash).of_ready (.inr top)
        have kept := succeeded_surplus (w := { w with frames := rest }) chain Bytes32.zero enforcer
          ({ w with frames := rest }.dispatchPath hash) bounded sealed.stored
        exact kept
  | @executionCallback index _ promise _ _ called =>
      obtain ⟨state, found, ⟨_, _, rfl⟩ | ⟨_, rfl⟩⟩ := executionCallback_ok called
      · have kept := succeeded_surplus (w := { w with promises := w.promises.eraseIdx index }) chain
          promise.targetContract promise.keeper (some promise.path) bounded found
        exact kept
      · have kept := failed_surplus (w := { w with promises := w.promises.eraseIdx index }) chain
          promise.targetContract promise.keeper (some promise.path) bounded found
        exact kept
  | deliverMessage =>
      refine budget_surplus rfl rfl rfl (Nat.add_le_add_right ?_ _)
      dsimp only
      split <;> omega
  | receiveEgld => exact budget_surplus rfl rfl rfl (Nat.add_le_add_right (Nat.le_add_right _ _) _)
  | _ => exact Nat.le_refl _

end Surplus

end XCron.Scheduler
