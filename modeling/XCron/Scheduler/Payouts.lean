import XCron.Scheduler.Solvency

/-!
# No payout fails for lack of EGLD

A solvent scheduler can always pay what an endpoint is about to pay, because
every payment is taken out of a ledger entry that the balance covers.
-/

namespace XCron.Scheduler

open Platform Outcome

variable {chain : Chain} {w : World}

namespace World

@[simp]
theorem directEgld_funded (chain : Chain) (receiver : Address) (amount : Nat) (w : World) :
    Funded (w.directEgld chain receiver amount) ↔ amount ≤ w.egld := by
  unfold directEgld
  split <;> simp_all [Funded]

@[simp]
theorem directEgldIfPositive_funded (chain : Chain) (receiver : Address) (amount : Nat)
    (w : World) : Funded (w.directEgldIfPositive chain receiver amount) ↔ amount ≤ w.egld := by
  unfold directEgldIfPositive
  split
  next => simp
  next zero =>
    have nothing : amount = 0 := by omega
    simp [nothing]

@[simp]
theorem directEsdt_funded (chain : Chain) (receiver : Address) (token : TokenIdentifier)
    (nonce amount : Nat) (w : World) :
    Funded (w.directEsdt chain receiver token nonce amount) := by
  unfold directEsdt
  split <;> simp [Funded]

@[simp]
theorem requireNotPaused_funded (w : World) : Funded w.requireNotPaused := by
  simp [requireNotPaused]

@[simp]
theorem requireRegisteredKeeper_funded (w : World) (keeper : Address) :
    Funded (w.requireRegisteredKeeper keeper) := by
  simp [requireRegisteredKeeper]

end World

theorem Solvent.deposit_le {hash : TaskHash} {state : QuantumTaskState} (solvent : Solvent w)
    (found : w.quantumTasks.get? hash = some state) : state.deposit ≤ w.egld := by
  have bound := Cells.measure_le_total QuantumTaskState.deposit found
  unfold Solvent liabilities taskDeposits at solvent
  omega

theorem cancelQuantumTask_funded {call : CallContext} {hash : TaskHash} (bounded : w.FeeBounded)
    (solvent : Solvent w) : Funded (cancelQuantumTask chain call hash w) := by
  have affordable : ∀ state, w.quantumTasks.get? hash = some state →
      cancellationRefund w state.deposit ≤ (w.unlistTask hash state.owner).egld := by
    intro state found
    have covered : state.deposit ≤ (w.unlistTask hash state.owner).egld := solvent.deposit_le found
    have split := cancellation_split bounded state.deposit
    omega
  simp only [cancelQuantumTask, funded_bind, World.requireNotPaused_funded, funded_load,
    funded_require, World.directEgldIfPositive_funded, funded_pure, true_and, implies_true,
    and_true, Outcome.load_eq_ok]
  intro _ _ state found _ _ _ _ _ _
  exact affordable state found

theorem finalizeSuccessfulExecution_covered {hash : TaskHash} {deposit : Nat} {owner : Address}
    {targetContract keeper : Address} {path : Option DispatchPath} (bounded : w.FeeBounded)
    (covered : deposit ≤ w.egld) :
    finalizeSuccessfulExecution chain hash targetContract keeper deposit owner path w =
      .ok (w.succeeded chain hash targetContract keeper deposit owner path) := by
  have split := success_split bounded deposit
  have rewarded := pay_egld chain keeper (calculateReward w deposit) w
  exact finalizeSuccessfulExecution_eq_ok.mpr ⟨by omega, by omega, rfl⟩

theorem finalizeFailedExecution_covered {hash : TaskHash} {deposit : Nat} {owner : Address}
    {targetContract keeper : Address} {path : Option DispatchPath} (bounded : w.FeeBounded)
    (covered : deposit ≤ w.egld) :
    finalizeFailedExecution chain hash targetContract keeper deposit owner path w =
      .ok (w.failed chain hash targetContract keeper deposit owner path) := by
  have split := failure_split bounded deposit
  exact finalizeFailedExecution_eq_ok.mpr ⟨by omega, rfl⟩

theorem executionCallback_covered {promise : Promise} {state : QuantumTaskState} (chain : Chain)
    (success : Bool) (bounded : w.FeeBounded)
    (found : w.quantumTasks.get? promise.taskHash = some state) (covered : state.deposit ≤ w.egld) :
    ∃ next, executionCallback chain promise success w = .ok next := by
  unfold executionCallback
  rw [found]
  cases success with
  | true => exact ⟨_, finalizeSuccessfulExecution_covered bounded covered⟩
  | false => exact ⟨_, finalizeFailedExecution_covered bounded covered⟩

theorem settleVerified_funded {hash : TaskHash} {enforcer : Address} {state : QuantumTaskState}
    (bounded : w.FeeBounded) (covered : state.deposit ≤ w.egld) :
    Funded (settleVerified chain hash enforcer state w) := by
  unfold settleVerified
  rw [finalizeSuccessfulExecution_covered bounded covered]
  exact funded_ok _

theorem settleXseTask_funded {call : CallContext} {hash : TaskHash} {zkProof : Bytes}
    (bounded : w.FeeBounded) (solvent : Solvent w) :
    Funded (settleXseTask chain call hash zkProof w) := by
  simp only [settleXseTask, funded_bind, World.requireNotPaused_funded,
    World.requireRegisteredKeeper_funded, funded_load, funded_require, true_and,
    Outcome.load_eq_ok]
  intro _ _ _ _ _ _ _ _ state found _ _ _ _
  split
  · exact funded_pure _
  · exact settleVerified_funded bounded (solvent.deposit_le found)

theorem rescueStuckXseTask_funded {call : CallContext} {hash : TaskHash} (solvent : Solvent w) :
    Funded (rescueStuckXseTask chain call hash w) := by
  simp only [rescueStuckXseTask, funded_bind, World.requireNotPaused_funded, funded_load,
    funded_require, World.directEgld_funded, funded_pure, true_and, implies_true, and_true,
    Outcome.load_eq_ok]
  intro _ _ _ _ state found _ _ _ _ _ _ _ _
  exact solvent.deposit_le found

@[simp]
theorem dispatchFunded_funded (d : Dispatch) : Funded (dispatchFunded chain d w) := by
  simp [dispatchFunded]

@[simp]
theorem requireSafeTarget_funded (target : Address) (endpoint : Bytes) :
    Funded (requireSafeTarget chain target endpoint w) := by
  simp [requireSafeTarget]

@[simp]
theorem dispatchRipe_funded (d : Dispatch) : Funded (dispatchRipe chain d w) := by
  simp only [dispatchRipe, funded_bind, requireSafeTarget_funded, true_and]
  intro _ _
  split
  · simp only [funded_bind, funded_load, true_and]
    intro xwap _
    split <;> simp
  · simp

@[simp]
theorem dispatchTaskExecution_funded (d : Dispatch) :
    Funded (dispatchTaskExecution chain d w) := by
  simp only [dispatchTaskExecution, funded_bind]
  constructor
  · unfold requireTaskRipeQuantum
    simp only [funded_bind, funded_require, true_and]
    intro _ _
    cases d.payload.trigger <;> simp
  · intro query _
    cases query <;> simp

theorem executeQuantumTask_funded {call : CallContext} {payload : Task} {secret : Option Bytes32} :
    Funded (executeQuantumTask chain call payload secret w) := by
  have seal_funded : Funded (requireQuantumSeal chain payload.trigger secret) := by
    unfold requireQuantumSeal
    cases payload.trigger <;> cases secret <;> simp
  have turn_funded : Funded (performRoundRobinCheck chain call payload (taskHash chain payload)
      call.caller w) := by
    unfold performRoundRobinCheck
    split
    · simp only [funded_bind, funded_require, implies_true, and_true, vecGet]
      split <;> simp
    · simp
  simp [executeQuantumTask, seal_funded, turn_funded]

theorem executeCompressedTask_funded {call : CallContext} {payload : Task} {packedProof : Bytes} :
    Funded (executeCompressedTask chain call payload packedProof w) := by
  simp [executeCompressedTask]

theorem resume_funded {loss compressed : Prop} {frame : Frame} {rest : List Frame}
    {results : List Bytes} (orderly : Orderly loss compressed w) (solvent : Solvent w)
    (waiting : w.frames = frame :: rest) :
    Funded (resume chain frame results { w with frames := rest }) := by
  cases frame with
  | oracle d =>
      have condition_funded : Funded (requireOracleCondition d.payload.trigger results) := by
        unfold requireOracleCondition
        split <;> simp
      simp [resume, condition_funded]
  | xwap d => simp [resume]
  | proof call hash payload => simp [resume, resumeCompressedTask]
  | zkVerifier hash enforcer state =>
      have top := (view_pop waiting).1
      obtain ⟨record, sealed⟩ := (orderly.phase hash).of_ready (.inr top)
      simp only [resume, funded_bind, funded_require, true_and]
      intro _ _
      exact settleVerified_funded orderly.bounded (solvent.deposit_le sealed.stored)

@[simp]
theorem takeDeposit_funded (call : CallContext) (requested : Option Nat) :
    Funded (takeDeposit call requested w) := by
  unfold takeDeposit
  split
  · cases requested <;> simp [chargeCloneKey]
  · simp

@[simp]
theorem requireDepositWithinCap_funded (deposit : Nat) :
    Funded (requireDepositWithinCap w deposit) := by
  simp [requireDepositWithinCap]

@[simp]
theorem validateTaskParameters_funded (payload : Task) (deposit : Nat) :
    Funded (validateTaskParameters w payload deposit) := by
  unfold validateTaskParameters validateTrigger
  cases payload.trigger <;> simp

theorem scheduleQuantumTask_funded {call : CallContext} {payload : Task} {requested : Option Nat} :
    Funded (scheduleQuantumTask chain call payload requested w) := by
  simp [scheduleQuantumTask, enforceRateLimits]

theorem scheduleSovereignTask_funded {call : CallContext} {encryptedPayload : Bytes}
    {requested : Option Nat} :
    Funded (scheduleSovereignTask chain call encryptedPayload requested w) := by
  simp [scheduleSovereignTask]

theorem authorizeCloneKey_funded {call : CallContext} {cloneAddress : Address}
    {ttlSeconds : UInt64} : Funded (authorizeCloneKey call cloneAddress ttlSeconds w) := by
  simp [authorizeCloneKey]

theorem fundCloneKey_funded {call : CallContext} {cloneAddress : Address} :
    Funded (fundCloneKey call cloneAddress w) := by
  simp [fundCloneKey]

theorem revokeCloneKey_funded {call : CallContext} {cloneAddress : Address} (solvent : Solvent w) :
    Funded (revokeCloneKey chain call cloneAddress w) := by
  simp only [revokeCloneKey, funded_bind, funded_load, funded_require, true_and, implies_true,
    World.directEgldIfPositive_funded, funded_pure, and_true, Outcome.load_eq_ok]
  intro _ _ props found _ _
  have bound := Cells.measure_le_total CloneKeyProperties.unspent found
  unfold CloneKeyProperties.unspent at bound
  unfold Solvent liabilities cloneBudgets CloneKeyProperties.unspent at solvent
  split <;> omega

section Intents

variable {Terms : Type} {book : IntentBook Terms} {intent : IntentRecord Terms}

theorem payOut_funded {receiver : Address} (affordable : intent.fee ≤ w.egld) :
    Funded (payOut chain receiver intent w) := by
  simp only [payOut, funded_bind, World.directEsdt_funded, true_and, World.directEsdt_eq_ok,
    World.directEgldIfPositive_funded]
  rintro _ ⟨_, rfl⟩
  exact affordable

@[simp]
theorem IntentBook.cancel_funded (caller : Address) (id : Nat) :
    Funded (book.cancel caller id) := by
  simp [IntentBook.cancel]

@[simp]
theorem IntentBook.pendingIntent_funded (call : CallContext) (id : Nat) :
    Funded (book.pendingIntent call id) := by
  simp [IntentBook.pendingIntent]

@[simp]
theorem egld_funded (call : CallContext) : Funded call.egld := by
  unfold CallContext.egld
  split
  · simp
  · split <;> simp
  · simp

@[simp]
theorem allEsdtTransfers_funded (call : CallContext) : Funded call.allEsdtTransfers := by
  simp [CallContext.allEsdtTransfers]

@[simp]
theorem singleTransfer_funded (call : CallContext) (message : String) :
    Funded (singleTransfer call message) := by
  simp only [singleTransfer, funded_bind, allEsdtTransfers_funded, true_and]
  intro payments _
  split <;> simp

@[simp]
theorem singleFungibleEsdt_funded (call : CallContext) : Funded call.singleFungibleEsdt := by
  simp only [CallContext.singleFungibleEsdt, funded_bind, allEsdtTransfers_funded, true_and]
  intro payments _
  split
  · split <;> simp
  · simp

@[simp]
theorem checkDeadline_funded (call : CallContext) (deadline : UInt64) (message : String) :
    Funded (checkDeadline call deadline message) := by
  simp [checkDeadline]

@[simp]
theorem checkOutcomes_funded (index : Nat) (outcomes : List MultiIntentOutcome)
    (payments : List EsdtPayment) : Funded (checkOutcomes index outcomes payments) := by
  induction outcomes generalizing index payments with
  | nil => simp [checkOutcomes]
  | cons outcome outcomes inductionHypothesis =>
      cases payments with
      | nil => simp [checkOutcomes]
      | cons payment payments => simp [checkOutcomes, inductionHypothesis]

@[simp]
theorem deliverPayments_funded (owner : Address) (payments : List EsdtPayment) (w : World) :
    Funded (deliverPayments chain owner payments w) := by
  induction payments generalizing w with
  | nil => simp [deliverPayments]
  | cons payment payments inductionHypothesis => simp [deliverPayments, inductionHypothesis]

theorem Solvent.fee_le (solvent : Solvent w)
    (share : book.pendingTotal IntentRecord.fee ≤ intentFees w) {id : Nat}
    (found : book.byId.get? id = some intent) (pending : intent.status = .pending) :
    intent.fee ≤ w.egld := by
  have bound := IntentBook.weight_le_pendingTotal IntentRecord.fee found pending
  unfold Solvent liabilities at solvent
  omega

theorem cancelAndPayOut_funded {call : CallContext} {id : Nat} (solvent : Solvent w)
    (share : book.pendingTotal IntentRecord.fee ≤ intentFees w)
    (put : IntentBook Terms → World) (balance : ∀ other, (put other).egld = w.egld) :
    Funded (book.cancel call.caller id >>= fun cancelled =>
      payOut chain call.caller cancelled.1 (put cancelled.2)) := by
  simp only [funded_bind, IntentBook.cancel_funded, true_and, Prod.forall, IntentBook.cancel_eq_ok]
  rintro intent _ ⟨found, _, pending, rfl⟩
  apply payOut_funded
  rw [balance]
  exact solvent.fee_le share found pending

end Intents

theorem cancelIntent_funded {call : CallContext} {id : Nat} (solvent : Solvent w) :
    Funded (cancelIntent chain call id w) := by
  refine cancelAndPayOut_funded solvent ?_ (fun book => { w with intents := book }) fun _ => rfl
  unfold intentFees
  omega

theorem cancelMultiIntent_funded {call : CallContext} {id : Nat} (solvent : Solvent w) :
    Funded (cancelMultiIntent chain call id w) := by
  refine cancelAndPayOut_funded solvent ?_ (fun book => { w with multiIntents := book })
    fun _ => rfl
  unfold intentFees
  omega

theorem cancelPreCognitiveIntent_funded {call : CallContext} {id : Nat} (solvent : Solvent w) :
    Funded (cancelPreCognitiveIntent chain call id w) := by
  refine cancelAndPayOut_funded solvent ?_ (fun book => { w with preCognitiveIntents := book })
    fun _ => rfl
  unfold intentFees
  omega

theorem solveIntent_funded {call : CallContext} {id : Nat} (solvent : Solvent w) :
    Funded (solveIntent chain call id w) := by
  simp only [solveIntent, funded_bind, World.requireRegisteredKeeper_funded,
    IntentBook.pendingIntent_funded, singleFungibleEsdt_funded, funded_require,
    World.directEsdt_funded, true_and, IntentBook.pendingIntent_eq_ok, World.directEsdt_eq_ok,
    Prod.forall]
  rintro _ _ intent ⟨found, pending, _⟩ _ _ _ _ _ _ _ _ ⟨_, rfl⟩
  refine payOut_funded (solvent.fee_le ?_ found pending)
  unfold intentFees
  omega

theorem solveMultiIntent_funded {call : CallContext} {id : Nat} (solvent : Solvent w) :
    Funded (solveMultiIntent chain call id w) := by
  simp only [solveMultiIntent, funded_bind, World.requireRegisteredKeeper_funded,
    IntentBook.pendingIntent_funded, allEsdtTransfers_funded, checkOutcomes_funded, funded_require,
    deliverPayments_funded, true_and, IntentBook.pendingIntent_eq_ok]
  rintro _ _ intent ⟨found, pending, _⟩ payments _ _ _ _ _ _ delivered
  have handed := deliverPayments_ok delivered
  subst handed
  refine payOut_funded ?_
  rw [World.delivered_eq]
  refine solvent.fee_le ?_ found pending
  unfold intentFees
  omega

theorem executePreCognitiveLeaf_funded {call : CallContext} {id : Nat}
    {merkleProof : List Bytes32} {leaf : Leaf} (solvent : Solvent w) :
    Funded (executePreCognitiveLeaf chain call id merkleProof leaf w) := by
  simp only [executePreCognitiveLeaf, funded_bind, World.requireRegisteredKeeper_funded,
    IntentBook.pendingIntent_funded, singleFungibleEsdt_funded, funded_require,
    World.directEsdt_funded, true_and, IntentBook.pendingIntent_eq_ok, World.directEsdt_eq_ok,
    Prod.forall]
  rintro _ _ intent ⟨found, pending, _⟩ _ _ _ _ _ _ _ _ _ _ ⟨_, rfl⟩
  refine payOut_funded (solvent.fee_le ?_ found pending)
  unfold intentFees
  omega

theorem flushProtocolFees_funded {call : CallContext} (solvent : Solvent w) :
    Funded (flushProtocolFees chain call w) := by
  have affordable : w.accruedProtocolFees ≤ w.egld := by
    unfold Solvent liabilities at solvent
    omega
  simp [flushProtocolFees, affordable]

theorem removeFromKeeperList_funded (keeper : Address) (slots : List (Option Address))
    (remaining index : Nat) :
    Funded (Config.removeFromKeeperList keeper slots remaining index) := by
  have slot_funded : ∀ position, Funded (vecGet slots position) := by
    intro position
    unfold vecGet
    split <;> simp
  induction remaining generalizing index with
  | zero => simp [Config.removeFromKeeperList]
  | succ remaining inductionHypothesis =>
      simp only [Config.removeFromKeeperList, funded_bind, slot_funded, true_and]
      intro entry _
      split
      · split <;> simp [slot_funded]
      · exact inductionHypothesis _

theorem Config.apply_funded (change : ConfigCall) (c : Config) : Funded (c.apply change) := by
  cases change <;> simp [Config.apply, removeFromKeeperList_funded]

/-- No step of a solvent, orderly scheduler stops for lack of EGLD, and neither
does a callback inside a step. -/
theorem step_funded {loss compressed : Prop} (orderly : Orderly loss compressed w)
    (solvent : Solvent w) (move : Step) : Funded (step chain w move) := by
  have bounded := orderly.bounded
  have credited : ∀ call, Solvent (w.credit call) := fun call =>
    Nat.le_trans solvent (Nat.le_add_right _ _)
  cases move with
  | syncReturn results =>
      simp only [step, Step.call?, body]
      split
      · simp
      next frame rest waiting => exact resume_funded orderly solvent waiting
  | executionCallback index success =>
      simp only [step, Step.call?, body]
      split
      · simp
      · split <;> simp
  | deliverMessage index accepted =>
      simp only [step, Step.call?, body]
      split <;> simp
  | receiveEgld amount => simp [step, Step.call?, body]
  | receiveEsdt payment => simp [step, Step.call?, body]
  | cancelQuantumTask call hash =>
      simp [step, Step.call?, body, CallContext.notPayable,
        cancelQuantumTask_funded (w := w.credit call) bounded (credited call)]
  | settleXseTask call hash zkProof =>
      simp [step, Step.call?, body, CallContext.notPayable,
        settleXseTask_funded (w := w.credit call) bounded (credited call)]
  | rescueStuckXseTask call hash =>
      simp [step, Step.call?, body, CallContext.notPayable,
        rescueStuckXseTask_funded (credited call)]
  | revokeCloneKey call cloneAddress =>
      simp [step, Step.call?, body, CallContext.notPayable, revokeCloneKey_funded (credited call)]
  | cancelIntent call id =>
      simp [step, Step.call?, body, CallContext.notPayable, cancelIntent_funded (credited call)]
  | cancelMultiIntent call id =>
      simp [step, Step.call?, body, CallContext.notPayable,
        cancelMultiIntent_funded (credited call)]
  | cancelPreCognitiveIntent call id =>
      simp [step, Step.call?, body, CallContext.notPayable,
        cancelPreCognitiveIntent_funded (credited call)]
  | solveIntent call id =>
      simp [step, Step.call?, body, solveIntent_funded (credited call)]
  | solveMultiIntent call id =>
      simp [step, Step.call?, body, solveMultiIntent_funded (credited call)]
  | executePreCognitiveLeaf call id merkleProof leaf =>
      simp [step, Step.call?, body, executePreCognitiveLeaf_funded (credited call)]
  | flushProtocolFees call =>
      simp [step, Step.call?, body, CallContext.notPayable,
        flushProtocolFees_funded (credited call)]
  | _ =>
      simp [step, Step.call?, body, CallContext.notPayable, CallContext.payableEgld,
        CallContext.onlyOwner, scheduleQuantumTask_funded, scheduleSovereignTask_funded,
        executeQuantumTask_funded, executeCompressedTask_funded, triggerXseEnclave,
        authorizeCloneKey_funded, fundCloneKey_funded, createIntent, createMultiIntent,
        createPreCognitiveIntent, registerKeeperShard, Config.apply_funded]

end XCron.Scheduler
