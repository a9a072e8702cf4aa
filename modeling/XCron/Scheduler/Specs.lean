import XCron.Scheduler.Config

/-!
# What each endpoint does when it succeeds

One inversion lemma per endpoint: the checks it passed and the state it leaves,
written as a composition of the storage updates. Every later argument cites
these lemmas and never unfolds an endpoint again.
-/

namespace XCron.Scheduler

open Platform

namespace World

theorem directEgld_eq_ok {chain : Chain} {receiver : Address} {amount : Nat} {w next : World} :
    w.directEgld chain receiver amount = .ok next ↔
      amount ≤ w.egld ∧ w.pay chain receiver amount = next := by
  unfold directEgld
  split <;> simp_all

theorem payIfPositive_zero (chain : Chain) (receiver : Address) (w : World) :
    w.payIfPositive chain receiver 0 = w := by
  cases w
  simp [payIfPositive]

theorem payIfPositive_pos (chain : Chain) (receiver : Address) {amount : Nat} (w : World)
    (positive : 0 < amount) :
    w.payIfPositive chain receiver amount = w.pay chain receiver amount := by
  simp [payIfPositive, pay, positive]

theorem directEgldIfPositive_eq_ok {chain : Chain} {receiver : Address} {amount : Nat}
    {w next : World} :
    w.directEgldIfPositive chain receiver amount = .ok next ↔
      amount ≤ w.egld ∧ w.payIfPositive chain receiver amount = next := by
  unfold directEgldIfPositive
  split
  next positive => rw [directEgld_eq_ok, payIfPositive_pos chain receiver w positive]
  next zero =>
    have nothing : amount = 0 := by omega
    subst nothing
    simp [payIfPositive_zero]

theorem directEsdt_eq_ok {chain : Chain} {receiver : Address} {token : TokenIdentifier}
    {nonce amount : Nat} {w next : World} :
    w.directEsdt chain receiver token nonce amount = .ok next ↔
      amount ≤ w.esdt token nonce ∧ w.payEsdt chain receiver token nonce amount = next := by
  unfold directEsdt
  split <;> simp_all

@[simp]
theorem requireNotPaused_eq_ok {w : World} {u : Unit} :
    w.requireNotPaused = .ok u ↔ w.config.paused = false := by
  simp [requireNotPaused]

@[simp]
theorem requireRegisteredKeeper_eq_ok {w : World} {keeper : Address} {u : Unit} :
    w.requireRegisteredKeeper keeper = .ok u ↔ keeper ∈ w.config.whitelistedKeepers := by
  simp [requireRegisteredKeeper]

end World

/-! ## Scheduling and cancelling -/

def World.charged (cloneAddress : Address) (props : CloneKeyProperties) (amount : Nat) (w : World) :
    World :=
  { w with
    cloneKeyProps := w.cloneKeyProps.set cloneAddress
      { props with spentAmount := props.spentAmount + amount } }

theorem takeDeposit_cases {call : CallContext} {requested : Option Nat} {w next : World}
    {deposit : Nat} (taken : takeDeposit call requested w = .ok (deposit, next)) :
    (deposit = call.egldValue ∧ next = w) ∨
      ∃ props, w.cloneKeyProps.get? call.caller = some props ∧
        props.spentAmount + deposit ≤ props.spendLimit ∧
        next = w.charged call.caller props deposit := by
  unfold takeDeposit at taken
  split at taken
  next clone =>
    cases requested with
    | none => simp at taken
    | some amount =>
        right
        simp only [chargeCloneKey, Outcome.bind_eq_ok, Outcome.require_eq_ok, Outcome.load_eq_ok,
          Outcome.pure_eq_ok, Prod.mk.injEq] at taken
        obtain ⟨_, _, charged, ⟨props, found, _, _, _, within, rfl⟩, rfl, rfl⟩ := taken
        exact ⟨props, found, within, rfl⟩
  next direct =>
    left
    simp only [Outcome.pure_eq_ok, Prod.mk.injEq] at taken
    exact ⟨taken.1.symm, taken.2.symm⟩

theorem takeDeposit_config {call : CallContext} {requested : Option Nat} {w next : World}
    {deposit : Nat} (taken : takeDeposit call requested w = .ok (deposit, next)) :
    next.config = w.config := by
  rcases takeDeposit_cases taken with ⟨_, rfl⟩ | ⟨props, _, _, rfl⟩ <;> rfl

def World.counted (caller : Address) (round : UInt64) (w : World) : World :=
  { w with
    tasksPerRound := Function.update w.tasksPerRound caller
      (Function.update (w.tasksPerRound caller) round (w.tasksPerRound caller round + 1)) }

theorem scheduleQuantumTask_ok {chain : Chain} {call : CallContext} {payload : Task}
    {requested : Option Nat} {w next : World}
    (scheduled : scheduleQuantumTask chain call payload requested w = .ok next) :
    ∃ deposit paid, takeDeposit call requested w = .ok (deposit, paid) ∧
      w.config.paused = false ∧ w.config.minDeposit ≤ deposit ∧
      paid.quantumTasks.get? (taskHash chain payload) = none ∧
      next = (storeTask (taskHash chain payload) (resolveCaller call w).1 deposit
        (paid.counted (resolveCaller call w).1 call.blockRound)).emit
        (.taskScheduledQuantum (taskHash chain payload) (resolveCaller call w).1
          payload.targetContract (getTimestampMs call)) := by
  simp only [scheduleQuantumTask, validateTaskParameters, enforceRateLimits, Outcome.bind_eq_ok,
    Outcome.require_eq_ok, World.requireNotPaused_eq_ok, Outcome.pure_eq_ok] at scheduled
  obtain ⟨_, unpaused, ⟨deposit, paid⟩, taken, _, ⟨_, enough, _⟩, _, free, counted,
    ⟨_, _, _, _, rfl⟩, rfl⟩ := scheduled
  refine ⟨deposit, paid, taken, unpaused, ?_, free, rfl⟩
  rw [← takeDeposit_config taken]
  exact enough

theorem scheduleSovereignTask_ok {chain : Chain} {call : CallContext} {encryptedPayload : Bytes}
    {requested : Option Nat} {w next : World}
    (scheduled : scheduleSovereignTask chain call encryptedPayload requested w = .ok next) :
    ∃ deposit paid hash, takeDeposit call requested w = .ok (deposit, paid) ∧
      w.config.paused = false ∧
      hash = chain.sha256 (sovereignPreimage encryptedPayload (resolveCaller call w).1 deposit) ∧
      paid.quantumTasks.get? hash = none ∧
      next = (storeTask hash (resolveCaller call w).1 deposit paid).emit
        (.xsePayloadTriggered (resolveCaller call w).1 encryptedPayload) := by
  simp only [scheduleSovereignTask, Outcome.bind_eq_ok, Outcome.require_eq_ok,
    World.requireNotPaused_eq_ok, Outcome.pure_eq_ok] at scheduled
  obtain ⟨_, unpaused, ⟨deposit, paid⟩, taken, _, _, _, _, _, free, rfl⟩ := scheduled
  exact ⟨deposit, paid, _, taken, unpaused, rfl, free, rfl⟩

def World.cancelled (chain : Chain) (hash : TaskHash) (state : QuantumTaskState) (w : World) :
    World :=
  ((((w.unlistTask hash state.owner).payIfPositive chain state.owner
      (cancellationRefund w state.deposit)).forwardProtocolFee (protocolFee w state.deposit)).record
    (.closed hash .cancelled none 0 (cancellationRefund w state.deposit)
      (protocolFee w state.deposit))).emit (.taskCancelledQuantum hash)

theorem cancelQuantumTask_eq_ok {chain : Chain} {call : CallContext} {hash : TaskHash}
    {w next : World} :
    cancelQuantumTask chain call hash w = .ok next ↔
      w.config.paused = false ∧ ∃ state, w.quantumTasks.get? hash = some state ∧
        state.owner ≠ Bytes32.zero ∧ state.owner = (resolveCaller call w).1 ∧
        state.status = .pending ∧ cancellationRefund w state.deposit ≤ w.egld ∧
        w.cancelled chain hash state = next := by
  have untouched : ∀ owner, (w.unlistTask hash owner).egld = w.egld := fun _ => rfl
  simp [cancelQuantumTask, World.directEgldIfPositive_eq_ok, World.cancelled, untouched]

/-! ## Splitting a deposit -/

/-- The protocol fee never exceeds the whole. -/
def World.FeeBounded (w : World) : Prop := w.config.protocolFeeBps ≤ Constants.bpsDenominator

theorem protocolFee_le {w : World} (bounded : w.FeeBounded) (deposit : Nat) :
    protocolFee w deposit ≤ deposit := by
  unfold protocolFee
  apply Nat.div_le_of_le_mul
  rw [Nat.mul_comm]
  exact Nat.mul_le_mul_right deposit bounded

theorem remainder_add {deposit spent : Nat} (within : spent ≤ deposit) :
    remainder deposit spent + spent = deposit := by
  unfold remainder
  split <;> omega

theorem cancellation_split {w : World} (bounded : w.FeeBounded) (deposit : Nat) :
    cancellationRefund w deposit + protocolFee w deposit = deposit :=
  remainder_add (protocolFee_le bounded deposit)

theorem calculateReward_le {w : World} (deposit : Nat) :
    calculateReward w deposit ≤ deposit - protocolFee w deposit := by
  unfold calculateReward
  dsimp only
  split <;> split <;> omega

theorem success_split {w : World} (bounded : w.FeeBounded) (deposit : Nat) :
    calculateReward w deposit +
      remainder deposit (calculateReward w deposit + protocolFee w deposit) +
      protocolFee w deposit = deposit := by
  have fee := protocolFee_le bounded deposit
  have reward := calculateReward_le (w := w) deposit
  have rest : remainder deposit (calculateReward w deposit + protocolFee w deposit) +
      (calculateReward w deposit + protocolFee w deposit) = deposit := remainder_add (by omega)
  omega

theorem failure_split {w : World} (bounded : w.FeeBounded) (deposit : Nat) :
    remainder deposit (protocolFee w deposit) + protocolFee w deposit = deposit :=
  remainder_add (protocolFee_le bounded deposit)

/-! ## Dispatching -/

/-- A dispatch waits for the oracle, waits for the market query, or starts. -/
def Dispatched (chain : Chain) (d : Dispatch) (w next : World) : Prop :=
  (∃ oracle endpoint, next = w.suspend (.oracle d) oracle endpoint []) ∨
    (∃ xwap, next = w.suspend (.xwap d) xwap "isSafeToExecute".toUTF8.toList []) ∨
    next = w.startExecution chain d

theorem dispatchFunded_ok {chain : Chain} {d : Dispatch} {w next : World}
    (dispatched : dispatchFunded chain d w = .ok next) : Dispatched chain d w next := by
  simp only [dispatchFunded, Outcome.bind_eq_ok, Outcome.pure_eq_ok] at dispatched
  obtain ⟨_, _, rfl⟩ := dispatched
  exact .inr (.inr rfl)

theorem dispatchRipe_ok {chain : Chain} {d : Dispatch} {w next : World}
    (dispatched : dispatchRipe chain d w = .ok next) : Dispatched chain d w next := by
  simp only [dispatchRipe, Outcome.bind_eq_ok] at dispatched
  obtain ⟨_, _, rest⟩ := dispatched
  split at rest
  next guarded =>
    simp only [Outcome.bind_eq_ok] at rest
    obtain ⟨xwap, _, rest⟩ := rest
    split at rest
    next => exact .inr (.inl ⟨xwap, (Outcome.pure_eq_ok _ _ |>.mp rest).symm⟩)
    next => exact dispatchFunded_ok rest
  next => exact dispatchFunded_ok rest

theorem dispatchTaskExecution_ok {chain : Chain} {d : Dispatch} {w next : World}
    (dispatched : dispatchTaskExecution chain d w = .ok next) : Dispatched chain d w next := by
  simp only [dispatchTaskExecution, Outcome.bind_eq_ok] at dispatched
  obtain ⟨query, _, rest⟩ := dispatched
  cases query with
  | none => exact dispatchRipe_ok rest
  | some query =>
      obtain ⟨oracle, endpoint⟩ := query
      exact .inl ⟨oracle, endpoint, (Outcome.pure_eq_ok _ _ |>.mp rest).symm⟩

theorem executeQuantumTask_ok {chain : Chain} {call : CallContext} {payload : Task}
    {secret : Option Bytes32} {w next : World}
    (executed : executeQuantumTask chain call payload secret w = .ok next) :
    ∃ state, w.quantumTasks.get? (taskHash chain payload) = some state ∧
      state.status = .pending ∧ call.caller ∈ w.config.whitelistedKeepers ∧
      w.config.paused = false ∧
      Dispatched chain ⟨call, taskHash chain payload, payload, call.caller, state, .quantum⟩
        (w.assignEnclave (taskHash chain payload) payload call.caller) next := by
  simp only [executeQuantumTask, Outcome.bind_eq_ok, Outcome.require_eq_ok, Outcome.load_eq_ok,
    World.requireNotPaused_eq_ok, World.requireRegisteredKeeper_eq_ok] at executed
  obtain ⟨_, unpaused, _, keeper, _, _, state, found, _, pending, _, _, _, _, _, _, rest⟩ := executed
  exact ⟨state, found, pending, keeper, unpaused, dispatchTaskExecution_ok rest⟩

theorem executeCompressedTask_ok {chain : Chain} {call : CallContext} {payload : Task}
    {packedProof : Bytes} {w next : World}
    (executed : executeCompressedTask chain call payload packedProof w = .ok next) :
    ∃ xsc, w.config.xscAddress = some xsc ∧ xsc ≠ Bytes32.zero ∧
      w.usedCompressedTasks (taskHash chain payload) = false ∧
      call.caller ∈ w.config.whitelistedKeepers ∧
      next = w.suspend (.proof call (taskHash chain payload) payload) xsc
        "verifyProof".toUTF8.toList [(taskHash chain payload).val, packedProof] := by
  simp only [executeCompressedTask, Outcome.bind_eq_ok, Outcome.require_eq_ok, Outcome.load_eq_ok,
    World.requireRegisteredKeeper_eq_ok, Outcome.pure_eq_ok] at executed
  obtain ⟨_, _, _, keeper, _, unused, xsc, configured, _, nonzero, rfl⟩ := executed
  exact ⟨xsc, configured, nonzero, unused, keeper, rfl⟩

def compressedDispatch (call : CallContext) (hash : TaskHash) (payload : Task) : Dispatch :=
  ⟨call, hash, payload, call.caller,
    { owner := payload.owner, deposit := payload.deposit, status := .pending, executingAt := 0 },
    .compressed⟩

theorem resumeCompressedTask_ok {chain : Chain} {call : CallContext} {hash : TaskHash}
    {payload : Task} {results : List Bytes} {w next : World}
    (resumed : resumeCompressedTask chain call hash payload results w = .ok next) :
    Dispatched chain (compressedDispatch call hash payload) w next := by
  simp only [resumeCompressedTask, Outcome.bind_eq_ok] at resumed
  obtain ⟨_, _, rest⟩ := resumed
  exact dispatchTaskExecution_ok rest

/-! ## Closing an execution -/

def World.succeeded (chain : Chain) (hash : TaskHash) (targetContract keeper : Address)
    (deposit : Nat) (owner : Address) (path : Option DispatchPath) (w : World) : World :=
  let reward := calculateReward w deposit
  let fee := protocolFee w deposit
  let refund := remainder deposit (reward + fee)
  ((((((w.dropTask hash owner).noteSuccess hash targetContract).pay chain keeper reward).payIfPositive
    chain owner refund).forwardProtocolFee fee).forwardKeeperResult keeper true).record
      (.closed hash (.executed true) path reward refund fee) |>.emit
        (.taskExecutedQuantum hash keeper true)

theorem finalizeSuccessfulExecution_eq_ok {chain : Chain} {hash : TaskHash}
    {targetContract keeper : Address} {deposit : Nat} {owner : Address}
    {path : Option DispatchPath} {w next : World} :
    finalizeSuccessfulExecution chain hash targetContract keeper deposit owner path w = .ok next ↔
      calculateReward w deposit ≤ w.egld ∧
        remainder deposit (calculateReward w deposit + protocolFee w deposit) ≤
          (w.pay chain keeper (calculateReward w deposit)).egld ∧
        w.succeeded chain hash targetContract keeper deposit owner path = next := by
  have untouched : ((w.dropTask hash owner).noteSuccess hash targetContract).egld = w.egld := rfl
  have paid : ∀ amount, (((w.dropTask hash owner).noteSuccess hash targetContract).pay chain keeper
      amount).egld = (w.pay chain keeper amount).egld := fun _ => rfl
  simp [finalizeSuccessfulExecution, World.directEgld_eq_ok, World.directEgldIfPositive_eq_ok,
    World.succeeded, untouched, paid]

def World.failed (chain : Chain) (hash : TaskHash) (targetContract keeper : Address)
    (deposit : Nat) (owner : Address) (path : Option DispatchPath) (w : World) : World :=
  let fee := protocolFee w deposit
  let refund := remainder deposit fee
  (((((w.dropTask hash owner).noteFailure targetContract).payIfPositive chain owner
    refund).forwardProtocolFee fee).forwardKeeperResult keeper false).record
      (.closed hash (.executed false) path 0 refund fee) |>.emit
        (.taskExecutedQuantum hash keeper false)

theorem finalizeFailedExecution_eq_ok {chain : Chain} {hash : TaskHash}
    {targetContract keeper : Address} {deposit : Nat} {owner : Address}
    {path : Option DispatchPath} {w next : World} :
    finalizeFailedExecution chain hash targetContract keeper deposit owner path w = .ok next ↔
      remainder deposit (protocolFee w deposit) ≤ w.egld ∧
        w.failed chain hash targetContract keeper deposit owner path = next := by
  have untouched : ((w.dropTask hash owner).noteFailure targetContract).egld = w.egld := rfl
  simp [finalizeFailedExecution, World.directEgldIfPositive_eq_ok, World.failed, untouched]

def World.rescued (chain : Chain) (hash : TaskHash) (state : QuantumTaskState) (keeper : Address)
    (w : World) : World :=
  ((((w.reportStuck keeper).dropTask hash state.owner).pay chain state.owner state.deposit).record
    (.closed hash .rescued (w.dispatchPath hash) 0 state.deposit 0)).emit
    (.taskExecutedQuantum hash keeper false)

theorem rescueStuckXseTask_eq_ok {chain : Chain} {call : CallContext} {hash : TaskHash}
    {w next : World} :
    rescueStuckXseTask chain call hash w = .ok next ↔
      w.config.paused = false ∧ ∃ state, w.quantumTasks.get? hash = some state ∧
        state.status = .executing ∧ state.executingAt + stuckThreshold ≤ call.blockTimestamp ∧
        (call.caller = state.owner ∨ call.caller = chain.ownerAddress) ∧
        ∃ keeper, w.assignedEnclaveKeeper hash = some keeper ∧ state.deposit ≤ w.egld ∧
          w.rescued chain hash state keeper = next := by
  have untouched : ∀ keeper owner, ((w.reportStuck keeper).dropTask hash owner).egld = w.egld :=
    fun _ _ => rfl
  have occupied : ∀ state, w.quantumTasks.get? hash = some state → w.quantumTasks.get? hash ≠ none :=
    fun state found => by simp [found]
  simp only [rescueStuckXseTask, World.requireNotPaused_eq_ok, Outcome.bind_eq_ok,
    Outcome.require_eq_ok, Outcome.load_eq_ok, World.directEgld_eq_ok, Outcome.pure_eq_ok, untouched]
  constructor
  · rintro ⟨_, unpaused, _, _, state, found, _, executing, _, stuck, _, allowed, keeper, enclave, _,
      ⟨covered, rfl⟩, rfl⟩
    exact ⟨unpaused, state, found, executing, stuck, allowed, keeper, enclave, covered, rfl⟩
  · rintro ⟨unpaused, state, found, executing, stuck, allowed, keeper, enclave, covered, rfl⟩
    exact ⟨(), unpaused, (), occupied state found, state, found, (), executing, (), stuck, (),
      allowed, keeper, enclave, _, ⟨covered, rfl⟩, rfl⟩

theorem settleXseTask_ok {chain : Chain} {call : CallContext} {hash : TaskHash} {zkProof : Bytes}
    {w next : World} (settled : settleXseTask chain call hash zkProof w = .ok next) :
    ∃ state, w.quantumTasks.get? hash = some state ∧ state.status = .executing ∧
      w.assignedEnclaveKeeper hash = some call.caller ∧
      call.caller ∈ w.config.whitelistedKeepers ∧ w.config.paused = false ∧
      ((∃ verifier, next = w.suspend (.zkVerifier hash call.caller state) verifier
          "verifyZkProof".toUTF8.toList [hash.val, zkProof]) ∨
        settleVerified chain hash call.caller state w = .ok next) := by
  simp only [settleXseTask, Outcome.bind_eq_ok, Outcome.require_eq_ok, Outcome.load_eq_ok,
    World.requireNotPaused_eq_ok, World.requireRegisteredKeeper_eq_ok] at settled
  obtain ⟨_, unpaused, _, keeper, assigned, enclave, _, same, state, found, _, executing, verifier,
    _, rest⟩ := settled
  subst same
  refine ⟨state, found, executing, enclave, keeper, unpaused, ?_⟩
  split at rest
  next => exact .inl ⟨verifier, (Outcome.pure_eq_ok _ _ |>.mp rest).symm⟩
  next => exact .inr rest

theorem resume_ok {chain : Chain} {frame : Frame} {results : List Bytes} {w next : World}
    (resumed : resume chain frame results w = .ok next) :
    (∃ d, (frame = .oracle d ∨ frame = .xwap d) ∧ Dispatched chain d w next) ∨
      (∃ call hash payload, frame = .proof call hash payload ∧
        Dispatched chain (compressedDispatch call hash payload) w next) ∨
      ∃ hash enforcer state, frame = .zkVerifier hash enforcer state ∧
        settleVerified chain hash enforcer state w = .ok next := by
  cases frame with
  | oracle d =>
      simp only [resume, Outcome.bind_eq_ok] at resumed
      obtain ⟨_, _, rest⟩ := resumed
      exact .inl ⟨d, .inl rfl, dispatchRipe_ok rest⟩
  | xwap d =>
      simp only [resume, Outcome.bind_eq_ok] at resumed
      obtain ⟨_, _, rest⟩ := resumed
      exact .inl ⟨d, .inr rfl, dispatchFunded_ok rest⟩
  | proof call hash payload =>
      exact .inr (.inl ⟨call, hash, payload, rfl, resumeCompressedTask_ok resumed⟩)
  | zkVerifier hash enforcer state =>
      simp only [resume, Outcome.bind_eq_ok] at resumed
      obtain ⟨_, _, rest⟩ := resumed
      exact .inr (.inr ⟨hash, enforcer, state, rfl, rest⟩)

/-! ## Clone keys -/

def World.authorized (call : CallContext) (cloneAddress : Address) (ttlSeconds : UInt64)
    (w : World) : World :=
  { w with
    cloneKeyProps := w.cloneKeyProps.set cloneAddress
      { mainAddress := call.caller
        spendLimit := call.egldValue
        spentAmount := 0
        expiryTimestamp := call.blockTimestamp + ttlSeconds }
    walletCloneKeys := Function.update w.walletCloneKeys call.caller
      (insert cloneAddress (w.walletCloneKeys call.caller)) }.emit
    (.cloneKeyAuthorized call.caller cloneAddress (call.blockTimestamp + ttlSeconds) call.egldValue)

theorem authorizeCloneKey_ok {call : CallContext} {cloneAddress : Address} {ttlSeconds : UInt64}
    {w next : World} (granted : authorizeCloneKey call cloneAddress ttlSeconds w = .ok next) :
    w.cloneKeyProps.get? cloneAddress = none ∧ next = w.authorized call cloneAddress ttlSeconds := by
  simp only [authorizeCloneKey, Outcome.bind_eq_ok, Outcome.require_eq_ok,
    Outcome.pure_eq_ok] at granted
  obtain ⟨_, _, _, _, _, _, _, _, _, _, _, _, _, free, _, _, rfl⟩ := granted
  exact ⟨free, rfl⟩

def World.revoked (chain : Chain) (caller cloneAddress : Address) (props : CloneKeyProperties)
    (w : World) : World :=
  ({ w with
    cloneKeyProps := w.cloneKeyProps.clear cloneAddress
    walletCloneKeys := Function.update w.walletCloneKeys caller
      ((w.walletCloneKeys caller).erase cloneAddress) }.payIfPositive chain caller
        props.unspent).emit (.cloneKeyRevoked caller cloneAddress props.unspent)

theorem revokeCloneKey_ok {chain : Chain} {call : CallContext} {cloneAddress : Address}
    {w next : World} (revoked : revokeCloneKey chain call cloneAddress w = .ok next) :
    ∃ props, w.cloneKeyProps.get? cloneAddress = some props ∧ props.mainAddress = call.caller ∧
      props.unspent ≤ w.egld ∧ next = w.revoked chain call.caller cloneAddress props := by
  have refund : ∀ props : CloneKeyProperties, (if props.spentAmount < props.spendLimit then
      props.spendLimit - props.spentAmount else 0) = props.unspent := by
    intro props
    unfold CloneKeyProperties.unspent
    split <;> omega
  simp only [revokeCloneKey, Outcome.bind_eq_ok, Outcome.require_eq_ok, Outcome.load_eq_ok,
    World.directEgldIfPositive_eq_ok, Outcome.pure_eq_ok, refund] at revoked
  obtain ⟨_, _, props, found, _, owned, _, ⟨covered, rfl⟩, rfl⟩ := revoked
  exact ⟨props, found, owned, covered, rfl⟩

def World.toppedUp (call : CallContext) (cloneAddress : Address) (props : CloneKeyProperties)
    (w : World) : World :=
  { w with
    cloneKeyProps := w.cloneKeyProps.set cloneAddress
      { props with spendLimit := props.spendLimit + call.egldValue } }.emit
    (.cloneKeyFunded cloneAddress call.egldValue)

theorem fundCloneKey_ok {call : CallContext} {cloneAddress : Address} {w next : World}
    (funded : fundCloneKey call cloneAddress w = .ok next) :
    ∃ props, w.cloneKeyProps.get? cloneAddress = some props ∧ props.mainAddress = call.caller ∧
      next = w.toppedUp call cloneAddress props := by
  simp only [fundCloneKey, Outcome.bind_eq_ok, Outcome.require_eq_ok, Outcome.load_eq_ok,
    Outcome.pure_eq_ok] at funded
  obtain ⟨_, _, _, _, _, _, props, found, _, owned, _, _, _, _, rfl⟩ := funded
  exact ⟨props, found, owned, rfl⟩

/-! ## Intents -/

section Intents

variable {Terms : Type}

theorem IntentBook.cancel_eq_ok {book next : IntentBook Terms} {caller : Address} {id : Nat}
    {intent : IntentRecord Terms} :
    book.cancel caller id = .ok (intent, next) ↔
      book.byId.get? id = some intent ∧ intent.owner = caller ∧ intent.status = .pending ∧
        { book with byId := book.byId.set id intent.cancelled } = next := by
  simp only [IntentBook.cancel, Outcome.bind_eq_ok, Outcome.require_eq_ok, Outcome.load_eq_ok,
    Outcome.pure_eq_ok, Prod.mk.injEq]
  constructor
  · rintro ⟨_, found, _, owned, _, pending, rfl, rfl⟩
    exact ⟨found, owned, pending, rfl⟩
  · rintro ⟨found, owned, pending, rfl⟩
    exact ⟨intent, found, (), owned, (), pending, rfl, rfl⟩

theorem IntentBook.pendingIntent_eq_ok {book : IntentBook Terms} {call : CallContext} {id : Nat}
    {intent : IntentRecord Terms} :
    book.pendingIntent call id = .ok intent ↔
      book.byId.get? id = some intent ∧ intent.status = .pending ∧
        call.blockTimestamp ≤ intent.deadline := by
  simp only [IntentBook.pendingIntent, Outcome.bind_eq_ok, Outcome.require_eq_ok,
    Outcome.load_eq_ok, Outcome.pure_eq_ok]
  constructor
  · rintro ⟨_, found, _, pending, _, timely, rfl⟩
    exact ⟨found, pending, timely⟩
  · rintro ⟨found, pending, timely⟩
    exact ⟨intent, found, (), pending, (), timely, rfl⟩

def World.paidOut (chain : Chain) (receiver : Address) (intent : IntentRecord Terms) (w : World) :
    World :=
  (w.payEsdt chain receiver intent.tokenIn 0 intent.amountIn).payIfPositive chain receiver intent.fee

theorem payOut_eq_ok {chain : Chain} {receiver : Address} {intent : IntentRecord Terms}
    {w next : World} :
    payOut chain receiver intent w = .ok next ↔
      intent.amountIn ≤ w.esdt intent.tokenIn 0 ∧ intent.fee ≤ w.egld ∧
        w.paidOut chain receiver intent = next := by
  have untouched : (w.payEsdt chain receiver intent.tokenIn 0 intent.amountIn).egld = w.egld := rfl
  simp only [payOut, Outcome.bind_eq_ok, World.directEsdt_eq_ok, World.directEgldIfPositive_eq_ok,
    World.paidOut]
  constructor
  · rintro ⟨_, ⟨covered, rfl⟩, affordable, rfl⟩
    exact ⟨covered, affordable, rfl⟩
  · rintro ⟨covered, affordable, rfl⟩
    exact ⟨_, ⟨covered, rfl⟩, affordable, rfl⟩

theorem singleTransfer_ne_ok {call : CallContext} {value : Nat} {message : String}
    {payment : EsdtPayment} (attached : call.egld = .ok value) :
    singleTransfer call message ≠ .ok payment := by
  have none := (CallContext.egld_eq_ok.mp attached).1
  simp [singleTransfer, CallContext.allEsdtTransfers, none, ensure, Bind.bind, Except.bind, pure,
    Except.pure]

theorem singleFungibleEsdt_ok {call : CallContext} {token : TokenIdentifier} {amount : Nat}
    (received : call.singleFungibleEsdt = .ok (token, amount)) :
    call.esdtTransfers = [⟨token, 0, amount⟩] := by
  simp only [CallContext.singleFungibleEsdt, Outcome.bind_eq_ok] at received
  obtain ⟨payments, transferred, received⟩ := received
  rw [CallContext.allEsdtTransfers_ok transferred]
  split at received
  next payment =>
    split at received
    next fungible =>
      simp only [Outcome.pure_eq_ok, Prod.mk.injEq] at received
      obtain ⟨rfl, rfl⟩ := received
      rw [← fungible]
    next => simp at received
  next => simp at received

def depositTransfers (receiver : Address) (intent : IntentRecord Terms) : List Transfer :=
  .esdt receiver intent.tokenIn 0 intent.amountIn ::
    if 0 < intent.fee then [.egld receiver intent.fee] else []

theorem World.paidOut_sent (chain : Chain) (receiver : Address) (intent : IntentRecord Terms)
    (w : World) :
    (w.paidOut chain receiver intent).sent = w.sent ++ depositTransfers receiver intent := by
  by_cases positive : 0 < intent.fee
  · simp [World.paidOut, World.payIfPositive, World.payEsdt, depositTransfers, positive]
  · simp [World.paidOut, World.payIfPositive, World.payEsdt, depositTransfers, positive]

def World.delivered (chain : Chain) (owner : Address) : List EsdtPayment → World → World
  | [], w => w
  | payment :: payments, w =>
      (w.payEsdt chain owner payment.token 0 payment.amount).delivered chain owner payments

def deliveryTransfers (owner : Address) (payments : List EsdtPayment) : List Transfer :=
  payments.map fun payment => .esdt owner payment.token 0 payment.amount

theorem deliverPayments_ok {chain : Chain} {owner : Address} {payments : List EsdtPayment}
    {w next : World} (delivered : deliverPayments chain owner payments w = .ok next) :
    next = w.delivered chain owner payments := by
  induction payments generalizing w with
  | nil =>
      simp only [deliverPayments, Outcome.pure_eq_ok] at delivered
      exact delivered.symm
  | cons payment payments inductionHypothesis =>
      simp only [deliverPayments, Outcome.bind_eq_ok, World.directEsdt_eq_ok] at delivered
      obtain ⟨_, ⟨_, rfl⟩, rest⟩ := delivered
      exact inductionHypothesis rest

theorem World.delivered_sent (chain : Chain) (owner : Address) (payments : List EsdtPayment)
    (w : World) :
    (w.delivered chain owner payments).sent = w.sent ++ deliveryTransfers owner payments := by
  induction payments generalizing w with
  | nil => simp [World.delivered, deliveryTransfers]
  | cons payment payments inductionHypothesis =>
      rw [World.delivered, inductionHypothesis]
      simp [World.payEsdt, deliveryTransfers]

theorem World.delivered_eq (chain : Chain) (owner : Address) (payments : List EsdtPayment)
    (w : World) :
    w.delivered chain owner payments =
      { w with
        esdt := (w.delivered chain owner payments).esdt
        sent := w.sent ++ deliveryTransfers owner payments } := by
  induction payments generalizing w with
  | nil => simp [World.delivered, deliveryTransfers]
  | cons payment payments inductionHypothesis =>
      rw [World.delivered, inductionHypothesis]
      simp [World.payEsdt, deliveryTransfers]

theorem World.delivered_esdt {chain : Chain} {owner : Address} {payments : List EsdtPayment}
    {before w : World} (same : before.esdt = w.esdt) (token : TokenIdentifier) (nonce : Nat) :
    (before.delivered chain owner payments).esdt token nonce =
      (w.delivered chain owner payments).esdt token nonce := by
  induction payments generalizing before w with
  | nil => exact congrFun (congrFun same token) nonce
  | cons payment payments inductionHypothesis =>
      apply inductionHypothesis
      simp only [World.payEsdt, same]

/-- A payment satisfies an outcome: the same token, at least the minimum. -/
def MeetsOutcome (outcome : MultiIntentOutcome) (payment : EsdtPayment) : Prop :=
  payment.token = outcome.tokenOut ∧ outcome.minReturn ≤ payment.amount

theorem checkOutcomes_ok {index : Nat} {outcomes : List MultiIntentOutcome}
    {payments : List EsdtPayment} {u : Unit} (counted : payments.length = outcomes.length)
    (checked : checkOutcomes index outcomes payments = .ok u) :
    List.Forall₂ MeetsOutcome outcomes payments := by
  induction outcomes generalizing index payments with
  | nil =>
      rw [List.length_nil, List.length_eq_zero_iff] at counted
      subst counted
      exact .nil
  | cons outcome outcomes inductionHypothesis =>
      cases payments with
      | nil => simp at counted
      | cons payment payments =>
          simp only [checkOutcomes, Outcome.bind_eq_ok, Outcome.require_eq_ok] at checked
          obtain ⟨_, same, _, enough, rest⟩ := checked
          exact .cons ⟨same, enough⟩ (inductionHypothesis (by simpa using counted) rest)

end Intents

theorem createIntent_ne_ok {call : CallContext} {tokenOut : TokenIdentifier} {minReturn : Nat}
    {deadline : UInt64} {solverFee : Nat} {w next : World} :
    createIntent call tokenOut minReturn deadline solverFee w ≠ .ok next := by
  intro created
  simp only [createIntent, Outcome.bind_eq_ok] at created
  obtain ⟨_, _, _, attached, _, _, _, single, _⟩ := created
  exact singleTransfer_ne_ok attached single

theorem createMultiIntent_ne_ok {call : CallContext} {outcomes : List MultiIntentOutcome}
    {deadline : UInt64} {solverFee : Nat} {w next : World} :
    createMultiIntent call outcomes deadline solverFee w ≠ .ok next := by
  intro created
  simp only [createMultiIntent, Outcome.bind_eq_ok] at created
  obtain ⟨_, _, _, attached, _, _, _, single, _⟩ := created
  exact singleTransfer_ne_ok attached single

theorem createPreCognitiveIntent_ne_ok {call : CallContext} {merkleRoot : Bytes32} {deadline : UInt64}
    {keeperFee : Nat} {w next : World} :
    createPreCognitiveIntent call merkleRoot deadline keeperFee w ≠ .ok next := by
  intro created
  simp only [createPreCognitiveIntent, Outcome.bind_eq_ok] at created
  obtain ⟨_, _, _, attached, _, _, _, single, _⟩ := created
  exact singleTransfer_ne_ok attached single

theorem cancelAndPayOut_eq_ok {Terms : Type} {chain : Chain} {call : CallContext} {id : Nat}
    {book : IntentBook Terms} {w next : World} (put : IntentBook Terms → World)
    (balances : ∀ other, (put other).esdt = w.esdt ∧ (put other).egld = w.egld) :
    (book.cancel call.caller id >>= fun cancelled =>
        payOut chain call.caller cancelled.1 (put cancelled.2)) = .ok next ↔
      ∃ intent, book.byId.get? id = some intent ∧ intent.owner = call.caller ∧
        intent.status = .pending ∧ intent.amountIn ≤ w.esdt intent.tokenIn 0 ∧
        intent.fee ≤ w.egld ∧
        (put { book with byId := book.byId.set id intent.cancelled }).paidOut chain call.caller
          intent = next := by
  simp only [Outcome.bind_eq_ok, Prod.exists, IntentBook.cancel_eq_ok, payOut_eq_ok]
  constructor
  · rintro ⟨intent, changed, ⟨found, owned, pending, rfl⟩, covered, affordable, rfl⟩
    rw [(balances _).1] at covered
    rw [(balances _).2] at affordable
    exact ⟨intent, found, owned, pending, covered, affordable, rfl⟩
  · rintro ⟨intent, found, owned, pending, covered, affordable, rfl⟩
    rw [← (balances { book with byId := book.byId.set id intent.cancelled }).1] at covered
    rw [← (balances { book with byId := book.byId.set id intent.cancelled }).2] at affordable
    exact ⟨intent, _, ⟨found, owned, pending, rfl⟩, covered, affordable, rfl⟩

theorem cancelIntent_eq_ok {chain : Chain} {call : CallContext} {id : Nat} {w next : World} :
    cancelIntent chain call id w = .ok next ↔
      ∃ intent, w.intents.byId.get? id = some intent ∧ intent.owner = call.caller ∧
        intent.status = .pending ∧ intent.amountIn ≤ w.esdt intent.tokenIn 0 ∧
        intent.fee ≤ w.egld ∧
        { w with
          intents := { w.intents with
            byId := w.intents.byId.set id intent.cancelled } }.paidOut chain call.caller intent =
          next :=
  cancelAndPayOut_eq_ok (fun book => { w with intents := book }) fun _ => ⟨rfl, rfl⟩

theorem cancelMultiIntent_eq_ok {chain : Chain} {call : CallContext} {id : Nat} {w next : World} :
    cancelMultiIntent chain call id w = .ok next ↔
      ∃ intent, w.multiIntents.byId.get? id = some intent ∧ intent.owner = call.caller ∧
        intent.status = .pending ∧ intent.amountIn ≤ w.esdt intent.tokenIn 0 ∧
        intent.fee ≤ w.egld ∧
        { w with
          multiIntents := { w.multiIntents with
            byId := w.multiIntents.byId.set id intent.cancelled } }.paidOut chain call.caller intent =
          next :=
  cancelAndPayOut_eq_ok (fun book => { w with multiIntents := book }) fun _ => ⟨rfl, rfl⟩

theorem cancelPreCognitiveIntent_eq_ok {chain : Chain} {call : CallContext} {id : Nat}
    {w next : World} :
    cancelPreCognitiveIntent chain call id w = .ok next ↔
      ∃ intent, w.preCognitiveIntents.byId.get? id = some intent ∧ intent.owner = call.caller ∧
        intent.status = .pending ∧ intent.amountIn ≤ w.esdt intent.tokenIn 0 ∧
        intent.fee ≤ w.egld ∧
        { w with
          preCognitiveIntents := { w.preCognitiveIntents with
            byId := w.preCognitiveIntents.byId.set id intent.cancelled } }.paidOut chain call.caller
            intent = next :=
  cancelAndPayOut_eq_ok (fun book => { w with preCognitiveIntents := book })
    fun _ => ⟨rfl, rfl⟩

theorem solveIntent_ok {chain : Chain} {call : CallContext} {id : Nat} {w next : World}
    (solved : solveIntent chain call id w = .ok next) :
    ∃ intent payment, call.caller ∈ w.config.whitelistedKeepers ∧
      w.intents.byId.get? id = some intent ∧ intent.status = .pending ∧
      call.blockTimestamp ≤ intent.deadline ∧ call.esdtTransfers = [payment] ∧
      MeetsOutcome intent.terms payment ∧
      intent.amountIn ≤ (w.delivered chain intent.owner [payment]).esdt intent.tokenIn 0 ∧
      intent.fee ≤ w.egld ∧
      next = ({ w with intents := w.intents.settle id intent call.caller }.delivered chain
        intent.owner [payment]).paidOut chain call.caller intent := by
  simp only [solveIntent, Outcome.bind_eq_ok, Prod.exists, World.requireRegisteredKeeper_eq_ok,
    IntentBook.pendingIntent_eq_ok, Outcome.require_eq_ok, World.directEsdt_eq_ok,
    payOut_eq_ok] at solved
  obtain ⟨_, keeper, intent, ⟨found, pending, timely⟩, token, amount, received, _, same, _, enough,
    _, ⟨_, rfl⟩, covered, affordable, rfl⟩ := solved
  exact ⟨intent, ⟨token, 0, amount⟩, keeper, found, pending, timely, singleFungibleEsdt_ok received,
    ⟨same, enough⟩, covered, affordable, rfl⟩

theorem solveMultiIntent_ok {chain : Chain} {call : CallContext} {id : Nat} {w next : World}
    (solved : solveMultiIntent chain call id w = .ok next) :
    ∃ intent, call.caller ∈ w.config.whitelistedKeepers ∧
      w.multiIntents.byId.get? id = some intent ∧ intent.status = .pending ∧
      call.blockTimestamp ≤ intent.deadline ∧
      List.Forall₂ MeetsOutcome intent.terms call.esdtTransfers ∧
      intent.amountIn ≤ (w.delivered chain intent.owner call.esdtTransfers).esdt intent.tokenIn 0 ∧
      intent.fee ≤ w.egld ∧
      next = (({ w with multiIntents := w.multiIntents.settle id intent call.caller }.emit
        (.multiIntentSettled id call.caller)).delivered chain intent.owner
          call.esdtTransfers).paidOut chain call.caller intent := by
  simp only [solveMultiIntent, Outcome.bind_eq_ok, World.requireRegisteredKeeper_eq_ok,
    IntentBook.pendingIntent_eq_ok, Outcome.require_eq_ok, payOut_eq_ok] at solved
  obtain ⟨_, keeper, intent, ⟨found, pending, timely⟩, payments, transferred, _, counted, _, checked,
    _, delivered, covered, affordable, rfl⟩ := solved
  rw [CallContext.allEsdtTransfers_ok transferred]
  have handed := deliverPayments_ok delivered
  subst handed
  rw [World.delivered_eq] at affordable
  refine ⟨intent, keeper, found, pending, timely, checkOutcomes_ok counted checked, ?_, affordable,
    rfl⟩
  refine Nat.le_trans covered (Nat.le_of_eq ?_)
  apply World.delivered_esdt
  rfl

theorem executePreCognitiveLeaf_ok {chain : Chain} {call : CallContext} {id : Nat}
    {merkleProof : List Bytes32} {leaf : Leaf} {w next : World}
    (executed : executePreCognitiveLeaf chain call id merkleProof leaf w = .ok next) :
    ∃ intent payment, call.caller ∈ w.config.whitelistedKeepers ∧
      w.preCognitiveIntents.byId.get? id = some intent ∧ intent.status = .pending ∧
      call.blockTimestamp ≤ intent.deadline ∧
      verifyMerkleProof chain (chain.sha256 leaf.preimage) merkleProof intent.terms = true ∧
      call.esdtTransfers = [payment] ∧
      MeetsOutcome ⟨leaf.expectedTokenOut, leaf.minReturn⟩ payment ∧
      intent.amountIn ≤ (w.delivered chain intent.owner [payment]).esdt intent.tokenIn 0 ∧
      intent.fee ≤ w.egld ∧
      next = ({ w with
        preCognitiveIntents := w.preCognitiveIntents.settle id intent call.caller }.delivered chain
        intent.owner [payment]).paidOut chain call.caller intent := by
  simp only [executePreCognitiveLeaf, Outcome.bind_eq_ok, Prod.exists,
    World.requireRegisteredKeeper_eq_ok, IntentBook.pendingIntent_eq_ok, Outcome.require_eq_ok,
    World.directEsdt_eq_ok, payOut_eq_ok] at executed
  obtain ⟨_, keeper, intent, ⟨found, pending, timely⟩, _, proved, token, amount, received, _, same, _,
    enough, _, ⟨_, rfl⟩, covered, affordable, rfl⟩ := executed
  exact ⟨intent, ⟨token, 0, amount⟩, keeper, found, pending, timely, proved,
    singleFungibleEsdt_ok received, ⟨same, enough⟩, covered, affordable, rfl⟩

/-! ## Fees, configuration and steps -/

def World.flushed (rewards caller : Address) (w : World) : World :=
  { w with
    accruedProtocolFees := 0
    egld := w.egld - w.accruedProtocolFees
    outbox := w.outbox ++ [.receiveExecutionFee rewards caller w.accruedProtocolFees] }

theorem flushProtocolFees_ok {chain : Chain} {call : CallContext} {w next : World}
    (flushed : flushProtocolFees chain call w = .ok next) :
    ∃ rewards, w.config.rewardsAddr = some rewards ∧ w.accruedProtocolFees ≤ w.egld ∧
      next = w.flushed rewards call.caller := by
  simp only [flushProtocolFees, Outcome.bind_eq_ok, Outcome.load_eq_ok] at flushed
  obtain ⟨_, _, _, _, rewards, configured, rest⟩ := flushed
  split at rest
  next covered => exact ⟨rewards, configured, covered, (Outcome.pure_eq_ok _ _ |>.mp rest).symm⟩
  next => simp at rest

@[simp]
theorem payableEgld_eq_ok {call : CallContext} {u : Unit} :
    call.payableEgld = .ok u ↔ call.esdtTransfers = [] := by
  simp [CallContext.payableEgld]

@[simp]
theorem notPayable_eq_ok {call : CallContext} {u : Unit} :
    call.notPayable = .ok u ↔ call.egldValue = 0 ∧ call.esdtTransfers = [] := by
  simp [CallContext.notPayable]

@[simp]
theorem onlyOwner_eq_ok {chain : Chain} {call : CallContext} {u : Unit} :
    call.onlyOwner chain = .ok u ↔ call.caller = chain.ownerAddress := by
  simp [CallContext.onlyOwner]

theorem credit_of_noValue {call : CallContext} (w : World) (noEgld : call.egldValue = 0)
    (noEsdt : call.esdtTransfers = []) : w.credit call = w := by
  cases w
  simp [World.credit, noEgld, noEsdt]

theorem Config.apply_feeBound {change : ConfigCall} {c next : Config}
    (applied : c.apply change = .ok next) (bounded : c.protocolFeeBps ≤ Constants.bpsDenominator) :
    next.protocolFeeBps ≤ Constants.bpsDenominator := by
  cases change with
  | setProtocolFeeBps value =>
      simp only [Config.apply, Outcome.bind_eq_ok, Outcome.require_eq_ok,
        Outcome.pure_eq_ok] at applied
      obtain ⟨_, within, rfl⟩ := applied
      exact within
  | removeWhitelistedKeeper keeper =>
      simp only [Config.apply, Outcome.bind_eq_ok, Outcome.pure_eq_ok] at applied
      obtain ⟨_, _, _, _, rfl⟩ := applied
      exact bounded
  | _ =>
      simp only [Config.apply, Outcome.pure_eq_ok] at applied
      subst applied
      exact bounded

end XCron.Scheduler
