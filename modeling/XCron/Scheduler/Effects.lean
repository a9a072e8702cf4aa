import XCron.Scheduler.Specs

/-!
# What a step can do

The transition function inverted once, for every endpoint, callback, return and
delivery. Invariants of the scheduler are proved by cases on `Effect`.
-/

namespace XCron.Scheduler

open Platform

/-- Everything a successful step can be, with the checks it passed and the state
it leaves. -/
inductive Effect (chain : Chain) (w : World) : Step → World → Prop where
  | scheduleQuantumTask {call : CallContext} {payload : Task} {requested : Option Nat}
      {deposit : Nat} {paid : World} (delivered : call.Delivered chain)
      (noEsdt : call.esdtTransfers = [])
      (taken : takeDeposit call requested (w.credit call) = .ok (deposit, paid))
      (free : paid.quantumTasks.get? (taskHash chain payload) = none) :
      Effect chain w (.scheduleQuantumTask call payload requested)
        ((storeTask (taskHash chain payload) (resolveCaller call w).1 deposit
          (paid.counted (resolveCaller call w).1 call.blockRound)).emit
          (.taskScheduledQuantum (taskHash chain payload) (resolveCaller call w).1
            payload.targetContract (getTimestampMs call)))
  | scheduleSovereignTask {call : CallContext} {encryptedPayload : Bytes} {requested : Option Nat}
      {deposit : Nat} {paid : World} {hash : TaskHash} (delivered : call.Delivered chain)
      (noEsdt : call.esdtTransfers = [])
      (taken : takeDeposit call requested (w.credit call) = .ok (deposit, paid))
      (free : paid.quantumTasks.get? hash = none) :
      Effect chain w (.scheduleSovereignTask call encryptedPayload requested)
        ((storeTask hash (resolveCaller call w).1 deposit paid).emit
          (.xsePayloadTriggered (resolveCaller call w).1 encryptedPayload))
  | cancelQuantumTask {call : CallContext} {hash : TaskHash} {state : QuantumTaskState}
      (delivered : call.Delivered chain) (found : w.quantumTasks.get? hash = some state)
      (owned : state.owner = (resolveCaller call w).1) (pending : state.status = .pending)
      (affordable : cancellationRefund w state.deposit ≤ w.egld) :
      Effect chain w (.cancelQuantumTask call hash) (w.cancelled chain hash state)
  | executeQuantumTask {call : CallContext} {payload : Task} {secret : Option Bytes32}
      {state : QuantumTaskState} {next : World} (delivered : call.Delivered chain)
      (found : w.quantumTasks.get? (taskHash chain payload) = some state)
      (pending : state.status = .pending) (keeper : call.caller ∈ w.config.whitelistedKeepers)
      (dispatched : Dispatched chain
        ⟨call, taskHash chain payload, payload, call.caller, state, .quantum⟩
        (w.assignEnclave (taskHash chain payload) payload call.caller) next) :
      Effect chain w (.executeQuantumTask call payload secret) next
  | executeCompressedTask {call : CallContext} {payload : Task} {packedProof : Bytes} {xsc : Address}
      (delivered : call.Delivered chain) (configured : w.config.xscAddress = some xsc)
      (nonzero : xsc ≠ Bytes32.zero) (keeper : call.caller ∈ w.config.whitelistedKeepers) :
      Effect chain w (.executeCompressedTask call payload packedProof)
        (w.suspend (.proof call (taskHash chain payload) payload) xsc "verifyProof".toUTF8.toList
          [(taskHash chain payload).val, packedProof])
  | awaitSettlement {call : CallContext} {hash : TaskHash} {zkProof : Bytes}
      {state : QuantumTaskState} {verifier : Address} (delivered : call.Delivered chain)
      (found : w.quantumTasks.get? hash = some state) (executing : state.status = .executing)
      (enclave : w.assignedEnclaveKeeper hash = some call.caller)
      (keeper : call.caller ∈ w.config.whitelistedKeepers) :
      Effect chain w (.settleXseTask call hash zkProof)
        (w.suspend (.zkVerifier hash call.caller state) verifier "verifyZkProof".toUTF8.toList
          [hash.val, zkProof])
  | settleXseTask {call : CallContext} {hash : TaskHash} {zkProof : Bytes}
      {state : QuantumTaskState} {next : World} (delivered : call.Delivered chain)
      (found : w.quantumTasks.get? hash = some state) (executing : state.status = .executing)
      (enclave : w.assignedEnclaveKeeper hash = some call.caller)
      (keeper : call.caller ∈ w.config.whitelistedKeepers)
      (closed : settleVerified chain hash call.caller state w = .ok next) :
      Effect chain w (.settleXseTask call hash zkProof) next
  | rescueStuckXseTask {call : CallContext} {hash : TaskHash} {state : QuantumTaskState}
      {keeper : Address} (delivered : call.Delivered chain)
      (found : w.quantumTasks.get? hash = some state) (executing : state.status = .executing)
      (permitted : call.caller = state.owner ∨ call.caller = chain.ownerAddress)
      (enclave : w.assignedEnclaveKeeper hash = some keeper) (affordable : state.deposit ≤ w.egld) :
      Effect chain w (.rescueStuckXseTask call hash) (w.rescued chain hash state keeper)
  | triggerXseEnclave {call : CallContext} {encryptedPayload : Bytes}
      (delivered : call.Delivered chain) (keeper : call.caller ∈ w.config.whitelistedKeepers) :
      Effect chain w (.triggerXseEnclave call encryptedPayload)
        (w.emit (.xsePayloadTriggered call.caller encryptedPayload))
  | authorizeCloneKey {call : CallContext} {cloneAddress : Address} {ttlSeconds : UInt64}
      (delivered : call.Delivered chain) (noEsdt : call.esdtTransfers = [])
      (free : w.cloneKeyProps.get? cloneAddress = none) :
      Effect chain w (.authorizeCloneKey call cloneAddress ttlSeconds)
        ((w.credit call).authorized call cloneAddress ttlSeconds)
  | revokeCloneKey {call : CallContext} {cloneAddress : Address} {props : CloneKeyProperties}
      (delivered : call.Delivered chain) (found : w.cloneKeyProps.get? cloneAddress = some props)
      (owned : props.mainAddress = call.caller) (affordable : props.unspent ≤ w.egld) :
      Effect chain w (.revokeCloneKey call cloneAddress)
        (w.revoked chain call.caller cloneAddress props)
  | fundCloneKey {call : CallContext} {cloneAddress : Address} {props : CloneKeyProperties}
      (delivered : call.Delivered chain) (noEsdt : call.esdtTransfers = [])
      (found : w.cloneKeyProps.get? cloneAddress = some props)
      (owned : props.mainAddress = call.caller) :
      Effect chain w (.fundCloneKey call cloneAddress)
        ((w.credit call).toppedUp call cloneAddress props)
  | cancelIntent {call : CallContext} {id : Nat} {intent : Intent}
      (delivered : call.Delivered chain) (found : w.intents.byId.get? id = some intent)
      (owned : intent.owner = call.caller) (pending : intent.status = .pending)
      (covered : intent.amountIn ≤ w.esdt intent.tokenIn 0) (affordable : intent.fee ≤ w.egld) :
      Effect chain w (.cancelIntent call id)
        ({ w with
          intents := { w.intents with
            byId := w.intents.byId.set id intent.cancelled } }.paidOut chain call.caller intent)
  | solveIntent {call : CallContext} {id : Nat} {intent : Intent} {payment : EsdtPayment}
      (delivered : call.Delivered chain) (keeper : call.caller ∈ w.config.whitelistedKeepers)
      (found : w.intents.byId.get? id = some intent) (pending : intent.status = .pending)
      (timely : call.blockTimestamp ≤ intent.deadline) (received : call.esdtTransfers = [payment])
      (met : MeetsOutcome intent.terms payment)
      (covered : intent.amountIn ≤
        ((w.credit call).delivered chain intent.owner [payment]).esdt intent.tokenIn 0)
      (affordable : intent.fee ≤ (w.credit call).egld) :
      Effect chain w (.solveIntent call id)
        (({ w.credit call with
          intents := w.intents.settle id intent call.caller }.delivered chain intent.owner
            [payment]).paidOut chain call.caller intent)
  | cancelMultiIntent {call : CallContext} {id : Nat} {intent : MultiIntent}
      (delivered : call.Delivered chain) (found : w.multiIntents.byId.get? id = some intent)
      (owned : intent.owner = call.caller) (pending : intent.status = .pending)
      (covered : intent.amountIn ≤ w.esdt intent.tokenIn 0) (affordable : intent.fee ≤ w.egld) :
      Effect chain w (.cancelMultiIntent call id)
        ({ w with
          multiIntents := { w.multiIntents with
            byId := w.multiIntents.byId.set id intent.cancelled } }.paidOut chain call.caller intent)
  | solveMultiIntent {call : CallContext} {id : Nat} {intent : MultiIntent}
      (delivered : call.Delivered chain) (keeper : call.caller ∈ w.config.whitelistedKeepers)
      (found : w.multiIntents.byId.get? id = some intent) (pending : intent.status = .pending)
      (timely : call.blockTimestamp ≤ intent.deadline)
      (met : List.Forall₂ MeetsOutcome intent.terms call.esdtTransfers)
      (covered : intent.amountIn ≤
        ((w.credit call).delivered chain intent.owner call.esdtTransfers).esdt intent.tokenIn 0)
      (affordable : intent.fee ≤ (w.credit call).egld) :
      Effect chain w (.solveMultiIntent call id)
        ((({ w.credit call with
          multiIntents := w.multiIntents.settle id intent call.caller }.emit
            (.multiIntentSettled id call.caller)).delivered chain intent.owner
              call.esdtTransfers).paidOut chain call.caller intent)
  | cancelPreCognitiveIntent {call : CallContext} {id : Nat} {intent : PreCognitiveIntent}
      (delivered : call.Delivered chain) (found : w.preCognitiveIntents.byId.get? id = some intent)
      (owned : intent.owner = call.caller) (pending : intent.status = .pending)
      (covered : intent.amountIn ≤ w.esdt intent.tokenIn 0) (affordable : intent.fee ≤ w.egld) :
      Effect chain w (.cancelPreCognitiveIntent call id)
        ({ w with
          preCognitiveIntents := { w.preCognitiveIntents with
            byId := w.preCognitiveIntents.byId.set id intent.cancelled } }.paidOut chain call.caller
          intent)
  | executePreCognitiveLeaf {call : CallContext} {id : Nat} {merkleProof : List Bytes32} {leaf : Leaf}
      {intent : PreCognitiveIntent} {payment : EsdtPayment} (delivered : call.Delivered chain)
      (keeper : call.caller ∈ w.config.whitelistedKeepers)
      (found : w.preCognitiveIntents.byId.get? id = some intent) (pending : intent.status = .pending)
      (timely : call.blockTimestamp ≤ intent.deadline)
      (proved : verifyMerkleProof chain (chain.sha256 leaf.preimage) merkleProof intent.terms = true)
      (received : call.esdtTransfers = [payment])
      (met : MeetsOutcome ⟨leaf.expectedTokenOut, leaf.minReturn⟩ payment)
      (covered : intent.amountIn ≤
        ((w.credit call).delivered chain intent.owner [payment]).esdt intent.tokenIn 0)
      (affordable : intent.fee ≤ (w.credit call).egld) :
      Effect chain w (.executePreCognitiveLeaf call id merkleProof leaf)
        (({ w.credit call with
          preCognitiveIntents := w.preCognitiveIntents.settle id intent call.caller }.delivered chain
            intent.owner [payment]).paidOut chain call.caller intent)
  | flushProtocolFees {call : CallContext} {rewards : Address} (delivered : call.Delivered chain)
      (affordable : w.accruedProtocolFees ≤ w.egld) :
      Effect chain w (.flushProtocolFees call) (w.flushed rewards call.caller)
  | registerKeeperShard {call : CallContext} (delivered : call.Delivered chain)
      (keeper : call.caller ∈ w.config.whitelistedKeepers) :
      Effect chain w (.registerKeeperShard call)
        { w with
          keeperShard := Function.update w.keeperShard call.caller (chain.shardOf call.caller) }
  | configure {call : CallContext} {change : ConfigCall} {config : Config}
      (delivered : call.Delivered chain) (owner : call.caller = chain.ownerAddress)
      (applied : w.config.apply change = .ok config) :
      Effect chain w (.configure call change) { w with config := config }
  | syncReturn {results : List Bytes} {frame : Frame} {rest : List Frame} {next : World}
      (waiting : w.frames = frame :: rest)
      (resumed : resume chain frame results { w with frames := rest } = .ok next) :
      Effect chain w (.syncReturn results) next
  | executionCallback {index : Nat} {success : Bool} {promise : Promise} {next : World}
      (inFlight : w.promises[index]? = some promise)
      (called : executionCallback chain promise success
        { w with promises := w.promises.eraseIdx index } = .ok next) :
      Effect chain w (.executionCallback index success) next
  | callbackFault {index : Nat} {success : Bool} {promise : Promise} {fault : Fault}
      (inFlight : w.promises[index]? = some promise)
      (called : executionCallback chain promise success
        { w with promises := w.promises.eraseIdx index } = .error fault) :
      Effect chain w (.executionCallback index success)
        { w with promises := w.promises.eraseIdx index }
  | deliverMessage {index : Nat} {accepted : Bool} {message : Message}
      (queued : w.outbox[index]? = some message) :
      Effect chain w (.deliverMessage index accepted)
        { w with
          outbox := w.outbox.eraseIdx index
          egld := if accepted then w.egld else w.egld + message.value }
  | receiveEgld {amount : Nat} :
      Effect chain w (.receiveEgld amount) { w with egld := w.egld + amount }
  | receiveEsdt {payment : EsdtPayment} (genuine : payment.Genuine chain) :
      Effect chain w (.receiveEsdt payment)
        { w with
          esdt := fun token nonce => w.esdt token nonce +
            if payment.token = token ∧ payment.nonce = nonce then payment.amount else 0 }

theorem unpayable_ok {chain : Chain} {w next : World} {call : CallContext}
    (endpoint : World → Outcome World)
    (ran : (do ensure (call.Delivered chain); call.notPayable; endpoint (w.credit call)) =
      .ok next) : call.Delivered chain ∧ endpoint w = .ok next := by
  simp only [Outcome.bind_eq_ok, Outcome.ensure_eq_ok, notPayable_eq_ok] at ran
  obtain ⟨_, delivered, _, ⟨noEgld, noEsdt⟩, done⟩ := ran
  rw [credit_of_noValue w noEgld noEsdt] at done
  exact ⟨delivered, done⟩

theorem payableEgld_ok {chain : Chain} {next : World} {call : CallContext}
    {done : Outcome World}
    (ran : (do ensure (call.Delivered chain); call.payableEgld; done) = .ok next) :
    call.Delivered chain ∧ call.esdtTransfers = [] ∧ done = .ok next := by
  simp only [Outcome.bind_eq_ok, Outcome.ensure_eq_ok, payableEgld_eq_ok] at ran
  obtain ⟨_, delivered, _, noEsdt, done⟩ := ran
  exact ⟨delivered, noEsdt, done⟩

theorem payable_ok {chain : Chain} {next : World} {call : CallContext} {done : Outcome World}
    (ran : (do ensure (call.Delivered chain); done) = .ok next) :
    call.Delivered chain ∧ done = .ok next := by
  simp only [Outcome.bind_eq_ok, Outcome.ensure_eq_ok] at ran
  obtain ⟨_, delivered, done⟩ := ran
  exact ⟨delivered, done⟩

/-- Every successful step has one of the effects above. -/
theorem step_effect {chain : Chain} {w next : World} {move : Step}
    (stepped : step chain w move = .ok next) : Effect chain w move next := by
  cases move with
  | scheduleQuantumTask call payload requested =>
      obtain ⟨delivered, noEsdt, done⟩ := payableEgld_ok stepped
      obtain ⟨_, _, taken, _, _, free, rfl⟩ := scheduleQuantumTask_ok done
      exact .scheduleQuantumTask delivered noEsdt taken free
  | scheduleSovereignTask call encryptedPayload requested =>
      obtain ⟨delivered, noEsdt, done⟩ := payableEgld_ok stepped
      obtain ⟨_, _, _, taken, _, _, free, rfl⟩ := scheduleSovereignTask_ok done
      exact .scheduleSovereignTask delivered noEsdt taken free
  | cancelQuantumTask call hash =>
      obtain ⟨delivered, done⟩ := unpayable_ok (cancelQuantumTask chain call hash) stepped
      obtain ⟨_, state, found, _, owned, pending, affordable, rfl⟩ := cancelQuantumTask_eq_ok.mp done
      exact .cancelQuantumTask delivered found owned pending affordable
  | executeQuantumTask call payload secret =>
      obtain ⟨delivered, done⟩ := unpayable_ok (executeQuantumTask chain call payload secret) stepped
      obtain ⟨state, found, pending, keeper, _, dispatched⟩ := executeQuantumTask_ok done
      exact .executeQuantumTask delivered found pending keeper dispatched
  | executeCompressedTask call payload packedProof =>
      obtain ⟨delivered, done⟩ := unpayable_ok (executeCompressedTask chain call payload packedProof) stepped
      obtain ⟨xsc, configured, nonzero, _, keeper, rfl⟩ := executeCompressedTask_ok done
      exact .executeCompressedTask delivered configured nonzero keeper
  | settleXseTask call hash zkProof =>
      obtain ⟨delivered, done⟩ := unpayable_ok (settleXseTask chain call hash zkProof) stepped
      obtain ⟨state, found, executing, enclave, keeper, _, ⟨verifier, rfl⟩ | closed⟩ :=
        settleXseTask_ok done
      · exact .awaitSettlement delivered found executing enclave keeper
      · exact .settleXseTask delivered found executing enclave keeper closed
  | rescueStuckXseTask call hash =>
      obtain ⟨delivered, done⟩ := unpayable_ok (rescueStuckXseTask chain call hash) stepped
      obtain ⟨_, state, found, executing, _, permitted, keeper, enclave, affordable, rfl⟩ :=
        rescueStuckXseTask_eq_ok.mp done
      exact .rescueStuckXseTask delivered found executing permitted enclave affordable
  | triggerXseEnclave call encryptedPayload =>
      obtain ⟨delivered, done⟩ := unpayable_ok (triggerXseEnclave call encryptedPayload) stepped
      simp only [triggerXseEnclave, Outcome.bind_eq_ok, World.requireRegisteredKeeper_eq_ok,
        Outcome.pure_eq_ok] at done
      obtain ⟨_, keeper, rfl⟩ := done
      exact .triggerXseEnclave delivered keeper
  | authorizeCloneKey call cloneAddress ttlSeconds =>
      obtain ⟨delivered, noEsdt, done⟩ := payableEgld_ok stepped
      obtain ⟨free, rfl⟩ := authorizeCloneKey_ok done
      exact .authorizeCloneKey delivered noEsdt free
  | revokeCloneKey call cloneAddress =>
      obtain ⟨delivered, done⟩ := unpayable_ok (revokeCloneKey chain call cloneAddress) stepped
      obtain ⟨props, found, owned, affordable, rfl⟩ := revokeCloneKey_ok done
      exact .revokeCloneKey delivered found owned affordable
  | fundCloneKey call cloneAddress =>
      obtain ⟨delivered, noEsdt, done⟩ := payableEgld_ok stepped
      obtain ⟨props, found, owned, rfl⟩ := fundCloneKey_ok done
      exact .fundCloneKey delivered noEsdt found owned
  | createIntent call tokenOut minReturn deadline fee =>
      obtain ⟨_, done⟩ := payable_ok stepped
      exact absurd done createIntent_ne_ok
  | cancelIntent call id =>
      obtain ⟨delivered, done⟩ := unpayable_ok (cancelIntent chain call id) stepped
      obtain ⟨intent, found, owned, pending, covered, affordable, rfl⟩ := cancelIntent_eq_ok.mp done
      exact .cancelIntent delivered found owned pending covered affordable
  | solveIntent call id =>
      obtain ⟨delivered, done⟩ := payable_ok stepped
      obtain ⟨intent, payment, keeper, found, pending, timely, received, met, covered, affordable,
        rfl⟩ := solveIntent_ok done
      exact .solveIntent delivered keeper found pending timely received met covered affordable
  | createMultiIntent call outcomes deadline fee =>
      obtain ⟨_, done⟩ := payable_ok stepped
      exact absurd done createMultiIntent_ne_ok
  | cancelMultiIntent call id =>
      obtain ⟨delivered, done⟩ := unpayable_ok (cancelMultiIntent chain call id) stepped
      obtain ⟨intent, found, owned, pending, covered, affordable, rfl⟩ :=
        cancelMultiIntent_eq_ok.mp done
      exact .cancelMultiIntent delivered found owned pending covered affordable
  | solveMultiIntent call id =>
      obtain ⟨delivered, done⟩ := payable_ok stepped
      obtain ⟨intent, keeper, found, pending, timely, met, covered, affordable, rfl⟩ :=
        solveMultiIntent_ok done
      exact .solveMultiIntent delivered keeper found pending timely met covered affordable
  | createPreCognitiveIntent call merkleRoot deadline fee =>
      obtain ⟨_, done⟩ := payable_ok stepped
      exact absurd done createPreCognitiveIntent_ne_ok
  | cancelPreCognitiveIntent call id =>
      obtain ⟨delivered, done⟩ := unpayable_ok (cancelPreCognitiveIntent chain call id) stepped
      obtain ⟨intent, found, owned, pending, covered, affordable, rfl⟩ :=
        cancelPreCognitiveIntent_eq_ok.mp done
      exact .cancelPreCognitiveIntent delivered found owned pending covered affordable
  | executePreCognitiveLeaf call id merkleProof leaf =>
      obtain ⟨delivered, done⟩ := payable_ok stepped
      obtain ⟨intent, payment, keeper, found, pending, timely, proved, received, met, covered,
        affordable, rfl⟩ := executePreCognitiveLeaf_ok done
      exact .executePreCognitiveLeaf delivered keeper found pending timely proved received met
        covered affordable
  | flushProtocolFees call =>
      obtain ⟨delivered, done⟩ := unpayable_ok (flushProtocolFees chain call) stepped
      obtain ⟨rewards, _, affordable, rfl⟩ := flushProtocolFees_ok done
      exact .flushProtocolFees delivered affordable
  | registerKeeperShard call =>
      obtain ⟨delivered, done⟩ := unpayable_ok (registerKeeperShard chain call) stepped
      simp only [registerKeeperShard, Outcome.bind_eq_ok, World.requireRegisteredKeeper_eq_ok,
        Outcome.pure_eq_ok] at done
      obtain ⟨_, keeper, rfl⟩ := done
      exact .registerKeeperShard delivered keeper
  | configure call change =>
      simp only [step, Step.call?, body, Outcome.bind_eq_ok, Outcome.ensure_eq_ok,
        notPayable_eq_ok] at stepped
      obtain ⟨_, delivered, _, ⟨noEgld, noEsdt⟩, done⟩ := stepped
      rw [credit_of_noValue w noEgld noEsdt] at done
      simp only [onlyOwner_eq_ok, Outcome.pure_eq_ok] at done
      obtain ⟨_, owner, config, applied, rfl⟩ := done
      exact .configure delivered owner applied
  | syncReturn results =>
      simp only [step, Step.call?, body] at stepped
      split at stepped
      next => simp at stepped
      next frame rest waiting => exact .syncReturn waiting stepped
  | executionCallback index success =>
      simp only [step, Step.call?, body] at stepped
      split at stepped
      next => simp at stepped
      next promise inFlight =>
        split at stepped
        next final called =>
          rw [Except.ok.injEq] at stepped
          subst stepped
          exact .executionCallback inFlight called
        next fault called =>
          rw [Except.ok.injEq] at stepped
          subst stepped
          exact .callbackFault inFlight called
  | deliverMessage index accepted =>
      simp only [step, Step.call?, body] at stepped
      split at stepped
      next => simp at stepped
      next message queued =>
        rw [Outcome.pure_eq_ok] at stepped
        subst stepped
        exact .deliverMessage queued
  | receiveEgld amount =>
      simp only [step, Step.call?, body, Outcome.pure_eq_ok] at stepped
      subst stepped
      exact .receiveEgld
  | receiveEsdt payment =>
      simp only [step, Step.call?, body, Outcome.bind_eq_ok, Outcome.ensure_eq_ok,
        Outcome.pure_eq_ok] at stepped
      obtain ⟨_, genuine, rfl⟩ := stepped
      exact .receiveEsdt genuine

/-! ## The configuration -/

/-- Two configurations that agree on everything but the blacklist. -/
def Config.SameRules (c next : Config) : Prop :=
  next = { c with targetBlacklist := next.targetBlacklist }

theorem Config.SameRules.of_eq {c next : Config} (same : next = c) : c.SameRules next := by
  subst same
  rfl

theorem Dispatched.config {chain : Chain} {d : Dispatch} {w next : World}
    (dispatched : Dispatched chain d w next) : next.config = w.config := by
  rcases dispatched with ⟨_, _, rfl⟩ | ⟨_, rfl⟩ | rfl <;> rfl

theorem settleVerified_config {chain : Chain} {hash : TaskHash} {enforcer : Address}
    {state : QuantumTaskState} {w next : World}
    (closed : settleVerified chain hash enforcer state w = .ok next) : next.config = w.config := by
  obtain ⟨_, _, rfl⟩ := finalizeSuccessfulExecution_eq_ok.mp closed
  rfl

theorem executionCallback_ok {chain : Chain} {promise : Promise} {success : Bool} {w next : World}
    (called : executionCallback chain promise success w = .ok next) :
    ∃ state, w.quantumTasks.get? promise.taskHash = some state ∧
      ((success = true ∧ calculateReward w state.deposit ≤ w.egld ∧
          next = w.succeeded chain promise.taskHash promise.targetContract promise.keeper
            state.deposit state.owner (some promise.path)) ∨
        (success = false ∧
          next = w.failed chain promise.taskHash promise.targetContract promise.keeper
            state.deposit state.owner (some promise.path))) := by
  simp only [executionCallback, Outcome.bind_eq_ok, Outcome.load_eq_ok] at called
  obtain ⟨state, found, called⟩ := called
  refine ⟨state, found, ?_⟩
  split at called
  next succeeded =>
    obtain ⟨affordable, _, rfl⟩ := finalizeSuccessfulExecution_eq_ok.mp called
    exact .inl ⟨succeeded, affordable, rfl⟩
  next failed =>
    obtain ⟨_, rfl⟩ := finalizeFailedExecution_eq_ok.mp called
    exact .inr ⟨Bool.not_eq_true _ ▸ failed, rfl⟩

theorem step_config {chain : Chain} {w next : World} {move : Step}
    (stepped : step chain w move = .ok next) :
    (∃ call change, move = .configure call change ∧ call.caller = chain.ownerAddress ∧
        w.config.apply change = .ok next.config) ∨
      w.config.SameRules next.config := by
  cases step_effect stepped with
  | @configure call change config delivered owner applied =>
      exact .inl ⟨call, change, rfl, owner, applied⟩
  | scheduleQuantumTask _ _ taken _ =>
      have kept := takeDeposit_config taken
      exact .inr (.of_eq kept)
  | scheduleSovereignTask _ _ taken _ =>
      have kept := takeDeposit_config taken
      exact .inr (.of_eq kept)
  | executeQuantumTask _ _ _ _ dispatched => exact .inr (.of_eq dispatched.config)
  | settleXseTask _ _ _ _ _ closed => exact .inr (.of_eq (settleVerified_config closed))
  | syncReturn _ resumed =>
      rcases resume_ok resumed with ⟨_, _, dispatched⟩ | ⟨_, _, _, _, dispatched⟩ |
        ⟨_, _, _, _, closed⟩
      · exact .inr (.of_eq dispatched.config)
      · exact .inr (.of_eq dispatched.config)
      · have kept := settleVerified_config closed
        exact .inr (.of_eq kept)
  | executionCallback _ called =>
      obtain ⟨_, _, ⟨_, _, rfl⟩ | ⟨_, rfl⟩⟩ := executionCallback_ok called
      · exact .inr rfl
      · exact .inr rfl
  | solveIntent | solveMultiIntent | executePreCognitiveLeaf =>
      refine .inr (.of_eq ?_)
      rw [World.delivered_eq]
      rfl
  | _ => exact .inr rfl

theorem step_feeBounded {chain : Chain} {w next : World} {move : Step}
    (stepped : step chain w move = .ok next) (bounded : w.FeeBounded) : next.FeeBounded := by
  rcases step_config stepped with ⟨_, _, _, _, applied⟩ | same
  · exact Config.apply_feeBound applied bounded
  · unfold World.FeeBounded
    rw [same]
    exact bounded

/-! ## What the task machinery leaves alone -/

def Step.scheduling? : Step → Option CallContext
  | .scheduleQuantumTask call _ _ | .scheduleSovereignTask call _ _ => some call
  | _ => none

def Step.managesKeys : Step → Bool
  | .authorizeCloneKey _ _ _ | .revokeCloneKey _ _ | .fundCloneKey _ _ => true
  | _ => false

structure SameWallets (w next : World) : Prop where
  cloneKeyProps : next.cloneKeyProps = w.cloneKeyProps
  walletCloneKeys : next.walletCloneKeys = w.walletCloneKeys
  tasksPerRound : next.tasksPerRound = w.tasksPerRound
  acceptedPaymentTokens : next.acceptedPaymentTokens = w.acceptedPaymentTokens

theorem Dispatched.sameWallets {chain : Chain} {d : Dispatch} {w next : World}
    (dispatched : Dispatched chain d w next) : SameWallets w next := by
  rcases dispatched with ⟨_, _, rfl⟩ | ⟨_, rfl⟩ | rfl
  · exact ⟨rfl, rfl, rfl, rfl⟩
  · exact ⟨rfl, rfl, rfl, rfl⟩
  · exact ⟨rfl, rfl, rfl, rfl⟩

theorem settleVerified_sameWallets {chain : Chain} {hash : TaskHash} {enforcer : Address}
    {state : QuantumTaskState} {w next : World}
    (closed : settleVerified chain hash enforcer state w = .ok next) : SameWallets w next := by
  obtain ⟨_, _, rfl⟩ := finalizeSuccessfulExecution_eq_ok.mp closed
  exact ⟨rfl, rfl, rfl, rfl⟩

theorem SameWallets.paidOut {chain : Chain} {receiver : Address} {Terms : Type}
    {intent : IntentRecord Terms} {w middle : World} (same : SameWallets w middle) :
    SameWallets w (middle.paidOut chain receiver intent) := by
  obtain ⟨props, wallets, counts, tokens⟩ := same
  exact ⟨props, wallets, counts, tokens⟩

theorem step_sameWallets {chain : Chain} {w next : World} {move : Step}
    (stepped : step chain w move = .ok next) (unscheduled : move.scheduling? = none)
    (unmanaged : move.managesKeys = false) : SameWallets w next := by
  cases step_effect stepped with
  | scheduleQuantumTask | scheduleSovereignTask => cases unscheduled
  | authorizeCloneKey | revokeCloneKey | fundCloneKey => cases unmanaged
  | executeQuantumTask _ _ _ _ dispatched =>
      obtain ⟨props, wallets, counts, tokens⟩ := dispatched.sameWallets
      exact ⟨props, wallets, counts, tokens⟩
  | settleXseTask _ _ _ _ _ closed => exact settleVerified_sameWallets closed
  | syncReturn _ resumed =>
      rcases resume_ok resumed with ⟨_, _, dispatched⟩ | ⟨_, _, _, _, dispatched⟩ |
        ⟨_, _, _, _, closed⟩
      · obtain ⟨props, wallets, counts, tokens⟩ := dispatched.sameWallets
        exact ⟨props, wallets, counts, tokens⟩
      · obtain ⟨props, wallets, counts, tokens⟩ := dispatched.sameWallets
        exact ⟨props, wallets, counts, tokens⟩
      · obtain ⟨props, wallets, counts, tokens⟩ := settleVerified_sameWallets closed
        exact ⟨props, wallets, counts, tokens⟩
  | executionCallback _ called =>
      obtain ⟨_, _, ⟨_, _, rfl⟩ | ⟨_, rfl⟩⟩ := executionCallback_ok called
      · exact ⟨rfl, rfl, rfl, rfl⟩
      · exact ⟨rfl, rfl, rfl, rfl⟩
  | solveIntent | solveMultiIntent | executePreCognitiveLeaf =>
      rw [World.delivered_eq]
      exact SameWallets.paidOut ⟨rfl, rfl, rfl, rfl⟩
  | _ => exact ⟨rfl, rfl, rfl, rfl⟩

end XCron.Scheduler
