import XCron.Scheduler.Scheduling

/-!
# Dispatching and finalising tasks

`execution.rs` and `validation.rs`. A keeper presents the payload of a stored
task, or of one that the state-compression contract vouches for; the scheduler
calls the target asynchronously and its callback splits the deposit. Endpoints
are cut at their synchronous calls: the part before one pushes a frame, the
part after it takes the frame off again.
-/

namespace XCron.Scheduler

open Platform

/-- Hand control to another contract and keep the rest of the endpoint waiting. -/
def World.suspend (frame : Frame) (receiver : Address) (endpoint : Bytes) (args : List Bytes)
    (w : World) : World :=
  { w with frames := frame :: w.frames }.emit (.syncCall receiver endpoint args)

def firstBool (results : List Bytes) : Bool :=
  match results with
  | [] => false
  | first :: _ => decodeBool first

def oracleValue (results : List Bytes) : Nat :=
  match results with
  | [] => 0
  | first :: _ => beValue first

def dangerousEndpoints : List Bytes :=
  ["upgradeContract", "changeOwner", "ChangeOwnerAddress", "setOwner", "upgradeFromSource",
    "claimDeveloperRewards", "ESDTTransfer", "ESDTNFTTransfer", "MultiESDTNFTTransfer"].map
    fun name => name.toUTF8.toList

def requireSafeTarget (chain : Chain) (target : Address) (endpoint : Bytes) (w : World) :
    Outcome Unit := do
  require (target ≠ chain.scAddress) "S-1: Cannot target scheduler itself"
  let registry ← load w.config.keeperRegistryAddr
  require (target ≠ registry) "S-1: Cannot target KeeperRegistry"
  let rewards ← load w.config.rewardsAddr
  require (target ≠ rewards) "S-1: Cannot target Rewards contract"
  require (target ∉ w.config.targetBlacklist) "S-1: Target contract is blacklisted"
  require (endpoint ∉ dangerousEndpoints) "S-1: Dangerous endpoint blocked"

/-- `require_task_ripe_quantum` up to its oracle query. The result is the query
still to be made; the trigger's `query_args` are not part of it. -/
def requireTaskRipeQuantum (call : CallContext) (payload : Task) :
    Outcome (Option (Address × Bytes)) := do
  let currentTimeMs := getTimestampMs call
  require (0 < payload.ttlSeconds →
      currentTimeMs ≤ payload.createdAt + payload.ttlSeconds * 1000) "Task expired (TTL exceeded)"
  match payload.trigger with
  | .timeOnce targetTime => do
      require (targetTime ≤ currentTimeMs) "Task not yet ripe"
      pure none
  | .timeRecurring startTime _ _ => do
      require (startTime ≤ currentTimeMs) "Task not yet ripe"
      pure none
  | .stateDriven oracleContract queryEndpoint _ _ _ => pure (some (oracleContract, queryEndpoint))
  | .eventDriven _ _ => pure none
  | .quantumSealedHash _ => pure none

/-- The comparison that follows the oracle query. -/
def requireOracleCondition (trigger : Trigger) (results : List Bytes) : Outcome Unit :=
  match trigger with
  | .stateDriven _ _ _ comparator threshold =>
      require (comparator.holds (oracleValue results) threshold) "Oracle condition not met"
  | _ => pure ()

def vecGet (slots : List (Option Address)) (index : Nat) : Outcome Address :=
  match slots[index - 1]? with
  | none => .error .rejected
  | some slot => load slot

/-- The time from which the round-robin window of a task runs. -/
def ripeTimeMs (call : CallContext) : Trigger → UInt64
  | .timeOnce targetTime => targetTime
  | .timeRecurring startTime _ _ => startTime
  | _ => call.blockTimestamp * 1000

def roundRobinIndex (chain : Chain) (call : CallContext) (payload : Task) (hash : TaskHash)
    (keeperCount : Nat) : Nat :=
  let digest := chain.sha256
    (hash.val ++ encodeU64 (ripeTimeMs call payload.trigger) ++ call.blockRandomSeed)
  beValue (digest.val.take 8) % keeperCount + 1

def performRoundRobinCheck (chain : Chain) (call : CallContext) (payload : Task) (hash : TaskHash)
    (keeper : Address) (w : World) : Outcome Unit :=
  if 1 < w.config.keeperList.length then do
    let assignedKeeper ← vecGet w.config.keeperList
      (roundRobinIndex chain call payload hash w.config.keeperList.length)
    require (keeper ≠ assignedKeeper → ripeTimeMs call payload.trigger +
        Constants.roundRobinGraceSeconds * 1000 ≤ call.blockTimestamp * 1000)
      "Task assigned to another keeper"
  else pure ()

def crossShard (chain : Chain) (target : Address) : Bool :=
  chain.shardOf target ≠ chain.shardOf chain.scAddress

def crossShardOverhead (chain : Chain) (d : Dispatch) (w : World) : UInt64 :=
  if crossShard chain d.payload.targetContract = false then 0
  else if w.keeperShard d.keeper = chain.shardOf d.payload.targetContract then
    d.payload.maxGas * 15 / 100
  else d.payload.maxGas * 30 / 100

def callbackGas (chain : Chain) (d : Dispatch) : UInt64 :=
  if crossShard chain d.payload.targetContract then Constants.callbackGasReserve
  else Constants.callbackGasReserve * 80 / 100

def minGasNeeded (chain : Chain) (d : Dispatch) (w : World) : UInt64 :=
  d.payload.maxGas + crossShardOverhead chain d w + callbackGas chain d + 10000000

def Dispatch.executingState (d : Dispatch) : QuantumTaskState :=
  { d.state with status := .executing, executingAt := d.call.blockTimestamp }

def Dispatch.promise (chain : Chain) (d : Dispatch) : Promise :=
  { taskHash := d.taskHash
    targetContract := d.payload.targetContract
    targetEndpoint := d.payload.targetEndpoint
    targetArgs := d.payload.targetArgs
    gas := d.payload.maxGas
    callbackGas := callbackGas chain d
    keeper := d.keeper
    path := d.path }

def Dispatch.toRecord (d : Dispatch) : DispatchRecord :=
  ⟨d.payload, d.keeper, d.path, d.call.blockTimestamp⟩

/-- Store the task as executing; a confidential one is left to the enclave, any
other one is called with a callback. -/
def World.startExecution (chain : Chain) (d : Dispatch) (w : World) : World :=
  { w with
    quantumTasks := w.quantumTasks.set d.taskHash d.executingState
    dispatches := Function.update w.dispatches d.taskHash (some d.toRecord)
    journal := w.journal ++ [.dispatched d.taskHash d.path]
    events :=
      if d.payload.confidential then
        w.events ++ [.xsePayloadTriggered d.keeper d.taskHash.val]
      else w.events
    promises :=
      if d.payload.confidential then w.promises
      else w.promises ++ [d.promise chain] }

def dispatchFunded (chain : Chain) (d : Dispatch) (w : World) : Outcome World := do
  require (minGasNeeded chain d w ≤ d.call.gasLeft) "Insufficient gas"
  pure (w.startExecution chain d)

def dispatchRipe (chain : Chain) (d : Dispatch) (w : World) : Outcome World := do
  requireSafeTarget chain d.payload.targetContract d.payload.targetEndpoint w
  if d.payload.requireXwapSafe then do
    let xwap ← load w.config.xwapAddress
    if xwap ≠ Bytes32.zero then
      pure (w.suspend (.xwap d) xwap "isSafeToExecute".toUTF8.toList [])
    else dispatchFunded chain d w
  else dispatchFunded chain d w

def dispatchTaskExecution (chain : Chain) (d : Dispatch) (w : World) : Outcome World := do
  match ← requireTaskRipeQuantum d.call d.payload with
  | some (oracle, endpoint) => pure (w.suspend (.oracle d) oracle endpoint [])
  | none => dispatchRipe chain d w

/-- The seal check of `execute_quantum_task`. -/
def requireQuantumSeal (chain : Chain) (trigger : Trigger) (quantumSecret : Option Bytes32) :
    Outcome Unit :=
  match trigger with
  | .quantumSealedHash expectedHash =>
      match quantumSecret with
      | none => .error (.signal "Missing Quantum Secret")
      | some secret => do
          require (secret.val.length = 32) "XCRON-PROTECT: Quantum Secret must be 32 bytes"
          require (chain.sha256 secret.val = expectedHash) "Q-1: Quantum Hash Seal broken"
  | _ => pure ()

def World.assignEnclave (hash : TaskHash) (payload : Task) (keeper : Address) (w : World) : World :=
  { w with
    assignedEnclaveKeeper :=
      if payload.confidential then Function.update w.assignedEnclaveKeeper hash (some keeper)
      else w.assignedEnclaveKeeper }

def executeQuantumTask (chain : Chain) (call : CallContext) (payload : Task)
    (quantumSecret : Option Bytes32) (w : World) : Outcome World := do
  w.requireNotPaused
  w.requireRegisteredKeeper call.caller
  let hash := taskHash chain payload
  require (w.quantumTasks.get? hash ≠ none) "Q-1: Invalid Quantum Seal."
  let state ← load (w.quantumTasks.get? hash)
  require (state.status = .pending) "Task not Pending"
  requireQuantumSeal chain payload.trigger quantumSecret
  require (∀ assigned ∈ payload.assignedKeeper, call.caller = assigned)
    "MEV Protection: Locked task"
  performRoundRobinCheck chain call payload hash call.caller w
  dispatchTaskExecution chain ⟨call, hash, payload, call.caller, state, .quantum⟩
    (w.assignEnclave hash payload call.caller)

def executeCompressedTask (chain : Chain) (call : CallContext) (payload : Task)
    (packedProof : Bytes) (w : World) : Outcome World := do
  w.requireNotPaused
  w.requireRegisteredKeeper call.caller
  let hash := taskHash chain payload
  require (w.usedCompressedTasks hash = false) "XSC: Task already executed"
  let xsc ← load w.config.xscAddress
  require (xsc ≠ Bytes32.zero) "XSC: Core address not configured"
  pure (w.suspend (.proof call hash payload) xsc "verifyProof".toUTF8.toList
    [hash.val, packedProof])

/-- `executeCompressedTask` after the proof query: owner and deposit come from
the payload. -/
def resumeCompressedTask (chain : Chain) (call : CallContext) (hash : TaskHash) (payload : Task)
    (results : List Bytes) (w : World) : Outcome World := do
  require (firstBool results = true) "XSC: Invalid State Proof"
  dispatchTaskExecution chain
    ⟨call, hash, payload, call.caller,
      { owner := payload.owner, deposit := payload.deposit, status := .pending, executingAt := 0 },
      .compressed⟩ w

def calculateReward (w : World) (deposit : Nat) : Nat :=
  let uncapped := if protocolFee w deposit < deposit then deposit - protocolFee w deposit else 0
  if 0 < w.config.maxRewardPerExec ∧ w.config.maxRewardPerExec < uncapped then
    w.config.maxRewardPerExec
  else uncapped

/-- A task that leaves execution also gives up its enclave. -/
def World.dropTask (hash : TaskHash) (owner : Address) (w : World) : World :=
  { w.unlistTask hash owner with
    assignedEnclaveKeeper := Function.update w.assignedEnclaveKeeper hash none }

/-- Counters of a successful execution; the replay flag of compressed tasks is
set for every kind of task. -/
def World.noteSuccess (hash : TaskHash) (targetContract : Address) (w : World) : World :=
  { w with
    usedCompressedTasks := Function.update w.usedCompressedTasks hash true
    totalSuccessfulExecs := w.totalSuccessfulExecs + 1
    targetFailureCount :=
      if targetContract = Bytes32.zero then w.targetFailureCount
      else Function.update w.targetFailureCount targetContract 0 }

/-- Counters of a failed execution. Repeated failures blacklist the target; the
replay flag is left alone. -/
def World.noteFailure (targetContract : Address) (w : World) : World :=
  { w with
    totalFailedExecs := w.totalFailedExecs + 1
    targetFailureCount := Function.update w.targetFailureCount targetContract
      (w.targetFailureCount targetContract + 1)
    config := { w.config with
      targetBlacklist :=
        if Constants.maxTargetFailures ≤ w.targetFailureCount targetContract + 1 then
          insert targetContract w.config.targetBlacklist
        else w.config.targetBlacklist } }

/-- What the owner gets back of a deposit once `spent` has been taken from it. -/
def remainder (deposit spent : Nat) : Nat := if spent < deposit then deposit - spent else 0

def finalizeSuccessfulExecution (chain : Chain) (hash : TaskHash) (targetContract keeper : Address)
    (deposit : Nat) (owner : Address) (path : Option DispatchPath) (w : World) : Outcome World := do
  let reward := calculateReward w deposit
  let fee := protocolFee w deposit
  let refund := remainder deposit (reward + fee)
  let w := (w.dropTask hash owner).noteSuccess hash targetContract
  let w ← w.directEgld chain keeper reward
  let w ← w.directEgldIfPositive chain owner refund
  let w := (w.forwardProtocolFee fee).forwardKeeperResult keeper true
  pure ((w.record (.closed hash (.executed true) path reward refund fee)).emit
    (.taskExecutedQuantum hash keeper true))

def finalizeFailedExecution (chain : Chain) (hash : TaskHash) (targetContract keeper : Address)
    (deposit : Nat) (owner : Address) (path : Option DispatchPath) (w : World) : Outcome World := do
  let fee := protocolFee w deposit
  let refund := remainder deposit fee
  let w := (w.dropTask hash owner).noteFailure targetContract
  let w ← w.directEgldIfPositive chain owner refund
  let w := (w.forwardProtocolFee fee).forwardKeeperResult keeper false
  pure ((w.record (.closed hash (.executed false) path 0 refund fee)).emit
    (.taskExecutedQuantum hash keeper false))

/-- `execution_callback`. It reads the stored task without checking its status. -/
def executionCallback (chain : Chain) (promise : Promise) (succeeded : Bool) (w : World) :
    Outcome World := do
  let state ← load (w.quantumTasks.get? promise.taskHash)
  if succeeded then
    finalizeSuccessfulExecution chain promise.taskHash promise.targetContract promise.keeper
      state.deposit state.owner (some promise.path) w
  else
    finalizeFailedExecution chain promise.taskHash promise.targetContract promise.keeper
      state.deposit state.owner (some promise.path) w

def World.dispatchPath (hash : TaskHash) (w : World) : Option DispatchPath :=
  (w.dispatches hash).map DispatchRecord.path

def settleVerified (chain : Chain) (hash : TaskHash) (enforcer : Address) (state : QuantumTaskState)
    (w : World) : Outcome World :=
  finalizeSuccessfulExecution chain hash Bytes32.zero enforcer state.deposit state.owner
    (w.dispatchPath hash) w

def settleXseTask (chain : Chain) (call : CallContext) (hash : TaskHash) (zkProof : Bytes)
    (w : World) : Outcome World := do
  w.requireNotPaused
  w.requireRegisteredKeeper call.caller
  let assigned ← load (w.assignedEnclaveKeeper hash)
  require (call.caller = assigned) "XSE: Unauthorized settler"
  let state ← load (w.quantumTasks.get? hash)
  require (state.status = .executing) "XSE: Task not in execution state"
  let zkVerifier ← load w.config.zkVerifierAddr
  if zkVerifier ≠ Bytes32.zero then
    pure (w.suspend (.zkVerifier hash call.caller state) zkVerifier "verifyZkProof".toUTF8.toList
      [hash.val, zkProof])
  else settleVerified chain hash call.caller state w

/-- The rest of a waiting endpoint, once its synchronous call has returned. -/
def resume (chain : Chain) (frame : Frame) (results : List Bytes) (w : World) : Outcome World :=
  match frame with
  | .oracle d => do
      requireOracleCondition d.payload.trigger results
      dispatchRipe chain d w
  | .xwap d => do
      require (firstBool results = true) "XWAP Oracle unsafe: market conditions not met"
      dispatchFunded chain d w
  | .proof call hash payload => resumeCompressedTask chain call hash payload results w
  | .zkVerifier hash enforcer state => do
      require (firstBool results = true) "XSE: Invalid Enclave ZK-Proof"
      settleVerified chain hash enforcer state w

def stuckThreshold : UInt64 := 24 * 60 * 60

/-- Report a keeper that let a task get stuck. -/
def World.reportStuck (assignedKeeper : Address) (w : World) : World :=
  { w with
    outbox := if assignedKeeper = Bytes32.zero then w.outbox
      else (w.forwardKeeperResult assignedKeeper false).outbox }

def rescueStuckXseTask (chain : Chain) (call : CallContext) (hash : TaskHash) (w : World) :
    Outcome World := do
  w.requireNotPaused
  require (w.quantumTasks.get? hash ≠ none) "Task not found"
  let state ← load (w.quantumTasks.get? hash)
  require (state.status = .executing) "V12: Task is not in Executing state"
  require (state.executingAt + stuckThreshold ≤ call.blockTimestamp)
    "V12: Task has not been stuck for 24 hours yet"
  require (call.caller = state.owner ∨ call.caller = chain.ownerAddress)
    "V12: Only task owner or protocol owner can rescue"
  let assignedKeeper ← load (w.assignedEnclaveKeeper hash)
  let path := w.dispatchPath hash
  let w := (w.reportStuck assignedKeeper).dropTask hash state.owner
  let w ← w.directEgld chain state.owner state.deposit
  pure ((w.record (.closed hash .rescued path 0 state.deposit 0)).emit
    (.taskExecutedQuantum hash assignedKeeper false))

def triggerXseEnclave (call : CallContext) (encryptedPayload : Bytes) (w : World) :
    Outcome World := do
  w.requireRegisteredKeeper call.caller
  pure (w.emit (.xsePayloadTriggered call.caller encryptedPayload))

end XCron.Scheduler
