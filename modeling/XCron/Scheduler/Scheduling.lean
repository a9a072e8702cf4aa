import XCron.Scheduler.CloneKeys

/-!
# Scheduling and cancelling tasks

`scheduling.rs`. A task is stored under the digest of its payload, a sovereign
task under a digest of its own; the stored state is owner, deposit and status.
-/

namespace XCron.Scheduler

open Platform

/-- The seal of a task: the digest of its encoded payload. -/
def taskHash (chain : Chain) (payload : Task) : TaskHash := chain.sha256 payload.encode

/-- `top_encode` into a buffer replaces what the buffer held. -/
def topEncodeInto (encoded _buffer : Bytes) : Bytes := encoded

/-- The hash input of `schedule_sovereign_task`. -/
def sovereignPreimage (encryptedPayload : Bytes) (owner : Address) (deposit : Nat) : Bytes :=
  let hashData : Bytes := []
  let hashData := hashData ++ encryptedPayload
  let hashData := hashData ++ owner.val
  topEncodeInto (natBytes deposit) hashData

/-- The deposit of a scheduling call, shared by both endpoints: a clone key
spends its budget, everyone else attaches EGLD. -/
def takeDeposit (call : CallContext) (requestedDeposit : Option Nat) (w : World) :
    Outcome (Nat × World) :=
  if (resolveCaller call w).2 then do
    require (call.egldValue = 0) "Clone-Keys cannot attach raw EGLD"
    match requestedDeposit with
    | none => .error (.signal "Clone-Key must specify requested_deposit")
    | some requested => do
        let w ← chargeCloneKey call call.caller requested w
        pure (requested, w)
  else pure (call.egldValue, w)

def requireDepositWithinCap (w : World) (deposit : Nat) : Outcome Unit :=
  require (0 < w.config.maxExecValueEgld → deposit ≤ w.config.maxExecValueEgld)
    "S-8: Deposit exceeds maximum execution value"

def validateTrigger : Trigger → Outcome Unit
  | .timeOnce targetTime => require (targetTime ≤ 200000000000000) "target_time too large"
  | .timeRecurring startTime _ _ => require (startTime ≤ 200000000000000) "start_time too large"
  | _ => pure ()

def validateTaskParameters (w : World) (payload : Task) (deposit : Nat) : Outcome Unit := do
  require (w.config.minDeposit ≤ deposit) "Deposit below minimum"
  requireDepositWithinCap w deposit
  require (payload.maxGas ≤ 400000000) "max_gas too high"
  require (5000000 ≤ payload.maxGas) "XCRON-PROTECT: max_gas too low"
  require (payload.ttlSeconds ≤ 157680000) "ttl_seconds exceeds 5 years"
  require (payload.createdAt ≤ 200000000000000) "created_at malformed"
  validateTrigger payload.trigger

def enforceRateLimits (call : CallContext) (caller : Address) (w : World) : Outcome World := do
  require ((w.ownerTasks caller).card < 100) "S-9: Too many active tasks"
  let tasksThisRound := w.tasksPerRound caller call.blockRound
  require (0 < w.config.maxTasksPerRound → tasksThisRound < w.config.maxTasksPerRound)
    "S-11: Too many tasks this round"
  pure { w with
    tasksPerRound := Function.update w.tasksPerRound caller
      (Function.update (w.tasksPerRound caller) call.blockRound (tasksThisRound + 1)) }

def storeTask (hash : TaskHash) (owner : Address) (deposit : Nat) (w : World) : World :=
  { w with
    quantumTasks := w.quantumTasks.set hash
      { owner := owner, deposit := deposit, status := .pending, executingAt := 0 }
    ownerTasks := Function.update w.ownerTasks owner (insert hash (w.ownerTasks owner))
    journal := w.journal ++ [.funded hash deposit] }

def scheduleQuantumTask (chain : Chain) (call : CallContext) (payload : Task)
    (requestedDeposit : Option Nat) (w : World) : Outcome World := do
  w.requireNotPaused
  let caller := (resolveCaller call w).1
  let (deposit, w) ← takeDeposit call requestedDeposit w
  validateTaskParameters w payload deposit
  let hash := taskHash chain payload
  require (w.quantumTasks.get? hash = none) "Task hash already exists"
  let w ← enforceRateLimits call caller w
  pure ((storeTask hash caller deposit w).emit
    (.taskScheduledQuantum hash caller payload.targetContract (getTimestampMs call)))

/-- `scheduleSovereignTask`. It makes no rate-limit check. -/
def scheduleSovereignTask (chain : Chain) (call : CallContext) (encryptedPayload : Bytes)
    (requestedDeposit : Option Nat) (w : World) : Outcome World := do
  w.requireNotPaused
  let caller := (resolveCaller call w).1
  let (deposit, w) ← takeDeposit call requestedDeposit w
  require (w.config.minDeposit ≤ deposit) "Deposit below minimum"
  requireDepositWithinCap w deposit
  let hash := chain.sha256 (sovereignPreimage encryptedPayload caller deposit)
  require (w.quantumTasks.get? hash = none) "Sovereign task already exists"
  pure ((storeTask hash caller deposit w).emit (.xsePayloadTriggered caller encryptedPayload))

def protocolFee (w : World) (deposit : Nat) : Nat :=
  deposit * w.config.protocolFeeBps / Constants.bpsDenominator

/-- What cancelling a deposit pays back: everything but the penalty fee. -/
def cancellationRefund (w : World) (deposit : Nat) : Nat :=
  if protocolFee w deposit < deposit then deposit - protocolFee w deposit else 0

def World.unlistTask (hash : TaskHash) (owner : Address) (w : World) : World :=
  { w with
    quantumTasks := w.quantumTasks.clear hash
    ownerTasks := Function.update w.ownerTasks owner ((w.ownerTasks owner).erase hash) }

def cancelQuantumTask (chain : Chain) (call : CallContext) (hash : TaskHash) (w : World) :
    Outcome World := do
  w.requireNotPaused
  let state ← load (w.quantumTasks.get? hash)
  require (state.owner ≠ Bytes32.zero) "Task not found"
  require (state.owner = (resolveCaller call w).1) "Not task owner"
  require (state.status = .pending) "Only Pending tasks can be cancelled"
  let penaltyFee := protocolFee w state.deposit
  let refund := cancellationRefund w state.deposit
  let w := w.unlistTask hash state.owner
  let w ← w.directEgldIfPositive chain state.owner refund
  let w := w.forwardProtocolFee penaltyFee
  pure ((w.record (.closed hash .cancelled none 0 refund penaltyFee)).emit
    (.taskCancelledQuantum hash))

end XCron.Scheduler
