import XCron.Scheduler.Intents

/-!
# Owner configuration, fee flushing and the step function

`config.rs`, `admin.rs` and `pausable.rs`, and the transition system of the
whole contract: every endpoint, the callback, the return of a synchronous call
and the delivery of messages and of value that reaches the contract on its own.
-/

namespace XCron.Scheduler

open Platform

/-- Owner-only calls. -/
inductive ConfigCall where
  | setMinDeposit (value : Nat)
  | setProtocolFeeBps (value : Nat)
  | setRevealWindow (value : UInt64)
  | setCommitBond (value : Nat)
  | setKeeperRegistryAddr (addr : Address)
  | setRewardsAddr (addr : Address)
  | setXwapAddress (addr : Address)
  | setXscAddress (addr : Address)
  | setZkVerifierAddr (addr : Address)
  | addWhitelistedKeeper (keeper : Address)
  | removeWhitelistedKeeper (keeper : Address)
  | setMaxRewardPerExec (value : Nat)
  | blacklistTarget (target : Address)
  | removeBlacklist (target : Address)
  | setMaxExecValue (maxValue : Nat)
  | pause
  | unpause
  | upgrade

namespace Config

/-- `remove_whitelisted_keeper`'s scan: the first slot that holds the keeper
takes the last entry, and the last slot is emptied but not removed. -/
def removeFromKeeperList (keeper : Address) (slots : List (Option Address)) :
    (remaining index : Nat) → Outcome (List (Option Address))
  | 0, _ => pure slots
  | remaining + 1, index => do
      let entry ← vecGet slots index
      if entry = keeper then do
        if index < slots.length then do
          let last ← vecGet slots slots.length
          pure ((slots.set (index - 1) (some last)).set (slots.length - 1) none)
        else pure (slots.set (slots.length - 1) none)
      else removeFromKeeperList keeper slots remaining (index + 1)

def apply : ConfigCall → Config → Outcome Config
  | .setMinDeposit value, c => pure { c with minDeposit := value }
  | .setProtocolFeeBps value, c => do
      require (value ≤ Constants.bpsDenominator) "Fee exceeds 100%"
      pure { c with protocolFeeBps := value }
  | .setRevealWindow value, c => pure { c with revealWindow := value }
  | .setCommitBond value, c => pure { c with commitBond := value }
  | .setKeeperRegistryAddr addr, c => pure { c with keeperRegistryAddr := some addr }
  | .setRewardsAddr addr, c => pure { c with rewardsAddr := some addr }
  | .setXwapAddress addr, c => pure { c with xwapAddress := some addr }
  | .setXscAddress addr, c => pure { c with xscAddress := some addr }
  | .setZkVerifierAddr addr, c => pure { c with zkVerifierAddr := some addr }
  | .addWhitelistedKeeper keeper, c => pure { c with
      whitelistedKeepers := insert keeper c.whitelistedKeepers
      keeperList := c.keeperList ++ [some keeper] }
  | .removeWhitelistedKeeper keeper, c => do
      require (c.keeperList.length ≤ 50) "Keeper list too large for linear scan"
      let slots ← removeFromKeeperList keeper c.keeperList c.keeperList.length 1
      pure { c with whitelistedKeepers := c.whitelistedKeepers.erase keeper, keeperList := slots }
  | .setMaxRewardPerExec value, c => pure { c with maxRewardPerExec := value }
  | .blacklistTarget target, c => pure { c with targetBlacklist := insert target c.targetBlacklist }
  | .removeBlacklist target, c => pure { c with targetBlacklist := c.targetBlacklist.erase target }
  | .setMaxExecValue maxValue, c => pure { c with maxExecValueEgld := maxValue }
  | .pause, c => pure { c with paused := true }
  | .unpause, c => pure { c with paused := false }
  -- `set_if_empty`: a stored zero counts as empty
  | .upgrade, c => pure { c with
      version := c.version + 1
      maxTasksPerRound :=
        if c.maxTasksPerRound = 0 then Constants.maxTasksPerRound else c.maxTasksPerRound
      maxRewardPerExec :=
        if c.maxRewardPerExec = 0 then Constants.defaultMaxRewardPerExec else c.maxRewardPerExec
      revealWindow :=
        if c.revealWindow = 0 then Constants.defaultRevealWindowSeconds else c.revealWindow }

end Config

def flushProtocolFees (chain : Chain) (call : CallContext) (w : World) : Outcome World := do
  require (call.caller ∈ w.config.whitelistedKeepers ∨ call.caller = chain.ownerAddress)
    "Not authorized"
  let accrued := w.accruedProtocolFees
  require (0 < accrued) "No fees to flush"
  let rewards ← load w.config.rewardsAddr
  if accrued ≤ w.egld then
    pure { w with
      accruedProtocolFees := 0
      egld := w.egld - accrued
      outbox := w.outbox ++ [.receiveExecutionFee rewards call.caller accrued] }
  else .error .egldShortage

def registerKeeperShard (chain : Chain) (call : CallContext) (w : World) : Outcome World := do
  w.requireRegisteredKeeper call.caller
  pure { w with
    keeperShard := Function.update w.keeperShard call.caller (chain.shardOf call.caller) }

/-- What can happen to the scheduler. -/
inductive Step where
  | scheduleQuantumTask (call : CallContext) (payload : Task) (requestedDeposit : Option Nat)
  | scheduleSovereignTask (call : CallContext) (encryptedPayload : Bytes)
      (requestedDeposit : Option Nat)
  | cancelQuantumTask (call : CallContext) (hash : TaskHash)
  | executeQuantumTask (call : CallContext) (payload : Task) (quantumSecret : Option Bytes32)
  | executeCompressedTask (call : CallContext) (payload : Task) (packedProof : Bytes)
  | settleXseTask (call : CallContext) (hash : TaskHash) (zkProof : Bytes)
  | rescueStuckXseTask (call : CallContext) (hash : TaskHash)
  | triggerXseEnclave (call : CallContext) (encryptedPayload : Bytes)
  | authorizeCloneKey (call : CallContext) (cloneAddress : Address) (ttlSeconds : UInt64)
  | revokeCloneKey (call : CallContext) (cloneAddress : Address)
  | fundCloneKey (call : CallContext) (cloneAddress : Address)
  | createIntent (call : CallContext) (tokenOut : TokenIdentifier) (minReturn : Nat)
      (deadline : UInt64) (solverFee : Nat)
  | cancelIntent (call : CallContext) (id : Nat)
  | solveIntent (call : CallContext) (id : Nat)
  | createMultiIntent (call : CallContext) (outcomes : List MultiIntentOutcome) (deadline : UInt64)
      (solverFee : Nat)
  | cancelMultiIntent (call : CallContext) (id : Nat)
  | solveMultiIntent (call : CallContext) (id : Nat)
  | createPreCognitiveIntent (call : CallContext) (merkleRoot : Bytes32) (deadline : UInt64)
      (keeperFee : Nat)
  | cancelPreCognitiveIntent (call : CallContext) (id : Nat)
  | executePreCognitiveLeaf (call : CallContext) (id : Nat) (merkleProof : List Bytes32)
      (leaf : Leaf)
  | flushProtocolFees (call : CallContext)
  | registerKeeperShard (call : CallContext)
  | configure (call : CallContext) (change : ConfigCall)
  | syncReturn (results : List Bytes)
  | executionCallback (index : Nat) (succeeded : Bool)
  | deliverMessage (index : Nat) (accepted : Bool)
  /-- Value reaches the contract outside its endpoints, for example with a
  callback. -/
  | receiveEgld (amount : Nat)
  | receiveEsdt (payment : EsdtPayment)

def Step.call? : Step → Option CallContext
  | .scheduleQuantumTask call _ _ | .scheduleSovereignTask call _ _ | .cancelQuantumTask call _
  | .executeQuantumTask call _ _ | .executeCompressedTask call _ _ | .settleXseTask call _ _
  | .rescueStuckXseTask call _ | .triggerXseEnclave call _ | .authorizeCloneKey call _ _
  | .revokeCloneKey call _ | .fundCloneKey call _ | .createIntent call _ _ _ _
  | .cancelIntent call _ | .solveIntent call _ | .createMultiIntent call _ _ _
  | .cancelMultiIntent call _ | .solveMultiIntent call _ | .createPreCognitiveIntent call _ _ _
  | .cancelPreCognitiveIntent call _ | .executePreCognitiveLeaf call _ _ _
  | .flushProtocolFees call | .registerKeeperShard call | .configure call _ => some call
  | .syncReturn _ | .executionCallback _ _ | .deliverMessage _ _ | .receiveEgld _
  | .receiveEsdt _ => none

def body (chain : Chain) : Step → World → Outcome World
  | .scheduleQuantumTask call payload requested, w => do
      call.payableEgld
      scheduleQuantumTask chain call payload requested w
  | .scheduleSovereignTask call encryptedPayload requested, w => do
      call.payableEgld
      scheduleSovereignTask chain call encryptedPayload requested w
  | .cancelQuantumTask call hash, w => do
      call.notPayable
      cancelQuantumTask chain call hash w
  | .executeQuantumTask call payload secret, w => do
      call.notPayable
      executeQuantumTask chain call payload secret w
  | .executeCompressedTask call payload packedProof, w => do
      call.notPayable
      executeCompressedTask chain call payload packedProof w
  | .settleXseTask call hash zkProof, w => do
      call.notPayable
      settleXseTask chain call hash zkProof w
  | .rescueStuckXseTask call hash, w => do
      call.notPayable
      rescueStuckXseTask chain call hash w
  | .triggerXseEnclave call encryptedPayload, w => do
      call.notPayable
      triggerXseEnclave call encryptedPayload w
  | .authorizeCloneKey call cloneAddress ttlSeconds, w => do
      call.payableEgld
      authorizeCloneKey call cloneAddress ttlSeconds w
  | .revokeCloneKey call cloneAddress, w => do
      call.notPayable
      revokeCloneKey chain call cloneAddress w
  | .fundCloneKey call cloneAddress, w => do
      call.payableEgld
      fundCloneKey call cloneAddress w
  | .createIntent call tokenOut minReturn deadline solverFee, w =>
      createIntent call tokenOut minReturn deadline solverFee w
  | .cancelIntent call id, w => do
      call.notPayable
      cancelIntent chain call id w
  | .solveIntent call id, w => solveIntent chain call id w
  | .createMultiIntent call outcomes deadline solverFee, w =>
      createMultiIntent call outcomes deadline solverFee w
  | .cancelMultiIntent call id, w => do
      call.notPayable
      cancelMultiIntent chain call id w
  | .solveMultiIntent call id, w => solveMultiIntent chain call id w
  | .createPreCognitiveIntent call merkleRoot deadline keeperFee, w =>
      createPreCognitiveIntent call merkleRoot deadline keeperFee w
  | .cancelPreCognitiveIntent call id, w => do
      call.notPayable
      cancelPreCognitiveIntent chain call id w
  | .executePreCognitiveLeaf call id merkleProof leaf, w =>
      executePreCognitiveLeaf chain call id merkleProof leaf w
  | .flushProtocolFees call, w => do
      call.notPayable
      flushProtocolFees chain call w
  | .registerKeeperShard call, w => do
      call.notPayable
      registerKeeperShard chain call w
  | .configure call change, w => do
      call.notPayable
      call.onlyOwner chain
      let config ← w.config.apply change
      pure { w with config := config }
  | .syncReturn results, w =>
      match w.frames with
      | [] => .error .rejected
      | frame :: rest => resume chain frame results { w with frames := rest }
  -- a callback that faults is rolled back, but its promise is spent
  | .executionCallback index succeeded, w =>
      match w.promises[index]? with
      | none => .error .rejected
      | some promise =>
          let w := { w with promises := w.promises.eraseIdx index }
          match executionCallback chain promise succeeded w with
          | .ok next => .ok next
          | .error _ => .ok w
  | .deliverMessage index accepted, w =>
      match w.outbox[index]? with
      | none => .error .rejected
      | some message => pure { w with
          outbox := w.outbox.eraseIdx index
          egld := if accepted then w.egld else w.egld + message.value }
  | .receiveEgld amount, w => pure { w with egld := w.egld + amount }
  | .receiveEsdt payment, w => do
      ensure (payment.Genuine chain)
      pure { w with
        esdt := fun token nonce => w.esdt token nonce +
          if payment.token = token ∧ payment.nonce = nonce then payment.amount else 0 }

def step (chain : Chain) (w : World) (move : Step) : Outcome World :=
  match move.call? with
  | some call => do
      ensure (call.Delivered chain)
      body chain move (w.credit call)
  | none => body chain move w

end XCron.Scheduler
