import Mathlib.Data.Finset.Basic
import Mathlib.Data.Finset.Card
import Mathlib.Logic.Function.Basic
import XCron.Common.Types
import XCron.Platform.Call
import XCron.Platform.Cells

/-!
# Scheduler storage and the chain around it

`World` is the scheduler's storage together with the parts of the chain its
endpoints act on: the contract's balances, the calls it has in flight and the
value it has sent. A synchronous call hands control to foreign code in the
middle of an endpoint; the rest of the endpoint waits in a frame until that
call returns, and in the meantime the scheduler can be called again. The
`executing_guard` cell, documented as a reentrancy guard, is written once by
`init` and read by no endpoint, so it is not part of the state.
-/

namespace XCron.Scheduler

open Platform

structure Config where
  keeperRegistryAddr : Option Address
  rewardsAddr : Option Address
  xwapAddress : Option Address
  zkVerifierAddr : Option Address
  xscAddress : Option Address
  minDeposit : Nat
  protocolFeeBps : Nat
  revealWindow : UInt64
  commitBond : Nat
  maxRewardPerExec : Nat
  maxExecValueEgld : Nat
  maxTasksPerRound : Nat
  whitelistedKeepers : Finset Address
  /-- Slots of the round-robin vector; a cleared slot is empty. -/
  keeperList : List (Option Address)
  targetBlacklist : Finset Address
  paused : Bool
  version : Nat

/-- The endpoint that put a task into execution. -/
inductive DispatchPath where
  | quantum
  | compressed
  deriving DecidableEq

structure Dispatch where
  call : CallContext
  taskHash : TaskHash
  payload : Task
  keeper : Address
  state : QuantumTaskState
  path : DispatchPath

/-- The rest of an endpoint that waits for a synchronous call to return. -/
inductive Frame where
  | oracle (dispatch : Dispatch)
  | xwap (dispatch : Dispatch)
  | proof (call : CallContext) (taskHash : TaskHash) (payload : Task)
  | zkVerifier (taskHash : TaskHash) (enforcer : Address) (state : QuantumTaskState)

def Frame.taskHash : Frame → TaskHash
  | .oracle dispatch => dispatch.taskHash
  | .xwap dispatch => dispatch.taskHash
  | .proof _ taskHash _ => taskHash
  | .zkVerifier taskHash _ _ => taskHash

structure Promise where
  taskHash : TaskHash
  targetContract : Address
  targetEndpoint : Bytes
  targetArgs : List Bytes
  gas : UInt64
  callbackGas : UInt64
  keeper : Address
  path : DispatchPath

/-- Messages sent with `transfer_execute`, not yet delivered. -/
inductive Message where
  | recordExecution (registry keeper : Address) (success : Bool)
  | receiveExecutionFee (rewards keeper : Address) (amount : Nat)

def Message.value : Message → Nat
  | .recordExecution _ _ _ => 0
  | .receiveExecutionFee _ _ amount => amount

/-- Value paid out with `direct_egld` and `direct_esdt`. -/
inductive Transfer where
  | egld (receiver : Address) (amount : Nat)
  | esdt (receiver : Address) (token : TokenIdentifier) (nonce amount : Nat)
  deriving DecidableEq

def Transfer.egldAmount : Transfer → Nat
  | .egld _ amount => amount
  | .esdt _ _ _ _ => 0

/-- Synchronous queries and events, in the order they happen. -/
inductive Event where
  | syncCall (receiver : Address) (endpoint : Bytes) (args : List Bytes)
  | taskScheduledQuantum (taskHash : TaskHash) (owner target : Address) (timestampMs : UInt64)
  | taskCancelledQuantum (taskHash : TaskHash)
  | taskExecutedQuantum (taskHash : TaskHash) (keeper : Address) (success : Bool)
  | xsePayloadTriggered (caller : Address) (payload : Bytes)
  | intentCreated (id : Nat) (owner : Address)
  | multiIntentCreated (id : Nat) (owner : Address)
  | multiIntentSettled (id : Nat) (solver : Address)
  | cloneKeyAuthorized (mainWallet cloneKey : Address) (expiry : UInt64) (spendLimit : Nat)
  | cloneKeyRevoked (mainWallet cloneKey : Address) (refunded : Nat)
  | cloneKeyFunded (cloneKey : Address) (added : Nat)

inductive Closing where
  | cancelled
  | executed (success : Bool)
  | rescued
  deriving DecidableEq

/-- Bookkeeping of the run, read by no endpoint: what was deposited for a hash,
which endpoint put it into execution, and what closing one of its instances
paid out or accrued. -/
inductive JournalEntry where
  | funded (taskHash : TaskHash) (amount : Nat)
  | dispatched (taskHash : TaskHash) (path : DispatchPath)
  | closed (taskHash : TaskHash) (how : Closing) (path : Option DispatchPath)
      (reward refund fee : Nat)
  deriving DecidableEq

def JournalEntry.taskHash : JournalEntry → TaskHash
  | .funded taskHash _ => taskHash
  | .dispatched taskHash _ => taskHash
  | .closed taskHash _ _ _ _ _ => taskHash

/-- The latest dispatch of a hash, also bookkeeping only. -/
structure DispatchRecord where
  payload : Task
  keeper : Address
  path : DispatchPath
  dispatchedAt : UInt64

structure IntentBook (Terms : Type) where
  nonce : Nat
  byId : Cells Nat (IntentRecord Terms)

/-- The storage, what the chain knows of the contract from `egld` on, and the bookkeeping of a
run in `journal` and `dispatches`. -/
structure World where
  config : Config
  quantumTasks : Cells TaskHash QuantumTaskState
  ownerTasks : Address → Finset TaskHash
  usedCompressedTasks : TaskHash → Bool
  assignedEnclaveKeeper : TaskHash → Option Address
  tasksPerRound : Address → UInt64 → Nat
  keeperShard : Address → UInt32
  targetFailureCount : Address → Nat
  totalSuccessfulExecs : Nat
  totalFailedExecs : Nat
  accruedProtocolFees : Nat
  cloneKeyProps : Cells Address CloneKeyProperties
  walletCloneKeys : Address → Finset Address
  intents : IntentBook MultiIntentOutcome
  multiIntents : IntentBook (List MultiIntentOutcome)
  preCognitiveIntents : IntentBook Bytes32
  acceptedPaymentTokens : TokenIdentifier → Bool
  egld : Nat
  esdt : TokenIdentifier → Nat → Nat
  promises : List Promise
  frames : List Frame
  outbox : List Message
  sent : List Transfer
  events : List Event
  journal : List JournalEntry
  dispatches : TaskHash → Option DispatchRecord

namespace World

def emit (event : Event) (w : World) : World := { w with events := w.events ++ [event] }

def record (entry : JournalEntry) (w : World) : World := { w with journal := w.journal ++ [entry] }

def credit (call : CallContext) (w : World) : World :=
  { w with
    egld := w.egld + call.egldValue
    esdt := fun token nonce => w.esdt token nonce +
      ((call.esdtTransfers.filter fun payment =>
        payment.token = token ∧ payment.nonce = nonce).map EsdtPayment.amount).sum }

/-- The balance and the record after a payment of EGLD. A contract that pays
itself keeps the amount. -/
def pay (chain : Chain) (receiver : Address) (amount : Nat) (w : World) : World :=
  { w with
    egld := if receiver = chain.scAddress then w.egld else w.egld - amount
    sent := w.sent ++ [.egld receiver amount] }

def directEgld (chain : Chain) (receiver : Address) (amount : Nat) (w : World) : Outcome World :=
  if amount ≤ w.egld then .ok (w.pay chain receiver amount) else .error .egldShortage

/-- The effect of a payment that is made only when it is not zero. -/
def payIfPositive (chain : Chain) (receiver : Address) (amount : Nat) (w : World) : World :=
  { w with
    egld := if receiver = chain.scAddress then w.egld else w.egld - amount
    sent := if 0 < amount then w.sent ++ [.egld receiver amount] else w.sent }

def directEgldIfPositive (chain : Chain) (receiver : Address) (amount : Nat) (w : World) :
    Outcome World :=
  if 0 < amount then w.directEgld chain receiver amount else .ok w

def payEsdt (chain : Chain) (receiver : Address) (token : TokenIdentifier) (nonce amount : Nat)
    (w : World) : World :=
  { w with
    esdt := fun token' nonce' =>
      if token' = token ∧ nonce' = nonce ∧ receiver ≠ chain.scAddress then w.esdt token nonce - amount
      else w.esdt token' nonce'
    sent := w.sent ++ [.esdt receiver token nonce amount] }

def directEsdt (chain : Chain) (receiver : Address) (token : TokenIdentifier) (nonce amount : Nat)
    (w : World) : Outcome World :=
  if amount ≤ w.esdt token nonce then .ok (w.payEsdt chain receiver token nonce amount)
  else .error .esdtShortage

def requireNotPaused (w : World) : Outcome Unit :=
  require (w.config.paused = false) "Contract is paused"

def requireRegisteredKeeper (w : World) (keeper : Address) : Outcome Unit :=
  require (keeper ∈ w.config.whitelistedKeepers) "Not authorized"

/-- `forward_protocol_fee`: fees wait in storage until they are flushed. -/
def forwardProtocolFee (protocolFee : Nat) (w : World) : World :=
  { w with
    accruedProtocolFees :=
      if 0 < protocolFee then w.accruedProtocolFees + protocolFee else w.accruedProtocolFees }

/-- `forward_keeper_result`: fire and forget. -/
def forwardKeeperResult (keeper : Address) (success : Bool) (w : World) : World :=
  { w with
    outbox := match w.config.keeperRegistryAddr with
      | none => w.outbox
      | some registry => w.outbox ++ [.recordExecution registry keeper success] }

end World

/-- `get_timestamp_ms`: times above a hundred billion are already milliseconds. -/
def getTimestampMs (call : CallContext) : UInt64 :=
  if call.blockTimestamp > 100000000000 then call.blockTimestamp else call.blockTimestamp * 1000

def deployed (keeperRegistry rewards : Address) (minDeposit protocolFeeBps : Nat)
    (accepted : TokenIdentifier → Bool) : World :=
  { config :=
      { keeperRegistryAddr := some keeperRegistry
        rewardsAddr := some rewards
        xwapAddress := none
        zkVerifierAddr := none
        xscAddress := none
        minDeposit := minDeposit
        protocolFeeBps := protocolFeeBps
        revealWindow := Constants.defaultRevealWindowSeconds
        commitBond := 0
        maxRewardPerExec := Constants.defaultMaxRewardPerExec
        maxExecValueEgld := 0
        maxTasksPerRound := Constants.maxTasksPerRound
        whitelistedKeepers := ∅
        keeperList := []
        targetBlacklist := ∅
        paused := false
        version := 1 }
    quantumTasks := .empty
    ownerTasks := fun _ => ∅
    usedCompressedTasks := fun _ => false
    assignedEnclaveKeeper := fun _ => none
    tasksPerRound := fun _ _ => 0
    keeperShard := fun _ => 0
    targetFailureCount := fun _ => 0
    totalSuccessfulExecs := 0
    totalFailedExecs := 0
    accruedProtocolFees := 0
    cloneKeyProps := .empty
    walletCloneKeys := fun _ => ∅
    intents := ⟨0, .empty⟩
    multiIntents := ⟨0, .empty⟩
    preCognitiveIntents := ⟨0, .empty⟩
    acceptedPaymentTokens := accepted
    egld := 0
    esdt := fun _ _ => 0
    promises := []
    frames := []
    outbox := []
    sent := []
    events := []
    journal := []
    dispatches := fun _ => none }

def init (keeperRegistry rewards : Address) (minDeposit protocolFeeBps : Nat)
    (accepted : TokenIdentifier → Bool) : Outcome World := do
  require (protocolFeeBps ≤ 10000) "Protocol fee cannot exceed 100%"
  pure (deployed keeperRegistry rewards minDeposit protocolFeeBps accepted)

def Deployed (w : World) : Prop :=
  ∃ keeperRegistry rewards minDeposit protocolFeeBps accepted,
    init keeperRegistry rewards minDeposit protocolFeeBps accepted = .ok w

theorem Deployed.eq {w : World} (started : Deployed w) :
    ∃ keeperRegistry rewards minDeposit protocolFeeBps accepted, protocolFeeBps ≤ 10000 ∧
      w = deployed keeperRegistry rewards minDeposit protocolFeeBps accepted := by
  obtain ⟨keeperRegistry, rewards, minDeposit, protocolFeeBps, accepted, started⟩ := started
  simp only [init, Outcome.bind_eq_ok, Outcome.require_eq_ok, Outcome.pure_eq_ok] at started
  obtain ⟨_, within, rfl⟩ := started
  exact ⟨keeperRegistry, rewards, minDeposit, protocolFeeBps, accepted, within, rfl⟩

end XCron.Scheduler
