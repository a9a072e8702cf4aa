import XCron.Platform.Codec

/-!
# Shared types of the protocol

The records of `common/src/types.rs` that the scheduler reads and writes, with
the encoding of a task payload whose digest identifies the task on chain.
Amounts are unbounded (`BigUint`); timestamps, gas and other machine words keep
their width, so their arithmetic wraps as the compiled contract's does.
-/

namespace XCron

open Platform

abbrev Address := Bytes32

abbrev TaskHash := Bytes32

abbrev TokenIdentifier := Bytes

inductive TaskStatus where
  | pending
  | committed
  | executing
  | completed
  | failed
  | cancelled
  | expired
  deriving DecidableEq

inductive Comparator where
  | gt
  | lt
  | eq
  | gte
  | lte
  deriving DecidableEq

inductive Trigger where
  | timeOnce (targetTime : UInt64)
  | timeRecurring (startTime interval remainingExecs : UInt64)
  | stateDriven (oracleContract : Address) (queryEndpoint : Bytes) (queryArgs : List Bytes)
      (comparator : Comparator) (threshold : Nat)
  | eventDriven (emitterContract : Address) (eventTopic : Bytes)
  | quantumSealedHash (expectedHash : Bytes32)
  deriving DecidableEq

/-- A scheduled automation task, as the keeper presents it. -/
structure Task where
  id : UInt64
  owner : Address
  targetContract : Address
  targetEndpoint : Bytes
  targetArgs : List Bytes
  trigger : Trigger
  maxGas : UInt64
  deposit : Nat
  maxRetries : UInt8
  retryCount : UInt8
  ttlSeconds : UInt64
  createdAt : UInt64
  status : TaskStatus
  assignedKeeper : Option Address
  completedAt : UInt64
  postTaskId : Option UInt64
  requireXwapSafe : Bool
  confidential : Bool
  deriving DecidableEq

/-- What the chain stores about a task: everything else is in the payload. -/
structure QuantumTaskState where
  owner : Address
  deposit : Nat
  status : TaskStatus
  executingAt : UInt64
  deriving DecidableEq

structure CloneKeyProperties where
  mainAddress : Address
  spendLimit : Nat
  spentAmount : Nat
  expiryTimestamp : UInt64
  deriving DecidableEq

def CloneKeyProperties.unspent (props : CloneKeyProperties) : Nat :=
  props.spendLimit - props.spentAmount

/-- A keeper of the registry. The execution counters are `u64` in storage and are
followed here below `2 ^ 64`. -/
structure KeeperInfo where
  addr : Address
  stake : Nat
  registeredAt : UInt64
  totalExecutions : Nat
  successfulExecs : Nat
  failedExecs : Nat
  slashedAmount : Nat
  active : Bool
  consecutiveFailures : Nat
  deriving DecidableEq

/-- `settled` stands for `Settled` and for `Executed` of pre-cognitive intents. -/
inductive IntentStatus where
  | pending
  | settled
  | cancelled
  | expired
  deriving DecidableEq

/-- The fields the three intent families share. They differ in what the owner
asks for, which `terms` holds. -/
structure IntentRecord (Terms : Type) where
  id : Nat
  owner : Address
  tokenIn : TokenIdentifier
  amountIn : Nat
  terms : Terms
  deadline : UInt64
  /-- `solver_fee` or `keeper_fee`, in EGLD. -/
  fee : Nat
  status : IntentStatus
  /-- `settled_by` or `executed_by`. -/
  settledBy : Option Address
  deriving DecidableEq

def IntentRecord.cancelled {Terms : Type} (intent : IntentRecord Terms) :
    IntentRecord Terms :=
  { intent with status := .cancelled }

def IntentRecord.settled {Terms : Type} (intent : IntentRecord Terms) (keeper : Address) :
    IntentRecord Terms :=
  { intent with status := .settled, settledBy := some keeper }

structure MultiIntentOutcome where
  tokenOut : TokenIdentifier
  minReturn : Nat
  deriving DecidableEq

abbrev Intent := IntentRecord MultiIntentOutcome

abbrev MultiIntent := IntentRecord (List MultiIntentOutcome)

/-- The terms are the Merkle root of the approved leaves. -/
abbrev PreCognitiveIntent := IntentRecord Bytes32

namespace TaskStatus

def encode : TaskStatus → Bytes
  | .pending => [0]
  | .committed => [1]
  | .executing => [2]
  | .completed => [3]
  | .failed => [4]
  | .cancelled => [5]
  | .expired => [6]

end TaskStatus

namespace Comparator

def encode : Comparator → Bytes
  | .gt => [0]
  | .lt => [1]
  | .eq => [2]
  | .gte => [3]
  | .lte => [4]

/-- `condition_met` of `require_task_ripe_quantum`. -/
def holds : Comparator → Nat → Nat → Bool
  | .gt, value, threshold => threshold < value
  | .lt, value, threshold => value < threshold
  | .eq, value, threshold => value = threshold
  | .gte, value, threshold => threshold ≤ value
  | .lte, value, threshold => value ≤ threshold

end Comparator

namespace Trigger

def encode : Trigger → Bytes
  | .timeOnce targetTime => 0 :: encodeU64 targetTime
  | .timeRecurring startTime interval remainingExecs =>
      1 :: (encodeU64 startTime ++ encodeU64 interval ++ encodeU64 remainingExecs)
  | .stateDriven oracleContract queryEndpoint queryArgs comparator threshold =>
      2 :: (oracleContract.val ++ encodeBuffer queryEndpoint ++ encodeList encodeBuffer queryArgs ++
        comparator.encode ++ encodeBigUint threshold)
  | .eventDriven emitterContract eventTopic => 3 :: (emitterContract.val ++ encodeBuffer eventTopic)
  | .quantumSealedHash expectedHash => 4 :: expectedHash.val

end Trigger

def Task.encode (task : Task) : Bytes :=
  encodeU64 task.id ++ task.owner.val ++ task.targetContract.val ++
    encodeBuffer task.targetEndpoint ++ encodeList encodeBuffer task.targetArgs ++
    task.trigger.encode ++ encodeU64 task.maxGas ++ encodeBigUint task.deposit ++
    encodeU8 task.maxRetries ++ encodeU8 task.retryCount ++ encodeU64 task.ttlSeconds ++
    encodeU64 task.createdAt ++ task.status.encode ++
    encodeOption (fun keeper => keeper.val) task.assignedKeeper ++ encodeU64 task.completedAt ++
    encodeOption encodeU64 task.postTaskId ++ encodeBool task.requireXwapSafe ++
    encodeBool task.confidential

namespace Constants

def bpsDenominator : Nat := 10000

def callbackGasReserve : UInt64 := 25000000

def egldDecimals : Nat := 1000000000000000000

def defaultMaxRewardPerExec : Nat := 50000000000000000

def defaultRevealWindowSeconds : UInt64 := 60

def roundRobinGraceSeconds : UInt64 := 30

def maxTargetFailures : Nat := 10

def maxTasksPerRound : Nat := 10

def maxCloneKeySpendLimit : Nat := 2 * egldDecimals

def maxCloneKeysPerWallet : Nat := 3

def maxCloneKeyTtlSeconds : UInt64 := 30 * 24 * 60 * 60

def minCloneKeyTtlSeconds : UInt64 := 3600

def unstakeCooldownSeconds : UInt64 := 43200

def slashStrike1Bps : Nat := 500

def slashStrike2Bps : Nat := 1500

def slashStrike3Bps : Nat := 2000

def maxStrikes : Nat := 3

def earlyExitPenaltyBps : Nat := 500

def minKeeperDaysSeconds : UInt64 := 30 * 24 * 60 * 60

end Constants

end XCron
