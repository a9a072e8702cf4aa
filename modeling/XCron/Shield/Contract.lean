import XCron.Common.Types
import XCron.Platform.Call
import XCron.Platform.Cells
import XCron.Platform.Trace

/-!
# The agent shield

`xcron-agent-shield/escrow/src`: an agent proposes calls that spend the tokens of the
shield, up to a daily limit for every token. A proposal is counted when it is made, and
a callback takes it off the count again if the call fails.
-/

namespace XCron.Shield

open Platform

/-! ## Storage -/

structure Config where
  validationContractAddress : Address
  identityContractAddress : Address
  authorizedAgent : Address
  isPaused : Bool

structure Promise where
  destination : Address
  functionName : Bytes
  arguments : List Bytes
  gas : UInt64
  callbackGas : UInt64
  tokenId : TokenIdentifier
  currentDay : UInt64
  amount : Nat

/-- The storage; `succeeded` and `failed` are bookkeeping, read by no endpoint. -/
structure World where
  config : Config
  shieldDailyLimit : Cells TokenIdentifier Nat
  dailySpent : Cells (TokenIdentifier × UInt64) Nat
  esdt : TokenIdentifier → Nat
  promises : List Promise
  succeeded : List Promise
  failed : List Promise

namespace World

def enqueue (promise : Promise) (w : World) : World :=
  { w with
    esdt := Function.update w.esdt promise.tokenId (w.esdt promise.tokenId - promise.amount)
    promises := w.promises ++ [promise] }

def registerPromise (promise : Promise) (w : World) : Outcome World :=
  if promise.amount ≤ w.esdt promise.tokenId then .ok (w.enqueue promise) else .error .esdtShortage

def received (token : TokenIdentifier) (amount : Nat) (w : World) : World :=
  { w with esdt := Function.update w.esdt token (w.esdt token + amount) }

end World

/-- `sc_panic!`: the transaction ends, and what it wrote so far is rolled back. -/
def scPanic (message : String) (_written : World) : Outcome World := .error (.signal message)

/-! ## Proposals -/

def prohibitedFunctions : List Bytes :=
  ["ESDTTransfer", "ESDTNFTTransfer", "MultiESDTNFTTransfer", "approve", "setLocalRoles"].map
    fun name => name.toUTF8.toList

/-- The day of a block; a time in milliseconds is told by its size. -/
def currentDay (call : CallContext) : UInt64 :=
  let rawTime := call.blockTimestamp
  let safeTime := if 100000000000 < rawTime then rawTime / 1000 else rawTime
  safeTime / 86400

def gasForCall (call : CallContext) : UInt64 :=
  if 15000000 < call.gasLeft then call.gasLeft - 10000000 else call.gasLeft

structure Proposal where
  targetContract : Address
  tokenId : TokenIdentifier
  amount : Nat
  funcName : Bytes
  args : List Bytes

/-- The promise that a proposal becomes. Without an amount nothing is attached to it. -/
def Proposal.promise (call : CallContext) (proposal : Proposal) : Promise :=
  { destination := proposal.targetContract
    functionName := proposal.funcName
    arguments := proposal.args
    gas := gasForCall call
    callbackGas := 5000000
    tokenId := proposal.tokenId
    currentDay := currentDay call
    amount := proposal.amount }

/-- `agent_propose_execution`. The format of a token identifier is judged by the virtual
machine. An empty limit reads as zero, and a limit of zero is stored as an empty one. -/
def agentProposeExecution (chain : Chain) (isValidEsdtIdentifier : TokenIdentifier → Bool)
    (call : CallContext) (proposal : Proposal) (w : World) : Outcome World := do
  require (w.config.isPaused = false) "Shield is Paused (Breaker Active)"
  require (isValidEsdtIdentifier proposal.tokenId = true) "Invalid Token Format"
  require (call.caller = w.config.authorizedAgent) "Only AI Agent can propose"
  require (proposal.funcName ∉ prohibitedFunctions)
    "Agent Shield: Raw token transfers and approvals are strictly prohibited"
  require (w.shieldDailyLimit.amount proposal.tokenId ≠ 0) "Token not authorized in Security Vault"
  let limit := w.shieldDailyLimit.amount proposal.tokenId
  let day := currentDay call
  let spentToday := w.dailySpent.amount (proposal.tokenId, day) + proposal.amount
  if limit < spentToday then
    scPanic "Threshold exceeded: Spend exceeds daily shield limits! VAULT FROZEN."
      { w with config := { w.config with isPaused := true } }
  else do
    let w := { w with dailySpent := w.dailySpent.set (proposal.tokenId, day) spentToday }
    require (proposal.targetContract ≠ chain.scAddress) "Agent cannot reference the Shield directly"
    w.registerPromise (proposal.promise call)

def agentExecutionCallback (tokenId : TokenIdentifier) (day : UInt64) (amount : Nat)
    (succeeded : Bool) (w : World) : World :=
  if succeeded then w
  else
    let spentToday := w.dailySpent.amount (tokenId, day)
    if amount ≤ spentToday then
      { w with dailySpent := w.dailySpent.set (tokenId, day) (spentToday - amount) }
    else w

/-- A promise returns, with its tokens if the call failed. -/
def World.settle (index : Nat) (promise : Promise) (succeeded : Bool) (w : World) : World :=
  if succeeded then
    { w with
      promises := w.promises.eraseIdx index
      succeeded := w.succeeded ++ [promise] }
  else
    { w.received promise.tokenId promise.amount with
      promises := w.promises.eraseIdx index
      failed := w.failed ++ [promise] }

/-! ## Owner calls -/

inductive OwnerCall where
  | setShieldLimit (tokenIdentifier : TokenIdentifier) (maxDailyAmount : Nat)
  | pauseShield
  | unpauseShield
  | emergencyWithdraw (tokenIdentifier : TokenIdentifier) (amount : Nat)
  | upgrade

def World.apply (w : World) : OwnerCall → Outcome World
  | .setShieldLimit tokenIdentifier maxDailyAmount =>
      pure { w with shieldDailyLimit := w.shieldDailyLimit.set tokenIdentifier maxDailyAmount }
  | .pauseShield => pure { w with config := { w.config with isPaused := true } }
  | .unpauseShield => pure { w with config := { w.config with isPaused := false } }
  | .emergencyWithdraw tokenIdentifier amount =>
      if amount ≤ w.esdt tokenIdentifier then
        .ok { w with
          esdt := Function.update w.esdt tokenIdentifier (w.esdt tokenIdentifier - amount) }
      else .error .esdtShortage
  | .upgrade => pure w

def init (validationContractAddress identityContractAddress agentRoleAddress : Address) : World :=
  { config :=
      { validationContractAddress := validationContractAddress
        identityContractAddress := identityContractAddress
        authorizedAgent := agentRoleAddress
        isPaused := false }
    shieldDailyLimit := .empty
    dailySpent := .empty
    esdt := fun _ => 0
    promises := []
    succeeded := []
    failed := [] }

def Deployed (w : World) : Prop :=
  ∃ validationContractAddress identityContractAddress agentRoleAddress,
    init validationContractAddress identityContractAddress agentRoleAddress = w

/-! ## Steps -/

/-- What can happen to the shield. Promises return in any order, and tokens may reach the
contract without a call of it. -/
inductive Step where
  | agentProposeExecution (call : CallContext) (proposal : Proposal)
  | agentExecutionCallback (index : Nat) (succeeded : Bool)
  | owner (call : CallContext) (ownerCall : OwnerCall)
  | fundTreasury (call : CallContext)
  | receiveEsdt (token : TokenIdentifier) (amount : Nat)

def World.paid (w : World) (payment : EsdtPayment) : World :=
  if payment.nonce = 0 then w.received payment.token payment.amount else w

def step (chain : Chain) (isValidEsdtIdentifier : TokenIdentifier → Bool) (w : World) :
    Step → Outcome World
  | .agentProposeExecution call proposal => do
      ensure (call.Delivered chain)
      call.notPayable
      agentProposeExecution chain isValidEsdtIdentifier call proposal w
  | .agentExecutionCallback index succeeded =>
      match w.promises[index]? with
      | none => .error .rejected
      | some promise => .ok (agentExecutionCallback promise.tokenId promise.currentDay promise.amount
          succeeded (w.settle index promise succeeded))
  | .owner call ownerCall => do
      ensure (call.Delivered chain)
      call.notPayable
      call.onlyOwner chain
      w.apply ownerCall
  | .fundTreasury call => do
      ensure (call.Delivered chain)
      pure (call.esdtTransfers.foldl World.paid w)
  | .receiveEsdt token amount => pure (w.received token amount)

/-! ## What a proposal does -/

variable {chain : Chain} {isValidEsdtIdentifier : TokenIdentifier → Bool} {w next : World}
  {call : CallContext} {proposal : Proposal}

/-- The checks of the token, the caller and the function of a proposal. -/
structure Passes (isValidEsdtIdentifier : TokenIdentifier → Bool) (w : World) (call : CallContext)
    (proposal : Proposal) : Prop where
  token : isValidEsdtIdentifier proposal.tokenId = true
  caller : call.caller = w.config.authorizedAgent
  function : proposal.funcName ∉ prohibitedFunctions
  listed : w.shieldDailyLimit.amount proposal.tokenId ≠ 0

def World.spending (call : CallContext) (proposal : Proposal) (w : World) : Nat :=
  w.dailySpent.amount (proposal.tokenId, currentDay call) + proposal.amount

def World.proposed (call : CallContext) (proposal : Proposal) (w : World) : World :=
  { w with
    dailySpent := w.dailySpent.set (proposal.tokenId, currentDay call) (w.spending call proposal)
  }.enqueue (proposal.promise call)

theorem registerPromise_eq_ok {promise : Promise} :
    w.registerPromise promise = .ok next ↔
      promise.amount ≤ w.esdt promise.tokenId ∧ w.enqueue promise = next := by
  unfold World.registerPromise
  split
  next covered => simp [covered]
  next short => simp [short]

theorem agentProposeExecution_eq_ok :
    agentProposeExecution chain isValidEsdtIdentifier call proposal w = .ok next ↔
      w.config.isPaused = false ∧ Passes isValidEsdtIdentifier w call proposal ∧
        w.spending call proposal ≤ w.shieldDailyLimit.amount proposal.tokenId ∧
        proposal.targetContract ≠ chain.scAddress ∧
        proposal.amount ≤ w.esdt proposal.tokenId ∧ w.proposed call proposal = next := by
  simp only [agentProposeExecution, Outcome.bind_eq_ok, Outcome.require_eq_ok]
  constructor
  · rintro ⟨_, unpaused, _, token, _, caller, _, function, _, listed, proposed⟩
    split at proposed
    next exceeded => cases proposed
    next within =>
      simp only [Outcome.bind_eq_ok, Outcome.require_eq_ok, registerPromise_eq_ok] at proposed
      obtain ⟨_, foreign, covered, rfl⟩ := proposed
      exact ⟨unpaused, ⟨token, caller, function, listed⟩, Nat.le_of_not_lt within, foreign, covered,
        rfl⟩
  · rintro ⟨unpaused, passes, within, foreign, covered, rfl⟩
    refine ⟨(), unpaused, (), passes.token, (), passes.caller, (), passes.function, (),
      passes.listed, ?_⟩
    split
    next exceeded => exact absurd exceeded (Nat.not_lt_of_le within)
    next _ =>
      simp only [Outcome.bind_eq_ok, Outcome.require_eq_ok, registerPromise_eq_ok]
      exact ⟨(), foreign, covered, rfl⟩

end XCron.Shield
