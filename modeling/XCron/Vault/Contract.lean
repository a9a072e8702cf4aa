import XCron.Common.Types
import XCron.Platform.Call
import XCron.Platform.Cells

/-!
# The vault

`vault/src/lib.rs`: users deposit EGLD, which the vault delegates to a staking
provider, and withdraw it through an unbonding ledger. Both directions update
the ledger first, register a promise, and mend the ledger in the callback when
the provider refused. The scheduler drives the automation endpoints, which may
spend what the vault holds beyond the pending withdrawals.
-/

namespace XCron.Vault

open Platform

structure Config where
  delegationContract : Address
  schedulerAddress : Address
  dexPairContract : Option Address
  swapAmountPerExecution : Nat
  maxSlippageBps : UInt64
  nftContract : Option Address
  mintPrice : Nat
  mintEndpointName : Bytes
  paused : Bool

structure Ledger where
  userBalance : Cells Address Nat
  totalDeposited : Nat
  pendingWithdrawals : Cells Address Nat
  totalPendingWithdrawals : Nat

/-- The callback of a promise, with its closure. -/
inductive Callback where
  | deposit (caller : Address) (depositAmount : Nat)
  | withdraw (caller : Address) (amount : Nat)
  | compound
  | claim
  | swap
  | emergencySwap
  | mint
  /-- `claimUnbonded` is fire and forget. -/
  | absent
  deriving DecidableEq

structure Promise where
  destination : Address
  endpoint : Bytes
  egldValue : Nat
  arguments : List Bytes
  gas : UInt64
  callback : Callback
  callbackGas : UInt64

inductive Transfer where
  | depositRefund (receiver : Address) (amount : Nat)
  | unbonded (receiver : Address) (amount : Nat)
  | yield (receiver : Address) (amount : Nat)
  deriving DecidableEq

def Transfer.receiver : Transfer → Address
  | .depositRefund receiver _ | .unbonded receiver _ | .yield receiver _ => receiver

def Transfer.amount : Transfer → Nat
  | .depositRefund _ amount | .unbonded _ amount | .yield _ amount => amount

inductive Event where
  | deposit (caller : Address) (amount : Nat)
  | withdraw (caller : Address) (amount : Nat)
  | compound (timestamp : UInt64)
  | claim (timestamp : UInt64)
  | swap (timestamp : UInt64)
  | emergencySwap (timestamp : UInt64)
  | mint (timestamp : UInt64)

/-- The storage, and from `egld` on what the chain knows of the contract. -/
structure World where
  config : Config
  ledger : Ledger
  compoundCount : UInt64
  egld : Nat
  promises : List Promise
  sent : List Transfer
  events : List Event

/-! ## The ledger -/

namespace Ledger

def deposit (caller : Address) (payment : Nat) (l : Ledger) : Ledger :=
  { l with
    userBalance := l.userBalance.set caller (l.userBalance.amount caller + payment)
    totalDeposited := l.totalDeposited + payment }

def undoDeposit (caller : Address) (depositAmount : Nat) (l : Ledger) : Ledger :=
  let currentBalance := l.userBalance.amount caller
  { l with
    userBalance := l.userBalance.set caller
      (if depositAmount ≤ currentBalance then currentBalance - depositAmount else 0)
    totalDeposited :=
      if depositAmount ≤ l.totalDeposited then l.totalDeposited - depositAmount
      else l.totalDeposited }

def withdraw (caller : Address) (amount : Nat) (l : Ledger) : Ledger :=
  { userBalance := l.userBalance.set caller (l.userBalance.amount caller - amount)
    totalDeposited :=
      if amount ≤ l.totalDeposited then l.totalDeposited - amount else l.totalDeposited
    pendingWithdrawals :=
      l.pendingWithdrawals.set caller (l.pendingWithdrawals.amount caller + amount)
    totalPendingWithdrawals := l.totalPendingWithdrawals + amount }

def undoWithdraw (caller : Address) (amount : Nat) (l : Ledger) : Ledger :=
  let restored := { l with
    userBalance := l.userBalance.set caller (l.userBalance.amount caller + amount)
    totalDeposited := l.totalDeposited + amount }
  let pending := l.pendingWithdrawals.amount caller
  if amount ≤ pending then
    { restored with
      pendingWithdrawals := l.pendingWithdrawals.set caller (pending - amount)
      totalPendingWithdrawals :=
        if amount ≤ l.totalPendingWithdrawals then l.totalPendingWithdrawals - amount else 0 }
  else restored

def collect (caller : Address) (l : Ledger) : Ledger :=
  let amountDue := l.pendingWithdrawals.amount caller
  { l with
    pendingWithdrawals := l.pendingWithdrawals.clear caller
    totalPendingWithdrawals :=
      if amountDue ≤ l.totalPendingWithdrawals then l.totalPendingWithdrawals - amountDue else 0 }

end Ledger

namespace World

def emit (event : Event) (w : World) : World := { w with events := w.events ++ [event] }

def pay (chain : Chain) (transfer : Transfer) (w : World) : World :=
  { w with
    egld := if transfer.receiver = chain.scAddress then w.egld else w.egld - transfer.amount
    sent := w.sent ++ [transfer] }

def directEgld (chain : Chain) (transfer : Transfer) (w : World) : Outcome World :=
  if transfer.amount ≤ w.egld then .ok (w.pay chain transfer) else .error .egldShortage

def enqueue (promise : Promise) (w : World) : World :=
  { w with
    egld := w.egld - promise.egldValue
    promises := w.promises ++ [promise] }

def registerPromise (promise : Promise) (w : World) : Outcome World :=
  if promise.egldValue ≤ w.egld then .ok (w.enqueue promise) else .error .egldShortage

def requireNotPaused (w : World) : Outcome Unit :=
  require (w.config.paused = false) "Contract is paused"

def requireSchedulerCaller (call : CallContext) (w : World) : Outcome Unit :=
  require (call.caller = w.config.schedulerAddress) "Caller not authorized"

/-- What the vault holds beyond the pending withdrawals, as `swap`,
`emergency_swap`, `mint` and `rescue_yield` each compute it. -/
def safeLiquid (w : World) : Nat :=
  if w.ledger.totalPendingWithdrawals < w.egld then w.egld - w.ledger.totalPendingWithdrawals else 0

def delegationCall (w : World) (endpoint : String) (egldValue : Nat) (arguments : List Bytes)
    (gas : UInt64) (callback : Callback) (callbackGas : UInt64) : Promise :=
  { destination := w.config.delegationContract
    endpoint := endpoint.toUTF8.toList
    egldValue := egldValue
    arguments := arguments
    gas := gas
    callback := callback
    callbackGas := callbackGas }

end World

/-! ## User endpoints -/

def deposit (call : CallContext) (w : World) : Outcome World := do
  w.requireNotPaused
  require (0 < call.egldValue) "Deposit must be greater than zero"
  let w := { w with ledger := w.ledger.deposit call.caller call.egldValue }
  let w := w.emit (.deposit call.caller call.egldValue)
  w.registerPromise (w.delegationCall "delegate" call.egldValue [] 12000000
    (.deposit call.caller call.egldValue) 5000000)

def depositCallback (chain : Chain) (caller : Address) (depositAmount : Nat) (succeeded : Bool)
    (w : World) : Outcome World :=
  if succeeded then .ok w
  else { w with ledger := w.ledger.undoDeposit caller depositAmount }.directEgld chain
    (.depositRefund caller depositAmount)

/-- `withdraw`. It is open while the vault is paused. -/
def withdraw (call : CallContext) (amount : Nat) (w : World) : Outcome World := do
  require (0 < amount) "Withdraw amount must be greater than zero"
  require (amount ≤ w.ledger.userBalance.amount call.caller) "Insufficient balance"
  let w := { w with ledger := w.ledger.withdraw call.caller amount }
  let w := w.emit (.withdraw call.caller amount)
  w.registerPromise (w.delegationCall "unDelegate" 0 [natBytes amount] 12000000
    (.withdraw call.caller amount) 5000000)

def withdrawCallback (caller : Address) (amount : Nat) (succeeded : Bool) (w : World) : World :=
  if succeeded then w else { w with ledger := w.ledger.undoWithdraw caller amount }

def claimUnbonded (w : World) : Outcome World :=
  w.registerPromise (w.delegationCall "claimUnbonded" 0 [] 15000000 .absent 0)

def withdrawUnbonded (chain : Chain) (call : CallContext) (w : World) : Outcome World := do
  let amountDue := w.ledger.pendingWithdrawals.amount call.caller
  require (0 < amountDue) "No pending withdrawals"
  require (amountDue ≤ w.egld) "Unbonded funds not yet available from provider"
  { w with ledger := w.ledger.collect call.caller }.directEgld chain
    (.unbonded call.caller amountDue)

/-! ## Automation endpoints -/

def compound (call : CallContext) (w : World) : Outcome World := do
  w.requireNotPaused
  w.requireSchedulerCaller call
  w.registerPromise (w.delegationCall "reDelegateRewards" 0 [] 12000000 .compound 5000000)

def claimRewards (call : CallContext) (w : World) : Outcome World := do
  w.requireNotPaused
  w.requireSchedulerCaller call
  w.registerPromise (w.delegationCall "claimRewards" 0 [] 12000000 .claim 5000000)

/-- The amount `swap` and `emergency_swap` spend: the configured one if the safe
liquidity exceeds it, else all of it. -/
def swapAmount (w : World) : Nat :=
  if 0 < w.config.swapAmountPerExecution ∧ w.config.swapAmountPerExecution < w.safeLiquid then
    w.config.swapAmountPerExecution
  else w.safeLiquid

/-- The least output asked of the pair. The subtraction is one of machine words. -/
def minAmountOut (amount : Nat) (slippageBps : UInt64) : Nat :=
  amount * (10000 - slippageBps).toNat / 10000

def swapCall (w : World) (dexAddr : Address) (callback : Callback) : Promise :=
  { destination := dexAddr
    endpoint := "swapTokensFixedInput".toUTF8.toList
    egldValue := swapAmount w
    arguments := [natBytes (minAmountOut (swapAmount w) w.config.maxSlippageBps)]
    gas := 20000000
    callback := callback
    callbackGas := 5000000 }

def swapWith (callback : Callback) (call : CallContext) (w : World) : Outcome World := do
  w.requireNotPaused
  w.requireSchedulerCaller call
  require (w.config.dexPairContract ≠ none) "Swap not configured - set DEX pair contract first"
  require (w.config.maxSlippageBps ≠ 0)
    "Slippage protection not configured - set max_slippage_bps first"
  let dexAddr ← load w.config.dexPairContract
  if 0 < swapAmount w then w.registerPromise (swapCall w dexAddr callback) else pure w

def swap : CallContext → World → Outcome World := swapWith .swap

def emergencySwap : CallContext → World → Outcome World := swapWith .emergencySwap

def mintCall (w : World) (nftAddr : Address) : Promise :=
  { destination := nftAddr
    endpoint := w.config.mintEndpointName
    egldValue := w.config.mintPrice
    arguments := [natBytes 1]
    gas := 15000000
    callback := .mint
    callbackGas := 5000000 }

def mint (call : CallContext) (w : World) : Outcome World := do
  w.requireNotPaused
  w.requireSchedulerCaller call
  require (w.config.nftContract ≠ none) "Mint not configured - set NFT contract first"
  let nftAddr ← load w.config.nftContract
  require (w.config.mintPrice ≤ w.safeLiquid) "V-23: Insufficient safe liquid funds for minting"
  w.registerPromise (mintCall w nftAddr)

/-- The callbacks that only announce a success. -/
def announce (event : Event) (succeeded : Bool) (w : World) : World :=
  if succeeded then w.emit event else w

def compoundCallback (time : UInt64) (succeeded : Bool) (w : World) : World :=
  if succeeded then { w with compoundCount := w.compoundCount + 1 }.emit (.compound time) else w

/-! ## Administration -/

def rescueYield (chain : Chain) (call : CallContext) (amount : Nat) (w : World) : Outcome World := do
  require (amount ≤ w.safeLiquid) "Amount exceeds safe liquid (protocol-owned) balance"
  w.directEgld chain (.yield call.caller amount)

/-- The setters of the contract owner. -/
inductive ConfigCall where
  | setSchedulerAddress (addr : Address)
  | setDelegationContract (addr : Address)
  | setDexPairContract (addr : Address)
  | setSwapAmount (amount : Nat)
  | setNftContract (addr : Address)
  | setMintPrice (price : Nat)
  | setMintEndpoint (endpoint : Bytes)
  | setMaxSlippageBps (bps : UInt64)
  | pause
  | unpause

def Config.apply (c : Config) : ConfigCall → Outcome Config
  | .setSchedulerAddress addr => pure { c with schedulerAddress := addr }
  | .setDelegationContract addr => pure { c with delegationContract := addr }
  | .setDexPairContract addr => pure { c with dexPairContract := some addr }
  | .setSwapAmount amount => pure { c with swapAmountPerExecution := amount }
  | .setNftContract addr => pure { c with nftContract := some addr }
  | .setMintPrice price => pure { c with mintPrice := price }
  | .setMintEndpoint endpoint => pure { c with mintEndpointName := endpoint }
  | .setMaxSlippageBps bps => do
      require (bps ≤ 5000) "Max slippage cannot exceed 50%"
      pure { c with maxSlippageBps := bps }
  | .pause => pure { c with paused := true }
  | .unpause => pure { c with paused := false }

def init (delegationContract schedulerAddress : Address) : World :=
  { config :=
      { delegationContract := delegationContract
        schedulerAddress := schedulerAddress
        dexPairContract := none
        swapAmountPerExecution := 0
        maxSlippageBps := 300
        nftContract := none
        mintPrice := 0
        mintEndpointName := []
        paused := false }
    ledger :=
      { userBalance := .empty
        totalDeposited := 0
        pendingWithdrawals := .empty
        totalPendingWithdrawals := 0 }
    compoundCount := 0
    egld := 0
    promises := []
    sent := []
    events := [] }

/-! ## Steps -/

/-- What can happen to the vault. `returned` is the EGLD that comes back with a
call that succeeded. -/
inductive Step where
  | deposit (call : CallContext)
  | withdraw (call : CallContext) (amount : Nat)
  | claimUnbonded (call : CallContext)
  | withdrawUnbonded (call : CallContext)
  | compound (call : CallContext)
  | claimRewards (call : CallContext)
  | swap (call : CallContext)
  | emergencySwap (call : CallContext)
  | mint (call : CallContext)
  | rescueYield (call : CallContext) (amount : Nat)
  | configure (call : CallContext) (change : ConfigCall)
  | callback (index : Nat) (succeeded : Bool) (returned : Nat) (time : UInt64)
  | receiveEgld (amount : Nat)

def runCallback (chain : Chain) (time : UInt64) (succeeded : Bool) :
    Callback → World → Outcome World
  | .deposit caller depositAmount, w => depositCallback chain caller depositAmount succeeded w
  | .withdraw caller amount, w => pure (withdrawCallback caller amount succeeded w)
  | .compound, w => pure (compoundCallback time succeeded w)
  | .claim, w => pure (announce (.claim time) succeeded w)
  | .swap, w => pure (announce (.swap time) succeeded w)
  | .emergencySwap, w => pure (announce (.emergencySwap time) succeeded w)
  | .mint, w => pure (announce (.mint time) succeeded w)
  | .absent, w => pure w

/-- A promise returns: a call that failed gives its value back before the
callback runs. -/
def World.settle (w : World) (index : Nat) (promise : Promise) (succeeded : Bool) (returned : Nat) :
    World :=
  { w with
    egld := w.egld + if succeeded then returned else promise.egldValue
    promises := w.promises.eraseIdx index }

def step (chain : Chain) (w : World) : Step → Outcome World
  | .deposit call => do
      call.payableEgld
      deposit call { w with egld := w.egld + call.egldValue }
  | .withdraw call amount => do
      call.notPayable
      withdraw call amount w
  | .claimUnbonded call => do
      call.notPayable
      claimUnbonded w
  | .withdrawUnbonded call => do
      call.notPayable
      withdrawUnbonded chain call w
  | .compound call => do
      call.notPayable
      compound call w
  | .claimRewards call => do
      call.notPayable
      claimRewards call w
  | .swap call => do
      call.notPayable
      swap call w
  | .emergencySwap call => do
      call.notPayable
      emergencySwap call w
  | .mint call => do
      call.notPayable
      mint call w
  | .rescueYield call amount => do
      call.notPayable
      call.onlyOwner chain
      rescueYield chain call amount w
  | .configure call change => do
      call.notPayable
      call.onlyOwner chain
      let config ← w.config.apply change
      pure { w with config := config }
  | .callback index succeeded returned time =>
      match w.promises[index]? with
      | none => .error .rejected
      | some promise =>
          -- a callback that faults is rolled back, but its promise is spent
          let settled := w.settle index promise succeeded returned
          match runCallback chain time succeeded promise.callback settled with
          | .ok next => .ok next
          | .error _ => .ok settled
  | .receiveEgld amount => pure { w with egld := w.egld + amount }

end XCron.Vault
