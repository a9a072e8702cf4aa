import XCron.Common.Types
import XCron.Platform.Holdings
import XCron.Platform.Trace

/-!
# The arbitrage vault

`xcron-hft-vault/src`: the bot sends tokens of the vault through two pools and back. The
first pool decides what is sent to the second, and only the balance of the first token
is compared at the end. EGLD counts as a token under its reserved identifier.
-/

namespace XCron.HftVault

open Platform Outcome

structure Withdrawal where
  receiver : Address
  payment : EsdtPayment
  deriving DecidableEq

structure World where
  isPaused : Bool
  authorizedBot : Address
  holdings : Holdings
  withdrawals : List Withdrawal

def carried (call : CallContext) : List EsdtPayment :=
  ⟨ascii "EGLD-000000", 0, call.egldValue⟩ :: call.esdtTransfers

/-! ## Calls of the pools -/

structure SyncCall where
  receiver : Address
  function : Bytes
  arguments : List Bytes
  payment : EsdtPayment

/-- What a pool sends back, and what it hands to `deposit` of the vault meanwhile. -/
structure PoolResponse where
  payments : List EsdtPayment
  deposits : List EsdtPayment

/-- A pool may answer anything, and may fail. -/
abbrev Pool := SyncCall → Option PoolResponse

/-- `sync_call` with `ReturnsBackTransfersReset`. -/
def World.syncCall (pool : Pool) (sent : SyncCall) (w : World) :
    Outcome (List EsdtPayment × World) := do
  let holdings ← w.holdings.debit sent.payment
  match pool sent with
  | none => .error .rejected
  | some response =>
      pure (response.payments,
        { w with holdings := holdings.credit (response.payments ++ response.deposits) })

structure FlashArbitrage where
  tokenIn : TokenIdentifier
  amountIn : Nat
  poolA : Address
  tokenMid : TokenIdentifier
  poolB : Address
  minMidAmount : Nat
  minFinalAmount : Nat
  endpointB : Bytes

namespace FlashArbitrage

def firstCall (request : FlashArbitrage) : SyncCall :=
  { receiver := request.poolA
    function := ascii "swapTokensFixedInput"
    arguments := [request.tokenMid, natBytes request.minMidAmount]
    payment := ⟨request.tokenIn, 0, request.amountIn⟩ }

def secondCall (request : FlashArbitrage) (midPayment : EsdtPayment) : SyncCall :=
  { receiver := request.poolB
    function := request.endpointB
    arguments := [request.tokenIn, natBytes request.minFinalAmount]
    payment := midPayment }

end FlashArbitrage

def midPaymentOf (tokenMid : TokenIdentifier) (payments : List EsdtPayment) : Outcome EsdtPayment :=
  match payments.find? fun payment => payment.token = tokenMid with
  | some payment => .ok payment
  | none => .error (.signal "Pool A no devolvio el token_mid")

def executeFlashArbitrage (chain : Chain) (call : CallContext) (request : FlashArbitrage)
    (poolA poolB : Pool) (w : World) : Outcome World := do
  require (w.isPaused = false) "Vault pausado por el Owner"
  require (call.caller = w.authorizedBot ∨ call.caller = chain.ownerAddress) "Caller no autorizado"
  let balanceStart := w.holdings request.tokenIn 0
  require (request.amountIn ≤ balanceStart) "Liquidez insuficiente en Vault"
  let (midPayments, w) ← w.syncCall poolA request.firstCall
  require (midPayments ≠ []) "Pool A no devolvio tokens"
  let midPayment ← midPaymentOf request.tokenMid midPayments
  require (midPayment.amount ≠ 0) "Zero value back-transfer recibida (Dust exploit detedted)"
  let (finalPayments, w) ← w.syncCall poolB (request.secondCall midPayment)
  require (finalPayments ≠ []) "Pool B no devolvio tokens"
  let balanceEnd := w.holdings request.tokenIn 0
  require (balanceStart < balanceEnd) "ABORT: Operacion no rentable. Capital protegido."
  -- the subtraction cannot go below zero: the liquidity was checked
  require (balanceStart - request.amountIn + request.minFinalAmount ≤ balanceEnd)
    "ABORT: Ganancia neta por debajo del umbral economico minimo."
  pure w

/-! ## The owner's calls -/

def payCaller (call : CallContext) (payment : EsdtPayment) (w : World) : Outcome World := do
  let holdings ← w.holdings.debit payment
  pure { w with
    holdings := holdings
    withdrawals := w.withdrawals ++ [⟨call.caller, payment⟩] }

def withdraw (call : CallContext) (token : TokenIdentifier) (amount : Nat) (w : World) :
    Outcome World :=
  payCaller call ⟨token, 0, amount⟩ w

def withdrawAll (call : CallContext) (token : TokenIdentifier) (w : World) : Outcome World := do
  require (0 < w.holdings token 0) "No balance to withdraw"
  payCaller call ⟨token, 0, w.holdings token 0⟩ w

def init (botAddress : Address) : World :=
  { isPaused := false
    authorizedBot := botAddress
    holdings := .empty
    withdrawals := [] }

/-! ## Steps -/

/-- What can happen to the vault. The pools of an arbitrage do not call the vault as its
owner or its bot. -/
inductive Step where
  | pause (call : CallContext)
  | unpause (call : CallContext)
  | setAuthorizedBot (call : CallContext) (newBot : Address)
  | deposit (call : CallContext)
  | withdraw (call : CallContext) (token : TokenIdentifier) (amount : Nat)
  | withdrawAll (call : CallContext) (token : TokenIdentifier)
  | executeFlashArbitrage (call : CallContext) (request : FlashArbitrage) (poolA poolB : Pool)
  | upgrade

def step (chain : Chain) (w : World) : Step → Outcome World
  | .pause call => do
      call.notPayable
      call.onlyOwner chain
      pure { w with isPaused := true }
  | .unpause call => do
      call.notPayable
      call.onlyOwner chain
      pure { w with isPaused := false }
  | .setAuthorizedBot call newBot => do
      call.notPayable
      call.onlyOwner chain
      pure { w with authorizedBot := newBot }
  | .deposit call => pure { w with holdings := w.holdings.credit (carried call) }
  | .withdraw call token amount => do
      call.notPayable
      call.onlyOwner chain
      withdraw call token amount w
  | .withdrawAll call token => do
      call.notPayable
      call.onlyOwner chain
      withdrawAll call token w
  | .executeFlashArbitrage call request poolA poolB => do
      call.notPayable
      executeFlashArbitrage chain call request poolA poolB w
  | .upgrade => pure w

end XCron.HftVault
