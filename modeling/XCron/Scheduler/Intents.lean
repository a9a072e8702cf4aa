import XCron.Scheduler.Execution

/-!
# Intents

`intents.rs`: an owner locks a token and an EGLD fee; a whitelisted keeper who
delivers what the owner asks for gets both, and the owner may take them back
while the intent is pending. The three families share their bookkeeping and
differ in the terms they ask for.
-/

namespace XCron.Scheduler

open Platform

namespace IntentBook

variable {Terms : Type}

def create (book : IntentBook Terms) (owner : Address) (payment : EsdtPayment) (terms : Terms)
    (deadline : UInt64) (fee : Nat) : IntentBook Terms :=
  { nonce := book.nonce + 1
    byId := book.byId.set (book.nonce + 1)
      { id := book.nonce + 1
        owner := owner
        tokenIn := payment.token
        amountIn := payment.amount
        terms := terms
        deadline := deadline
        fee := fee
        status := .pending
        settledBy := none } }

def cancel (book : IntentBook Terms) (caller : Address) (id : Nat) :
    Outcome (IntentRecord Terms × IntentBook Terms) := do
  let intent ← load (book.byId.get? id)
  require (intent.owner = caller) "Only owner can cancel"
  require (intent.status = .pending) "Intent not pending"
  pure (intent, { book with byId := book.byId.set id { intent with status := .cancelled } })

/-- The status and deadline checks of the three settling endpoints. -/
def pendingIntent (book : IntentBook Terms) (call : CallContext) (id : Nat) :
    Outcome (IntentRecord Terms) := do
  let intent ← load (book.byId.get? id)
  require (intent.status = .pending) "XCRON-PROTECT: Intent not pending"
  require (call.blockTimestamp ≤ intent.deadline) "XCRON-PROTECT: Intent expired"
  pure intent

def settle (book : IntentBook Terms) (id : Nat) (intent : IntentRecord Terms) (keeper : Address) :
    IntentBook Terms :=
  { book with
    byId := book.byId.set id { intent with status := .settled, settledBy := some keeper } }

end IntentBook

/-- `all_esdt_transfers()` with the check that there is exactly one. -/
def singleTransfer (call : CallContext) (message : String) : Outcome EsdtPayment := do
  match ← call.allEsdtTransfers with
  | [payment] => pure payment
  | _ => .error (.signal message)

def checkDeadline (call : CallContext) (deadline : UInt64) (unitMessage : String) :
    Outcome Unit := do
  require (deadline < 10000000000) unitMessage
  require (call.blockTimestamp < deadline) "XCRON-PROTECT: Deadline must be in the future"

/-- Pay out what an intent locks: its token, always as nonce zero, and its fee. -/
def payOut {Terms : Type} (chain : Chain) (receiver : Address) (intent : IntentRecord Terms)
    (w : World) : Outcome World := do
  let w ← w.directEsdt chain receiver intent.tokenIn 0 intent.amountIn
  w.directEgldIfPositive chain receiver intent.fee

def createIntent (call : CallContext) (tokenOut : TokenIdentifier) (minReturn : Nat)
    (deadline : UInt64) (solverFee : Nat) (w : World) : Outcome World := do
  w.requireNotPaused
  let egldPayment ← call.egld
  require (egldPayment = solverFee)
    "XCRON-PROTECT: EGLD adjunto debe coincidir exactamente con el solver_fee"
  let payment ← singleTransfer call "Must receive exactly 1 ESDT token"
  require (0 < payment.amount) "Amount in must be greater than 0"
  require (w.acceptedPaymentTokens payment.token = true)
    "XCRON-PROTECT: Token is not in the strict Whitelist. Poisoned Token Attack blocked."
  checkDeadline call deadline
    "XCRON-PROTECT: Deadline debe estar en segundos (Linux Epoch), no en milisegundos"
  pure ({ w with
    intents := w.intents.create call.caller payment ⟨tokenOut, minReturn⟩ deadline solverFee }.emit
    (.intentCreated (w.intents.nonce + 1) call.caller))

def cancelIntent (chain : Chain) (call : CallContext) (id : Nat) (w : World) : Outcome World := do
  let (intent, book) ← w.intents.cancel call.caller id
  payOut chain call.caller intent { w with intents := book }

def solveIntent (chain : Chain) (call : CallContext) (id : Nat) (w : World) : Outcome World := do
  w.requireRegisteredKeeper call.caller
  let intent ← w.intents.pendingIntent call id
  let (paymentToken, paymentAmount) ← call.singleFungibleEsdt
  require (paymentToken = intent.terms.tokenOut)
    "XCRON-PROTECT: Token invalido aportado por el Solver"
  require (intent.terms.minReturn ≤ paymentAmount)
    "XCRON-PROTECT: Slippage no cumplido (Zero-Score Hack evitado)"
  let w := { w with intents := w.intents.settle id intent call.caller }
  let w ← w.directEsdt chain intent.owner paymentToken 0 paymentAmount
  payOut chain call.caller intent w

def createMultiIntent (call : CallContext) (outcomes : List MultiIntentOutcome)
    (deadline : UInt64) (solverFee : Nat) (w : World) : Outcome World := do
  w.requireNotPaused
  let egldPayment ← call.egld
  require (egldPayment = solverFee) "XCRON-PROTECT: EGLD payment must match solver_fee"
  let payment ← singleTransfer call "Must receive exactly 1 ESDT token as input"
  require (w.acceptedPaymentTokens payment.token = true)
    "XCRON-PROTECT: Input token not whitelisted"
  require (0 < outcomes.length) "XCRON-PROTECT: Outcomes cannot be empty"
  require (outcomes.length ≤ 5) "XCRON-PROTECT: Too many outcomes (max 5)"
  require ((outcomes.map MultiIntentOutcome.tokenOut).Nodup)
    "XCRON-PROTECT: Duplicate tokens in MultiIntent outcomes not allowed"
  checkDeadline call deadline "XCRON-PROTECT: Deadline must be in seconds"
  pure ({ w with
    multiIntents := w.multiIntents.create call.caller payment outcomes deadline solverFee }.emit
    (.multiIntentCreated (w.multiIntents.nonce + 1) call.caller))

def cancelMultiIntent (chain : Chain) (call : CallContext) (id : Nat) (w : World) :
    Outcome World := do
  let (intent, book) ← w.multiIntents.cancel call.caller id
  payOut chain call.caller intent { w with multiIntents := book }

/-- The loop of `solve_multi_intent` that matches payments and outcomes in
order. -/
def checkOutcomes : Nat → List MultiIntentOutcome → List EsdtPayment → Outcome Unit
  | index, outcome :: outcomes, payment :: payments => do
      require (payment.token = outcome.tokenOut)
        ("XCRON-PROTECT: Token mismatch at index " ++ toString index)
      require (outcome.minReturn ≤ payment.amount)
        ("XCRON-PROTECT: Slippage condition failed at index " ++ toString index)
      checkOutcomes (index + 1) outcomes payments
  | _, _, _ => pure ()

/-- The loop that hands every payment to the owner, as nonce zero. -/
def deliverPayments (chain : Chain) (owner : Address) : List EsdtPayment → World → Outcome World
  | [], w => pure w
  | payment :: payments, w => do
      let w ← w.directEsdt chain owner payment.token 0 payment.amount
      deliverPayments chain owner payments w

def solveMultiIntent (chain : Chain) (call : CallContext) (id : Nat) (w : World) :
    Outcome World := do
  w.requireRegisteredKeeper call.caller
  let intent ← w.multiIntents.pendingIntent call id
  let payments ← call.allEsdtTransfers
  require (payments.length = intent.terms.length)
    "XCRON-PROTECT: Number of tokens doesn't match requirements"
  checkOutcomes 0 intent.terms payments
  let w := { w with multiIntents := w.multiIntents.settle id intent call.caller }
  let w := w.emit (.multiIntentSettled id call.caller)
  let w ← deliverPayments chain intent.owner payments w
  payOut chain call.caller intent w

/-- `createPreCognitiveIntent`. There is no token whitelist here. -/
def createPreCognitiveIntent (call : CallContext) (merkleRoot : Bytes32) (deadline : UInt64)
    (keeperFee : Nat) (w : World) : Outcome World := do
  w.requireNotPaused
  let egldPayment ← call.egld
  require (egldPayment = keeperFee)
    "XCRON-PROTECT: EGLD adjunto debe coincidir exactamente con el keeper_fee"
  let payment ← singleTransfer call "Must receive exactly 1 ESDT token"
  require (0 < payment.amount) "Amount in must be greater than 0"
  checkDeadline call deadline "XCRON-PROTECT: Deadline must be in Linux Epoch seconds"
  pure { w with
    preCognitiveIntents :=
      w.preCognitiveIntents.create call.caller payment merkleRoot deadline keeperFee }

def cancelPreCognitiveIntent (chain : Chain) (call : CallContext) (id : Nat) (w : World) :
    Outcome World := do
  let (intent, book) ← w.preCognitiveIntents.cancel call.caller id
  payOut chain call.caller intent { w with preCognitiveIntents := book }

structure Leaf where
  targetContract : Address
  targetEndpoint : Bytes
  targetArgs : List Bytes
  expectedTokenOut : TokenIdentifier
  minReturn : Nat
  deriving DecidableEq

/-- The buffer that `execute_pre_cognitive_leaf` hashes. Arguments are appended
to it; every other component is top-encoded into it. -/
def Leaf.preimage (leaf : Leaf) : Bytes :=
  let encodedLeaf : Bytes := []
  let encodedLeaf := topEncodeInto leaf.targetContract.val encodedLeaf
  let encodedLeaf := topEncodeInto leaf.targetEndpoint encodedLeaf
  let encodedLeaf := leaf.targetArgs.foldl
    (fun buffer arg => buffer ++ encodeLength arg.length ++ arg) encodedLeaf
  let encodedLeaf := topEncodeInto leaf.expectedTokenOut encodedLeaf
  topEncodeInto (natBytes leaf.minReturn) encodedLeaf

/-- The parent of two nodes in `verify_merkle_proof`: the smaller one first,
after a byte that marks inner nodes. -/
def nodePreimage (current sibling : Bytes32) : Bytes :=
  if lexLess current.val sibling.val then 1 :: (current.val ++ sibling.val)
  else 1 :: (sibling.val ++ current.val)

def verifyMerkleProof (chain : Chain) (leafHash : Bytes32) (proof : List Bytes32) (root : Bytes32) :
    Bool :=
  proof.foldl (fun current sibling => chain.sha256 (nodePreimage current sibling)) leafHash = root

def executePreCognitiveLeaf (chain : Chain) (call : CallContext) (id : Nat)
    (merkleProof : List Bytes32) (leaf : Leaf) (w : World) : Outcome World := do
  w.requireRegisteredKeeper call.caller
  let intent ← w.preCognitiveIntents.pendingIntent call id
  require (verifyMerkleProof chain (chain.sha256 leaf.preimage) merkleProof intent.terms = true)
    "XCRON-PROTECT: Invalid Merkle Proof (Condition not met or AI didn't sign this leaf)"
  let (paymentToken, paymentAmount) ← call.singleFungibleEsdt
  require (paymentToken = leaf.expectedTokenOut) "XCRON-PROTECT: Invalid execution outcome token"
  require (leaf.minReturn ≤ paymentAmount) "XCRON-PROTECT: Slippage condition not matched"
  let w := { w with preCognitiveIntents := w.preCognitiveIntents.settle id intent call.caller }
  let w ← w.directEsdt chain intent.owner paymentToken 0 paymentAmount
  payOut chain call.caller intent w

end XCron.Scheduler
