import XCron.Platform.Bytes
import XCron.Platform.Outcome
import XCron.Platform.Sha256

/-!
# Calls as the virtual machine delivers them

What a contract can read about the call that runs it, and the facts the chain
guarantees about every call it delivers.
-/

namespace Platform

structure EsdtPayment where
  token : Bytes
  nonce : Nat
  amount : Nat
  deriving DecidableEq

structure CallContext where
  caller : Bytes32
  egldValue : Nat
  esdtTransfers : List EsdtPayment
  blockTimestamp : UInt64
  blockRound : UInt64
  blockRandomSeed : Bytes
  gasLeft : UInt64

/-- What does not change while a contract is deployed. The hash is a parameter:
contract results hold for every function, and runs on concrete inputs use
`Platform.sha256`. -/
structure Chain where
  sha256 : Bytes → Bytes32
  shardOf : Bytes32 → UInt32
  scAddress : Bytes32
  ownerAddress : Bytes32
  /-- A token identifier is issued either as fungible (nonce zero) or not. -/
  fungible : Bytes → Bool

def sampleChain : Chain :=
  { sha256 := sha256
    shardOf := fun _ => 0
    scAddress := .fill 1
    ownerAddress := .fill 2
    fungible := fun token => token = [70] }

/-- A payment that can exist: a positive amount, of nonce zero exactly when the
token is fungible. -/
def EsdtPayment.Genuine (chain : Chain) (payment : EsdtPayment) : Prop :=
  0 < payment.amount ∧ (payment.nonce = 0 ↔ chain.fungible payment.token = true)

instance (chain : Chain) (payment : EsdtPayment) : Decidable (payment.Genuine chain) :=
  inferInstanceAs (Decidable (_ ∧ _))

/-- The chain never runs a call from the zero address, moves only genuine
payments, and a contract attaches no value to a call of itself. -/
def CallContext.Delivered (chain : Chain) (call : CallContext) : Prop :=
  call.caller ≠ Bytes32.zero ∧
    (∀ payment ∈ call.esdtTransfers, payment.Genuine chain) ∧
    (call.caller = chain.scAddress → call.egldValue = 0 ∧ call.esdtTransfers = [])

instance (chain : Chain) (call : CallContext) : Decidable (call.Delivered chain) :=
  inferInstanceAs (Decidable (_ ∧ _ ∧ (_ → _)))

namespace CallContext

def notPayable (call : CallContext) : Outcome Unit :=
  ensure (call.egldValue = 0 ∧ call.esdtTransfers = [])

def payableEgld (call : CallContext) : Outcome Unit := ensure (call.esdtTransfers = [])

def onlyOwner (chain : Chain) (call : CallContext) : Outcome Unit :=
  ensure (call.caller = chain.ownerAddress)

/-- `egld()`: the attached EGLD, provided that nothing else came with the call. -/
def egld (call : CallContext) : Outcome Nat :=
  match call.esdtTransfers with
  | [] => .ok call.egldValue
  | [_] =>
      if call.egldValue = 0 then .error (.signal "function does not accept ESDT payment")
      else .error (.signal "incorrect number of transfers")
  | _ => .error (.signal "incorrect number of transfers")

theorem egld_eq_ok {call : CallContext} {value : Nat} :
    call.egld = .ok value ↔ call.esdtTransfers = [] ∧ call.egldValue = value := by
  unfold egld
  split
  next none => simp [none]
  next payment single =>
    split <;> simp [single]
  next some _ =>
    simp only [reduceCtorEq, false_iff, not_and]
    exact fun none => (some none).elim

/-- `all_esdt_transfers()`: tokens may not come together with EGLD. -/
def allEsdtTransfers (call : CallContext) : Outcome (List EsdtPayment) := do
  ensure (call.egldValue = 0 ∨ call.esdtTransfers = [])
  pure call.esdtTransfers

theorem allEsdtTransfers_ok {call : CallContext} {payments : List EsdtPayment}
    (received : call.allEsdtTransfers = .ok payments) : call.esdtTransfers = payments := by
  simp only [allEsdtTransfers, Outcome.bind_eq_ok, Outcome.pure_eq_ok] at received
  obtain ⟨_, _, same⟩ := received
  exact same

def singleFungibleEsdt (call : CallContext) : Outcome (Bytes × Nat) := do
  match ← call.allEsdtTransfers with
  | [payment] => if payment.nonce = 0 then pure (payment.token, payment.amount) else .error .rejected
  | _ => .error .rejected

/-- A call without any value that the chain delivers. -/
structure Plain (call : CallContext) (chain : Chain) : Prop where
  delivered : call.Delivered chain
  noEgld : call.egldValue = 0
  noEsdt : call.esdtTransfers = []

theorem Plain.notPayable {chain : Chain} {call : CallContext} (plain : call.Plain chain)
    (u : Unit) : call.notPayable = .ok u :=
  (Outcome.ensure_eq_ok _ _).mpr ⟨plain.noEgld, plain.noEsdt⟩

end CallContext

end Platform
