import XCron.Scheduler.Storage

/-!
# Clone keys

`clone_keys.rs`: a main wallet funds a disposable wallet that may schedule and
cancel tasks in its name, within a spend limit and until an expiry time.
-/

namespace XCron.Scheduler

open Platform

/-- `resolve_caller`: a live clone key acts for its main wallet, everyone else
for themselves. -/
def resolveCaller (call : CallContext) (w : World) : Address × Bool :=
  match w.cloneKeyProps.get? call.caller with
  | none => (call.caller, false)
  | some props =>
      if props.expiryTimestamp ≤ call.blockTimestamp then (call.caller, false)
      else (props.mainAddress, true)

def chargeCloneKey (call : CallContext) (cloneAddress : Address) (amount : Nat) (w : World) :
    Outcome World := do
  let props ← load (w.cloneKeyProps.get? cloneAddress)
  require (call.blockTimestamp < props.expiryTimestamp) "Clone-Key has expired"
  require (props.spentAmount + amount ≤ props.spendLimit) "Clone-Key spend limit exceeded"
  pure { w with
    cloneKeyProps := w.cloneKeyProps.set cloneAddress
      { props with spentAmount := props.spentAmount + amount } }

/-- `authorizeCloneKey`. The clone address is whatever the caller names: its
holder is not asked. -/
def authorizeCloneKey (call : CallContext) (cloneAddress : Address) (ttlSeconds : UInt64)
    (w : World) : Outcome World := do
  w.requireNotPaused
  require (0 < call.egldValue) "Must deposit EGLD as spend limit"
  require (call.egldValue ≤ Constants.maxCloneKeySpendLimit) "Spend limit exceeds maximum (2 EGLD)"
  require (Constants.minCloneKeyTtlSeconds ≤ ttlSeconds) "TTL too short (minimum 1 hour)"
  require (ttlSeconds ≤ Constants.maxCloneKeyTtlSeconds) "TTL too long (maximum 30 days)"
  require (cloneAddress ≠ call.caller) "Cannot authorize self as Clone-Key"
  require (w.cloneKeyProps.get? cloneAddress = none) "Clone-Key already authorized"
  require ((w.walletCloneKeys call.caller).card < Constants.maxCloneKeysPerWallet)
    "Too many Clone-Keys (max 3)"
  let expiry := call.blockTimestamp + ttlSeconds
  pure ({ w with
    cloneKeyProps := w.cloneKeyProps.set cloneAddress
      { mainAddress := call.caller
        spendLimit := call.egldValue
        spentAmount := 0
        expiryTimestamp := expiry }
    walletCloneKeys := Function.update w.walletCloneKeys call.caller
      (insert cloneAddress (w.walletCloneKeys call.caller)) }.emit
    (.cloneKeyAuthorized call.caller cloneAddress expiry call.egldValue))

/-- `revokeCloneKey`: the unspent budget goes back to the main wallet. -/
def revokeCloneKey (chain : Chain) (call : CallContext) (cloneAddress : Address) (w : World) :
    Outcome World := do
  require (w.cloneKeyProps.get? cloneAddress ≠ none) "Clone-Key not found"
  let props ← load (w.cloneKeyProps.get? cloneAddress)
  require (props.mainAddress = call.caller) "Not the owner of this Clone-Key"
  let refund := if props.spentAmount < props.spendLimit then props.spendLimit - props.spentAmount
    else 0
  let w := { w with
    cloneKeyProps := w.cloneKeyProps.clear cloneAddress
    walletCloneKeys := Function.update w.walletCloneKeys call.caller
      ((w.walletCloneKeys call.caller).erase cloneAddress) }
  let w ← w.directEgldIfPositive chain call.caller refund
  pure (w.emit (.cloneKeyRevoked call.caller cloneAddress refund))

def fundCloneKey (call : CallContext) (cloneAddress : Address) (w : World) : Outcome World := do
  w.requireNotPaused
  require (0 < call.egldValue) "Must send EGLD"
  require (w.cloneKeyProps.get? cloneAddress ≠ none) "Clone-Key not found"
  let props ← load (w.cloneKeyProps.get? cloneAddress)
  require (props.mainAddress = call.caller) "Not the owner of this Clone-Key"
  require (call.blockTimestamp < props.expiryTimestamp)
    "Clone-Key has expired — revoke and create a new one"
  require (props.spendLimit + call.egldValue ≤ Constants.maxCloneKeySpendLimit)
    "New spend limit would exceed maximum (2 EGLD)"
  pure ({ w with
    cloneKeyProps := w.cloneKeyProps.set cloneAddress
      { props with spendLimit := props.spendLimit + call.egldValue } }.emit
    (.cloneKeyFunded cloneAddress call.egldValue))

end XCron.Scheduler
