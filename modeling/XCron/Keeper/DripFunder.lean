import XCron.Keeper.Transaction
import XCron.Platform.Cells
import XCron.Platform.Trace
import XCron.Platform.U128

/-!
# The drip funder

`xcron-keeper-rs/src/drip_funder.rs`: the keeper activates fresh stealth addresses with a
small transfer, under a daily cap. A drip is counted when it is approved and taken back
when its broadcast fails; between the two the attempt waits for the network, other
attempts run, and the day may end. An attempt that fails while it waits for its nonce is
not taken back, and one that is taken back late is taken from the wrong day.
-/

namespace XCron.Keeper

open Platform Outcome

/-! ## The funder -/

structure DripFunder where
  activationAmount : Text
  minThreshold : U128
  maxDailyDripCap : U128
  dailyAccumulator : U128
  lastResetTimestamp : UInt64

inductive DripError where
  | dailyLimitExceeded (limit current requested : U128)
  | network

inductive AccountResponse where
  | account (balance : Text) (nonce : UInt64)
  | malformed
  | notFound
  | otherStatus
  | unreachable

namespace DripFunder

def isFresh (funder : DripFunder) : AccountResponse → Bool
  | .account balance nonce => ((parseU128 balance).getD 0) < funder.minThreshold ∧ nonce = 0
  | .malformed => false
  | .notFound => true
  | .otherStatus => false
  | .unreachable => true

def dripAmt (funder : DripFunder) : U128 := (parseU128 funder.activationAmount).getD 0

def windowElapsed (now : UInt64) (funder : DripFunder) : Bool :=
  funder.lastResetTimestamp = 0 ∨ funder.lastResetTimestamp + 86400 ≤ now

def roll (now : UInt64) (funder : DripFunder) : DripFunder :=
  if funder.windowElapsed now then { funder with dailyAccumulator := 0, lastResetTimestamp := now }
  else funder

/-- `check_and_increment_drip`, for the time that it has read. -/
def checkAndIncrementDrip (now : UInt64) (amount : U128) (funder : DripFunder) :
    Except DripError Unit × DripFunder :=
  let funder := funder.roll now
  if funder.maxDailyDripCap < funder.dailyAccumulator + amount then
    (.error (.dailyLimitExceeded funder.maxDailyDripCap funder.dailyAccumulator amount), funder)
  else (.ok (), { funder with dailyAccumulator := funder.dailyAccumulator + amount })

def revert (amount : U128) (funder : DripFunder) : DripFunder :=
  if amount ≤ funder.dailyAccumulator then
    { funder with dailyAccumulator := funder.dailyAccumulator - amount }
  else funder

end DripFunder

/-! ## Attempts -/

/-- How far a call of `ensure_stealth_activated` has come. The window of its approval is
bookkeeping, read by no step. -/
inductive Stage where
  | sampled (now : UInt64)
  | approved (window : Nat)
  | signed (window : Nat) (fundingTx : Transaction)
  | broadcast (window : Nat) (txHash : Text)
  | ended (result : Except DripError Bool)

structure Attempt where
  stealth : Text
  dripWallet : Text
  dripAmt : U128
  stage : Stage

/-- One funder, the clock, and the calls that share them. The number of the window counts
the resets. -/
structure Drips where
  funder : DripFunder
  clock : UInt64
  attempts : Cells Nat Attempt
  window : Nat

namespace Drips

def record (id : Nat) (attempt : Attempt) (w : Drips) : Drips :=
  { w with attempts := w.attempts.set id attempt }

def fundingTx (funder : DripFunder) (attempt : Attempt) (nonce : UInt64) : Transaction :=
  .new nonce funder.activationAmount attempt.stealth attempt.dripWallet 1000000000 50000 none
    (ascii "T") 1

def query (id : Nat) (stealth dripWallet : Text) (response : AccountResponse) (w : Drips) : Drips :=
  w.record id
    { stealth := stealth
      dripWallet := dripWallet
      dripAmt := w.funder.dripAmt
      stage := if w.funder.isFresh response then .sampled w.clock else .ended (.ok false) }

def windowAt (now : UInt64) (w : Drips) : Nat :=
  if w.funder.windowElapsed now then w.window + 1 else w.window

def check (id : Nat) (attempt : Attempt) (now : UInt64) (w : Drips) : Drips :=
  let (result, funder) := w.funder.checkAndIncrementDrip now attempt.dripAmt
  let stage := match result with
    | .ok _ => .approved (w.windowAt now)
    | .error refused => .ended (.error refused)
  { w.record id { attempt with stage := stage } with funder := funder, window := w.windowAt now }

def fetchNonce (id : Nat) (attempt : Attempt) (window : Nat) (nonce : Option UInt64) (w : Drips) :
    Drips :=
  let stage := match nonce with
    | some nonce => .signed window (fundingTx w.funder attempt nonce)
    | none => .ended (.error .network)
  w.record id { attempt with stage := stage }

def broadcast (id : Nat) (attempt : Attempt) (window : Nat) (txHash : Option Text) (w : Drips) :
    Drips :=
  match txHash with
  | some txHash => w.record id { attempt with stage := .broadcast window txHash }
  | none =>
      { w.record id { attempt with stage := .ended (.error .network) } with
        funder := w.funder.revert attempt.dripAmt }

/-- What can happen next: time passes, a call begins, or one of the calls goes on. -/
inductive Step where
  | tick (now : UInt64)
  | query (id : Nat) (stealth dripWallet : Text) (response : AccountResponse)
  | check (id : Nat)
  | fetchNonce (id : Nat) (nonce : Option UInt64)
  | broadcast (id : Nat) (txHash : Option Text)

def step (w : Drips) : Step → Outcome Drips
  | .tick now => do
      ensure (w.clock ≤ now)
      pure { w with clock := now }
  | .query id stealth dripWallet response =>
      match w.attempts.get? id with
      | none => pure (w.query id stealth dripWallet response)
      | some _ => .error .rejected
  | .check id => do
      let attempt ← load (w.attempts.get? id)
      match attempt.stage with
      | .sampled now => pure (w.check id attempt now)
      | _ => .error .rejected
  | .fetchNonce id nonce => do
      let attempt ← load (w.attempts.get? id)
      match attempt.stage with
      | .approved window => pure (w.fetchNonce id attempt window nonce)
      | _ => .error .rejected
  | .broadcast id txHash => do
      let attempt ← load (w.attempts.get? id)
      match attempt.stage with
      | .signed window _ => pure (w.broadcast id attempt window txHash)
      | _ => .error .rejected

/-- A funder that has approved nothing yet. -/
structure Fresh (w : Drips) : Prop where
  unspent : w.funder.dailyAccumulator = 0
  untouched : w.funder.lastResetTimestamp = 0
  idle : w.attempts = .empty
  first : w.window = 0

end Drips

end XCron.Keeper
