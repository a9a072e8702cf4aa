import Mathlib.Data.Finset.Basic
import XCron.Common.Types
import XCron.Platform.Call
import XCron.Platform.Cells
import XCron.Platform.Trace

/-!
# The rewards contract

`rewards/src`: schedulers hand in their protocol fees, each of which is split between
the treasury and the keeper that brought it; keepers claim what is theirs, and the owner
withdraws from the treasury. The split is checked by its setter, but not by `init`.
-/

namespace XCron.Rewards

open Platform

structure Config where
  keeperRegistryAddr : Address
  treasurySplitBps : UInt64
  authorizedSchedulers : Finset Address
  paused : Bool
  version : Nat

structure Transfer where
  receiver : Address
  amount : Nat
  deriving DecidableEq

inductive Event where
  | rewardAccrued (taskId : UInt64) (keeper : Address) (amount : Nat)
  | rewardsClaimed (keeper : Address) (amount : Nat)
  | treasuryWithdrawn (receiver : Address) (amount : Nat)
  deriving DecidableEq

structure Credit where
  caller : Address
  keeper : Address
  treasuryCut : Nat
  keeperBonus : Nat
  deriving DecidableEq

def Credit.total (credit : Credit) : Nat := credit.treasuryCut + credit.keeperBonus

/-- The storage; `ledger` is bookkeeping, read by no endpoint. -/
structure World where
  config : Config
  treasuryBalance : Nat
  pendingRewards : Cells Address Nat
  egld : Nat
  sent : List Transfer
  events : List Event
  ledger : List Credit

namespace World

def emit (event : Event) (w : World) : World := { w with events := w.events ++ [event] }

def pay (chain : Chain) (receiver : Address) (amount : Nat) (w : World) : World :=
  { w with
    egld := if receiver = chain.scAddress then w.egld else w.egld - amount
    sent := w.sent ++ [⟨receiver, amount⟩] }

def directEgld (chain : Chain) (receiver : Address) (amount : Nat) (w : World) : Outcome World :=
  if amount ≤ w.egld then .ok (w.pay chain receiver amount) else .error .egldShortage

def requireNotPaused (w : World) : Outcome Unit :=
  require (w.config.paused = false) "Contract is paused"

def requireSchedulerCaller (chain : Chain) (call : CallContext) (w : World) : Outcome Unit :=
  require (call.caller ∈ w.config.authorizedSchedulers ∨ call.caller = chain.ownerAddress)
    "Not authorized"

end World

def bigUintSub (minuend subtrahend : Nat) : Outcome Nat := do
  require (subtrahend ≤ minuend) "cannot subtract because result would be negative"
  pure (minuend - subtrahend)

/-! ## Endpoints -/

def treasuryCut (splitBps : UInt64) (fee : Nat) : Nat :=
  fee * splitBps.toNat / Constants.bpsDenominator

/-- `receive_execution_fee`. It is not stopped by `pause`. -/
def receiveExecutionFee (chain : Chain) (call : CallContext) (keeper : Address) (taskId : UInt64)
    (w : World) : Outcome World := do
  w.requireSchedulerCaller chain call
  let fee := call.egldValue
  let cut := treasuryCut w.config.treasurySplitBps fee
  let bonus ← bigUintSub fee cut
  pure ({ w with
    treasuryBalance := w.treasuryBalance + cut
    pendingRewards := w.pendingRewards.set keeper (w.pendingRewards.amount keeper + bonus)
    ledger := w.ledger ++ [Credit.mk call.caller keeper cut bonus] }.emit
    (.rewardAccrued taskId keeper bonus))

def claimRewards (chain : Chain) (call : CallContext) (w : World) : Outcome World := do
  w.requireNotPaused
  let amount := w.pendingRewards.amount call.caller
  require (0 < amount) "No pending rewards"
  let w := { w with pendingRewards := w.pendingRewards.clear call.caller }
  let w ← w.directEgld chain call.caller amount
  pure (w.emit (.rewardsClaimed call.caller amount))

def withdrawTreasury (chain : Chain) (receiver : Address) (amount : Nat) (w : World) :
    Outcome World := do
  require (amount ≤ w.treasuryBalance) "Insufficient treasury"
  let w := { w with treasuryBalance := w.treasuryBalance - amount }
  let w ← w.directEgld chain receiver amount
  pure (w.emit (.treasuryWithdrawn receiver amount))

/-! ## Configuration -/

inductive ConfigCall where
  | setTreasurySplitBps (value : UInt64)
  | setKeeperRegistryAddr (addr : Address)
  | addAuthorizedScheduler (addr : Address)
  | removeAuthorizedScheduler (addr : Address)
  | pause
  | unpause
  | upgrade

def Config.apply (c : Config) : ConfigCall → Outcome Config
  | .setTreasurySplitBps value => do
      require (value.toNat ≤ Constants.bpsDenominator) "Split exceeds 100%"
      pure { c with treasurySplitBps := value }
  | .setKeeperRegistryAddr addr => pure { c with keeperRegistryAddr := addr }
  | .addAuthorizedScheduler addr =>
      pure { c with authorizedSchedulers := insert addr c.authorizedSchedulers }
  | .removeAuthorizedScheduler addr =>
      pure { c with authorizedSchedulers := c.authorizedSchedulers.erase addr }
  | .pause => pure { c with paused := true }
  | .unpause => pure { c with paused := false }
  -- `set_if_empty` writes a zero over an empty treasury, which reads as zero already
  | .upgrade => pure { c with version := c.version + 1 }

/-- `init`: any split is accepted. -/
def init (keeperRegistry : Address) (treasurySplitBps : UInt64) : World :=
  { config :=
      { keeperRegistryAddr := keeperRegistry
        treasurySplitBps := treasurySplitBps
        authorizedSchedulers := ∅
        paused := false
        version := 1 }
    treasuryBalance := 0
    pendingRewards := .empty
    egld := 0
    sent := []
    events := []
    ledger := [] }

def Deployed (w : World) : Prop :=
  ∃ keeperRegistry treasurySplitBps, init keeperRegistry treasurySplitBps = w

/-! ## Steps -/

inductive Step where
  | receiveExecutionFee (call : CallContext) (keeper : Address) (taskId : UInt64)
  | claimRewards (call : CallContext)
  | withdrawTreasury (call : CallContext) (receiver : Address) (amount : Nat)
  | configure (call : CallContext) (change : ConfigCall)
  | receiveEgld (amount : Nat)

def Step.call? : Step → Option CallContext
  | .receiveExecutionFee call _ _ | .claimRewards call | .withdrawTreasury call _ _
  | .configure call _ => some call
  | .receiveEgld _ => none

def body (chain : Chain) : Step → World → Outcome World
  | .receiveExecutionFee call keeper taskId, w => do
      call.payableEgld
      receiveExecutionFee chain call keeper taskId w
  | .claimRewards call, w => do
      call.notPayable
      claimRewards chain call w
  | .withdrawTreasury call receiver amount, w => do
      call.notPayable
      call.onlyOwner chain
      withdrawTreasury chain receiver amount w
  | .configure call change, w => do
      call.notPayable
      call.onlyOwner chain
      let config ← w.config.apply change
      pure { w with config := config }
  | .receiveEgld amount, w => pure { w with egld := w.egld + amount }

def World.credit (call : CallContext) (w : World) : World :=
  { w with egld := w.egld + call.egldValue }

def step (chain : Chain) (w : World) (move : Step) : Outcome World :=
  match move.call? with
  | some call => do
      ensure (call.Delivered chain)
      body chain move (w.credit call)
  | none => body chain move w

/-! ## What is credited -/

variable {chain : Chain} {w next : World} {move : Step}

theorem bigUintSub_eq_ok {minuend subtrahend difference : Nat} :
    bigUintSub minuend subtrahend = .ok difference ↔
      subtrahend ≤ minuend ∧ minuend - subtrahend = difference := by
  simp only [bigUintSub, Outcome.bind_eq_ok, Outcome.require_eq_ok, Outcome.pure_eq_ok,
    exists_const]

theorem directEgld_eq_ok {receiver : Address} {amount : Nat} :
    w.directEgld chain receiver amount = .ok next ↔
      amount ≤ w.egld ∧ w.pay chain receiver amount = next := by
  unfold World.directEgld
  split
  next covered => simp [covered]
  next short => simp [short]

/-- The checks that a call of `receive_execution_fee` has to pass. -/
structure Accepts (chain : Chain) (w : World) (call : CallContext) : Prop where
  scheduler : call.caller ∈ w.config.authorizedSchedulers ∨ call.caller = chain.ownerAddress
  split : treasuryCut w.config.treasurySplitBps call.egldValue ≤ call.egldValue

instance (chain : Chain) (w : World) (call : CallContext) : Decidable (Accepts chain w call) :=
  decidable_of_iff
    ((call.caller ∈ w.config.authorizedSchedulers ∨ call.caller = chain.ownerAddress) ∧
      treasuryCut w.config.treasurySplitBps call.egldValue ≤ call.egldValue)
    ⟨fun ⟨scheduler, split⟩ => ⟨scheduler, split⟩, fun ⟨scheduler, split⟩ => ⟨scheduler, split⟩⟩

def World.split (call : CallContext) (keeper : Address) (w : World) : Credit :=
  { caller := call.caller
    keeper := keeper
    treasuryCut := treasuryCut w.config.treasurySplitBps call.egldValue
    keeperBonus := call.egldValue - treasuryCut w.config.treasurySplitBps call.egldValue }

def World.received (call : CallContext) (keeper : Address) (taskId : UInt64) (w : World) : World :=
  { w with
    treasuryBalance := w.treasuryBalance + (w.split call keeper).treasuryCut
    pendingRewards := w.pendingRewards.set keeper
      (w.pendingRewards.amount keeper + (w.split call keeper).keeperBonus)
    ledger := w.ledger ++ [w.split call keeper] }.emit
    (.rewardAccrued taskId keeper (w.split call keeper).keeperBonus)

theorem receiveExecutionFee_eq_ok {call : CallContext} {keeper : Address} {taskId : UInt64} :
    receiveExecutionFee chain call keeper taskId w = .ok next ↔
      Accepts chain w call ∧ w.received call keeper taskId = next := by
  simp only [receiveExecutionFee, World.requireSchedulerCaller, Outcome.bind_eq_ok,
    Outcome.require_eq_ok, bigUintSub_eq_ok, Outcome.pure_eq_ok]
  constructor
  · rintro ⟨_, scheduler, _, ⟨split, rfl⟩, rfl⟩
    exact ⟨⟨scheduler, split⟩, rfl⟩
  · rintro ⟨⟨scheduler, split⟩, rfl⟩
    exact ⟨(), scheduler, _, ⟨split, rfl⟩, rfl⟩

theorem Accepts.total {call : CallContext} (accepts : Accepts chain w call) (keeper : Address) :
    (w.split call keeper).total = call.egldValue :=
  Nat.add_sub_cancel' accepts.split

def World.creditedTo (scheduler : Address) (w : World) : Nat :=
  ((w.ledger.filter (fun credit => credit.caller = scheduler)).map Credit.total).sum

theorem received_creditedTo {scheduler : Address} {call : CallContext} (keeper : Address)
    (taskId : UInt64) (accepts : Accepts chain w call) :
    (w.received call keeper taskId).creditedTo scheduler =
      w.creditedTo scheduler + if call.caller = scheduler then call.egldValue else 0 := by
  have ledger : (w.received call keeper taskId).ledger = w.ledger ++ [w.split call keeper] := rfl
  have caller : (w.split call keeper).caller = call.caller := rfl
  unfold World.creditedTo
  rw [ledger, List.filter_append, List.map_append, List.sum_append]
  by_cases same : call.caller = scheduler
  · simp [caller, same, accepts.total keeper]
  · simp [caller, same]

def Step.feeFrom (scheduler : Address) : Step → Nat
  | .receiveExecutionFee call _ _ => if call.caller = scheduler then call.egldValue else 0
  | _ => 0

def World.claimed (chain : Chain) (call : CallContext) (w : World) : World :=
  ({ w with pendingRewards := w.pendingRewards.clear call.caller }.pay chain call.caller
    (w.pendingRewards.amount call.caller)).emit
    (.rewardsClaimed call.caller (w.pendingRewards.amount call.caller))

theorem claimRewards_eq_ok {call : CallContext} :
    claimRewards chain call w = .ok next ↔
      w.config.paused = false ∧ 0 < w.pendingRewards.amount call.caller ∧
        w.pendingRewards.amount call.caller ≤ w.egld ∧ w.claimed chain call = next := by
  simp only [claimRewards, World.requireNotPaused, Outcome.bind_eq_ok, Outcome.require_eq_ok,
    directEgld_eq_ok, Outcome.pure_eq_ok]
  constructor
  · rintro ⟨_, unpaused, _, positive, _, ⟨covered, rfl⟩, rfl⟩
    exact ⟨unpaused, positive, covered, rfl⟩
  · rintro ⟨unpaused, positive, covered, rfl⟩
    exact ⟨(), unpaused, (), positive, _, ⟨covered, rfl⟩, rfl⟩

def World.withdrew (chain : Chain) (receiver : Address) (amount : Nat) (w : World) : World :=
  ({ w with treasuryBalance := w.treasuryBalance - amount }.pay chain receiver amount).emit
    (.treasuryWithdrawn receiver amount)

theorem withdrawTreasury_eq_ok {receiver : Address} {amount : Nat} :
    withdrawTreasury chain receiver amount w = .ok next ↔
      amount ≤ w.treasuryBalance ∧ amount ≤ w.egld ∧ w.withdrew chain receiver amount = next := by
  simp only [withdrawTreasury, Outcome.bind_eq_ok, Outcome.require_eq_ok, directEgld_eq_ok,
    Outcome.pure_eq_ok]
  constructor
  · rintro ⟨_, within, _, ⟨covered, rfl⟩, rfl⟩
    exact ⟨within, covered, rfl⟩
  · rintro ⟨within, covered, rfl⟩
    exact ⟨(), within, _, ⟨covered, rfl⟩, rfl⟩

theorem step_creditedTo (scheduler : Address) (stepped : step chain w move = .ok next) :
    next.creditedTo scheduler = w.creditedTo scheduler + move.feeFrom scheduler := by
  cases move with
  | receiveExecutionFee call keeper taskId =>
      simp only [step, Step.call?, body, Outcome.bind_eq_ok, receiveExecutionFee_eq_ok] at stepped
      obtain ⟨_, _, _, _, accepts, rfl⟩ := stepped
      exact received_creditedTo keeper taskId accepts
  | claimRewards call =>
      simp only [step, Step.call?, body, Outcome.bind_eq_ok, claimRewards_eq_ok] at stepped
      obtain ⟨_, _, _, _, _, _, _, rfl⟩ := stepped
      rfl
  | withdrawTreasury call receiver amount =>
      simp only [step, Step.call?, body, Outcome.bind_eq_ok, withdrawTreasury_eq_ok] at stepped
      obtain ⟨_, _, _, _, _, _, _, _, rfl⟩ := stepped
      rfl
  | configure call change =>
      simp only [step, Step.call?, body, Outcome.bind_eq_ok, Outcome.pure_eq_ok] at stepped
      obtain ⟨_, _, _, _, _, _, config, _, rfl⟩ := stepped
      rfl
  | receiveEgld amount =>
      simp only [step, Step.call?, body, Outcome.pure_eq_ok] at stepped
      subst stepped
      rfl

end XCron.Rewards
