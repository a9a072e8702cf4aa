import Mathlib.Data.Finset.Basic
import XCron.Common.Types
import XCron.Platform.Call
import XCron.Platform.Cells
import XCron.Platform.Trace

/-!
# The keeper registry

`keeper-registry/src`: keepers stake EGLD, are slashed for failures, and take
their stake back after a cooldown. The owner may lend the stakes to a staking
provider. What a provider does with a call is up to it, within what is assumed
of providers: it takes the value it is sent, gives back principal when asked for
it, and pays rewards on top.
-/

namespace XCron.Registry

open Platform

structure Config where
  minStake : Nat
  slashPctBps : Nat
  cooldownSeconds : UInt64
  treasuryAddr : Address
  authorizedCallers : Finset Address
  stakingProviderAddr : Option Address
  paused : Bool
  version : Nat

structure Transfer where
  receiver : Address
  amount : Nat
  deriving DecidableEq

inductive Event where
  | keeperRegistered (keeper : Address)
  | keeperUnregistered (keeper : Address)
  | keeperSlashed (keeper : Address) (amount : Nat) (reason : Bytes)

/-- The storage, and from `egld` on what the chain knows of the contract. -/
structure World where
  config : Config
  keepers : Cells Address KeeperInfo
  activeKeeperSet : Finset Address
  unstakeRequestTime : Address → UInt64
  slashedPendingUnbond : Cells Address Nat
  totalCommittedCooldownEgld : Nat
  totalYieldGenerated : Nat
  egld : Nat
  principal : Cells Address Nat
  sent : List Transfer
  events : List Event

namespace World

def emit (event : Event) (w : World) : World := { w with events := w.events ++ [event] }

def pay (chain : Chain) (receiver : Address) (amount : Nat) (w : World) : World :=
  { w with
    egld := if receiver = chain.scAddress then w.egld else w.egld - amount
    sent := w.sent ++ [⟨receiver, amount⟩] }

def directEgld (chain : Chain) (receiver : Address) (amount : Nat) (w : World) : Outcome World :=
  if amount ≤ w.egld then .ok (w.pay chain receiver amount) else .error .egldShortage

def requireNotPaused (w : World) : Outcome Unit :=
  require (w.config.paused = false) "Contract is paused"

def requireAuthorizedCaller (chain : Chain) (call : CallContext) (w : World) : Outcome Unit :=
  require (call.caller ∈ w.config.authorizedCallers ∨ call.caller = chain.ownerAddress)
    "Not authorized"

/-- What is left of the committed total once an amount is released: the
subtraction is clamped at zero wherever the source makes it. -/
def releasedCommitment (amount : Nat) (w : World) : Nat :=
  if amount ≤ w.totalCommittedCooldownEgld then w.totalCommittedCooldownEgld - amount else 0

def requireProvider (w : World) : Outcome Address := do
  let provider ← load w.config.stakingProviderAddr
  require (provider ≠ Bytes32.zero) "Staking provider not set"
  pure provider

end World

/-! ## Registration and unstaking -/

def registerKeeper (call : CallContext) (w : World) : Outcome World := do
  w.requireNotPaused
  require (w.keepers.get? call.caller = none) "Keeper already registered"
  require (w.config.minStake ≤ call.egldValue) "Stake below minimum"
  pure ({ w with
    keepers := w.keepers.set call.caller
      { addr := call.caller
        stake := call.egldValue
        registeredAt := call.blockTimestamp
        totalExecutions := 0
        successfulExecs := 0
        failedExecs := 0
        slashedAmount := 0
        active := true
        consecutiveFailures := 0 }
    activeKeeperSet := insert call.caller w.activeKeeperSet }.emit
    (.keeperRegistered call.caller))

/-- `add_stake`. It does not ask whether the keeper is in cooldown. -/
def addStake (call : CallContext) (w : World) : Outcome World := do
  w.requireNotPaused
  require (w.keepers.get? call.caller ≠ none) "Keeper not registered"
  let info ← load (w.keepers.get? call.caller)
  pure ({ w with
    keepers := w.keepers.set call.caller { info with stake := info.stake + call.egldValue } }.emit
    (.keeperRegistered call.caller))

def requestUnstake (call : CallContext) (w : World) : Outcome World := do
  w.requireNotPaused
  let info ← load (w.keepers.get? call.caller)
  require (info.active = true) "Keeper not active"
  pure { w with
    keepers := w.keepers.set call.caller { info with active := false }
    activeKeeperSet := w.activeKeeperSet.erase call.caller
    unstakeRequestTime := Function.update w.unstakeRequestTime call.caller call.blockTimestamp
    totalCommittedCooldownEgld := w.totalCommittedCooldownEgld + info.stake }

/-- The early exit penalty of a withdrawal at a time: five per cent in the first
thirty days. -/
def earlyExitPenalty (info : KeeperInfo) (time : UInt64) : Nat :=
  if time < info.registeredAt + Constants.minKeeperDaysSeconds then
    info.stake * Constants.earlyExitPenaltyBps / Constants.bpsDenominator
  else 0

def payPenalty (chain : Chain) (info : KeeperInfo) (time : UInt64) (w : World) : Outcome World :=
  if time < info.registeredAt + Constants.minKeeperDaysSeconds then
    w.directEgld chain w.config.treasuryAddr (earlyExitPenalty info time)
  else pure w

/-- `withdraw_stake`. Whoever is inactive may withdraw: the request time of a
keeper that never asked reads as zero. -/
def withdrawStake (chain : Chain) (call : CallContext) (w : World) : Outcome World := do
  let info ← load (w.keepers.get? call.caller)
  require (info.active = false) "Must request unstake first"
  require (w.unstakeRequestTime call.caller + w.config.cooldownSeconds ≤ call.blockTimestamp)
    "Cooldown not elapsed"
  let w := { w with totalCommittedCooldownEgld := w.releasedCommitment info.stake }
  let w ← payPenalty chain info call.blockTimestamp w
  let w := { w with
    keepers := w.keepers.clear call.caller
    unstakeRequestTime := Function.update w.unstakeRequestTime call.caller 0 }
  let w ← w.directEgld chain call.caller (info.stake - earlyExitPenalty info call.blockTimestamp)
  pure (w.emit (.keeperUnregistered call.caller))

/-! ## Slashing and reputation -/

def slashOf (stake bps : Nat) : Nat :=
  if stake * bps / Constants.bpsDenominator < stake then stake * bps / Constants.bpsDenominator
  else stake

def slashedInfo (info : KeeperInfo) (amount : Nat) (deactivated : Bool) : KeeperInfo :=
  { info with
    stake := info.stake - amount
    slashedAmount := info.slashedAmount + amount
    active := if deactivated then false else info.active }

/-- The storage writes of a slash. A keeper in cooldown also gives up the share of
the committed total that it lost. -/
def World.slash (keeper : Address) (info : KeeperInfo) (amount : Nat) (deactivated : Bool)
    (w : World) : World :=
  { w with
    keepers := w.keepers.set keeper (slashedInfo info amount deactivated)
    activeKeeperSet := if deactivated then w.activeKeeperSet.erase keeper else w.activeKeeperSet
    totalCommittedCooldownEgld :=
      if (slashedInfo info amount deactivated).active = false ∧ w.unstakeRequestTime keeper ≠ 0 then
        w.releasedCommitment amount
      else w.totalCommittedCooldownEgld }

/-- A slash is sent to the treasury, or booked as debt while a provider holds the
stakes. -/
def World.seize (chain : Chain) (provider keeper : Address) (amount : Nat) (w : World) :
    Outcome World :=
  if provider = Bytes32.zero then w.directEgld chain w.config.treasuryAddr amount
  else pure { w with
    slashedPendingUnbond :=
      w.slashedPendingUnbond.set keeper (w.slashedPendingUnbond.amount keeper + amount) }

def slashKeeper (chain : Chain) (call : CallContext) (keeper : Address) (reason : Bytes)
    (w : World) : Outcome World := do
  w.requireAuthorizedCaller chain call
  let info ← load (w.keepers.get? keeper)
  let amount := slashOf info.stake w.config.slashPctBps
  let deactivated := decide (info.stake - amount < w.config.minStake)
  let provider := w.config.stakingProviderAddr.getD Bytes32.zero
  let w ← (w.slash keeper info amount deactivated).seize chain provider keeper amount
  pure (w.emit (.keeperSlashed keeper amount reason))

def strikeBps : Nat → Nat
  | 1 => Constants.slashStrike1Bps
  | 2 => Constants.slashStrike2Bps
  | _ => Constants.slashStrike3Bps

def strikeReason : Nat → Bytes
  | 1 => "Strike 1 - 5% slash".toUTF8.toList
  | 2 => "Strike 2 - 15% slash".toUTF8.toList
  | _ => "Strike 3 - 20% slash + expulsion".toUTF8.toList

def successInfo (info : KeeperInfo) : KeeperInfo :=
  { info with
    totalExecutions := info.totalExecutions + 1
    successfulExecs := info.successfulExecs + 1
    consecutiveFailures := 0 }

def failureInfo (info : KeeperInfo) : KeeperInfo :=
  { info with
    totalExecutions := info.totalExecutions + 1
    failedExecs := info.failedExecs + 1
    consecutiveFailures := info.consecutiveFailures + 1 }

/-- The strikes are used up, or the stake is below the maintenance margin. -/
def expelled (w : World) (info : KeeperInfo) (amount : Nat) : Bool :=
  decide (Constants.maxStrikes ≤ info.consecutiveFailures ∨
    info.stake - amount < w.config.minStake * 75 / 100)

/-- The failure branch of `record_execution`. Unlike `slash_keeper` it needs the
provider's cell to be set. -/
def strike (chain : Chain) (keeper : Address) (info : KeeperInfo) (w : World) : Outcome World := do
  let amount := slashOf info.stake (strikeBps info.consecutiveFailures)
  let provider ← load w.config.stakingProviderAddr
  let w ← (w.slash keeper info amount (expelled w info amount)).seize chain provider keeper amount
  pure (w.emit (.keeperSlashed keeper amount (strikeReason info.consecutiveFailures)))

def recordExecution (chain : Chain) (call : CallContext) (keeper : Address) (success : Bool)
    (w : World) : Outcome World := do
  w.requireAuthorizedCaller chain call
  let info ← load (w.keepers.get? keeper)
  if success then pure { w with keepers := w.keepers.set keeper (successInfo info) }
  else strike chain keeper (failureInfo info) w

/-! ## The staking provider -/

def World.delegable (w : World) : Nat :=
  if w.totalCommittedCooldownEgld < w.egld then w.egld - w.totalCommittedCooldownEgld else 0

def delegateStake (amount : Nat) (w : World) : Outcome World := do
  let provider ← w.requireProvider
  require (amount ≤ w.delegable)
    "V3: Would leave insufficient liquidity for pending keeper withdrawals"
  if amount ≤ w.egld then
    pure { w with
      egld := w.egld - amount
      principal := w.principal.set provider (w.principal.amount provider + amount) }
  else .error .egldShortage

def World.reclaim (provider : Address) (returned : Nat) (w : World) : Outcome World := do
  ensure (returned ≤ w.principal.amount provider)
  pure { w with
    egld := w.egld + returned
    principal := w.principal.set provider (w.principal.amount provider - returned) }

/-- `undelegate_stake` and `withdraw_provider_stake`: the provider is called, and
`returned` comes back with the call. -/
def recallStake (returned : Nat) (w : World) : Outcome World := do
  let provider ← w.requireProvider
  w.reclaim provider returned

/-- `claim_provider_rewards`, when the provider pays `received`. -/
def claimProviderRewards (chain : Chain) (received : Nat) (w : World) : Outcome World := do
  let _ ← w.requireProvider
  let initialBalance := w.egld
  let w := { w with egld := w.egld + received }
  require (initialBalance ≤ w.egld) "V4: Provider claim returned less than initial balance"
  if initialBalance < w.egld then do
    let yieldGenerated := w.egld - initialBalance
    let w := { w with totalYieldGenerated := w.totalYieldGenerated + yieldGenerated }
    if w.config.treasuryAddr ≠ Bytes32.zero then
      w.directEgld chain w.config.treasuryAddr yieldGenerated
    else pure w
  else pure w

def sweepSlashedDebt (chain : Chain) (keeper : Address) (w : World) : Outcome World := do
  let debt := w.slashedPendingUnbond.amount keeper
  require (0 < debt) "No unbonded debt"
  let w ← w.directEgld chain w.config.treasuryAddr debt
  pure { w with slashedPendingUnbond := w.slashedPendingUnbond.clear keeper }

/-! ## Configuration -/

inductive ConfigCall where
  | setMinStake (value : Nat)
  | setSlashPctBps (value : Nat)
  | setCooldownSeconds (value : UInt64)
  | setTreasuryAddr (addr : Address)
  | addAuthorizedCaller (addr : Address)
  | removeAuthorizedCaller (addr : Address)
  | setStakingProvider (addr : Address)
  | pause
  | unpause
  | upgrade

def Config.apply (c : Config) : ConfigCall → Outcome Config
  | .setMinStake value => pure { c with minStake := value }
  | .setSlashPctBps value => do
      require (value ≤ Constants.bpsDenominator) "Slash exceeds 100%"
      pure { c with slashPctBps := value }
  | .setCooldownSeconds value => pure { c with cooldownSeconds := value }
  | .setTreasuryAddr addr => pure { c with treasuryAddr := addr }
  | .addAuthorizedCaller addr =>
      pure { c with authorizedCallers := insert addr c.authorizedCallers }
  | .removeAuthorizedCaller addr =>
      pure { c with authorizedCallers := c.authorizedCallers.erase addr }
  | .setStakingProvider addr => pure { c with stakingProviderAddr := some addr }
  | .pause => pure { c with paused := true }
  | .unpause => pure { c with paused := false }
  -- `set_if_empty`: a stored zero counts as empty
  | .upgrade => pure { c with
      version := c.version + 1
      cooldownSeconds :=
        if c.cooldownSeconds = 0 then Constants.unstakeCooldownSeconds else c.cooldownSeconds }

def deployed (minStake slashPctBps : Nat) (cooldownSeconds : UInt64) (treasuryAddr : Address) :
    World :=
  { config :=
      { minStake := minStake
        slashPctBps := slashPctBps
        cooldownSeconds := cooldownSeconds
        treasuryAddr := treasuryAddr
        authorizedCallers := ∅
        stakingProviderAddr := none
        paused := false
        version := 1 }
    keepers := .empty
    activeKeeperSet := ∅
    unstakeRequestTime := fun _ => 0
    slashedPendingUnbond := .empty
    totalCommittedCooldownEgld := 0
    totalYieldGenerated := 0
    egld := 0
    principal := .empty
    sent := []
    events := [] }

def init (minStake slashPctBps : Nat) (cooldownSeconds : UInt64) (treasuryAddr : Address) :
    Outcome World := do
  require (slashPctBps ≤ 10000) "Slash percentage cannot exceed 100%"
  require (treasuryAddr ≠ Bytes32.zero) "Treasury address cannot be zero"
  pure (deployed minStake slashPctBps cooldownSeconds treasuryAddr)

def Deployed (w : World) : Prop :=
  ∃ minStake slashPctBps cooldownSeconds treasuryAddr,
    init minStake slashPctBps cooldownSeconds treasuryAddr = .ok w

/-! ## Steps -/

inductive Step where
  | registerKeeper (call : CallContext)
  | addStake (call : CallContext)
  | requestUnstake (call : CallContext)
  | withdrawStake (call : CallContext)
  | slashKeeper (call : CallContext) (keeper : Address) (reason : Bytes)
  | recordExecution (call : CallContext) (keeper : Address) (success : Bool)
  | delegateStake (call : CallContext) (amount : Nat)
  | unDelegateStake (call : CallContext) (amount returned : Nat)
  | claimProviderRewards (call : CallContext) (received : Nat)
  | withdrawProviderStake (call : CallContext) (returned : Nat)
  | sweepSlashedDebt (call : CallContext) (keeper : Address)
  | configure (call : CallContext) (change : ConfigCall)
  | receiveEgld (amount : Nat)

def Step.call? : Step → Option CallContext
  | .registerKeeper call | .addStake call | .requestUnstake call | .withdrawStake call
  | .slashKeeper call _ _ | .recordExecution call _ _ | .delegateStake call _
  | .unDelegateStake call _ _ | .claimProviderRewards call _ | .withdrawProviderStake call _
  | .sweepSlashedDebt call _ | .configure call _ => some call
  | .receiveEgld _ => none

/-- An endpoint of the contract's owner, which takes no payment. -/
def ownerCall (chain : Chain) (call : CallContext) : Outcome Unit := do
  call.notPayable
  call.onlyOwner chain

def body (chain : Chain) : Step → World → Outcome World
  | .registerKeeper call, w => do
      call.payableEgld
      registerKeeper call w
  | .addStake call, w => do
      call.payableEgld
      addStake call w
  | .requestUnstake call, w => do
      call.notPayable
      requestUnstake call w
  | .withdrawStake call, w => do
      call.notPayable
      withdrawStake chain call w
  | .slashKeeper call keeper reason, w => do
      call.notPayable
      slashKeeper chain call keeper reason w
  | .recordExecution call keeper success, w => do
      call.notPayable
      recordExecution chain call keeper success w
  | .delegateStake call amount, w => do
      ownerCall chain call
      delegateStake amount w
  | .unDelegateStake call _ returned, w => do
      ownerCall chain call
      recallStake returned w
  | .claimProviderRewards call received, w => do
      ownerCall chain call
      claimProviderRewards chain received w
  | .withdrawProviderStake call returned, w => do
      ownerCall chain call
      recallStake returned w
  | .sweepSlashedDebt call keeper, w => do
      ownerCall chain call
      sweepSlashedDebt chain keeper w
  | .configure call change, w => do
      ownerCall chain call
      let config ← w.config.apply change
      pure { w with config := config }
  | .receiveEgld amount, w => pure { w with egld := w.egld + amount }

def step (chain : Chain) (w : World) (move : Step) : Outcome World :=
  match move.call? with
  | some call => do
      ensure (call.Delivered chain ∧ 0 < call.blockTimestamp)
      body chain move { w with egld := w.egld + call.egldValue }
  | none => body chain move w

end XCron.Registry
