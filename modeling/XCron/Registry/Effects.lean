import XCron.Registry.Contract

/-!
# What a step of the registry can do

The transition function inverted once. `slash_keeper` and the failure branch of
`record_execution` leave the same world behind, from a record that the latter has
counted a failure in first.
-/

namespace XCron.Registry

open Platform Outcome

variable {chain : Chain} {w next : World} {move : Step}

theorem slashOf_le (stake bps : Nat) : slashOf stake bps ≤ stake := by
  unfold slashOf
  split <;> omega

theorem earlyExitPenalty_le (info : KeeperInfo) (time : UInt64) :
    earlyExitPenalty info time ≤ info.stake := by
  unfold earlyExitPenalty
  split
  · apply Nat.div_le_of_le_mul
    rw [Nat.mul_comm]
    exact Nat.mul_le_mul_right _ (by decide)
  · exact Nat.zero_le _

namespace World

def registered (call : CallContext) (w : World) : World :=
  { w with
    egld := w.egld + call.egldValue
    keepers := w.keepers.set call.caller
      { addr := call.caller
        stake := call.egldValue
        registeredAt := call.blockTimestamp
        totalExecutions := 0
        successfulExecs := 0
        failedExecs := 0
        slashedAmount := 0
        active := true
        consecutiveFailures := 0 }
    activeKeeperSet := insert call.caller w.activeKeeperSet }.emit (.keeperRegistered call.caller)

def toppedUp (call : CallContext) (info : KeeperInfo) (w : World) : World :=
  { w with
    egld := w.egld + call.egldValue
    keepers := w.keepers.set call.caller { info with stake := info.stake + call.egldValue } }.emit
    (.keeperRegistered call.caller)

def unstakeRequested (call : CallContext) (info : KeeperInfo) (w : World) : World :=
  { w with
    keepers := w.keepers.set call.caller { info with active := false }
    activeKeeperSet := w.activeKeeperSet.erase call.caller
    unstakeRequestTime := Function.update w.unstakeRequestTime call.caller call.blockTimestamp
    totalCommittedCooldownEgld := w.totalCommittedCooldownEgld + info.stake }

def penalised (chain : Chain) (info : KeeperInfo) (time : UInt64) (w : World) : World :=
  if time < info.registeredAt + Constants.minKeeperDaysSeconds then
    w.pay chain w.config.treasuryAddr (earlyExitPenalty info time)
  else w

def unregistered (keeper : Address) (info : KeeperInfo) (w : World) : World :=
  { w with
    keepers := w.keepers.clear keeper
    unstakeRequestTime := Function.update w.unstakeRequestTime keeper 0
    totalCommittedCooldownEgld := w.releasedCommitment info.stake }

def withdrawn (chain : Chain) (call : CallContext) (info : KeeperInfo) (w : World) : World :=
  (((w.unregistered call.caller info).penalised chain info call.blockTimestamp).pay chain
    call.caller (info.stake - earlyExitPenalty info call.blockTimestamp)).emit
    (.keeperUnregistered call.caller)

def seized (chain : Chain) (provider keeper : Address) (amount : Nat) (w : World) : World :=
  if provider = Bytes32.zero then w.pay chain w.config.treasuryAddr amount
  else { w with
    slashedPendingUnbond :=
      w.slashedPendingUnbond.set keeper (w.slashedPendingUnbond.amount keeper + amount) }

def punished (chain : Chain) (provider keeper : Address) (info : KeeperInfo) (amount : Nat)
    (deactivated : Bool) (reason : Bytes) (w : World) : World :=
  ((w.slash keeper info amount deactivated).seized chain provider keeper amount).emit
    (.keeperSlashed keeper amount reason)

def reclaimed (provider : Address) (returned : Nat) (w : World) : World :=
  { w with
    egld := w.egld + returned
    principal := w.principal.set provider (w.principal.amount provider - returned) }

end World

/-! ### What payments and slashes leave alone -/

namespace World

variable (chain : Chain) (provider keeper : Address) (info : KeeperInfo) (amount : Nat)
  (time : UInt64) (call : CallContext) (deactivated : Bool) (reason : Bytes) (w : World)

@[simp]
theorem withdrawn_keepers :
    (w.withdrawn chain call info).keepers = w.keepers.clear call.caller := by
  unfold withdrawn penalised
  split <;> rfl

@[simp]
theorem withdrawn_activeKeeperSet :
    (w.withdrawn chain call info).activeKeeperSet = w.activeKeeperSet := by
  unfold withdrawn penalised
  split <;> rfl

@[simp]
theorem withdrawn_unstakeRequestTime :
    (w.withdrawn chain call info).unstakeRequestTime =
      Function.update w.unstakeRequestTime call.caller 0 := by
  unfold withdrawn penalised
  split <;> rfl

@[simp]
theorem withdrawn_totalCommittedCooldownEgld :
    (w.withdrawn chain call info).totalCommittedCooldownEgld = w.releasedCommitment info.stake := by
  unfold withdrawn penalised
  split <;> rfl

@[simp]
theorem withdrawn_slashedPendingUnbond :
    (w.withdrawn chain call info).slashedPendingUnbond = w.slashedPendingUnbond := by
  unfold withdrawn penalised
  split <;> rfl

@[simp]
theorem withdrawn_principal : (w.withdrawn chain call info).principal = w.principal := by
  unfold withdrawn penalised
  split <;> rfl

@[simp]
theorem withdrawn_config : (w.withdrawn chain call info).config = w.config := by
  unfold withdrawn penalised
  split <;> rfl

@[simp]
theorem punished_keepers :
    (w.punished chain provider keeper info amount deactivated reason).keepers =
      w.keepers.set keeper (slashedInfo info amount deactivated) := by
  unfold punished seized
  split <;> rfl

@[simp]
theorem punished_activeKeeperSet :
    (w.punished chain provider keeper info amount deactivated reason).activeKeeperSet =
      if deactivated then w.activeKeeperSet.erase keeper else w.activeKeeperSet := by
  unfold punished seized
  split <;> rfl

@[simp]
theorem punished_unstakeRequestTime :
    (w.punished chain provider keeper info amount deactivated reason).unstakeRequestTime =
      w.unstakeRequestTime := by
  unfold punished seized
  split <;> rfl

@[simp]
theorem punished_totalCommittedCooldownEgld :
    (w.punished chain provider keeper info amount deactivated reason).totalCommittedCooldownEgld =
      if (slashedInfo info amount deactivated).active = false ∧
          w.unstakeRequestTime keeper ≠ 0 then w.releasedCommitment amount
      else w.totalCommittedCooldownEgld := by
  unfold punished seized
  split <;> rfl

@[simp]
theorem punished_principal :
    (w.punished chain provider keeper info amount deactivated reason).principal = w.principal := by
  unfold punished seized
  split <;> rfl

@[simp]
theorem punished_config :
    (w.punished chain provider keeper info amount deactivated reason).config = w.config := by
  unfold punished seized
  split <;> rfl

end World

/-- The payments of a withdrawal are covered. -/
structure Payable (chain : Chain) (info : KeeperInfo) (time : UInt64) (w : World) : Prop where
  penalty : earlyExitPenalty info time ≤ w.egld
  payout : info.stake - earlyExitPenalty info time ≤ (w.penalised chain info time).egld

/-- Everything a successful step can be. -/
inductive Effect (chain : Chain) (w : World) : Step → World → Prop where
  | registerKeeper {call : CallContext} (free : w.keepers.get? call.caller = none)
      (enough : w.config.minStake ≤ call.egldValue) :
      Effect chain w (.registerKeeper call) (w.registered call)
  | addStake {call : CallContext} {info : KeeperInfo}
      (found : w.keepers.get? call.caller = some info) :
      Effect chain w (.addStake call) (w.toppedUp call info)
  | requestUnstake {call : CallContext} {info : KeeperInfo} (late : 0 < call.blockTimestamp)
      (found : w.keepers.get? call.caller = some info) (active : info.active = true) :
      Effect chain w (.requestUnstake call) (w.unstakeRequested call info)
  | withdrawStake {call : CallContext} {info : KeeperInfo}
      (found : w.keepers.get? call.caller = some info) (inactive : info.active = false)
      (elapsed : w.unstakeRequestTime call.caller + w.config.cooldownSeconds ≤ call.blockTimestamp)
      (payable : Payable chain info call.blockTimestamp (w.unregistered call.caller info)) :
      Effect chain w (.withdrawStake call) (w.withdrawn chain call info)
  | slashKeeper {call : CallContext} {keeper provider : Address} {reason : Bytes}
      {info : KeeperInfo} {amount : Nat} {deactivated : Bool}
      (found : w.keepers.get? keeper = some info) (bounded : amount ≤ info.stake)
      (covered : provider = Bytes32.zero → amount ≤ w.egld) :
      Effect chain w (.slashKeeper call keeper reason)
        (w.punished chain provider keeper info amount deactivated reason)
  | recordSuccess {call : CallContext} {keeper : Address} {info : KeeperInfo}
      (found : w.keepers.get? keeper = some info) :
      Effect chain w (.recordExecution call keeper true)
        { w with keepers := w.keepers.set keeper (successInfo info) }
  | recordFailure {call : CallContext} {keeper provider : Address} {reason : Bytes}
      {info : KeeperInfo} {amount : Nat} {deactivated : Bool}
      (found : w.keepers.get? keeper = some info) (bounded : amount ≤ info.stake)
      (covered : provider = Bytes32.zero → amount ≤ w.egld) :
      Effect chain w (.recordExecution call keeper false)
        (w.punished chain provider keeper (failureInfo info) amount deactivated reason)
  | delegateStake {call : CallContext} {provider : Address} {amount : Nat}
      (spare : amount ≤ w.delegable) (covered : amount ≤ w.egld) :
      Effect chain w (.delegateStake call amount)
        { w with
          egld := w.egld - amount
          principal := w.principal.set provider (w.principal.amount provider + amount) }
  | unDelegateStake {call : CallContext} {provider : Address} {amount returned : Nat}
      (held : returned ≤ w.principal.amount provider) :
      Effect chain w (.unDelegateStake call amount returned) (w.reclaimed provider returned)
  /-- Rewards stay, or go on to the treasury. -/
  | claimProviderRewards {call : CallContext} {received egld yielded : Nat} {sent : List Transfer}
      (kept : w.egld ≤ egld) :
      Effect chain w (.claimProviderRewards call received)
        { w with egld := egld, totalYieldGenerated := yielded, sent := sent }
  | withdrawProviderStake {call : CallContext} {provider : Address} {returned : Nat}
      (held : returned ≤ w.principal.amount provider) :
      Effect chain w (.withdrawProviderStake call returned) (w.reclaimed provider returned)
  | sweepSlashedDebt {call : CallContext} {keeper : Address}
      (covered : w.slashedPendingUnbond.amount keeper ≤ w.egld) :
      Effect chain w (.sweepSlashedDebt call keeper)
        { w.pay chain w.config.treasuryAddr (w.slashedPendingUnbond.amount keeper) with
          slashedPendingUnbond := w.slashedPendingUnbond.clear keeper }
  | configure {call : CallContext} {change : ConfigCall} {config : Config}
      (applied : w.config.apply change = .ok config) :
      Effect chain w (.configure call change) { w with config := config }
  | receiveEgld {amount : Nat} :
      Effect chain w (.receiveEgld amount) { w with egld := w.egld + amount }

@[simp]
theorem directEgld_eq_ok {receiver : Address} {amount : Nat} :
    w.directEgld chain receiver amount = .ok next ↔
      amount ≤ w.egld ∧ w.pay chain receiver amount = next := by
  unfold World.directEgld
  split <;> simp_all

theorem payPenalty_eq_ok {info : KeeperInfo} {time : UInt64} :
    payPenalty chain info time w = .ok next ↔
      earlyExitPenalty info time ≤ w.egld ∧ w.penalised chain info time = next := by
  unfold payPenalty World.penalised
  by_cases early : time < info.registeredAt + Constants.minKeeperDaysSeconds
  · simp [early]
  · simp [early, earlyExitPenalty]

theorem seize_eq_ok {provider keeper : Address} {amount : Nat} :
    w.seize chain provider keeper amount = .ok next ↔
      (provider = Bytes32.zero → amount ≤ w.egld) ∧
        w.seized chain provider keeper amount = next := by
  unfold World.seize World.seized
  split <;> simp_all

theorem recallStake_eq_ok {returned : Nat} (recalled : recallStake returned w = .ok next) :
    ∃ provider, returned ≤ w.principal.amount provider ∧ w.reclaimed provider returned = next := by
  simp only [recallStake, World.reclaim, bind_eq_ok, ensure_eq_ok, pure_eq_ok] at recalled
  obtain ⟨provider, _, _, held, rfl⟩ := recalled
  exact ⟨provider, held, rfl⟩

theorem egld_le_claimProviderRewards {received : Nat}
    (claimed : claimProviderRewards chain received w = .ok next) :
    ∃ egld yielded sent, w.egld ≤ egld ∧
      next = { w with egld := egld, totalYieldGenerated := yielded, sent := sent } := by
  simp only [claimProviderRewards, bind_eq_ok, require_eq_ok] at claimed
  obtain ⟨_, _, _, _, claimed⟩ := claimed
  split at claimed
  · split at claimed
    · obtain ⟨_, rfl⟩ := directEgld_eq_ok.mp claimed
      refine ⟨_, _, _, ?_, rfl⟩
      simp only
      split <;> omega
    · obtain rfl := (pure_eq_ok _ _).mp claimed
      exact ⟨_, _, _, Nat.le_add_right _ _, rfl⟩
  · obtain rfl := (pure_eq_ok _ _).mp claimed
    exact ⟨_, _, _, Nat.le_add_right _ _, rfl⟩

theorem notPayable_ran {call : CallContext} (run : World → Outcome World)
    (ran : (do call.notPayable; run { w with egld := w.egld + call.egldValue }) = .ok next) :
    run w = .ok next := by
  obtain ⟨_, unpaid, ran⟩ := (bind_eq_ok _ _ _).mp ran
  obtain ⟨nothing, _⟩ := (ensure_eq_ok _ _).mp unpaid
  rw [nothing] at ran
  exact ran

theorem ownerCall_ran {call : CallContext} (run : World → Outcome World)
    (ran : (do ownerCall chain call; run { w with egld := w.egld + call.egldValue }) = .ok next) :
    run w = .ok next := by
  simp only [ownerCall, bind_eq_ok] at ran
  obtain ⟨value, ⟨_, unpaid, _⟩, ran⟩ := ran
  exact notPayable_ran run ((bind_eq_ok _ _ _).mpr ⟨_, unpaid, ran⟩)

theorem slashKeeper_effect {call : CallContext} {keeper : Address} {reason : Bytes}
    (slashed : slashKeeper chain call keeper reason w = .ok next) :
    Effect chain w (.slashKeeper call keeper reason) next := by
  simp only [slashKeeper, bind_eq_ok, load_eq_ok, pure_eq_ok, seize_eq_ok] at slashed
  obtain ⟨_, _, info, found, _, ⟨covered, rfl⟩, rfl⟩ := slashed
  exact .slashKeeper found (slashOf_le _ _) covered

theorem recordExecution_effect {call : CallContext} {keeper : Address} {success : Bool}
    (recorded : recordExecution chain call keeper success w = .ok next) :
    Effect chain w (.recordExecution call keeper success) next := by
  simp only [recordExecution, bind_eq_ok, load_eq_ok] at recorded
  obtain ⟨_, _, info, found, recorded⟩ := recorded
  cases success with
  | true =>
      obtain rfl := (pure_eq_ok _ _).mp recorded
      exact .recordSuccess found
  | false =>
      simp only [Bool.false_eq_true, if_false, strike, bind_eq_ok, pure_eq_ok,
        seize_eq_ok] at recorded
      obtain ⟨_, _, _, ⟨covered, rfl⟩, rfl⟩ := recorded
      exact .recordFailure found (slashOf_le _ _) covered

theorem withdrawStake_effect {call : CallContext}
    (withdrawn : withdrawStake chain call w = .ok next) :
    Effect chain w (.withdrawStake call) next := by
  simp only [withdrawStake, bind_eq_ok, load_eq_ok, require_eq_ok, pure_eq_ok, payPenalty_eq_ok,
    directEgld_eq_ok] at withdrawn
  obtain ⟨info, found, _, inactive, _, elapsed, _, ⟨penalty, rfl⟩, _, ⟨payout, rfl⟩, left⟩ :=
    withdrawn
  -- the source pays the penalty between its writes, which might as well all come first
  have result : next = w.withdrawn chain call info := by
    rw [← left]
    unfold World.withdrawn World.penalised
    split <;> rfl
  have balance : (World.penalised chain info call.blockTimestamp
      { w with totalCommittedCooldownEgld := w.releasedCommitment info.stake }).egld =
      ((w.unregistered call.caller info).penalised chain info call.blockTimestamp).egld := by
    unfold World.penalised
    split <;> rfl
  rw [result]
  exact .withdrawStake found inactive elapsed ⟨penalty, balance ▸ payout⟩

theorem delegateStake_effect {call : CallContext} {amount : Nat}
    (delegated : delegateStake amount w = .ok next) :
    Effect chain w (.delegateStake call amount) next := by
  simp only [delegateStake, bind_eq_ok, require_eq_ok] at delegated
  obtain ⟨provider, _, _, spare, delegated⟩ := delegated
  split at delegated
  · obtain rfl := (pure_eq_ok _ _).mp delegated
    exact .delegateStake spare ‹_›
  · cases delegated

theorem body_effect {call : CallContext} (called : move.call? = some call)
    (late : 0 < call.blockTimestamp)
    (ran : body chain move { w with egld := w.egld + call.egldValue } = .ok next) :
    Effect chain w move next := by
  cases move with
  | registerKeeper call' =>
      obtain rfl := Option.some.inj called
      simp only [body, registerKeeper, bind_eq_ok, require_eq_ok, pure_eq_ok] at ran
      obtain ⟨_, _, _, _, _, free, _, enough, rfl⟩ := ran
      exact .registerKeeper free enough
  | addStake call' =>
      obtain rfl := Option.some.inj called
      simp only [body, addStake, bind_eq_ok, load_eq_ok, pure_eq_ok] at ran
      obtain ⟨_, _, _, _, _, _, info, found, rfl⟩ := ran
      exact .addStake found
  | requestUnstake call' =>
      obtain rfl := Option.some.inj called
      have requested := notPayable_ran (requestUnstake call') ran
      simp only [requestUnstake, bind_eq_ok, load_eq_ok, require_eq_ok, pure_eq_ok] at requested
      obtain ⟨_, _, info, found, _, active, rfl⟩ := requested
      exact .requestUnstake late found active
  | withdrawStake call' =>
      obtain rfl := Option.some.inj called
      exact withdrawStake_effect (notPayable_ran (withdrawStake chain call') ran)
  | slashKeeper call' keeper reason =>
      obtain rfl := Option.some.inj called
      exact slashKeeper_effect (notPayable_ran (slashKeeper chain call' keeper reason) ran)
  | recordExecution call' keeper success =>
      obtain rfl := Option.some.inj called
      exact recordExecution_effect (notPayable_ran (recordExecution chain call' keeper success) ran)
  | delegateStake call' amount =>
      obtain rfl := Option.some.inj called
      exact delegateStake_effect (ownerCall_ran (delegateStake amount) ran)
  | unDelegateStake call' amount returned =>
      obtain rfl := Option.some.inj called
      obtain ⟨provider, held, rfl⟩ := recallStake_eq_ok (ownerCall_ran (recallStake returned) ran)
      exact .unDelegateStake held
  | claimProviderRewards call' received =>
      obtain rfl := Option.some.inj called
      have claimed := ownerCall_ran (claimProviderRewards chain received) ran
      obtain ⟨egld, yielded, sent, kept, rfl⟩ := egld_le_claimProviderRewards claimed
      exact .claimProviderRewards kept
  | withdrawProviderStake call' returned =>
      obtain rfl := Option.some.inj called
      obtain ⟨provider, held, rfl⟩ := recallStake_eq_ok (ownerCall_ran (recallStake returned) ran)
      exact .withdrawProviderStake held
  | sweepSlashedDebt call' keeper =>
      obtain rfl := Option.some.inj called
      have swept := ownerCall_ran (sweepSlashedDebt chain keeper) ran
      simp only [sweepSlashedDebt, bind_eq_ok, directEgld_eq_ok, pure_eq_ok] at swept
      obtain ⟨_, _, _, ⟨covered, rfl⟩, rfl⟩ := swept
      exact .sweepSlashedDebt covered
  | configure call' change =>
      obtain rfl := Option.some.inj called
      have configured := ownerCall_ran (fun w => do
        let config ← w.config.apply change
        pure { w with config := config }) ran
      simp only [bind_eq_ok, pure_eq_ok] at configured
      obtain ⟨config, applied, rfl⟩ := configured
      exact .configure applied
  | receiveEgld amount => cases called

/-- The transition function, inverted. -/
theorem step_effect (stepped : step chain w move = .ok next) : Effect chain w move next := by
  unfold step at stepped
  split at stepped
  · rename_i call called
    simp only [bind_eq_ok, ensure_eq_ok] at stepped
    obtain ⟨_, ⟨_, late⟩, ran⟩ := stepped
    exact body_effect called late ran
  · cases move with
    | receiveEgld amount =>
        obtain rfl := (pure_eq_ok _ _).mp stepped
        exact .receiveEgld
    | _ => contradiction

theorem Deployed.eq_deployed (start : Deployed w) :
    ∃ minStake slashPctBps cooldownSeconds treasuryAddr,
      w = deployed minStake slashPctBps cooldownSeconds treasuryAddr := by
  obtain ⟨minStake, slashPctBps, cooldownSeconds, treasuryAddr, initialised⟩ := start
  simp only [init, bind_eq_ok, pure_eq_ok] at initialised
  obtain ⟨_, _, _, _, rfl⟩ := initialised
  exact ⟨minStake, slashPctBps, cooldownSeconds, treasuryAddr, rfl⟩

/-! ## A small registry -/

namespace Sample

def treasury : Address := .fill 9

def provider : Address := .fill 8

def alice : Address := .fill 4

def bob : Address := .fill 5

def call (caller : Address) (value : Nat) (time : UInt64) : CallContext :=
  { caller := caller
    egldValue := value
    esdtTransfers := []
    blockTimestamp := time
    blockRound := 1
    blockRandomSeed := []
    gasLeft := 0 }

def owner (time : UInt64) : CallContext := call sampleChain.ownerAddress 0 time

def registry : World := deployed 100 1000 50 treasury

theorem registry_deployed : Deployed registry := ⟨100, 1000, 50, treasury, rfl⟩

end Sample

end XCron.Registry
