import XCron.Registry.Effects

/-!
# Solvency of the registry

What the registry holds, with its principal at the providers, covers every stake
and every slash that the treasury is still owed. A withdrawal pays out the stake
to the last unit, and a slash takes from the stake what it sends or books.
-/

namespace XCron.Registry

open Platform

variable {chain : Chain} {w next : World} {move : Step}

namespace World

def assets (w : World) : Nat := w.egld + w.principal.total id

def liabilities (w : World) : Nat :=
  w.keepers.total KeeperInfo.stake + w.slashedPendingUnbond.total id

/-- The registry covers what it owes. -/
def Solvent (w : World) : Prop := w.liabilities ≤ w.assets

theorem egld_pay (chain : Chain) (receiver : Address) (amount : Nat) (w : World) :
    w.egld ≤ (w.pay chain receiver amount).egld + amount := by
  simp only [pay]
  split <;> omega

end World

theorem egld_withdrawn (chain : Chain) (call : CallContext) (info : KeeperInfo) (w : World) :
    w.egld ≤ (w.withdrawn chain call info).egld + info.stake := by
  have bounded := earlyExitPenalty_le info call.blockTimestamp
  have last := ((w.unregistered call.caller info).penalised chain info call.blockTimestamp).egld_pay
    chain call.caller (info.stake - earlyExitPenalty info call.blockTimestamp)
  have first : w.egld ≤
      ((w.unregistered call.caller info).penalised chain info call.blockTimestamp).egld +
        earlyExitPenalty info call.blockTimestamp := by
    unfold World.penalised
    split
    · exact (w.unregistered call.caller info).egld_pay chain _ _
    · exact Nat.le_add_right _ _
  simp only [World.withdrawn, World.emit]
  omega

theorem World.egld_seized (chain : Chain) (provider keeper : Address) (amount : Nat) (w : World) :
    w.egld + (w.seized chain provider keeper amount).slashedPendingUnbond.total id ≤
      (w.seized chain provider keeper amount).egld + w.slashedPendingUnbond.total id + amount := by
  unfold World.seized
  split
  · have paid := w.egld_pay chain w.config.treasuryAddr amount
    have same : (w.pay chain w.config.treasuryAddr amount).slashedPendingUnbond =
        w.slashedPendingUnbond := rfl
    rw [same]
    omega
  · have booked := w.slashedPendingUnbond.total_set_amount keeper
      (w.slashedPendingUnbond.amount keeper + amount)
    simp only
    omega

/-- A slash moves its amount from the stake to the treasury or to the debt. -/
theorem World.Solvent.punished {keeper provider : Address} {stored : KeeperInfo} {amount : Nat}
    (solvent : w.Solvent) (info : KeeperInfo) (found : w.keepers.get? keeper = some stored)
    (same : info.stake = stored.stake) (bounded : amount ≤ stored.stake) (deactivated : Bool)
    (reason : Bytes) :
    (w.punished chain provider keeper info amount deactivated reason).Solvent := by
  have stakes := Cells.total_set_of_some KeeperInfo.stake (slashedInfo info amount deactivated)
    found
  have lost : (slashedInfo info amount deactivated).stake + amount = stored.stake := by
    simp only [slashedInfo]
    omega
  have seized := (w.slash keeper info amount deactivated).egld_seized chain provider keeper amount
  unfold World.Solvent World.liabilities World.assets at solvent ⊢
  rw [World.punished_keepers, World.punished_principal]
  simp only [World.punished, World.emit]
  simp only [World.slash] at seized ⊢
  omega

theorem World.Solvent.reclaimed {provider : Address} {returned : Nat} (solvent : w.Solvent)
    (held : returned ≤ w.principal.amount provider) : (w.reclaimed provider returned).Solvent := by
  have recalled := w.principal.total_set_amount provider (w.principal.amount provider - returned)
  unfold World.Solvent World.liabilities World.assets at solvent ⊢
  simp only [World.reclaimed]
  omega

theorem World.Solvent.step (solvent : w.Solvent) (stepped : step chain w move = .ok next) :
    next.Solvent := by
  cases step_effect stepped with
  | registerKeeper free _ =>
      unfold World.Solvent World.liabilities World.assets at solvent ⊢
      simp only [World.registered, World.emit]
      rw [Cells.total_set_of_none KeeperInfo.stake _ free]
      simp only
      omega
  | @addStake call info found =>
      have stakes := Cells.total_set_of_some KeeperInfo.stake
        { info with stake := info.stake + call.egldValue } found
      unfold World.Solvent World.liabilities World.assets at solvent ⊢
      simp only [World.toppedUp, World.emit] at stakes ⊢
      omega
  | @requestUnstake call info late found active =>
      have stakes := Cells.total_set_of_some KeeperInfo.stake { info with active := false } found
      unfold World.Solvent World.liabilities World.assets at solvent ⊢
      simp only [World.unstakeRequested] at stakes ⊢
      omega
  | @withdrawStake call info found =>
      have stakes := Cells.total_clear KeeperInfo.stake found
      have paid := egld_withdrawn chain call info w
      unfold World.Solvent World.liabilities World.assets at solvent ⊢
      simp only [World.withdrawn_keepers, World.withdrawn_slashedPendingUnbond,
        World.withdrawn_principal]
      omega
  | slashKeeper found bounded => exact solvent.punished _ found rfl bounded _ _
  | @recordSuccess call keeper info found =>
      have stakes := Cells.total_set_of_some KeeperInfo.stake (successInfo info) found
      unfold World.Solvent World.liabilities World.assets at solvent ⊢
      simp only [successInfo] at stakes ⊢
      omega
  | recordFailure found bounded => exact solvent.punished (failureInfo _) found rfl bounded _ _
  | @delegateStake call provider amount spare covered =>
      have lent := w.principal.total_set_amount provider (w.principal.amount provider + amount)
      unfold World.Solvent World.liabilities World.assets at solvent ⊢
      simp only
      omega
  | unDelegateStake held => exact solvent.reclaimed held
  | @claimProviderRewards call received egld yielded sent kept =>
      unfold World.Solvent World.liabilities World.assets at solvent ⊢
      simp only
      omega
  | withdrawProviderStake held => exact solvent.reclaimed held
  | @sweepSlashedDebt call keeper covered =>
      have debts := w.slashedPendingUnbond.total_clear_amount keeper
      have paid := w.egld_pay chain w.config.treasuryAddr (w.slashedPendingUnbond.amount keeper)
      unfold World.Solvent World.liabilities World.assets at solvent ⊢
      simp only [World.pay] at paid ⊢
      omega
  | configure => exact solvent
  | receiveEgld =>
      unfold World.Solvent World.liabilities World.assets at solvent ⊢
      simp only
      omega

theorem Deployed.solvent (start : Deployed w) : w.Solvent := by
  obtain ⟨_, _, _, _, rfl⟩ := start.eq_deployed
  exact Nat.le_refl _

/-! ## Exact payments -/

theorem withdrawal_split {call : CallContext}
    (stepped : step chain w (.withdrawStake call) = .ok next) :
    ∃ info penalty payout penalties, w.keepers.get? call.caller = some info ∧
      next.keepers.get? call.caller = none ∧ payout + penalty = info.stake ∧
      (penalties = [⟨w.config.treasuryAddr, penalty⟩] ∨ (penalties = [] ∧ penalty = 0)) ∧
      next.sent = w.sent ++ penalties ++ [⟨call.caller, payout⟩] := by
  cases step_effect stepped with
  | @withdrawStake call info found =>
      have bounded := earlyExitPenalty_le info call.blockTimestamp
      have exactly : info.stake - earlyExitPenalty info call.blockTimestamp +
          earlyExitPenalty info call.blockTimestamp = info.stake := Nat.sub_add_cancel bounded
      by_cases early : call.blockTimestamp < info.registeredAt + Constants.minKeeperDaysSeconds
      · refine ⟨info, _, _, _, found, by simp, exactly, .inl rfl, ?_⟩
        simp only [World.withdrawn, World.penalised, early, if_true, World.pay, World.emit]
        rfl
      · have none : earlyExitPenalty info call.blockTimestamp = 0 := if_neg early
        refine ⟨info, _, _, _, found, by simp, exactly, .inr ⟨rfl, none⟩, ?_⟩
        simp only [World.withdrawn, World.penalised, early, if_false, World.pay, World.emit,
          List.append_nil]
        rfl

/-- The keeper that a step slashes. -/
def Step.slashed? : Step → Option Address
  | .slashKeeper _ keeper _ => some keeper
  | .recordExecution _ keeper false => some keeper
  | _ => none

/-- What a slash takes from a stake is sent to the treasury or booked as debt. -/
def Moved (keeper : Address) (w next : World) : Prop :=
  ∃ info info' amount, w.keepers.get? keeper = some info ∧
    next.keepers.get? keeper = some info' ∧ info'.stake + amount = info.stake ∧
    ((next.sent = w.sent ++ [⟨w.config.treasuryAddr, amount⟩] ∧
        next.slashedPendingUnbond = w.slashedPendingUnbond) ∨
      (next.sent = w.sent ∧ next.slashedPendingUnbond =
        w.slashedPendingUnbond.set keeper (w.slashedPendingUnbond.amount keeper + amount)))

theorem moved_punished {keeper provider : Address} {stored : KeeperInfo} {amount : Nat}
    (info : KeeperInfo) (found : w.keepers.get? keeper = some stored)
    (same : info.stake = stored.stake) (bounded : amount ≤ stored.stake) (deactivated : Bool)
    (reason : Bytes) :
    Moved keeper w (w.punished chain provider keeper info amount deactivated reason) := by
  refine ⟨stored, slashedInfo info amount deactivated, amount, found, by simp, ?_, ?_⟩
  · simp only [slashedInfo]
    omega
  · unfold World.punished World.seized
    split
    · exact .inl ⟨rfl, rfl⟩
    · exact .inr ⟨rfl, rfl⟩

theorem slash_moved {keeper : Address} (slashing : move.slashed? = some keeper)
    (stepped : step chain w move = .ok next) : Moved keeper w next := by
  cases step_effect stepped with
  | slashKeeper found bounded =>
      obtain rfl := Option.some.inj slashing
      exact moved_punished _ found rfl bounded _ _
  | recordFailure found bounded =>
      obtain rfl := Option.some.inj slashing
      exact moved_punished (failureInfo _) found rfl bounded _ _
  | _ => cases slashing

/-- In every run the registry, with its principal at the providers, covers the
stakes of its keepers and the slashes it has booked; every withdrawal pays the
stake as payout and penalty, and every slash moves what it takes. -/
theorem registry_solvent {start : World} {steps : List Step} {allowed : World → Step → Prop}
    (deployed : Deployed start) (trace : Trace (step chain) allowed start steps w) :
    w.keepers.total KeeperInfo.stake + w.slashedPendingUnbond.total id ≤
        w.egld + w.principal.total id ∧
      (∀ call next, step chain w (.withdrawStake call) = .ok next →
        ∃ info penalty payout penalties, w.keepers.get? call.caller = some info ∧
          next.keepers.get? call.caller = none ∧ payout + penalty = info.stake ∧
          (penalties = [⟨w.config.treasuryAddr, penalty⟩] ∨ (penalties = [] ∧ penalty = 0)) ∧
          next.sent = w.sent ++ penalties ++ [⟨call.caller, payout⟩]) ∧
      ∀ move keeper next, move.slashed? = some keeper → step chain w move = .ok next →
        Moved keeper w next := by
  refine ⟨?_, fun _ _ stepped => withdrawal_split stepped,
    fun _ _ _ slashing stepped => slash_moved slashing stepped⟩
  refine trace.preserves World.Solvent ?_ deployed.solvent
  intro _ _ _ _ solvent stepped
  exact solvent.step stepped

namespace Sample

def lentRun : List Step :=
  [.registerKeeper (call alice 1000 10), .registerKeeper (call bob 200 10),
    .configure (owner 11) (.setStakingProvider provider), .delegateStake (owner 12) 900,
    .slashKeeper (owner 13) alice [], .configure (owner 14) (.setStakingProvider .zero),
    .recordExecution (owner 15) bob false, .configure (owner 16) (.setStakingProvider provider),
    .requestUnstake (call alice 0 17), .withdrawProviderStake (owner 18) 850,
    .withdrawStake (call alice 0 70)]

end Sample

theorem registry_solvent_sample :
    ∃ w, Trace (step sampleChain) (fun _ _ => True) Sample.registry Sample.lentRun w ∧
      (w.egld = 240 ∧ w.principal.total id = 50 ∧ w.slashedPendingUnbond.total id = 100) ∧
      w.keepers.total KeeperInfo.stake + w.slashedPendingUnbond.total id ≤
        w.egld + w.principal.total id := by
  obtain ⟨w, trace, left⟩ := Trace.of_runChecked (step sampleChain) (fun _ _ => True)
    Sample.registry Sample.lentRun (fun w => w.egld = 240 ∧ w.principal.total id = 50 ∧
      w.slashedPendingUnbond.total id = 100) (by decide +kernel)
  exact ⟨w, trace, left, (registry_solvent Sample.registry_deployed trace).1⟩

end XCron.Registry
