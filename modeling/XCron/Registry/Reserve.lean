import XCron.Registry.Effects

/-!
# The liquidity reserve

`total_committed_cooldown_egld` stands for the stakes of the keepers that have
asked to leave, and `delegate_stake` lends out no more than the rest. The total
goes wrong in two ways. A keeper that has asked may still add stake, which is not
committed; and a keeper that never asked, but was deactivated by a slash, takes
its stake out of a total it was never added to.
-/

namespace XCron.Registry

open Platform

variable {chain : Chain} {w next : World} {move : Step}

namespace World

def pendingStake (requests : Address → UInt64) (keeper : Address) (info : KeeperInfo) : Nat :=
  if requests keeper = 0 then 0 else info.stake

def pendingStakes (w : World) : Nat := w.keepers.weigh (pendingStake w.unstakeRequestTime)

/-- The committed total is what the pending requests will ask for. -/
def Reserved (w : World) : Prop := w.totalCommittedCooldownEgld = w.pendingStakes

/-- Only registered keepers that are no longer active have asked to leave. -/
structure Orderly (w : World) : Prop where
  absent : ∀ keeper, w.keepers.get? keeper = none → w.unstakeRequestTime keeper = 0
  active : ∀ keeper info, w.keepers.get? keeper = some info → info.active = true →
    w.unstakeRequestTime keeper = 0

end World

/-- A keeper whose request is pending adds nothing, and whoever withdraws has
asked to, or has nothing to take out of the total. -/
def Committed (w : World) : Step → Prop
  | .addStake call => w.unstakeRequestTime call.caller = 0 ∨ call.egldValue = 0
  | .withdrawStake call =>
      w.unstakeRequestTime call.caller ≠ 0 ∨ w.totalCommittedCooldownEgld = 0 ∨
        (w.keepers.get? call.caller).map KeeperInfo.stake = some 0
  | _ => True

instance (w : World) (move : Step) : Decidable (Committed w move) := by
  unfold Committed
  split <;> infer_instance

/-! ## Steps -/

theorem World.Orderly.write {other : World} (orderly : w.Orderly) {keeper : Address}
    {info : KeeperInfo} (written : other.keepers = w.keepers.set keeper info)
    (same : other.unstakeRequestTime = w.unstakeRequestTime)
    (asleep : info.active = true → w.unstakeRequestTime keeper = 0) : other.Orderly := by
  constructor
  · intro someone absent
    rw [written, Cells.get?_set] at absent
    rw [same]
    split at absent
    · cases absent
    · exact orderly.absent someone absent
  · intro someone record found active
    rw [written] at found
    rw [same]
    rcases Cells.of_get?_set found with ⟨rfl, rfl⟩ | ⟨_, found⟩
    · exact asleep active
    · exact orderly.active someone record found active

theorem World.Orderly.punished (orderly : w.Orderly) {keeper provider : Address}
    {stored : KeeperInfo} {amount : Nat} (info : KeeperInfo)
    (found : w.keepers.get? keeper = some stored) (same : info.active = stored.active)
    (deactivated : Bool) (reason : Bytes) :
    (w.punished chain provider keeper info amount deactivated reason).Orderly := by
  refine orderly.write (World.punished_keepers chain provider keeper info amount deactivated reason w)
    (by simp) ?_
  intro active
  apply orderly.active keeper stored found
  rw [← same]
  cases deactivated with
  | true => cases active
  | false => exact active

theorem World.Orderly.unstakeRequested (orderly : w.Orderly) (call : CallContext)
    (info : KeeperInfo) : (w.unstakeRequested call info).Orderly := by
  constructor
  · intro keeper absent
    simp only [World.unstakeRequested, Cells.get?_set] at absent ⊢
    split at absent
    · cases absent
    · rename_i different
      rw [Function.update_of_ne different]
      exact orderly.absent keeper absent
  · intro keeper record found active
    simp only [World.unstakeRequested] at found ⊢
    rcases Cells.of_get?_set found with ⟨_, rfl⟩ | ⟨different, found⟩
    · cases active
    · rw [Function.update_of_ne different]
      exact orderly.active keeper record found active

theorem World.Orderly.withdrawn (orderly : w.Orderly) (call : CallContext) (info : KeeperInfo) :
    (w.withdrawn chain call info).Orderly := by
  constructor
  · intro keeper absent
    rw [World.withdrawn_keepers, Cells.get?_clear] at absent
    rw [World.withdrawn_unstakeRequestTime]
    split at absent
    · rename_i self
      rw [self, Function.update_self]
    · rename_i different
      rw [Function.update_of_ne different]
      exact orderly.absent keeper absent
  · intro keeper record found active
    rw [World.withdrawn_keepers] at found
    obtain ⟨different, found⟩ := Cells.of_get?_clear found
    rw [World.withdrawn_unstakeRequestTime, Function.update_of_ne different]
    exact orderly.active keeper record found active

theorem World.Orderly.step (orderly : w.Orderly) (stepped : step chain w move = .ok next) :
    next.Orderly := by
  cases step_effect stepped with
  | registerKeeper free _ => exact orderly.write rfl rfl fun _ => orderly.absent _ free
  | addStake found => exact orderly.write rfl rfl fun active => orderly.active _ _ found active
  | requestUnstake => exact orderly.unstakeRequested _ _
  | withdrawStake => exact orderly.withdrawn _ _
  | slashKeeper found => exact orderly.punished _ found rfl _ _
  | recordSuccess found =>
      exact orderly.write rfl rfl fun active => orderly.active _ _ found active
  | recordFailure found => exact orderly.punished (failureInfo _) found rfl _ _
  | _ => exact ⟨orderly.absent, orderly.active⟩

theorem pendingStakes_write {other : World} {keeper : Address} {info stored : KeeperInfo}
    (found : w.keepers.get? keeper = some stored)
    (written : other.keepers = w.keepers.set keeper info)
    (same : other.unstakeRequestTime = w.unstakeRequestTime) :
    other.pendingStakes + World.pendingStake w.unstakeRequestTime keeper stored =
      World.pendingStake w.unstakeRequestTime keeper info + w.pendingStakes := by
  have before := Cells.weigh_clear (World.pendingStake w.unstakeRequestTime) found
  have after := w.keepers.weigh_set (World.pendingStake w.unstakeRequestTime) keeper info
  unfold World.pendingStakes
  rw [written, same]
  omega

theorem pendingStake_clear (w : World) (keeper : Address) (time : UInt64) :
    (w.keepers.clear keeper).weigh
        (World.pendingStake (Function.update w.unstakeRequestTime keeper time)) =
      (w.keepers.clear keeper).weigh (World.pendingStake w.unstakeRequestTime) := by
  refine w.keepers.weigh_clear_congr keeper ?_
  intro other different
  funext info
  simp only [World.pendingStake, Function.update_of_ne different]

theorem World.Reserved.registered {call : CallContext} (reserved : w.Reserved)
    (orderly : w.Orderly) (free : w.keepers.get? call.caller = none) :
    (w.registered call).Reserved := by
  have idle := orderly.absent _ free
  unfold World.Reserved World.pendingStakes at reserved ⊢
  simp only [World.registered, World.emit]
  rw [Cells.weigh_set, Cells.weigh_clear_of_none _ free, ← reserved, World.pendingStake, if_pos idle,
    Nat.zero_add]

theorem World.Reserved.toppedUp_iff {call : CallContext} {info : KeeperInfo}
    (reserved : w.Reserved) (found : w.keepers.get? call.caller = some info) :
    (w.toppedUp call info).Reserved ↔
      w.unstakeRequestTime call.caller = 0 ∨ call.egldValue = 0 := by
  have moved : (w.toppedUp call info).pendingStakes +
      World.pendingStake w.unstakeRequestTime call.caller info =
      World.pendingStake w.unstakeRequestTime call.caller
        { info with stake := info.stake + call.egldValue } + w.pendingStakes :=
    pendingStakes_write found rfl rfl
  have committed : (w.toppedUp call info).totalCommittedCooldownEgld =
      w.totalCommittedCooldownEgld := rfl
  unfold World.Reserved at reserved ⊢
  by_cases idle : w.unstakeRequestTime call.caller = 0
  · simp only [World.pendingStake, idle, if_true, true_or, iff_true] at moved ⊢
    omega
  · simp only [World.pendingStake, idle, if_false, false_or] at moved ⊢
    omega

theorem World.Reserved.unstakeRequested {call : CallContext} {info : KeeperInfo}
    (reserved : w.Reserved) (orderly : w.Orderly) (late : 0 < call.blockTimestamp)
    (found : w.keepers.get? call.caller = some info) (active : info.active = true) :
    (w.unstakeRequested call info).Reserved := by
  have idle := orderly.active _ _ found active
  have before := Cells.weigh_clear (World.pendingStake w.unstakeRequestTime) found
  have pending : call.blockTimestamp ≠ 0 := (UInt64.ne_of_lt late).symm
  unfold World.Reserved World.pendingStakes at reserved ⊢
  simp only [World.unstakeRequested]
  rw [Cells.weigh_set, pendingStake_clear]
  simp only [World.pendingStake, Function.update_self, idle, if_true, pending, if_false] at before ⊢
  omega

theorem World.Reserved.withdrawn_iff {call : CallContext} {info : KeeperInfo}
    (reserved : w.Reserved) (found : w.keepers.get? call.caller = some info) :
    (w.withdrawn chain call info).Reserved ↔
      w.unstakeRequestTime call.caller ≠ 0 ∨ w.totalCommittedCooldownEgld = 0 ∨
        info.stake = 0 := by
  have before := Cells.weigh_clear (World.pendingStake w.unstakeRequestTime) found
  unfold World.Reserved World.pendingStakes at reserved ⊢
  rw [World.withdrawn_keepers, World.withdrawn_unstakeRequestTime,
    World.withdrawn_totalCommittedCooldownEgld, pendingStake_clear]
  unfold World.releasedCommitment
  by_cases idle : w.unstakeRequestTime call.caller = 0
  · simp only [World.pendingStake, idle, if_true, ne_eq, not_true_eq_false, false_or] at before ⊢
    split <;> omega
  · simp only [World.pendingStake, idle, if_false, ne_eq, not_false_eq_true, true_or,
      iff_true] at before ⊢
    rw [if_pos (by omega)]
    omega

theorem World.Reserved.punished {keeper provider : Address} {stored : KeeperInfo} {amount : Nat}
    (reserved : w.Reserved) (orderly : w.Orderly) (info : KeeperInfo)
    (found : w.keepers.get? keeper = some stored) (sameStake : info.stake = stored.stake)
    (sameActive : info.active = stored.active) (bounded : amount ≤ stored.stake)
    (deactivated : Bool) (reason : Bytes) :
    (w.punished chain provider keeper info amount deactivated reason).Reserved := by
  have moved := pendingStakes_write found
    (World.punished_keepers chain provider keeper info amount deactivated reason w) (by simp)
  have share := Cells.weigh_clear (World.pendingStake w.unstakeRequestTime) found
  unfold World.Reserved at reserved ⊢
  rw [World.punished_totalCommittedCooldownEgld]
  by_cases idle : w.unstakeRequestTime keeper = 0
  · simp only [World.pendingStake, idle, if_true] at moved
    rw [if_neg (fun both => both.2 idle)]
    omega
  · have asleep : (slashedInfo info amount deactivated).active = false := by
      cases kind : stored.active with
      | true => exact absurd (orderly.active _ _ found kind) idle
      | false =>
          simp only [slashedInfo, sameActive, kind]
          split <;> rfl
    rw [if_pos ⟨asleep, idle⟩]
    unfold World.releasedCommitment
    simp only [World.pendingStake, idle, if_false, slashedInfo] at moved share
    unfold World.pendingStakes at *
    rw [if_pos (by omega)]
    omega

/-- The committed total stays right over a step exactly if the step is committed. -/
theorem reserved_step_iff (orderly : w.Orderly) (reserved : w.Reserved)
    (stepped : step chain w move = .ok next) : next.Reserved ↔ Committed w move := by
  cases step_effect stepped with
  | registerKeeper free _ => exact iff_of_true (reserved.registered orderly free) trivial
  | addStake found => exact reserved.toppedUp_iff found
  | requestUnstake late found active =>
      exact iff_of_true (reserved.unstakeRequested orderly late found active) trivial
  | withdrawStake found =>
      rw [reserved.withdrawn_iff found]
      simp only [Committed, found, Option.map_some, Option.some.injEq]
  | slashKeeper found bounded =>
      exact iff_of_true (reserved.punished orderly _ found rfl rfl bounded _ _) trivial
  | @recordSuccess call keeper info found =>
      refine iff_of_true ?_ trivial
      have moved : World.pendingStakes { w with keepers := w.keepers.set keeper (successInfo info) } +
          World.pendingStake w.unstakeRequestTime keeper info =
          World.pendingStake w.unstakeRequestTime keeper (successInfo info) + w.pendingStakes :=
        pendingStakes_write found rfl rfl
      unfold World.Reserved at reserved ⊢
      simp only [World.pendingStake, successInfo] at moved ⊢
      omega
  | recordFailure found bounded =>
      exact iff_of_true (reserved.punished orderly (failureInfo _) found rfl rfl bounded _ _) trivial
  | _ => exact iff_of_true reserved trivial

/-! ## Runs -/

theorem Deployed.orderly (start : Deployed w) : w.Orderly := by
  obtain ⟨_, _, _, _, rfl⟩ := start.eq_deployed
  exact ⟨fun _ _ => rfl, fun _ _ _ _ => rfl⟩

theorem Deployed.reserved (start : Deployed w) : w.Reserved := by
  obtain ⟨_, _, _, _, rfl⟩ := start.eq_deployed
  rfl

theorem delegation_leaves_reserve {call : CallContext} {amount : Nat} (reserved : w.Reserved)
    (positive : 0 < amount) (stepped : step chain w (.delegateStake call amount) = .ok next) :
    next.pendingStakes ≤ next.egld := by
  cases step_effect stepped with
  | @delegateStake call provider amount spare covered =>
      have same : World.pendingStakes { w with
          egld := w.egld - amount
          principal := w.principal.set provider (w.principal.amount provider + amount) } =
          w.totalCommittedCooldownEgld := reserved.symm
      rw [same]
      unfold World.delegable at spare
      split at spare <;> simp only <;> omega

/-- In any run, the committed total is the sum of the stakes with a pending
request in every state passed exactly if every step is committed; and after such a
run a positive delegation leaves that sum in the registry. -/
theorem reserve_exact {start : World} {steps : List Step} {allowed : World → Step → Prop}
    (deployed : Deployed start) (trace : Trace (step chain) allowed start steps w) :
    (Throughout (step chain) (fun w => w.totalCommittedCooldownEgld = w.pendingStakes) start steps ↔
        Trace (step chain) Committed start steps w) ∧
      (Trace (step chain) Committed start steps w → ∀ call amount next, 0 < amount →
        step chain w (.delegateStake call amount) = .ok next → next.pendingStakes ≤ next.egld) := by
  constructor
  · refine trace.throughout_iff World.Orderly ?_ ?_ deployed.orderly deployed.reserved
    · intro _ _ _ orderly stepped
      exact orderly.step stepped
    · intro _ _ _ orderly reserved stepped
      exact reserved_step_iff orderly reserved stepped
  · intro committed call amount next positive stepped
    have kept : w.Orderly ∧ w.Reserved := by
      refine committed.preserves (fun w => w.Orderly ∧ w.Reserved) ?_
        ⟨deployed.orderly, deployed.reserved⟩
      rintro _ _ _ fair ⟨orderly, reserved⟩ stepped
      exact ⟨orderly.step stepped, (reserved_step_iff orderly reserved stepped).mpr fair⟩
    exact delegation_leaves_reserve kept.2 positive stepped

namespace Sample

def committedRun : List Step :=
  [.registerKeeper (call alice 1000 10), .registerKeeper (call bob 200 10),
    .addStake (call alice 500 11), .requestUnstake (call alice 0 17), .slashKeeper (owner 18) alice [],
    .configure (owner 19) (.setStakingProvider provider), .delegateStake (owner 20) 150]

def uncommittedRun : List Step :=
  [.registerKeeper (call alice 100 10), .requestUnstake (call alice 0 17),
    .addStake (call alice 50 18), .configure (owner 19) (.setStakingProvider provider),
    .delegateStake (owner 20) 50]

end Sample

theorem reserve_exact_sample :
    ∃ w, Trace (step sampleChain) Committed Sample.registry Sample.committedRun w ∧
      (w.totalCommittedCooldownEgld = 1350 ∧ w.egld = 1400) ∧
      Throughout (step sampleChain) (fun w => w.totalCommittedCooldownEgld = w.pendingStakes)
        Sample.registry Sample.committedRun := by
  obtain ⟨w, trace, left⟩ := Trace.of_runChecked (step sampleChain) Committed Sample.registry
    Sample.committedRun (fun w => w.totalCommittedCooldownEgld = 1350 ∧ w.egld = 1400)
    (by decide +kernel)
  exact ⟨w, trace, left, (reserve_exact Sample.registry_deployed trace).1.mpr trace⟩

/-- The keeper is owed 150, of which the registry has kept 100. -/
theorem reserve_short :
    Deployed Sample.registry ∧
      ∃ w, Trace (step sampleChain) (fun _ _ => True) Sample.registry Sample.uncommittedRun w ∧
        w.totalCommittedCooldownEgld = 100 ∧ w.pendingStakes = 150 ∧ w.egld = 100 :=
  ⟨Sample.registry_deployed, Trace.of_runChecked _ _ _ _ _ (by decide +kernel)⟩

end XCron.Registry
