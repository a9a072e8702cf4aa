import XCron.Registry.Effects

/-!
# The records of the keepers

What a keeper's record says is what has happened since its latest registration:
the stake and the slashes add up to what the keeper has paid, and the counters
count its executions. The set of active keepers lists exactly those whose record
is active.
-/

namespace XCron.Registry

open Platform

variable {chain : Chain} {w next : World} {move : Step} {keeper : Address}

namespace Step

def registers (keeper : Address) : Step → Bool
  | .registerKeeper call => call.caller = keeper
  | _ => false

def paid (keeper : Address) : Step → Nat
  | .registerKeeper call | .addStake call => if call.caller = keeper then call.egldValue else 0
  | _ => 0

def records (keeper : Address) (success : Bool) : Step → Bool
  | .recordExecution _ executor outcome => executor = keeper ∧ outcome = success
  | _ => false

end Step

/-- The EGLD a keeper has paid since its latest registration. -/
def paidSince (keeper : Address) (past : List Step) : Nat :=
  ((sinceLatest (Step.registers keeper) past).map (Step.paid keeper)).sum

/-- The failures of a keeper since its latest registration or success. -/
def failuresSince (keeper : Address) (past : List Step) : Nat :=
  (sinceLatest (fun move => move.registers keeper || move.records keeper true) past).countP
    (Step.records keeper false)

/-- A record agrees with what has happened. -/
structure Recorded (keeper : Address) (past : List Step) (info : KeeperInfo) : Prop where
  stake : info.stake + info.slashedAmount = paidSince keeper past
  executions : info.totalExecutions = info.successfulExecs + info.failedExecs
  failures : info.consecutiveFailures = failuresSince keeper past

/-! ## What one step does to one record -/

/-- A step moves the record of a registered keeper on. -/
structure Advances (keeper : Address) (move : Step) (info info' : KeeperInfo) : Prop where
  balance : info'.stake + info'.slashedAmount = info.stake + info.slashedAmount + move.paid keeper
  total : info'.totalExecutions = info.totalExecutions +
    (move.records keeper true).toNat + (move.records keeper false).toNat
  successful : info'.successfulExecs = info.successfulExecs + (move.records keeper true).toNat
  failed : info'.failedExecs = info.failedExecs + (move.records keeper false).toNat
  consecutive : info'.consecutiveFailures =
    if move.records keeper true then 0
    else info.consecutiveFailures + (move.records keeper false).toNat

/-- A step that has nothing to do with the keeper's payments and executions. -/
structure Step.Spares (keeper : Address) (move : Step) : Prop where
  registers : move.registers keeper = false
  paid : move.paid keeper = 0
  succeeds : move.records keeper true = false
  fails : move.records keeper false = false

theorem Step.Spares.advances (spares : move.Spares keeper) {info info' : KeeperInfo}
    (balance : info'.stake + info'.slashedAmount = info.stake + info.slashedAmount)
    (total : info'.totalExecutions = info.totalExecutions)
    (successful : info'.successfulExecs = info.successfulExecs)
    (failed : info'.failedExecs = info.failedExecs)
    (consecutive : info'.consecutiveFailures = info.consecutiveFailures) :
    Advances keeper move info info' := by
  constructor <;> simp [spares.paid, spares.succeeds, spares.fails, *]

/-- Registration starts a new record. -/
structure Fresh (keeper : Address) (move : Step) (info : KeeperInfo) : Prop where
  registers : move.registers keeper = true
  stake : info.stake = move.paid keeper
  slashed : info.slashedAmount = 0
  total : info.totalExecutions = 0
  successful : info.successfulExecs = 0
  failed : info.failedExecs = 0
  consecutive : info.consecutiveFailures = 0

/-- What a keeper's record is after a step. -/
def Follows (keeper : Address) (move : Step) (w : World) (info' : KeeperInfo) : Prop :=
  Fresh keeper move info' ∨
    (move.registers keeper = false ∧
      ∃ info, w.keepers.get? keeper = some info ∧ Advances keeper move info info')

theorem Step.Spares.follows (spares : move.Spares keeper) {info : KeeperInfo}
    (found : w.keepers.get? keeper = some info) : Follows keeper move w info :=
  .inr ⟨spares.registers, info, found, spares.advances rfl rfl rfl rfl rfl⟩

/-- A step that writes one keeper's record moves that record on, and the others
stay as they are. -/
theorem follows_set {other : Address} {info info' : KeeperInfo}
    (found : (w.keepers.set other info').get? keeper = some info)
    (self : other = keeper → Follows keeper move w info')
    (spares : other ≠ keeper → move.Spares keeper) : Follows keeper move w info := by
  rcases Cells.of_get?_set found with ⟨same, rfl⟩ | ⟨different, found⟩
  · exact self same.symm
  · exact (spares (Ne.symm different)).follows found

theorem advances_slashed {info : KeeperInfo} {amount : Nat} (spares : move.Spares keeper)
    (bounded : amount ≤ info.stake) (deactivated : Bool) :
    Advances keeper move info (slashedInfo info amount deactivated) := by
  refine spares.advances ?_ rfl rfl rfl rfl
  simp only [slashedInfo]
  omega

theorem advances_failed {call : CallContext} {info : KeeperInfo} {amount : Nat}
    (bounded : amount ≤ info.stake) (deactivated : Bool) :
    Advances keeper (.recordExecution call keeper false) info
      (slashedInfo (failureInfo info) amount deactivated) := by
  constructor
  · simp only [slashedInfo, failureInfo, Step.paid]
    omega
  · simp [slashedInfo, failureInfo, Step.records]
  · simp [slashedInfo, failureInfo, Step.records]
  · simp [slashedInfo, failureInfo, Step.records]
  · simp [slashedInfo, failureInfo, Step.records]

theorem advances_succeeded {call : CallContext} (info : KeeperInfo) :
    Advances keeper (.recordExecution call keeper true) info (successInfo info) := by
  constructor <;> simp [successInfo, Step.records, Step.paid]

theorem follows_step (stepped : step chain w move = .ok next) {info' : KeeperInfo}
    (found' : next.keepers.get? keeper = some info') : Follows keeper move w info' := by
  cases step_effect stepped with
  | @registerKeeper call free enough =>
      refine follows_set found' ?_ ?_
      · rintro rfl
        exact .inl ⟨by simp [Step.registers], by simp [Step.paid], rfl, rfl, rfl, rfl, rfl⟩
      · intro different
        exact ⟨by simp [Step.registers, different], by simp [Step.paid, different], rfl, rfl⟩
  | @addStake call info found =>
      refine follows_set found' ?_ ?_
      · rintro rfl
        refine .inr ⟨rfl, info, found, ?_⟩
        constructor
        · simp only [Step.paid, if_true]
          omega
        all_goals simp [Step.records]
      · intro different
        exact ⟨rfl, by simp [Step.paid, different], rfl, rfl⟩
  | @requestUnstake call info late found active =>
      refine follows_set found' ?_ fun _ => ⟨rfl, rfl, rfl, rfl⟩
      rintro rfl
      have spares : (Step.requestUnstake call).Spares call.caller := ⟨rfl, rfl, rfl, rfl⟩
      exact .inr ⟨rfl, info, found, spares.advances rfl rfl rfl rfl rfl⟩
  | @withdrawStake call info found =>
      rw [World.withdrawn_keepers] at found'
      exact Step.Spares.follows ⟨rfl, rfl, rfl, rfl⟩ (Cells.get?_of_clear found')
  | @slashKeeper call other provider reason info amount deactivated found bounded =>
      rw [World.punished_keepers] at found'
      refine follows_set found' ?_ fun _ => ⟨rfl, rfl, rfl, rfl⟩
      rintro rfl
      exact .inr ⟨rfl, info, found, advances_slashed ⟨rfl, rfl, rfl, rfl⟩ bounded _⟩
  | @recordSuccess call other info found =>
      refine follows_set found' ?_ ?_
      · rintro rfl
        exact .inr ⟨rfl, info, found, advances_succeeded info⟩
      · intro different
        exact ⟨rfl, rfl, by simp [Step.records, different], by simp [Step.records]⟩
  | @recordFailure call other provider reason info amount deactivated found bounded =>
      rw [World.punished_keepers] at found'
      refine follows_set found' ?_ ?_
      · rintro rfl
        exact .inr ⟨rfl, info, found, advances_failed bounded _⟩
      · intro different
        exact ⟨rfl, rfl, by simp [Step.records], by simp [Step.records, different]⟩
  | _ => exact Step.Spares.follows ⟨rfl, rfl, rfl, rfl⟩ found'

/-! ## The history -/

theorem paidSince_concat (keeper : Address) (past : List Step) (move : Step) :
    paidSince keeper (past ++ [move]) =
      if move.registers keeper then move.paid keeper
      else paidSince keeper past + move.paid keeper := by
  unfold paidSince
  rw [sinceLatest_concat]
  split <;> simp

theorem Step.records_of_registers (registers : move.registers keeper = true) (success : Bool) :
    move.records keeper success = false := by
  cases move with
  | registerKeeper => rfl
  | _ => cases registers

theorem Step.not_records_both (succeeds : move.records keeper true = true) :
    move.records keeper false = false := by
  cases move with
  | recordExecution call executor outcome =>
      simp only [Step.records, decide_eq_true_eq] at succeeds
      simp [Step.records, succeeds.2]
  | _ => rfl

theorem failuresSince_concat (keeper : Address) (past : List Step) (move : Step) :
    failuresSince keeper (past ++ [move]) =
      if move.registers keeper || move.records keeper true then 0
      else failuresSince keeper past + (move.records keeper false).toNat := by
  unfold failuresSince
  rw [sinceLatest_concat]
  split
  · rename_i marked
    have success : move.records keeper false = false := by
      rcases Bool.or_eq_true_iff.mp marked with registers | succeeds
      · exact Step.records_of_registers registers false
      · exact Step.not_records_both succeeds
    rw [List.countP_singleton, success]
    rfl
  · rw [List.countP_append, List.countP_singleton]
    cases move.records keeper false <;> rfl

theorem Follows.recorded {past : List Step} {info' : KeeperInfo}
    (follows : Follows keeper move w info')
    (recorded : ∀ info, w.keepers.get? keeper = some info → Recorded keeper past info) :
    Recorded keeper (past ++ [move]) info' := by
  rcases follows with fresh | ⟨registered, info, found, advances⟩
  · constructor
    · rw [paidSince_concat, fresh.registers, if_pos rfl, fresh.stake, fresh.slashed, Nat.add_zero]
    · rw [fresh.total, fresh.successful, fresh.failed]
    · rw [failuresSince_concat, fresh.registers, Bool.true_or, if_pos rfl, fresh.consecutive]
  · obtain ⟨stake, executions, failures⟩ := recorded info found
    constructor
    · rw [paidSince_concat, registered, advances.balance, stake]
      rfl
    · rw [advances.total, advances.successful, advances.failed, executions]
      omega
    · rw [failuresSince_concat, registered, Bool.false_or, advances.consecutive, failures]

/-! ## The active set -/

/-- The set of active keepers lists the keepers whose record is active. -/
def World.Listed (w : World) : Prop :=
  ∀ keeper, keeper ∈ w.activeKeeperSet ↔
    ∃ info, w.keepers.get? keeper = some info ∧ info.active = true

theorem World.Listed.mem_iff (listed : w.Listed) {info : KeeperInfo}
    (found : w.keepers.get? keeper = some info) :
    keeper ∈ w.activeKeeperSet ↔ info.active = true := by
  rw [listed keeper, found]
  simp

theorem World.Listed.write {other : World} {someone : Address} {info : KeeperInfo}
    (listed : w.Listed) (written : other.keepers = w.keepers.set someone info)
    (self : someone ∈ other.activeKeeperSet ↔ info.active = true)
    (others : ∀ keeper, keeper ≠ someone →
      (keeper ∈ other.activeKeeperSet ↔ keeper ∈ w.activeKeeperSet)) : other.Listed := by
  intro keeper
  rw [written]
  by_cases same : keeper = someone
  · rw [same, Cells.get?_set_self, self]
    simp
  · rw [Cells.get?_set_ne _ _ same, others keeper same]
    exact listed keeper

theorem World.Listed.punished {someone provider : Address} {stored : KeeperInfo} {amount : Nat}
    (listed : w.Listed) (info : KeeperInfo) (found : w.keepers.get? someone = some stored)
    (same : info.active = stored.active) (deactivated : Bool) (reason : Bytes) :
    (w.punished chain provider someone info amount deactivated reason).Listed := by
  refine listed.write
    (World.punished_keepers chain provider someone info amount deactivated reason w) ?_ ?_
  · rw [World.punished_activeKeeperSet]
    cases deactivated with
    | true => simp [slashedInfo]
    | false =>
        simp only [slashedInfo, Bool.false_eq_true, if_false, same]
        exact listed.mem_iff found
  · intro keeper different
    rw [World.punished_activeKeeperSet]
    split
    · simp [different]
    · rfl

theorem World.Listed.step (listed : w.Listed) (stepped : step chain w move = .ok next) :
    next.Listed := by
  cases step_effect stepped with
  | registerKeeper free _ =>
      refine listed.write rfl (iff_of_true (Finset.mem_insert_self _ _) rfl) ?_
      intro keeper different
      exact Finset.mem_insert.trans (or_iff_right different)
  | addStake found =>
      have known := listed.mem_iff found
      exact listed.write rfl known fun _ _ => Iff.rfl
  | requestUnstake late found active =>
      refine listed.write rfl (iff_of_false (Finset.notMem_erase _ _) (by simp)) ?_
      intro keeper different
      exact Finset.mem_erase.trans (and_iff_right different)
  | @withdrawStake call info found inactive =>
      intro keeper
      rw [World.withdrawn_activeKeeperSet, World.withdrawn_keepers, listed keeper,
        Cells.get?_clear]
      split
      · rename_i same
        rw [same, found]
        simp [inactive]
      · rfl
  | slashKeeper found => exact listed.punished _ found rfl _ _
  | recordSuccess found =>
      have known := listed.mem_iff found
      exact listed.write rfl known fun _ _ => Iff.rfl
  | recordFailure found => exact listed.punished (failureInfo _) found rfl _ _
  | _ => exact listed

/-! ## Runs -/

/-- After every run, the active keepers are the registered ones whose record is
active, and every record agrees with the steps since its keeper registered. -/
theorem records_agree {start : World} {steps : List Step} {allowed : World → Step → Prop}
    (deployed : Deployed start) (trace : Trace (step chain) allowed start steps w)
    (keeper : Address) :
    (keeper ∈ w.activeKeeperSet ↔
        ∃ info, w.keepers.get? keeper = some info ∧ info.active = true) ∧
      ∀ info, w.keepers.get? keeper = some info →
        info.stake + info.slashedAmount = paidSince keeper steps ∧
        info.totalExecutions = info.successfulExecs + info.failedExecs ∧
        info.consecutiveFailures = failuresSince keeper steps := by
  obtain ⟨_, _, _, _, rfl⟩ := deployed.eq_deployed
  have listed : w.Listed := by
    refine trace.preserves World.Listed ?_ ?_
    · intro _ _ _ _ listed stepped
      exact listed.step stepped
    · intro keeper
      simp [XCron.Registry.deployed]
  have recorded : ∀ info, w.keepers.get? keeper = some info →
      Recorded keeper ([] ++ steps) info := by
    refine trace.history (fun past w => ∀ info, w.keepers.get? keeper = some info →
      Recorded keeper past info) ?_ ?_
    · intro past _ _ _ recorded stepped info' found'
      exact (follows_step stepped found').recorded recorded
    · intro info found
      simp [XCron.Registry.deployed] at found
  refine ⟨listed keeper, ?_⟩
  intro info found
  obtain ⟨stake, executions, failures⟩ := recorded info found
  exact ⟨stake, executions, failures⟩

namespace Sample

def returningRun : List Step :=
  [.registerKeeper (call alice 1000 10), .configure (owner 11) (.setStakingProvider .zero),
    .recordExecution (owner 12) alice false, .requestUnstake (call alice 0 17),
    .withdrawStake (call alice 0 70), .registerKeeper (call alice 400 80),
    .addStake (call alice 100 81), .recordExecution (owner 82) alice false,
    .recordExecution (owner 83) alice true, .recordExecution (owner 84) alice false,
    .recordExecution (owner 85) alice false]

end Sample

theorem records_agree_sample :
    ∃ w, Trace (step sampleChain) (fun _ _ => True) Sample.registry Sample.returningRun w ∧
      (paidSince Sample.alice Sample.returningRun = 500 ∧
        failuresSince Sample.alice Sample.returningRun = 2) ∧
      ∃ info, w.keepers.get? Sample.alice = some info ∧
        info.stake + info.slashedAmount = paidSince Sample.alice Sample.returningRun ∧
        info.totalExecutions = info.successfulExecs + info.failedExecs ∧
        info.consecutiveFailures = failuresSince Sample.alice Sample.returningRun := by
  obtain ⟨w, trace, present⟩ := Trace.of_runChecked (step sampleChain) (fun _ _ => True)
    Sample.registry Sample.returningRun (fun w => (w.keepers.get? Sample.alice).isSome = true)
    (by decide +kernel)
  obtain ⟨info, found⟩ := Option.isSome_iff_exists.mp present
  exact ⟨w, trace, by decide +kernel, info, found,
    (records_agree Sample.registry_deployed trace Sample.alice).2 info found⟩

end XCron.Registry
