import XCron.Registry.Records
import XCron.Registry.Strikes
import XCron.Scheduler.Verdicts

/-!
# Reports of executions

The scheduler tells the registry of every execution it closes, in a message whose outcome
it never learns. The registry counts what it takes on the keeper's record, and a report
that it refuses is not sent again.
-/

namespace XCron.Registry

open Platform
open Scheduler (Verdict)

/-! ## The two contracts -/

structure System where
  scheduler : Scheduler.World
  registry : World

/-- A report comes from the scheduler, in whatever block it is delivered, and carries
nothing. -/
def reportCall (chain : Chain) (block : CallContext) : CallContext :=
  { block with caller := chain.scAddress, egldValue := 0, esdtTransfers := [] }

/-- What can happen to the two. A call of the registry may come from the scheduler also
without a report: a task can have the registry for its target. -/
inductive Move where
  | scheduler (move : Scheduler.Step)
  | registry (move : Step)
  | deliver (index : Nat) (block : CallContext) (arrives : Bool)

def System.receive (chain registryChain : Chain) (block : CallContext) (keeper : Address)
    (success : Bool) (s : System) : System × Bool :=
  match step registryChain s.registry (.recordExecution (reportCall chain block) keeper success) with
  | .ok registry => ({ s with registry := registry }, true)
  | .error _ => (s, false)

def System.settle (chain : Chain) (index : Nat) (accepted : Bool) (s : System) : Outcome System := do
  let scheduler ← Scheduler.step chain s.scheduler (.deliverMessage index accepted)
  pure { s with scheduler := scheduler }

def System.step (chain registryChain : Chain) (s : System) : Move → Outcome System
  | .scheduler move => do
      ensure (move.delivers = false)
      let scheduler ← Scheduler.step chain s.scheduler move
      pure { s with scheduler := scheduler }
  | .registry move => do
      let registry ← Registry.step registryChain s.registry move
      pure { s with registry := registry }
  | .deliver index block arrives =>
      match s.scheduler.outbox[index]? with
      | some (.recordExecution receiver keeper success) =>
          if arrives = true ∧ receiver = registryChain.scAddress then
            let (s, accepted) := s.receive chain registryChain block keeper success
            s.settle chain index accepted
          else s.settle chain index arrives
      | _ => s.settle chain index arrives

/-! ## The books -/

def World.recorded (verdict : Verdict) (w : World) : Nat :=
  match w.keepers.get? verdict.keeper with
  | none => 0
  | some info => if verdict.success then info.successfulExecs else info.failedExecs

/-- Every verdict ever reached is on its way or on record, once. -/
def System.Agrees (s : System) : Prop :=
  ∀ verdict, s.scheduler.verdicts.count verdict =
    s.scheduler.reportsInFlight.count verdict + s.registry.recorded verdict

/-- A report that the registry takes: its sender is authorised, the keeper is registered,
and a failure can be punished, which needs a provider to have been set. -/
structure Takes (chain : Chain) (w : World) (call : CallContext) (verdict : Verdict) : Prop where
  sender : Reports chain w call
  punishes : ∃ info, w.keepers.get? verdict.keeper = some info ∧
    (verdict.success = false → ∃ provider, w.config.stakingProviderAddr = some provider ∧
      (provider = Bytes32.zero → strikeAmount info ≤ w.egld))

/-- No report is lost, none is forged, and no keeper leaves with executions on record. -/
def Faithful (chain registryChain : Chain) (s : System) : Move → Prop
  | .scheduler _ => True
  | .registry (.recordExecution _ _ _) => False
  | .registry (.withdrawStake call) =>
      ∀ success, s.registry.recorded ⟨call.caller, success⟩ = 0
  | .registry _ => True
  | .deliver index block arrives => ∀ receiver keeper success,
      s.scheduler.outbox[index]? = some (.recordExecution receiver keeper success) →
      arrives = true ∧ receiver = registryChain.scAddress ∧
        Takes registryChain s.registry (reportCall chain block) ⟨keeper, success⟩

/-! ## What the registry makes of a report -/

variable {chain registryChain : Chain} {w after : World} {call : CallContext} {keeper : Address}

theorem reports_of_recorded {success : Bool}
    (stepped : step chain w (.recordExecution call keeper success) = .ok after) :
    Reports chain w call := by
  simp only [step, Step.call?, body, Outcome.bind_eq_ok, Outcome.ensure_eq_ok,
    CallContext.notPayable, recordExecution, World.requireAuthorizedCaller,
    Outcome.require_eq_ok] at stepped
  obtain ⟨_, ⟨delivered, late⟩, _, ⟨noEgld, noEsdt⟩, _, authorized, _⟩ := stepped
  exact ⟨⟨delivered, noEgld, noEsdt⟩, late, authorized⟩

theorem recordSuccess_eq_ok (sender : Reports chain w call) :
    step chain w (.recordExecution call keeper true) = .ok after ↔
      ∃ info, w.keepers.get? keeper = some info ∧
        { w with keepers := w.keepers.set keeper (successInfo info) } = after := by
  rw [step_of_plain rfl sender.plain sender.late]
  simp only [body, Outcome.bind_eq_ok, recordExecution, Outcome.load_eq_ok, if_true,
    Outcome.pure_eq_ok]
  constructor
  · rintro ⟨_, _, _, _, info, found, recorded⟩
    exact ⟨info, found, recorded⟩
  · rintro ⟨info, found, recorded⟩
    exact ⟨(), sender.plain.notPayable (), (), (Outcome.require_eq_ok _ _ _).mpr sender.authorized,
      info, found, recorded⟩

theorem recordExecution_ok_iff {success : Bool} :
    (∃ after, step chain w (.recordExecution call keeper success) = .ok after) ↔
      Takes chain w call ⟨keeper, success⟩ := by
  constructor
  · rintro ⟨after, stepped⟩
    have sender := reports_of_recorded stepped
    cases success with
    | true =>
        obtain ⟨info, found, _⟩ := (recordSuccess_eq_ok sender).mp stepped
        exact ⟨sender, info, found, by rintro ⟨⟩⟩
    | false =>
        obtain ⟨info, found, provider, set, covered, _⟩ := (recordFailure_eq_ok sender).mp stepped
        exact ⟨sender, info, found, fun _ => ⟨provider, set, covered⟩⟩
  · rintro ⟨sender, info, found, punishable⟩
    cases success with
    | true => exact ⟨_, (recordSuccess_eq_ok sender).mpr ⟨info, found, rfl⟩⟩
    | false =>
        obtain ⟨provider, set, covered⟩ := punishable rfl
        exact ⟨_, (recordFailure_eq_ok sender).mpr ⟨info, found, provider, set, covered, rfl⟩⟩

/-! ## The books of the registry -/

variable {move : Step} {verdict : Verdict}

theorem recorded_of_absent (absent : w.keepers.get? verdict.keeper = none) :
    w.recorded verdict = 0 := by
  unfold World.recorded
  rw [absent]

theorem recorded_of_found {info : KeeperInfo} (found : w.keepers.get? verdict.keeper = some info) :
    w.recorded verdict = if verdict.success then info.successfulExecs else info.failedExecs := by
  unfold World.recorded
  rw [found]

theorem Advances.recorded {info info' : KeeperInfo}
    (advances : Advances verdict.keeper move info info')
    (found : w.keepers.get? verdict.keeper = some info)
    (found' : after.keepers.get? verdict.keeper = some info') :
    after.recorded verdict =
      w.recorded verdict + (move.records verdict.keeper verdict.success).toNat := by
  rw [recorded_of_found found, recorded_of_found found']
  cases verdict.success with
  | true => exact advances.successful
  | false => exact advances.failed

theorem Fresh.recorded {info : KeeperInfo} (fresh : Fresh verdict.keeper move info)
    (stepped : step chain w move = .ok after)
    (found : after.keepers.get? verdict.keeper = some info) :
    after.recorded verdict =
      w.recorded verdict + (move.records verdict.keeper verdict.success).toNat := by
  have nothing := Step.records_of_registers fresh.registers verdict.success
  have registers := fresh.registers
  cases step_effect stepped with
  | registerKeeper free _ =>
      obtain same : _ = verdict.keeper := of_decide_eq_true registers
      rw [same] at free
      rw [recorded_of_found found, recorded_of_absent free, nothing, fresh.successful, fresh.failed]
      exact ite_self 0
  | _ => cases registers

theorem absent_before (stepped : step chain w move = .ok after)
    (absent : after.keepers.get? keeper = none)
    (stays : ∀ call, move = .withdrawStake call → call.caller ≠ keeper) :
    w.keepers.get? keeper = none ∧ ∀ success, move.records keeper success = false := by
  have unset : ∀ {someone : Address} {info : KeeperInfo},
      (w.keepers.set someone info).get? keeper = none →
        w.keepers.get? keeper = none ∧ someone ≠ keeper := by
    intro someone info absent
    rw [Cells.get?_set] at absent
    split at absent
    · cases absent
    next different => exact ⟨absent, Ne.symm different⟩
  cases step_effect stepped with
  | registerKeeper | addStake | requestUnstake => exact ⟨(unset absent).1, fun _ => rfl⟩
  | withdrawStake =>
      rw [World.withdrawn_keepers, Cells.get?_clear_ne _ (Ne.symm (stays _ rfl))] at absent
      exact ⟨absent, fun _ => rfl⟩
  | slashKeeper =>
      rw [World.punished_keepers] at absent
      exact ⟨(unset absent).1, fun _ => rfl⟩
  | recordSuccess =>
      obtain ⟨before, other⟩ := unset absent
      exact ⟨before, fun success => by simp [Step.records, other]⟩
  | recordFailure =>
      rw [World.punished_keepers] at absent
      obtain ⟨before, other⟩ := unset absent
      exact ⟨before, fun success => by simp [Step.records, other]⟩
  | _ => exact ⟨absent, fun _ => rfl⟩

theorem recorded_step (stepped : step chain w move = .ok after)
    (stays : ∀ call, move = .withdrawStake call → call.caller ≠ verdict.keeper) :
    after.recorded verdict =
      w.recorded verdict + (move.records verdict.keeper verdict.success).toNat := by
  cases found : after.keepers.get? verdict.keeper with
  | none =>
      obtain ⟨absent, nothing⟩ := absent_before stepped found stays
      rw [recorded_of_absent found, recorded_of_absent absent, nothing]
      rfl
  | some info =>
      rcases follows_step stepped found with fresh | ⟨_, info, found', advances⟩
      · exact fresh.recorded stepped found
      · exact advances.recorded found' found

theorem recorded_withdrawn (stepped : step chain w (.withdrawStake call) = .ok after)
    (success : Bool) : after.recorded ⟨call.caller, success⟩ = 0 := by
  cases step_effect stepped with
  | withdrawStake =>
      apply recorded_of_absent
      rw [World.withdrawn_keepers]
      exact Cells.get?_clear_self _ _

theorem recorded_report {success : Bool}
    (stepped : step chain w (.recordExecution call keeper success) = .ok after)
    (verdict : Verdict) :
    after.recorded verdict = w.recorded verdict + [⟨keeper, success⟩].count verdict := by
  rw [recorded_step stepped (by rintro _ ⟨⟩), List.count_singleton]
  congr 1
  by_cases same : (⟨keeper, success⟩ : Verdict) = verdict
  · subst same
    simp [Step.records]
  · have other : ¬(keeper = verdict.keeper ∧ success = verdict.success) := by
      rintro ⟨rfl, rfl⟩
      exact same rfl
    simp [Step.records, same, other]

/-! ## One step -/

variable {s next : System}

theorem settle_eq_ok {index : Nat} {accepted : Bool} {message : Scheduler.Message}
    (queued : s.scheduler.outbox[index]? = some message) :
    s.settle chain index accepted = .ok next ↔
      { s with scheduler := s.scheduler.unqueued index accepted message } = next := by
  simp only [System.settle, Scheduler.step, Scheduler.Step.call?, Scheduler.body, queued,
    Outcome.bind_eq_ok, Outcome.pure_eq_ok, exists_eq_left', Scheduler.World.unqueued]

theorem not_settled {index : Nat} {accepted : Bool} (missing : s.scheduler.outbox[index]? = none) :
    s.settle chain index accepted ≠ .ok next := by
  simp [System.settle, Scheduler.step, Scheduler.Step.call?, Scheduler.body, missing, Bind.bind,
    Except.bind]

theorem settle_reporting {index : Nat} {accepted : Bool} (reporting : s.scheduler.Reporting)
    (settled : s.settle chain index accepted = .ok next) : next.scheduler.Reporting := by
  simp only [System.settle, Outcome.bind_eq_ok, Outcome.pure_eq_ok] at settled
  obtain ⟨scheduler, stepped, rfl⟩ := settled
  exact reporting.step stepped

theorem settle_agrees_iff {index : Nat} {accepted : Bool} {message : Scheduler.Message}
    {registry : World} (queued : s.scheduler.outbox[index]? = some message)
    (settled : System.settle chain index accepted { s with registry := registry } = .ok next)
    (agrees : s.Agrees) :
    next.Agrees ↔ ∀ verdict, registry.recorded verdict =
      s.registry.recorded verdict + message.verdict?.toList.count verdict := by
  have queued' : { s with registry := registry }.scheduler.outbox[index]? = some message := queued
  obtain rfl := (settle_eq_ok queued').mp settled
  refine forall_congr' ?_
  intro verdict
  have before := agrees verdict
  have inFlight := (Scheduler.unqueued_reportsInFlight accepted queued).count_eq verdict
  rw [List.count_append] at inFlight
  have announced : (s.scheduler.unqueued index accepted message).verdicts = s.scheduler.verdicts :=
    rfl
  dsimp only
  rw [announced]
  omega

theorem settle_lost {index : Nat} {accepted : Bool} {receiver keeper : Address} {success : Bool}
    (queued : s.scheduler.outbox[index]? = some (.recordExecution receiver keeper success))
    (settled : s.settle chain index accepted = .ok next) (agrees : s.Agrees) : ¬next.Agrees := by
  rw [settle_agrees_iff queued settled agrees]
  intro same
  have missing := same ⟨keeper, success⟩
  simp [Scheduler.Message.verdict?] at missing

theorem deliver_agrees_iff {index : Nat} {block : CallContext} {arrives : Bool} (agrees : s.Agrees)
    (stepped : s.step chain registryChain (.deliver index block arrives) = .ok next) :
    next.Agrees ↔ Faithful chain registryChain s (.deliver index block arrives) := by
  simp only [System.step] at stepped
  split at stepped
  next receiver keeper success queued =>
    split at stepped
    next here =>
      have taken_iff : Faithful chain registryChain s (.deliver index block arrives) ↔
          Takes registryChain s.registry (reportCall chain block) ⟨keeper, success⟩ := by
        constructor
        · intro faithful
          exact (faithful _ _ _ queued).2.2
        · intro taken _ _ _ queued'
          cases queued.symm.trans queued'
          exact ⟨here.1, here.2, taken⟩
      rw [taken_iff, ← recordExecution_ok_iff]
      unfold System.receive at stepped
      split at stepped
      next registry recorded =>
        refine iff_of_true ?_ ⟨registry, recorded⟩
        rw [settle_agrees_iff queued stepped agrees]
        exact recorded_report recorded
      next fault refused =>
        refine iff_of_false (settle_lost queued stepped agrees) ?_
        rintro ⟨registry, recorded⟩
        cases refused.symm.trans recorded
    next elsewhere =>
      refine iff_of_false (settle_lost queued stepped agrees) ?_
      intro faithful
      obtain ⟨arrived, addressed, _⟩ := faithful _ _ _ queued
      exact elsewhere ⟨arrived, addressed⟩
  next other =>
    cases queued : s.scheduler.outbox[index]? with
    | none => exact absurd stepped (not_settled queued)
    | some message =>
        cases message with
        | recordExecution receiver keeper success =>
            exact absurd queued (other receiver keeper success)
        | receiveExecutionFee receiver keeper amount =>
            refine iff_of_true ?_ ?_
            · rw [settle_agrees_iff queued stepped agrees]
              exact fun _ => rfl
            · intro _ _ _ queued'
              cases queued.symm.trans queued'

theorem scheduler_agrees {own : Scheduler.Step} {scheduler : Scheduler.World}
    (reporting : s.scheduler.Reporting) (agrees : s.Agrees) (undelivered : own.delivers = false)
    (stepped : Scheduler.step chain s.scheduler own = .ok scheduler) :
    { s with scheduler := scheduler }.Agrees := by
  obtain ⟨verdicts, announced, sent⟩ := Scheduler.step_announces reporting undelivered stepped
  intro verdict
  have before := agrees verdict
  dsimp only
  rw [announced, sent, List.count_append, List.count_append]
  omega

theorem registry_agrees_iff {registry : World} (agrees : s.Agrees) :
    { s with registry := registry }.Agrees ↔
      ∀ verdict, registry.recorded verdict = s.registry.recorded verdict := by
  refine forall_congr' ?_
  intro verdict
  have before := agrees verdict
  dsimp only
  omega

theorem registry_keeps {registry : World} (agrees : s.Agrees)
    (stepped : Registry.step registryChain s.registry move = .ok registry)
    (stays : ∀ call, move ≠ .withdrawStake call)
    (silent : ∀ keeper success, move.records keeper success = false) :
    { s with registry := registry }.Agrees := by
  rw [registry_agrees_iff agrees]
  intro verdict
  rw [recorded_step stepped (fun call leaves => absurd leaves (stays call)), silent]
  rfl

theorem registry_faithful_iff {registry : World} (agrees : s.Agrees)
    (stepped : Registry.step registryChain s.registry move = .ok registry) :
    { s with registry := registry }.Agrees ↔ Faithful chain registryChain s (.registry move) := by
  cases move with
  | recordExecution call keeper success =>
      refine iff_of_false ?_ id
      rw [registry_agrees_iff agrees]
      intro same
      have unchanged := same ⟨keeper, success⟩
      rw [recorded_report stepped] at unchanged
      simp at unchanged
  | withdrawStake call =>
      rw [registry_agrees_iff agrees]
      constructor
      · intro same success
        rw [← same, recorded_withdrawn stepped]
      · intro nothing verdict
        by_cases leaves : call.caller = verdict.keeper
        · obtain ⟨keeper, success⟩ := verdict
          cases leaves
          rw [recorded_withdrawn stepped, nothing]
        · rw [recorded_step stepped (by rintro _ ⟨⟩; exact leaves)]
          rfl
  | _ => exact iff_of_true (registry_keeps agrees stepped (by rintro _ ⟨⟩) fun _ _ => rfl) trivial

/-- A step keeps the books of the two contracts in agreement exactly if it is faithful. -/
theorem step_agrees_iff {move : Move} (reporting : s.scheduler.Reporting) (agrees : s.Agrees)
    (stepped : s.step chain registryChain move = .ok next) :
    next.Agrees ↔ Faithful chain registryChain s move := by
  cases move with
  | scheduler move =>
      simp only [System.step, Outcome.bind_eq_ok, Outcome.ensure_eq_ok, Outcome.pure_eq_ok] at stepped
      obtain ⟨_, own, scheduler, stepped, rfl⟩ := stepped
      exact iff_of_true (scheduler_agrees reporting agrees own stepped) trivial
  | registry move =>
      simp only [System.step, Outcome.bind_eq_ok, Outcome.pure_eq_ok] at stepped
      obtain ⟨registry, stepped, rfl⟩ := stepped
      exact registry_faithful_iff agrees stepped
  | deliver index block arrives => exact deliver_agrees_iff agrees stepped

theorem step_reporting {move : Move} (reporting : s.scheduler.Reporting)
    (stepped : s.step chain registryChain move = .ok next) : next.scheduler.Reporting := by
  cases move with
  | scheduler move =>
      simp only [System.step, Outcome.bind_eq_ok, Outcome.pure_eq_ok] at stepped
      obtain ⟨_, _, scheduler, stepped, rfl⟩ := stepped
      exact reporting.step stepped
  | registry move =>
      simp only [System.step, Outcome.bind_eq_ok, Outcome.pure_eq_ok] at stepped
      obtain ⟨registry, stepped, rfl⟩ := stepped
      exact reporting
  | deliver index block arrives =>
      simp only [System.step, System.receive] at stepped
      split at stepped
      · split at stepped
        · split at stepped
          next registry _ =>
            have reporting' : { s with registry := registry }.scheduler.Reporting := reporting
            exact settle_reporting reporting' stepped
          next => exact settle_reporting reporting stepped
        · exact settle_reporting reporting stepped
      · exact settle_reporting reporting stepped

/-! ## Runs -/

structure System.Deployed (s : System) : Prop where
  scheduler : Scheduler.Deployed s.scheduler
  registry : Registry.Deployed s.registry

theorem System.Deployed.agrees (started : s.Deployed) : s.Agrees := by
  obtain ⟨_, _, _, _, _, _, scheduler⟩ := started.scheduler.eq
  obtain ⟨_, _, _, _, registry⟩ := started.registry.eq_deployed
  intro verdict
  rw [scheduler, registry]
  rfl

/-- Every verdict of the scheduler is in flight or on its keeper's record, once, in every
state of a run exactly if every report that is delivered in it is taken, no other report
is, and no keeper withdraws with executions on record. -/
theorem verdicts_recorded_iff {start : System} {moves : List Move} (started : start.Deployed)
    (trace : Trace (System.step chain registryChain) (fun _ _ => True) start moves s) :
    Throughout (System.step chain registryChain) System.Agrees start moves ↔
      Trace (System.step chain registryChain) (Faithful chain registryChain) start moves s := by
  exact trace.throughout_iff (fun s => s.scheduler.Reporting)
    (fun _ _ _ reporting stepped => step_reporting reporting stepped)
    (fun _ _ _ reporting agrees stepped => step_agrees_iff reporting agrees stepped)
    started.scheduler.reporting started.agrees

/-! ## A report that arrives -/

instance (chain : Chain) (w : World) (call : CallContext) : Decidable (Reports chain w call) :=
  decidable_of_iff ((call.Delivered chain ∧ call.egldValue = 0 ∧ call.esdtTransfers = []) ∧
      0 < call.blockTimestamp ∧
      (call.caller ∈ w.config.authorizedCallers ∨ call.caller = chain.ownerAddress))
    ⟨fun ⟨⟨delivered, noEgld, noEsdt⟩, late, authorized⟩ =>
        ⟨⟨delivered, noEgld, noEsdt⟩, late, authorized⟩,
      fun ⟨⟨delivered, noEgld, noEsdt⟩, late, authorized⟩ =>
        ⟨⟨delivered, noEgld, noEsdt⟩, late, authorized⟩⟩

instance (chain : Chain) (w : World) (call : CallContext) (verdict : Verdict) :
    Decidable (Takes chain w call verdict) :=
  decidable_of_iff (Reports chain w call ∧ ∃ info ∈ w.keepers.get? verdict.keeper,
      verdict.success = false → ∃ provider ∈ w.config.stakingProviderAddr,
        provider = Bytes32.zero → strikeAmount info ≤ w.egld)
    ⟨fun ⟨sender, punishes⟩ => ⟨sender, punishes⟩, fun ⟨sender, punishes⟩ => ⟨sender, punishes⟩⟩

instance (chain registryChain : Chain) (s : System) :
    (move : Move) → Decidable (Faithful chain registryChain s move)
  | .scheduler _ => .isTrue trivial
  | .registry (.recordExecution _ _ _) => .isFalse id
  | .registry (.withdrawStake call) =>
      inferInstanceAs (Decidable (∀ success, s.registry.recorded ⟨call.caller, success⟩ = 0))
  | .registry (.registerKeeper _) | .registry (.addStake _) | .registry (.requestUnstake _)
  | .registry (.slashKeeper _ _ _) | .registry (.delegateStake _ _)
  | .registry (.unDelegateStake _ _ _) | .registry (.claimProviderRewards _ _)
  | .registry (.withdrawProviderStake _ _) | .registry (.sweepSlashedDebt _ _)
  | .registry (.configure _ _) | .registry (.receiveEgld _) => .isTrue trivial
  | .deliver index block arrives =>
      match queued : s.scheduler.outbox[index]? with
      | some (.recordExecution receiver keeper success) =>
          decidable_of_iff (arrives = true ∧ receiver = registryChain.scAddress ∧
              Takes registryChain s.registry (reportCall chain block) ⟨keeper, success⟩)
            ⟨fun taken _ _ _ queued' => by cases queued.symm.trans queued'; exact taken,
              fun taken => taken _ _ _ queued⟩
      | some (.receiveExecutionFee _ _ _) =>
          .isTrue fun _ _ _ queued' => nomatch queued.symm.trans queued'
      | none => .isTrue fun _ _ _ queued' => nomatch queued.symm.trans queued'

namespace Sample

def reportsChain : Chain := { sampleChain with scAddress := .fill 3, ownerAddress := .fill 2 }

def system : System := { scheduler := Scheduler.Sample.world, registry := registry }

theorem system_deployed : system.Deployed := ⟨Scheduler.Sample.world_deployed, registry_deployed⟩

def reportRun : List Move :=
  [.registry (.configure (owner 1000) (.addAuthorizedCaller sampleChain.scAddress)),
    .registry (.configure (owner 1000) (.setStakingProvider .zero)),
    .registry (.registerKeeper (Sample.call Scheduler.Sample.keeper 1000 1000))] ++
    (Scheduler.Sample.timedRun ++ [Scheduler.Step.executionCallback 0 false]).map .scheduler ++
    [.deliver 0 (owner 1000) true]

end Sample

theorem verdicts_recorded_sample :
    ∃ s, Trace (System.step sampleChain Sample.reportsChain)
        (Faithful sampleChain Sample.reportsChain) Sample.system Sample.reportRun s ∧
      s.registry.recorded ⟨Scheduler.Sample.keeper, false⟩ = 1 ∧
      Throughout (System.step sampleChain Sample.reportsChain) System.Agrees Sample.system
        Sample.reportRun := by
  obtain ⟨s, trace, recorded⟩ := Trace.of_runChecked
    (System.step sampleChain Sample.reportsChain) (Faithful sampleChain Sample.reportsChain)
    Sample.system Sample.reportRun
    (fun s => s.registry.recorded ⟨Scheduler.Sample.keeper, false⟩ = 1) (by decide +kernel)
  exact ⟨s, trace, recorded, (verdicts_recorded_iff Sample.system_deployed
    (trace.weaken (fun _ _ _ => trivial))).mpr trace⟩

end XCron.Registry
