import XCron.Scheduler.Soundness

/-!
# Rescuing stuck tasks

`rescueStuckXseTask` is the exit of an execution that never settles. It reads
the keeper of the enclave, and that cell is written only when a confidential
task is dispatched from storage: every other stuck task stays where it is.
-/

namespace XCron.Scheduler

open Platform

variable {chain : Chain} {w : World} {call : CallContext} {hash : TaskHash}
  {state : QuantumTaskState}

/-- The rescue goes through: the owner gets the whole deposit, the task is gone
from storage, from its owner's list and from its enclave, and no other task has
changed. -/
def Rescues (chain : Chain) (w : World) (call : CallContext) (hash : TaskHash)
    (state : QuantumTaskState) : Prop :=
  ∃ next, step chain w (.rescueStuckXseTask call hash) = .ok next ∧
    next.sent = w.sent ++ [.egld state.owner state.deposit] ∧
    next.quantumTasks.get? hash = none ∧ hash ∉ next.ownerTasks state.owner ∧
    next.assignedEnclaveKeeper hash = none ∧
    ∀ other, other ≠ hash → next.view other = w.view other

/-- The owner of a task that has been executing for a day asks for it back. -/
structure StuckCall (chain : Chain) (w : World) (call : CallContext) (hash : TaskHash)
    (state : QuantumTaskState) : Prop where
  unpaused : w.config.paused = false
  stored : w.quantumTasks.get? hash = some state
  executing : state.status = .executing
  stuck : state.executingAt.toNat + 86400 ≤ call.blockTimestamp.toNat
  delivered : call.Delivered chain
  byOwner : call.caller = state.owner
  noEgld : call.egldValue = 0
  noEsdt : call.esdtTransfers = []

theorem stuckThreshold_passed {since now : UInt64} (stuck : since.toNat + 86400 ≤ now.toNat) :
    since + stuckThreshold ≤ now := by
  have day : stuckThreshold.toNat = 86400 := by decide
  have bound := now.toNat_lt
  rw [UInt64.le_iff_toNat_le, UInt64.toNat_add, day]
  omega

theorem StuckCall.step_eq_ok (stuckCall : StuckCall chain w call hash state) {next : World} :
    step chain w (.rescueStuckXseTask call hash) = .ok next ↔
      ∃ keeper, w.assignedEnclaveKeeper hash = some keeper ∧ state.deposit ≤ w.egld ∧
        w.rescued chain hash state keeper = next := by
  have unchanged := credit_of_noValue w stuckCall.noEgld stuckCall.noEsdt
  simp only [step, Step.call?, body, unchanged, Outcome.bind_eq_ok, Outcome.ensure_eq_ok,
    notPayable_eq_ok, rescueStuckXseTask_eq_ok]
  constructor
  · rintro ⟨_, _, _, _, _, other, found, _, _, _, keeper, enclave, affordable, rfl⟩
    obtain rfl := Option.some.inj (stuckCall.stored.symm.trans found)
    exact ⟨keeper, enclave, affordable, rfl⟩
  · rintro ⟨keeper, enclave, affordable, rfl⟩
    exact ⟨(), stuckCall.delivered, (), ⟨stuckCall.noEgld, stuckCall.noEsdt⟩, stuckCall.unpaused,
      state, stuckCall.stored, stuckCall.executing, stuckThreshold_passed stuckCall.stuck,
      .inl stuckCall.byOwner, keeper, enclave, affordable, rfl⟩

theorem StuckCall.rescues_iff (stuckCall : StuckCall chain w call hash state) :
    Rescues chain w call hash state ↔
      (w.assignedEnclaveKeeper hash).isSome ∧ state.deposit ≤ w.egld := by
  constructor
  · rintro ⟨next, stepped, _⟩
    obtain ⟨keeper, enclave, affordable, _⟩ := stuckCall.step_eq_ok.mp stepped
    exact ⟨by simp [enclave], affordable⟩
  · rintro ⟨assigned, affordable⟩
    obtain ⟨keeper, enclave⟩ := Option.isSome_iff_exists.mp assigned
    refine ⟨_, stuckCall.step_eq_ok.mpr ⟨keeper, enclave, affordable, rfl⟩, rfl, ?_, ?_, ?_, ?_⟩
    · exact Cells.get?_clear_self w.quantumTasks hash
    · simp [World.rescued, World.emit, World.record, World.pay, World.dropTask, World.unlistTask]
    · exact Function.update_self hash none w.assignedEnclaveKeeper
    · intro other different
      rw [World.view_rescued]
      exact if_neg (Ne.symm different)

/-- A stuck task can be rescued exactly if an enclave is assigned to it and the
balance covers its deposit; in plain runs this is to say that it was dispatched
as confidential. -/
theorem rescue_recovers (stuckCall : StuckCall chain w call hash state) :
    (Rescues chain w call hash state ↔
        (w.assignedEnclaveKeeper hash).isSome ∧ state.deposit ≤ w.egld) ∧
      ∀ w₀ steps, Deployed w₀ → Trace (step chain) (Plain chain) w₀ steps w → w.frames = [] →
        (Rescues chain w call hash state ↔ ∃ record, w.dispatches hash = some record ∧
          record.payload.confidential = true) := by
  refine ⟨stuckCall.rescues_iff, ?_⟩
  intro w₀ steps started trace settled
  have sound := started.sound.run trace
  have covered := sound.solvent.deposit_le stuckCall.stored
  rw [stuckCall.rescues_iff, and_iff_left covered]
  rcases sound.settled_phase settled hash with absent | ⟨other, waiting⟩ |
    ⟨other, record, _, executes, _, _, enclave⟩ | ⟨other, record, keeper, executes, _, enclave⟩
  · exact absurd (absent.stored.symm.trans stuckCall.stored) (by simp)
  · obtain rfl := Option.some.inj (waiting.stored.symm.trans stuckCall.stored)
    exact absurd (waiting.status.symm.trans stuckCall.executing) (by simp)
  · obtain ⟨_, _, dispatch, _, open_⟩ := executes
    simp [enclave, dispatch, open_]
  · obtain ⟨_, _, dispatch, _, sealed⟩ := executes
    simp [enclave, dispatch, sealed]

namespace Sample

def sealedTask : Task := task bob (.timeOnce 0) true

def sealedRun : List Step :=
  [admitKeeper,
    .scheduleQuantumTask (Sample.call bob 700 1000) sealedTask none,
    .executeQuantumTask (Sample.call keeper 0 1000) sealedTask none]

def bobAsks : CallContext := Sample.call bob 0 87400

def bobsExecution : QuantumTaskState :=
  { owner := bob, deposit := 700, status := .executing, executingAt := 1000 }

end Sample

theorem rescue_recovers_sample :
    ∃ w, Trace (step sampleChain) (Plain sampleChain) Sample.world Sample.sealedRun w ∧
      Rescues sampleChain w Sample.bobAsks (taskHash sampleChain Sample.sealedTask)
        Sample.bobsExecution := by
  obtain ⟨w, trace, unpaused, stored, enclave, covered⟩ := Trace.of_runChecked
    (step sampleChain) (Plain sampleChain) Sample.world
    Sample.sealedRun
    (fun w => w.config.paused = false ∧
      w.quantumTasks.get? (taskHash sampleChain Sample.sealedTask) = some Sample.bobsExecution ∧
      (w.assignedEnclaveKeeper (taskHash sampleChain Sample.sealedTask)).isSome ∧ 700 ≤ w.egld)
    (by decide +kernel)
  have stuckCall : StuckCall sampleChain w Sample.bobAsks
      (taskHash sampleChain Sample.sealedTask) Sample.bobsExecution :=
    ⟨unpaused, stored, rfl, by decide, by decide, rfl, rfl, rfl⟩
  exact ⟨w, trace, (rescue_recovers stuckCall).1.mpr ⟨enclave, covered⟩⟩

/-- A task that is not confidential cannot be rescued, however long it is stuck. -/
theorem rescue_refused :
    Deployed Sample.world ∧
      ∃ w, Trace (step sampleChain) (Plain sampleChain) Sample.world Sample.timedRun w ∧
        w.frames.length = 0 ∧
        StuckCall sampleChain w Sample.bobAsks (taskHash sampleChain Sample.timedTask)
          Sample.bobsExecution ∧
        ¬Rescues sampleChain w Sample.bobAsks (taskHash sampleChain Sample.timedTask)
          Sample.bobsExecution := by
  obtain ⟨w, trace, settled, unpaused, stored, enclave⟩ := Trace.of_runChecked
    (step sampleChain) (Plain sampleChain) Sample.world
    Sample.timedRun
    (fun w => w.frames.length = 0 ∧ w.config.paused = false ∧
      w.quantumTasks.get? (taskHash sampleChain Sample.timedTask) = some Sample.bobsExecution ∧
      (w.assignedEnclaveKeeper (taskHash sampleChain Sample.timedTask)).isNone)
    (by decide +kernel)
  have stuckCall : StuckCall sampleChain w Sample.bobAsks
      (taskHash sampleChain Sample.timedTask) Sample.bobsExecution :=
    ⟨unpaused, stored, rfl, by decide, by decide, rfl, rfl, rfl⟩
  refine ⟨Sample.world_deployed, w, trace, settled, stuckCall, ?_⟩
  rw [stuckCall.rescues_iff, Option.isNone_iff_eq_none.mp enclave]
  simp

end XCron.Scheduler
