import XCron.Scheduler.Soundness

/-!
# What strangers can do to a task owner

Strangers call the scheduler between two moments; the owner then cancels a
pending task. Storage and configuration that the cancellation reads are out of
their reach, with one exception: `authorizeCloneKey` takes any address as the
clone, so a stranger can turn the owner into a clone key of the stranger's, and
while that record lives the owner is not recognised.
-/

namespace XCron.Scheduler

open Platform

variable {chain : Chain} {w next : World} {move : Step} {owner : Address} {hash : TaskHash}
  {state : QuantumTaskState}

def ByStranger (chain : Chain) (owner : Address) (w : World) (move : Step) : Prop :=
  match move.call? with
  | none => False
  | some call => call.caller ≠ owner ∧ call.caller ∉ w.config.whitelistedKeepers ∧
      call.caller ≠ chain.ownerAddress

instance (chain : Chain) (owner : Address) (w : World) (move : Step) :
    Decidable (ByStranger chain owner w move) := by
  unfold ByStranger
  split <;> infer_instance

/-- The step is not a cancellation of the task in the owner's name, which only a
clone key that the owner authorised can ask for. -/
def LeavesTask (owner : Address) (hash : TaskHash) (w : World) : Step → Prop
  | .cancelQuantumTask call cancelled => cancelled = hash → (resolveCaller call w).1 ≠ owner
  | _ => True

instance (owner : Address) (hash : TaskHash) (w : World) (move : Step) :
    Decidable (LeavesTask owner hash w move) := by
  unfold LeavesTask
  split <;> infer_instance

theorem takeDeposit_cloneKeys {call : CallContext} {requested : Option Nat} {deposit : Nat}
    {paid : World} {other : Address}
    (taken : takeDeposit call requested (w.credit call) = .ok (deposit, paid))
    (different : other ≠ call.caller) :
    paid.cloneKeyProps.get? other = w.cloneKeyProps.get? other := by
  rcases takeDeposit_cases taken with ⟨_, rfl⟩ | ⟨props, _, _, rfl⟩
  · rfl
  · exact Cells.get?_set_ne _ _ different

theorem takeDeposit_frames {call : CallContext} {requested : Option Nat} {deposit : Nat}
    {paid : World} (taken : takeDeposit call requested (w.credit call) = .ok (deposit, paid)) :
    paid.frames = w.frames := by
  rcases takeDeposit_cases taken with ⟨_, rfl⟩ | ⟨props, _, _, rfl⟩ <;> rfl

/-- What the owner's cancellation reads, as far as strangers cannot change it. -/
structure Undisturbed (owner : Address) (hash : TaskHash) (state : QuantumTaskState)
    (config : Config) (w : World) : Prop where
  stored : w.quantumTasks.get? hash = some state
  config_eq : w.config = config
  foreign : ∀ props, w.cloneKeyProps.get? owner = some props → props.mainAddress ≠ owner
  quiet : w.frames = []

theorem Undisturbed.takeDeposit {config : Config} {call : CallContext} {requested : Option Nat}
    {deposit : Nat} {paid : World} (undisturbed : Undisturbed owner hash state config w)
    (taken : takeDeposit call requested (w.credit call) = .ok (deposit, paid))
    (stranger : call.caller ≠ owner) : Undisturbed owner hash state config paid := by
  have kept := congrArg TaskView.stored (takeDeposit_view taken hash)
  have mine := takeDeposit_cloneKeys taken (Ne.symm stranger)
  refine ⟨kept.trans undisturbed.stored, (takeDeposit_config taken).trans undisturbed.config_eq,
    ?_, (takeDeposit_frames taken).trans undisturbed.quiet⟩
  intro props found
  exact undisturbed.foreign props (mine.symm.trans found)

theorem Undisturbed.step {config : Config} (undisturbed : Undisturbed owner hash state config w)
    (pending : state.status = .pending) (mine : state.owner = owner)
    (stranger : ByStranger chain owner w move) (leaves : LeavesTask owner hash w move)
    (stepped : step chain w move = .ok next) :
    Undisturbed owner hash state config next := by
  have ⟨stored, config_eq, foreign, quiet⟩ := undisturbed
  cases step_effect stepped with
  | scheduleQuantumTask _ _ taken free =>
      obtain ⟨kept, config_kept, foreign', quiet'⟩ := undisturbed.takeDeposit taken stranger.1
      exact ⟨Cells.get?_set_of_free free kept, config_kept, foreign', quiet'⟩
  | scheduleSovereignTask _ _ taken free =>
      obtain ⟨kept, config_kept, foreign', quiet'⟩ := undisturbed.takeDeposit taken stranger.1
      exact ⟨Cells.get?_set_of_free free kept, config_kept, foreign', quiet'⟩
  | cancelQuantumTask _ found owned _ _ =>
      refine ⟨?_, config_eq, foreign, quiet⟩
      refine (Cells.get?_clear_ne _ ?_).trans stored
      rintro rfl
      obtain rfl := Option.some.inj (stored.symm.trans found)
      exact leaves rfl (owned.symm.trans mine)
  | executeQuantumTask _ _ _ keeper _ => exact absurd keeper stranger.2.1
  | executeCompressedTask _ _ _ keeper => exact absurd keeper stranger.2.1
  | awaitSettlement _ _ _ _ keeper => exact absurd keeper stranger.2.1
  | settleXseTask _ _ _ _ keeper _ => exact absurd keeper stranger.2.1
  | @rescueStuckXseTask _ rescued other _ _ found executing _ _ _ =>
      have different : hash ≠ rescued := by
        rintro rfl
        obtain rfl := Option.some.inj (stored.symm.trans found)
        exact absurd (pending.symm.trans executing) (by simp)
      exact ⟨(Cells.get?_clear_ne _ different).trans stored, config_eq, foreign, quiet⟩
  | triggerXseEnclave _ keeper => exact absurd keeper stranger.2.1
  | @authorizeCloneKey call cloneAddress ttlSeconds _ _ free =>
      refine ⟨stored, config_eq, ?_, quiet⟩
      intro props found
      have record : (w.cloneKeyProps.set cloneAddress
          { mainAddress := call.caller
            spendLimit := call.egldValue
            spentAmount := 0
            expiryTimestamp := call.blockTimestamp + ttlSeconds }).get? owner = some props := found
      rcases Cells.of_get?_set record with ⟨_, rfl⟩ | ⟨_, record⟩
      · exact stranger.1
      · exact foreign props record
  | @revokeCloneKey _ cloneAddress _ _ found _ _ =>
      refine ⟨stored, config_eq, ?_, quiet⟩
      intro props found
      have record : (w.cloneKeyProps.clear cloneAddress).get? owner = some props := found
      exact foreign props (Cells.get?_of_clear record)
  | @fundCloneKey call cloneAddress old _ _ present owned =>
      refine ⟨stored, config_eq, ?_, quiet⟩
      intro props found
      have record : (w.cloneKeyProps.set cloneAddress
          { old with spendLimit := old.spendLimit + call.egldValue }).get? owner =
            some props := found
      rcases Cells.of_get?_set record with ⟨rfl, rfl⟩ | ⟨_, record⟩
      · exact foreign old present
      · exact foreign props record
  | solveIntent _ keeper => exact absurd keeper stranger.2.1
  | solveMultiIntent _ keeper => exact absurd keeper stranger.2.1
  | executePreCognitiveLeaf _ keeper => exact absurd keeper stranger.2.1
  | registerKeeperShard _ keeper => exact absurd keeper stranger.2.1
  | configure _ contractOwner _ => exact absurd contractOwner stranger.2.2
  | syncReturn => exact stranger.elim
  | executionCallback => exact stranger.elim
  | callbackFault => exact stranger.elim
  | deliverMessage => exact stranger.elim
  | receiveEgld => exact stranger.elim
  | receiveEsdt => exact stranger.elim
  | _ => exact ⟨stored, config_eq, foreign, quiet⟩

/-- No live clone-key record stands in the way of the account. -/
def Recognised (w : World) (account : Address) (time : UInt64) : Prop :=
  ∀ props ∈ w.cloneKeyProps.get? account, props.expiryTimestamp ≤ time

theorem resolveCaller_of_recognised {call : CallContext}
    (recognised : Recognised w call.caller call.blockTimestamp) :
    (resolveCaller call w).1 = call.caller := by
  unfold resolveCaller
  cases record : w.cloneKeyProps.get? call.caller with
  | none => rfl
  | some props => simp [recognised props record]

theorem resolveCaller_of_masked {call : CallContext}
    (foreign : ∀ props, w.cloneKeyProps.get? call.caller = some props →
      props.mainAddress ≠ call.caller)
    (masked : ¬Recognised w call.caller call.blockTimestamp) :
    (resolveCaller call w).1 ≠ call.caller := by
  simp only [Recognised, not_forall] at masked
  obtain ⟨props, record, alive⟩ := masked
  unfold resolveCaller
  rw [Option.mem_def.mp record]
  simp only [alive, if_false]
  exact foreign props record

/-- A cancellation by its caller goes through: the task is removed and the
caller is sent the refund. -/
def Cancels (chain : Chain) (w : World) (call : CallContext) (hash : TaskHash) (refund : Nat) :
    Prop :=
  ∃ next, step chain w (.cancelQuantumTask call hash) = .ok next ∧
    next.quantumTasks.get? hash = none ∧
    next.sent = w.sent ++ if 0 < refund then [.egld call.caller refund] else []

theorem cancels_iff {call : CallContext} (delivered : call.Delivered chain)
    (noEgld : call.egldValue = 0) (noEsdt : call.esdtTransfers = [])
    (unpaused : w.config.paused = false) (stored : w.quantumTasks.get? hash = some state)
    (pending : state.status = .pending) (byOwner : call.caller = state.owner)
    (foreign : ∀ props, w.cloneKeyProps.get? call.caller = some props →
      props.mainAddress ≠ call.caller) :
    Cancels chain w call hash (cancellationRefund w state.deposit) ↔
      Recognised w call.caller call.blockTimestamp ∧
        cancellationRefund w state.deposit ≤ w.egld := by
  have unchanged := credit_of_noValue w noEgld noEsdt
  have steps : ∀ next, step chain w (.cancelQuantumTask call hash) = .ok next ↔
      cancelQuantumTask chain call hash w = .ok next := by
    intro next
    simp [step, Step.call?, body, unchanged, delivered, noEgld, noEsdt]
  constructor
  · rintro ⟨next, stepped, _, _⟩
    obtain ⟨_, other, found, _, owned, _, affordable, _⟩ :=
      cancelQuantumTask_eq_ok.mp ((steps next).mp stepped)
    obtain rfl := Option.some.inj (stored.symm.trans found)
    refine ⟨?_, affordable⟩
    by_contra masked
    apply resolveCaller_of_masked foreign masked
    rw [← owned, byOwner]
  · rintro ⟨recognised, affordable⟩
    have named := resolveCaller_of_recognised recognised
    have nonzero : state.owner ≠ Bytes32.zero := byOwner ▸ delivered.1
    refine ⟨_, (steps _).mpr (cancelQuantumTask_eq_ok.mpr ⟨unpaused, state, stored, nonzero,
      byOwner.symm.trans named.symm, pending, affordable, rfl⟩), ?_, ?_⟩
    · exact Cells.get?_clear_self w.quantumTasks hash
    · rw [byOwner]
      exact payIfPositive_sent chain state.owner (cancellationRefund w state.deposit) w

/-- The calls of a stranger sequence that leaves the task alone. -/
def Bystanding (chain : Chain) (owner : Address) (hash : TaskHash) (w : World) (move : Step) :
    Prop :=
  ByStranger chain owner w move ∧ LeavesTask owner hash w move

instance (chain : Chain) (owner : Address) (hash : TaskHash) (w : World) (move : Step) :
    Decidable (Bystanding chain owner hash w move) :=
  inferInstanceAs (Decidable (_ ∧ _))

/-- The moment from which the claim compares: the owner has no clone-key record
of its own, and a pending task of the owner is stored. -/
structure OwnsPending (owner : Address) (hash : TaskHash) (state : QuantumTaskState) (w : World) :
    Prop where
  unpaused : w.config.paused = false
  noRecord : w.cloneKeyProps.get? owner = none
  stored : w.quantumTasks.get? hash = some state
  pending : state.status = .pending
  owned : state.owner = owner
  quiet : w.frames = []

theorem OwnsPending.undisturbed (owns : OwnsPending owner hash state w) :
    Undisturbed owner hash state w.config w := by
  refine ⟨owns.stored, rfl, ?_, owns.quiet⟩
  intro props found
  simp [owns.noRecord] at found

theorem OwnsPending.run {steps : List Step} (owns : OwnsPending owner hash state w)
    (trace : Trace (step chain) (Bystanding chain owner hash) w steps next) :
    Undisturbed owner hash state w.config next := by
  refine trace.preserves (Undisturbed owner hash state w.config) ?_ owns.undisturbed
  intro _ _ _ bystanding undisturbed stepped
  exact undisturbed.step owns.pending owns.owned bystanding.1 bystanding.2 stepped

theorem ByStranger.plain (stranger : ByStranger chain owner w move) (quiet : w.frames = [])
    (stepped : step chain w move = .ok next) : Plain chain w move := by
  refine ⟨?_, ?_⟩
  · intro frame waiting
    simp [quiet] at waiting
  · cases step_effect stepped with
    | configure _ contractOwner _ => exact absurd contractOwner stranger.2.2
    | _ => rfl

theorem OwnsPending.sound_run {steps : List Step} (owns : OwnsPending owner hash state w)
    (sound : Sound w) (trace : Trace (step chain) (Bystanding chain owner hash) w steps next) :
    Sound next := by
  have both : Undisturbed owner hash state w.config next ∧ Sound next := by
    refine trace.preserves
      (fun w' => Undisturbed owner hash state w.config w' ∧ Sound w') ?_ ?_
    · rintro _ _ _ bystanding ⟨undisturbed, sound⟩ stepped
      exact ⟨undisturbed.step owns.pending owns.owned bystanding.1 bystanding.2 stepped,
        sound.step (bystanding.1.plain undisturbed.quiet stepped) stepped⟩
    · exact ⟨owns.undisturbed, sound⟩
  exact both.2

/-- Whatever strangers do, short of cancelling the task in the owner's name, the
owner can still cancel it for the same refund exactly if no live clone-key
record names the owner at that time and the balance covers the refund, which in
plain runs it always does. -/
theorem owner_not_locked_out {steps : List Step} {after : World} {call : CallContext}
    (owns : OwnsPending owner hash state w)
    (trace : Trace (step chain) (Bystanding chain owner hash) w steps after)
    (delivered : call.Delivered chain) (byOwner : call.caller = owner)
    (noEgld : call.egldValue = 0) (noEsdt : call.esdtTransfers = []) :
    (Cancels chain after call hash (cancellationRefund w state.deposit) ↔
        Recognised after owner call.blockTimestamp ∧
          cancellationRefund w state.deposit ≤ after.egld) ∧
      ∀ w₀ before, Deployed w₀ → Trace (step chain) (Plain chain) w₀ before w →
        (Cancels chain after call hash (cancellationRefund w state.deposit) ↔
          Recognised after owner call.blockTimestamp) := by
  subst byOwner
  have undisturbed := owns.run trace
  have refund : cancellationRefund after state.deposit = cancellationRefund w state.deposit := by
    unfold cancellationRefund protocolFee
    rw [undisturbed.config_eq]
  have cancels := cancels_iff delivered noEgld noEsdt
    (undisturbed.config_eq ▸ owns.unpaused) undisturbed.stored owns.pending owns.owned.symm
    undisturbed.foreign
  rw [refund] at cancels
  refine ⟨cancels, ?_⟩
  intro w₀ before started past
  have sound := owns.sound_run (started.sound.run past) trace
  rw [cancels]
  apply and_iff_left
  have covered := sound.solvent.deposit_le undisturbed.stored
  have split := cancellation_split sound.orderly.bounded state.deposit
  omega

namespace Sample

def pendingRun : List Step := [.scheduleQuantumTask (call bob 700 1000) timedTask none]

def bobsTask : QuantumTaskState :=
  { owner := bob, deposit := 700, status := .pending, executingAt := 0 }

def harmless : List Step := [.scheduleQuantumTask (call alice 1000 1000) oracleTask none]

def hijack : List Step := [.authorizeCloneKey (call alice 1 1000) bob 3600]

def bobCancels : CallContext := call bob 0 1000

end Sample

theorem owner_not_locked_out_sample :
    ∃ w after, Trace (step sampleChain) (Plain sampleChain) Sample.world Sample.pendingRun w ∧
      Trace (step sampleChain) (Bystanding sampleChain Sample.bob
        (taskHash sampleChain Sample.timedTask)) w Sample.harmless after ∧
      Cancels sampleChain after Sample.bobCancels (taskHash sampleChain Sample.timedTask)
        (cancellationRefund w 700) := by
  obtain ⟨w, past, unpaused, noRecord, stored, quiet, checked⟩ := Trace.of_runChecked
    (step sampleChain) (Plain sampleChain) Sample.world
    Sample.pendingRun
    (fun w => w.config.paused = false ∧ w.cloneKeyProps.get? Sample.bob = none ∧
      w.quantumTasks.get? (taskHash sampleChain Sample.timedTask) = some Sample.bobsTask ∧
      w.frames.length = 0 ∧
      endsIn (fun after : World => after.cloneKeyProps.get? Sample.bob = none ∧
          cancellationRefund w 700 ≤ after.egld)
        (runChecked (step sampleChain) (Bystanding sampleChain Sample.bob
          (taskHash sampleChain Sample.timedTask)) w Sample.harmless) = true)
    (by decide +kernel)
  obtain ⟨after, trace, free, covered⟩ := Trace.of_runChecked (step sampleChain)
    (Bystanding sampleChain Sample.bob (taskHash sampleChain Sample.timedTask))
    w Sample.harmless
    (fun after : World => after.cloneKeyProps.get? Sample.bob = none ∧
      cancellationRefund w 700 ≤ after.egld) checked
  have owns : OwnsPending Sample.bob (taskHash sampleChain Sample.timedTask) Sample.bobsTask w :=
    ⟨unpaused, noRecord, stored, rfl, rfl, List.length_eq_zero_iff.mp quiet⟩
  refine ⟨w, after, past, trace, (owner_not_locked_out owns trace
    (show CallContext.Delivered sampleChain Sample.bobCancels by decide) rfl rfl rfl).1.mpr
    ⟨?_, covered⟩⟩
  intro props record
  simp [free] at record

/-- One call of a stranger keeps the owner from cancelling. -/
theorem owner_locked_out :
    Deployed Sample.world ∧
      ∃ w after, Trace (step sampleChain) (Plain sampleChain) Sample.world Sample.pendingRun
          w ∧
        OwnsPending Sample.bob (taskHash sampleChain Sample.timedTask) Sample.bobsTask w ∧
        Trace (step sampleChain) (ByStranger sampleChain Sample.bob) w Sample.hijack after ∧
        ¬Cancels sampleChain after Sample.bobCancels (taskHash sampleChain Sample.timedTask)
          (cancellationRefund w 700) := by
  obtain ⟨w, past, unpaused, noRecord, stored, quiet, checked⟩ := Trace.of_runChecked
    (step sampleChain) (Plain sampleChain) Sample.world
    Sample.pendingRun
    (fun w => w.config.paused = false ∧ w.cloneKeyProps.get? Sample.bob = none ∧
      w.quantumTasks.get? (taskHash sampleChain Sample.timedTask) = some Sample.bobsTask ∧
      w.frames.length = 0 ∧
      endsIn (fun after : World => (step sampleChain after (.cancelQuantumTask
          Sample.bobCancels (taskHash sampleChain Sample.timedTask))).toBool = false)
        (runChecked (step sampleChain) (ByStranger sampleChain Sample.bob) w
          Sample.hijack) = true)
    (by decide +kernel)
  obtain ⟨after, trace, refused⟩ := Trace.of_runChecked (step sampleChain)
    (ByStranger sampleChain Sample.bob) w Sample.hijack
    (fun after : World => (step sampleChain after (.cancelQuantumTask Sample.bobCancels
      (taskHash sampleChain Sample.timedTask))).toBool = false) checked
  refine ⟨Sample.world_deployed, w, after, past, ⟨unpaused, noRecord, stored, rfl, rfl,
    List.length_eq_zero_iff.mp quiet⟩, trace, ?_⟩
  rintro ⟨next, stepped, _⟩
  simp [stepped, Except.toBool] at refused

end XCron.Scheduler
