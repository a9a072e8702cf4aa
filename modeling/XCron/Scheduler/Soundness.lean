import XCron.Platform.Trace
import XCron.Scheduler.Payouts

/-!
# Runs of the scheduler

Everything together, over whole runs: while no endpoint acts on a task that
another endpoint is working on, and no state-compression contract is
configured, the scheduler stays orderly and solvent, every callback finds its
task, and every deposit is paid out exactly once.
-/

namespace XCron.Scheduler

open Platform Outcome

variable {chain : Chain} {w next : World} {move : Step}

def Step.enablesCompression : Step → Bool
  | .configure _ (.setXscAddress addr) => addr ≠ Bytes32.zero
  | _ => false

/-- A guarded step that does not turn compressed tasks on. -/
def Plain (chain : Chain) (w : World) (move : Step) : Prop :=
  Guarded chain w move ∧ move.enablesCompression = false

instance (chain : Chain) (w : World) (move : Step) : Decidable (Plain chain w move) :=
  inferInstanceAs (Decidable (_ ∧ _))

/-- The invariant of plain runs. -/
structure Sound (w : World) : Prop where
  orderly : Orderly False False w
  solvent : Solvent w
  uncompressed : ∀ xsc ∈ w.config.xscAddress, xsc = Bytes32.zero

theorem Deployed.sound (started : Deployed w) : Sound w := by
  refine ⟨started.orderly, ?_, ?_⟩
  · obtain ⟨_, _, _, _, _, _, rfl⟩ := started.eq
    exact Nat.le_refl 0
  · obtain ⟨_, _, _, _, _, _, rfl⟩ := started.eq
    simp [deployed]

/-- In a sound scheduler a callback finds its task and can pay for it. -/
theorem Sound.callback_succeeds (sound : Sound w) (chain : Chain) {index : Nat} {promise : Promise}
    (inFlight : w.promises[index]? = some promise) (success : Bool) :
    ∃ next, executionCallback chain promise success
      { w with promises := w.promises.eraseIdx index } = .ok next := by
  obtain ⟨⟨before, after, split, _⟩, _⟩ := view_spend inFlight
  obtain ⟨_, _, state, record, running, _⟩ :=
    (sound.orderly.phase promise.taskHash).of_promise split
  have covered := sound.solvent.deposit_le running.stored
  exact executionCallback_covered (w := { w with promises := w.promises.eraseIdx index }) chain
    success sound.orderly.bounded running.stored covered

theorem Config.apply_uncompressed {change : ConfigCall} {c after : Config} {call : CallContext}
    (applied : c.apply change = .ok after)
    (plain : Step.enablesCompression (.configure call change) = false)
    (uncompressed : ∀ xsc ∈ c.xscAddress, xsc = Bytes32.zero) :
    ∀ xsc ∈ after.xscAddress, xsc = Bytes32.zero := by
  cases change with
  | setXscAddress addr =>
      simp only [Config.apply, Outcome.pure_eq_ok] at applied
      subst applied
      have zero : addr = Bytes32.zero := by
        simpa only [Step.enablesCompression, ne_eq, decide_not, Bool.not_eq_false',
          decide_eq_true_eq] using plain
      rintro xsc ⟨rfl⟩
      exact zero
  | setProtocolFeeBps value =>
      simp only [Config.apply, Outcome.bind_eq_ok, Outcome.pure_eq_ok] at applied
      obtain ⟨_, _, rfl⟩ := applied
      exact uncompressed
  | removeWhitelistedKeeper keeper =>
      simp only [Config.apply, Outcome.bind_eq_ok, Outcome.pure_eq_ok] at applied
      obtain ⟨_, _, _, _, rfl⟩ := applied
      exact uncompressed
  | _ =>
      simp only [Config.apply, Outcome.pure_eq_ok] at applied
      subst applied
      exact uncompressed

theorem Sound.step (sound : Sound w) (plain : Plain chain w move)
    (stepped : step chain w move = .ok next) : Sound next := by
  have presents : move.presents ≠ none → False := by
    intro presenting
    cases step_effect stepped with
    | executeCompressedTask _ configured nonzero _ =>
        exact nonzero (sound.uncompressed _ configured)
    | _ => exact presenting rfl
  have losses : ∀ index success promise fault, move = .executionCallback index success →
      w.promises[index]? = some promise →
      executionCallback chain promise success
        { w with promises := w.promises.eraseIdx index } = .error fault → False := by
    intro index success promise fault _ inFlight faulted
    obtain ⟨_, called⟩ := sound.callback_succeeds chain inFlight success
    rw [called] at faulted
    simp at faulted
  have covered : Covered chain w move := by
    intro payload presented
    refine (presents ?_).elim
    rw [Option.mem_def.mp presented]
    simp
  refine ⟨step_orderly ⟨plain.1, covered⟩ presents losses sound.orderly stepped,
    (step_surplus sound.orderly stepped).solvent sound.solvent, ?_⟩
  rcases step_config stepped with ⟨call, change, rfl, _, applied⟩ | same
  · exact Config.apply_uncompressed applied plain.2 sound.uncompressed
  · rw [same]
    exact sound.uncompressed

theorem Sound.run {w₀ : World} {steps : List Step} (sound : Sound w₀)
    (trace : Trace (Scheduler.step chain) (Plain chain) w₀ steps w) : Sound w :=
  trace.preserves Sound (fun _ _ _ plain sound stepped => sound.step plain stepped) sound

/-! ## Deposits are split exactly -/

/-- The transfers of a closing: the keeper's reward, if there is a keeper to
pay, and the owner's refund, if there is one. -/
def closingTransfers (keeper : Option Address) (owner : Address) (reward refund : Nat) :
    List Transfer :=
  (match keeper with
    | none => []
    | some keeper => [.egld keeper reward]) ++ if 0 < refund then [.egld owner refund] else []

def Step.rescues : Step → Bool
  | .rescueStuckXseTask _ _ => true
  | _ => false

/-- A step that closes a task pays out exactly its deposit: a rescue gives it
back whole, every other closing splits it into reward, refund and fee. -/
def SplitsDeposit (w next : World) (move : Step) (state : QuantumTaskState) : Prop :=
  if move.rescues then
    next.accruedProtocolFees = w.accruedProtocolFees ∧
      next.sent = w.sent ++ [.egld state.owner state.deposit]
  else
    ∃ keeper reward refund fee, reward + refund + fee = state.deposit ∧
      (keeper = none → reward = 0) ∧
      next.accruedProtocolFees = w.accruedProtocolFees + fee ∧
      next.sent = w.sent ++ closingTransfers keeper state.owner reward refund

theorem SplitsDeposit.of_same (before : World) {state : QuantumTaskState}
    (accrued : before.accruedProtocolFees = w.accruedProtocolFees) (sent : before.sent = w.sent)
    (split : SplitsDeposit before next move state) : SplitsDeposit w next move state := by
  unfold SplitsDeposit at split ⊢
  rwa [accrued, sent] at split

theorem SplitsDeposit.of_split {state : QuantumTaskState} (other : move.rescues = false)
    (keeper : Option Address) (reward refund fee : Nat)
    (whole : reward + refund + fee = state.deposit) (unpaid : keeper = none → reward = 0)
    (accrued : next.accruedProtocolFees = w.accruedProtocolFees + fee)
    (sent : next.sent = w.sent ++ closingTransfers keeper state.owner reward refund) :
    SplitsDeposit w next move state := by
  simp only [SplitsDeposit, other]
  exact ⟨keeper, reward, refund, fee, whole, unpaid, accrued, sent⟩

theorem payIfPositive_sent (chain : Chain) (receiver : Address) (amount : Nat) (w : World) :
    (w.payIfPositive chain receiver amount).sent =
      w.sent ++ if 0 < amount then [.egld receiver amount] else [] := by
  unfold World.payIfPositive
  dsimp only
  split <;> simp

theorem cancelled_splits {call : CallContext} {hash : TaskHash} {state : QuantumTaskState}
    (bounded : w.FeeBounded) :
    SplitsDeposit w (w.cancelled chain hash state) (.cancelQuantumTask call hash) state := by
  refine .of_split rfl none 0 (cancellationRefund w state.deposit) (protocolFee w state.deposit) ?_
    (fun _ => rfl) (forwardProtocolFee_accrued _ _) (payIfPositive_sent chain state.owner _ w)
  rw [Nat.zero_add]
  exact cancellation_split bounded state.deposit

theorem succeeded_splits {hash : TaskHash} {state : QuantumTaskState}
    {targetContract keeper : Address} {path : Option DispatchPath} (bounded : w.FeeBounded)
    (other : move.rescues = false) :
    SplitsDeposit w (w.succeeded chain hash targetContract keeper state.deposit state.owner path)
      move state := by
  refine .of_split other (some keeper) (calculateReward w state.deposit) _
    (protocolFee w state.deposit) (success_split bounded state.deposit) (by simp)
    (forwardProtocolFee_accrued _ _) ?_
  have refunded := payIfPositive_sent chain state.owner
    (remainder state.deposit (calculateReward w state.deposit + protocolFee w state.deposit))
    (w.pay chain keeper (calculateReward w state.deposit))
  rw [closingTransfers, ← List.append_assoc]
  exact refunded

theorem failed_splits {hash : TaskHash} {state : QuantumTaskState}
    {targetContract keeper : Address} {path : Option DispatchPath} (bounded : w.FeeBounded)
    (other : move.rescues = false) :
    SplitsDeposit w (w.failed chain hash targetContract keeper state.deposit state.owner path)
      move state := by
  refine .of_split other none 0 _ (protocolFee w state.deposit) ?_ (fun _ => rfl)
    (forwardProtocolFee_accrued _ _) (payIfPositive_sent chain state.owner _ w)
  rw [Nat.zero_add]
  exact failure_split bounded state.deposit

theorem Dispatched.keeps_stored {d : Dispatch} {hash : TaskHash} {state : QuantumTaskState}
    (dispatched : Dispatched chain d w next) (found : w.quantumTasks.get? hash = some state) :
    next.quantumTasks.get? hash ≠ none := by
  rcases dispatched with ⟨_, _, rfl⟩ | ⟨_, rfl⟩ | rfl
  · simp [World.suspend, World.emit, found]
  · simp [World.suspend, World.emit, found]
  · exact Cells.get?_set_ne_none _ found

/-- Whatever step takes a task out of storage splits its deposit exactly. -/
theorem step_splits {loss compressed : Prop} {hash : TaskHash} {state : QuantumTaskState}
    (orderly : Orderly loss compressed w) (stepped : step chain w move = .ok next)
    (found : w.quantumTasks.get? hash = some state) (gone : next.quantumTasks.get? hash = none) :
    SplitsDeposit w next move state := by
  have bounded := orderly.bounded
  cases step_effect stepped with
  | scheduleQuantumTask _ _ taken | scheduleSovereignTask _ _ taken =>
      have kept := congrArg TaskView.stored (takeDeposit_view taken hash)
      exact absurd gone (Cells.get?_set_ne_none _ (kept.trans found))
  | cancelQuantumTask _ stored _ _ _ =>
      obtain rfl := Cells.eq_of_get?_clear found gone
      obtain rfl := Option.some.inj (stored.symm.trans found)
      exact cancelled_splits bounded
  | executeQuantumTask _ _ _ _ dispatched => exact absurd gone (dispatched.keeps_stored found)
  | settleXseTask _ stored _ _ _ closed =>
      obtain ⟨_, _, rfl⟩ := finalizeSuccessfulExecution_eq_ok.mp closed
      obtain rfl := Cells.eq_of_get?_clear found gone
      obtain rfl := Option.some.inj (stored.symm.trans found)
      exact succeeded_splits bounded rfl
  | @rescueStuckXseTask call rescued _ _ _ stored _ _ _ _ =>
      obtain rfl := Cells.eq_of_get?_clear found gone
      obtain rfl := Option.some.inj (stored.symm.trans found)
      exact ⟨rfl, rfl⟩
  | @syncReturn _ frame rest _ waiting resumed =>
      rcases resume_ok resumed with ⟨d, _, dispatched⟩ | ⟨_, _, _, _, dispatched⟩ |
        ⟨settled, enforcer, other, rfl, closed⟩
      · exact absurd gone (dispatched.keeps_stored found)
      · exact absurd gone (dispatched.keeps_stored found)
      · obtain ⟨_, _, rfl⟩ := finalizeSuccessfulExecution_eq_ok.mp closed
        obtain rfl := Cells.eq_of_get?_clear found gone
        have top := (view_pop waiting).1
        obtain ⟨record, sealed⟩ := (orderly.phase settled).of_ready (.inr top)
        obtain rfl := Option.some.inj (sealed.stored.symm.trans found)
        exact .of_same { w with frames := rest } rfl rfl (succeeded_splits bounded rfl)
  | @executionCallback index _ promise _ _ called =>
      obtain ⟨other, stored, ⟨_, _, rfl⟩ | ⟨_, rfl⟩⟩ := executionCallback_ok called
      · obtain rfl := Cells.eq_of_get?_clear found gone
        obtain rfl := Option.some.inj (stored.symm.trans found)
        exact .of_same { w with promises := w.promises.eraseIdx index } rfl rfl
          (succeeded_splits bounded rfl)
      · obtain rfl := Cells.eq_of_get?_clear found gone
        obtain rfl := Option.some.inj (stored.symm.trans found)
        exact .of_same { w with promises := w.promises.eraseIdx index } rfl rfl
          (failed_splits bounded rfl)
  | solveIntent | solveMultiIntent | executePreCognitiveLeaf =>
      rw [World.delivered_eq] at gone
      exact absurd (gone.symm.trans found) (by simp)
  | _ => exact absurd (gone.symm.trans found) (by simp)

/-! ## A concrete chain -/

namespace Sample

def world : World := deployed (.fill 3) (.fill 4) 0 500 (fun _ => true)

theorem world_deployed : Deployed world :=
  ⟨.fill 3, .fill 4, 0, 500, fun _ => true, rfl⟩

def keeper : Address := .fill 5

def alice : Address := .fill 6

def bob : Address := .fill 7

def call (caller : Address) (egldValue : Nat) (time : UInt64) : CallContext :=
  { caller := caller
    egldValue := egldValue
    esdtTransfers := []
    blockTimestamp := time
    blockRound := 1
    blockRandomSeed := []
    gasLeft := 500000000 }

def admitKeeper : Step := .configure (call (.fill 2) 0 1000) (.addWhitelistedKeeper keeper)

def task (owner : Address) (trigger : Trigger) (confidential : Bool) : Task :=
  { id := 1
    owner := owner
    targetContract := .fill 9
    targetEndpoint := [97]
    targetArgs := []
    trigger := trigger
    maxGas := 5000000
    deposit := 0
    maxRetries := 0
    retryCount := 0
    ttlSeconds := 0
    createdAt := 0
    status := .pending
    assignedKeeper := none
    completedAt := 0
    postTaskId := none
    requireXwapSafe := false
    confidential := confidential }

def timedTask : Task := task bob (.timeOnce 0) false

def oracleTask : Task := task alice (.stateDriven alice [] [] .gte 0) false

def oracleRun : List Step :=
  [admitKeeper,
    .scheduleQuantumTask (call alice 1000 1000) oracleTask none,
    .scheduleQuantumTask (call bob 700 1000) timedTask none,
    .executeQuantumTask (call keeper 0 1000) oracleTask none,
    .syncReturn [[1]],
    .executionCallback 0 true]

def timedRun : List Step :=
  [admitKeeper,
    .scheduleQuantumTask (call bob 700 1000) timedTask none,
    .executeQuantumTask (call keeper 0 1000) timedTask none]

def reentrantCancellation : List Step :=
  [admitKeeper,
    .scheduleQuantumTask (call alice 1000 1000) oracleTask none,
    .executeQuantumTask (call keeper 0 1000) oracleTask none,
    .cancelQuantumTask (call alice 0 1000) (taskHash sampleChain oracleTask),
    .syncReturn [[1]]]

end Sample

/-! ## Solvency over runs -/

/-- In every plain run the balance covers all four ledgers, whatever closes a
task splits its deposit exactly, and no payout is refused for lack of EGLD. -/
theorem egld_solvency {w₀ : World} {steps : List Step} (started : Deployed w₀)
    (trace : Trace (step chain) (Plain chain) w₀ steps w) :
    liabilities w ≤ w.egld ∧
      (∀ move next hash state, step chain w move = .ok next →
        w.quantumTasks.get? hash = some state → next.quantumTasks.get? hash = none →
        SplitsDeposit w next move state) ∧
      (∀ move, Funded (step chain w move)) ∧
      ∀ (index : Nat) promise success, w.promises[index]? = some promise →
        Funded (executionCallback chain promise success
          { w with promises := w.promises.eraseIdx index }) := by
  have sound := started.sound.run trace
  refine ⟨sound.solvent, ?_, fun move => step_funded sound.orderly sound.solvent move, ?_⟩
  · intro move next hash state stepped found gone
    exact step_splits sound.orderly stepped found gone
  · intro index promise success inFlight
    obtain ⟨next, called⟩ := sound.callback_succeeds chain inFlight success
    rw [called]
    exact funded_ok next

theorem egld_solvency_sample :
    ∃ w, Trace (step sampleChain) (Plain sampleChain) Sample.world Sample.oracleRun w ∧
      liabilities w ≤ w.egld ∧ liabilities w = 750 := by
  obtain ⟨w, trace, owed⟩ := Trace.of_runChecked (step sampleChain)
    (Plain sampleChain) Sample.world Sample.oracleRun
    (fun w => liabilities w = 750) (by decide +kernel)
  exact ⟨w, trace, (egld_solvency Sample.world_deployed trace).1, owed⟩

/-- Without the guard a cancelled task comes back with its deposit. -/
theorem egld_solvency_reentrant :
    Deployed Sample.world ∧
      ∃ w, Trace (step sampleChain) (fun _ move => move.enablesCompression = false) Sample.world
          Sample.reentrantCancellation w ∧
        w.frames.length = 0 ∧ w.egld < liabilities w :=
  ⟨Sample.world_deployed, Trace.of_runChecked _ _ _ _ _ (by decide +kernel)⟩

/-! ## The lifecycle over runs -/

/-- The task is executing, since the block of the dispatch that started it, under
a payload that is confidential or not. -/
def Executes (w : World) (hash : TaskHash) (state : QuantumTaskState) (record : DispatchRecord)
    (confidential : Bool) : Prop :=
  w.quantumTasks.get? hash = some state ∧ state.status = .executing ∧
    w.dispatches hash = some record ∧ state.executingAt = record.dispatchedAt ∧
    record.payload.confidential = confidential

def promisesOf (w : World) (hash : TaskHash) : List Promise :=
  w.promises.filter fun promise => promise.taskHash = hash

theorem Sound.settled_phase (sound : Sound w) (settled : w.frames = []) (hash : TaskHash) :
    Absent (w.view hash) ∨ (∃ state, Waiting (w.view hash) state) ∨
      (∃ state record promise, Executes w hash state record false ∧
        promisesOf w hash = [promise] ∧ promise.Registered record ∧
        w.assignedEnclaveKeeper hash = none) ∨
      ∃ state record keeper, Executes w hash state record true ∧ promisesOf w hash = [] ∧
        w.assignedEnclaveKeeper hash = some keeper := by
  have quiet : (w.view hash).frames = [] := by
    simp [World.view, settled]
  cases sound.orderly.phase hash with
  | absent absent => exact .inl absent
  | waiting state waiting => exact .inr (.inl ⟨state, waiting⟩)
  | opening d frame opening => simp [opening.frames] at quiet
  | presenting _ _ _ impossible _ => exact impossible.elim
  | running state record running =>
      rcases running.promises with ⟨promise, single, registered⟩ | ⟨impossible, _⟩
      · exact .inr (.inr (.inl ⟨state, record, promise, ⟨running.stored, running.status,
          running.dispatch, running.since, running.open_⟩, single, registered, running.enclave⟩))
      · exact impossible.elim
  | inEnclave state record sealed _ enclave =>
      rcases enclave with ⟨keeper, enclave⟩ | ⟨impossible, _⟩
      · exact .inr (.inr (.inr ⟨state, record, keeper, ⟨sealed.stored, sealed.status,
          sealed.dispatch, sealed.since, sealed.confidential⟩, sealed.promises, enclave⟩))
      · exact impossible.elim
  | settling state record enforcer sealed frames _ => simp [frames] at quiet

theorem Executes.unique {hash : TaskHash} {state other : QuantumTaskState}
    {record record' : DispatchRecord} {confidential confidential' : Bool}
    (executes : Executes w hash state record confidential)
    (executes' : Executes w hash other record' confidential') : confidential = confidential' := by
  obtain ⟨_, _, dispatch, _, rfl⟩ := executes
  obtain ⟨_, _, dispatch', _, rfl⟩ := executes'
  rw [Option.some.inj (dispatch.symm.trans dispatch')]

theorem Executes.not_absent {hash : TaskHash} {state : QuantumTaskState}
    {record : DispatchRecord} {confidential : Bool}
    (executes : Executes w hash state record confidential) : ¬Absent (w.view hash) := by
  intro absent
  exact absurd (absent.stored.symm.trans executes.1) (by simp)

theorem Executes.not_waiting {hash : TaskHash} {state other : QuantumTaskState}
    {record : DispatchRecord} {confidential : Bool}
    (executes : Executes w hash state record confidential) : ¬Waiting (w.view hash) other := by
  intro waiting
  obtain rfl := Option.some.inj (waiting.stored.symm.trans executes.1)
  exact absurd (waiting.status.symm.trans executes.2.1) (by simp)

theorem Sound.enclave_iff (sound : Sound w) (settled : w.frames = []) (hash : TaskHash) :
    (w.assignedEnclaveKeeper hash).isSome ↔
      ∃ state record, Executes w hash state record true := by
  rcases sound.settled_phase settled hash with absent | ⟨other, waiting⟩ |
    ⟨other, record, _, executes, _, _, enclave⟩ | ⟨other, record, keeper, executes, _, enclave⟩
  · have free : w.assignedEnclaveKeeper hash = none := absent.enclave
    rw [free]
    refine iff_of_false (by simp) ?_
    rintro ⟨state, record, executes⟩
    exact executes.not_absent absent
  · have free : w.assignedEnclaveKeeper hash = none := waiting.enclave
    rw [free]
    refine iff_of_false (by simp) ?_
    rintro ⟨state, record, executes⟩
    exact executes.not_waiting waiting
  · rw [enclave]
    refine iff_of_false (by simp) ?_
    rintro ⟨state, record, executes'⟩
    exact absurd (executes.unique executes') (by simp)
  · rw [enclave]
    exact iff_of_true rfl ⟨other, record, executes⟩

theorem Sound.callback_executes (sound : Sound w) {index : Nat} {promise : Promise}
    (inFlight : w.promises[index]? = some promise) :
    ∃ state record, Executes w promise.taskHash state record false ∧ promise.Registered record := by
  obtain ⟨⟨before, after, split, _⟩, _⟩ := view_spend inFlight
  obtain ⟨_, _, state, record, running, registered⟩ :=
    (sound.orderly.phase promise.taskHash).of_promise split
  exact ⟨state, record, ⟨running.stored, running.status, running.dispatch, running.since,
    running.open_⟩, registered⟩

/-- In every plain run, between transactions: owners list exactly their stored
tasks; a stored task is pending or executing since its dispatch; exactly the
executing tasks that are not confidential have a promise in flight, one each,
and its callback goes through; exactly the executing confidential tasks have an
enclave; and of all instances ever scheduled under a hash at most one is open,
the others were closed once each. -/
theorem task_lifecycle {w₀ : World} {steps : List Step} (started : Deployed w₀)
    (trace : Trace (step chain) (Plain chain) w₀ steps w) (settled : w.frames = [])
    (hash : TaskHash) :
    (∀ owner, hash ∈ w.ownerTasks owner ↔
        ∃ state, w.quantumTasks.get? hash = some state ∧ state.owner = owner) ∧
      (∀ state, w.quantumTasks.get? hash = some state →
        (state.status = .pending ∧ state.executingAt = 0) ∨
          ∃ record confidential, Executes w hash state record confidential) ∧
      (∀ state record, Executes w hash state record false →
        ∃ promise, promisesOf w hash = [promise] ∧ promise.Registered record) ∧
      ((¬∃ state record, Executes w hash state record false) → promisesOf w hash = []) ∧
      (∀ (index : Nat) promise success, w.promises[index]? = some promise →
        ∃ state record next, Executes w promise.taskHash state record false ∧
          promise.Registered record ∧
          executionCallback chain promise success
            { w with promises := w.promises.eraseIdx index } = .ok next) ∧
      ((w.assignedEnclaveKeeper hash).isSome ↔
        ∃ state record, Executes w hash state record true) ∧
      (w.view hash).journal.countP JournalEntry.isClosing +
          (if (w.quantumTasks.get? hash).isSome then 1 else 0) =
        (w.view hash).journal.countP JournalEntry.isFunding := by
  have sound := started.sound.run trace
  have phases := sound.settled_phase settled hash
  refine ⟨(sound.orderly.balanced hash).listed id, ?_, ?_, ?_, ?_,
    sound.enclave_iff settled hash, (sound.orderly.balanced hash).counted id⟩
  · intro state found
    rcases phases with absent | ⟨other, waiting⟩ | ⟨other, record, _, executes, _⟩ |
      ⟨other, record, _, executes, _⟩
    · exact absurd (absent.stored.symm.trans found) (by simp)
    · obtain rfl := Option.some.inj (waiting.stored.symm.trans found)
      exact .inl ⟨waiting.status, waiting.fresh⟩
    · obtain rfl := Option.some.inj (executes.1.symm.trans found)
      exact .inr ⟨record, false, executes⟩
    · obtain rfl := Option.some.inj (executes.1.symm.trans found)
      exact .inr ⟨record, true, executes⟩
  · intro state record executes
    rcases phases with absent | ⟨other, waiting⟩ | ⟨other, record', promise, executes', single,
      registered, _⟩ | ⟨other, record', _, executes', _⟩
    · exact absurd absent executes.not_absent
    · exact absurd waiting executes.not_waiting
    · obtain rfl := Option.some.inj (executes'.2.2.1.symm.trans executes.2.2.1)
      exact ⟨promise, single, registered⟩
    · exact absurd (executes.unique executes') (by simp)
  · intro idle
    rcases phases with absent | ⟨other, waiting⟩ | ⟨other, record, _, executes, _⟩ |
      ⟨other, record, _, _, none, _⟩
    · exact absent.promises
    · exact waiting.promises
    · exact absurd ⟨other, record, executes⟩ idle
    · exact none
  · intro index promise success inFlight
    obtain ⟨state, record, executes, registered⟩ := sound.callback_executes inFlight
    obtain ⟨next, called⟩ := sound.callback_succeeds chain inFlight success
    exact ⟨state, record, next, executes, registered, called⟩

theorem task_lifecycle_sample :
    ∃ w, Trace (step sampleChain) (Plain sampleChain) Sample.world Sample.timedRun w ∧
      w.frames = [] ∧ (promisesOf w (taskHash sampleChain Sample.timedTask)).length = 1 ∧
      ∀ owner, taskHash sampleChain Sample.timedTask ∈ w.ownerTasks owner ↔
        ∃ state, w.quantumTasks.get? (taskHash sampleChain Sample.timedTask) = some state ∧
          state.owner = owner := by
  obtain ⟨w, trace, settled, flying⟩ := Trace.of_runChecked (step sampleChain)
    (Plain sampleChain) Sample.world Sample.timedRun
    (fun w => w.frames.length = 0 ∧
      (promisesOf w (taskHash sampleChain Sample.timedTask)).length = 1) (by decide +kernel)
  have quiet := List.length_eq_zero_iff.mp settled
  exact ⟨w, trace, quiet, flying, (task_lifecycle Sample.world_deployed trace quiet _).1⟩

/-- Without the guard a cancelled task is stored again, executing, although its
owner's list no longer holds it. -/
theorem task_lifecycle_reentrant :
    Deployed Sample.world ∧
      ∃ w, Trace (step sampleChain) (fun _ move => move.enablesCompression = false) Sample.world
          Sample.reentrantCancellation w ∧
        w.frames.length = 0 ∧
        (w.quantumTasks.get? (taskHash sampleChain Sample.oracleTask)).map
          QuantumTaskState.owner = some Sample.alice ∧
        taskHash sampleChain Sample.oracleTask ∉ w.ownerTasks Sample.alice :=
  ⟨Sample.world_deployed, Trace.of_runChecked _ _ _ _ _ (by decide +kernel)⟩

end XCron.Scheduler
