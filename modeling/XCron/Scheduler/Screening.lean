import XCron.Scheduler.Compressed

/-!
# Which contracts a task may call

`require_safe_target` is the check S-1: no task calls the scheduler, the two contracts
that trust it, a blacklisted contract or an endpoint that moves ownership or tokens.
`dispatch_task_execution` applies it to the target, but asks the oracle of a
`StateDriven` trigger before, unchecked and without the arguments of the query; and it
does not apply it again when the market query that may follow has returned.
-/

namespace XCron.Scheduler

open Platform

variable {chain : Chain} {w before next : World} {move : Step} {d : Dispatch}

/-! ## What is checked -/

/-- A call that S-1 permits. -/
structure SafeTarget (chain : Chain) (w : World) (target : Address) (endpoint : Bytes) : Prop where
  scheduler : target ≠ chain.scAddress
  registry : w.config.keeperRegistryAddr ≠ some target
  rewards : w.config.rewardsAddr ≠ some target
  blacklist : target ∉ w.config.targetBlacklist
  endpoint : endpoint ∉ dangerousEndpoints

theorem requireSafeTarget_ok {target : Address} {endpoint : Bytes}
    (checked : requireSafeTarget chain target endpoint w = .ok ()) :
    SafeTarget chain w target endpoint := by
  simp only [requireSafeTarget, Outcome.bind_eq_ok, Outcome.require_eq_ok,
    Outcome.load_eq_ok] at checked
  obtain ⟨_, scheduler, registry, found, _, registry', rewards, found', _, rewards', _, blacklist,
    endpoint⟩ := checked
  refine ⟨scheduler, ?_, ?_, blacklist, endpoint⟩
  · rw [found]
    exact fun same => registry' (Option.some.inj same).symm
  · rw [found']
    exact fun same => rewards' (Option.some.inj same).symm

def Frame.asksOracle : Frame → Bool
  | .oracle _ => true
  | _ => false

/-- The step asks the oracle of a dispatch, which leaves one more endpoint waiting for
an oracle. -/
structure Queries (w next : World) (d : Dispatch) (receiver : Address) (endpoint : Bytes)
    (args : List Bytes) : Prop where
  waits : w.frames.countP Frame.asksOracle < next.frames.countP Frame.asksOracle
  frame : next.frames.head? = some (.oracle d)
  call : next.events = w.events ++ [.syncCall receiver endpoint args]

/-- The step calls the target of a task, which leaves one more promise. -/
def Targets (w next : World) (promise : Promise) : Prop := next.promises = w.promises ++ [promise]

/-- Every call that a step makes for a task is permitted by S-1, and an oracle is asked
exactly what the trigger says. -/
structure Screened (chain : Chain) (w next : World) : Prop where
  queries : ∀ d receiver endpoint args, Queries w next d receiver endpoint args →
    SafeTarget chain w receiver endpoint ∧ ∃ comparator threshold,
      d.payload.trigger = .stateDriven receiver endpoint args comparator threshold
  targets : ∀ promise, Targets w next promise →
    SafeTarget chain w promise.targetContract promise.targetEndpoint

/-- The payload that a step hands to the dispatcher: the keeper's, or that of a compressed
task whose proof has come back. -/
def Step.dispatched? (w : World) : Step → Option Task
  | .executeQuantumTask _ payload _ => some payload
  | .syncReturn _ =>
      match w.frames with
      | .proof _ _ payload :: _ => some payload
      | _ => none
  | _ => none

/-- The oracle of a trigger may be asked, and without arguments. -/
def OracleSafe (chain : Chain) (w : World) (trigger : Trigger) : Prop :=
  ∀ receiver endpoint args comparator threshold,
    trigger = .stateDriven receiver endpoint args comparator threshold →
    SafeTarget chain w receiver endpoint ∧ args = []

/-- What S-1 leaves to the caller: an oracle that it would permit and that needs no
arguments, and a target that is still permitted when the market query returns. -/
structure Screenable (chain : Chain) (w : World) (move : Step) : Prop where
  oracle : ∀ payload, move.dispatched? w = some payload → OracleSafe chain w payload.trigger
  market : ∀ results d rest, move = .syncReturn results → w.frames = .xwap d :: rest →
    d.payload.confidential = false →
    SafeTarget chain w d.payload.targetContract d.payload.targetEndpoint

/-! ## The dispatcher -/

theorem screened_of_targets
    (fewer : next.frames.countP Frame.asksOracle ≤ w.frames.countP Frame.asksOracle)
    (targets : ∀ promise, Targets w next promise →
      SafeTarget chain w promise.targetContract promise.targetEndpoint) :
    Screened chain w next := by
  refine ⟨?_, targets⟩
  intro d receiver endpoint args queries
  exact absurd queries.waits (Nat.not_lt.mpr fewer)

theorem screened_of_silent
    (fewer : next.frames.countP Frame.asksOracle ≤ w.frames.countP Frame.asksOracle)
    (silent : next.promises.length ≤ w.promises.length) : Screened chain w next := by
  refine screened_of_targets fewer ?_
  intro promise targets
  rw [Targets] at targets
  rw [targets, List.length_append] at silent
  exact absurd silent (Nat.not_succ_le_self _)

/-- The world in which the dispatcher runs, as far as calls are concerned. -/
structure Carries (w before : World) : Prop where
  config : before.config = w.config
  events : before.events = w.events
  promises : before.promises = w.promises
  waits : before.frames.countP Frame.asksOracle ≤ w.frames.countP Frame.asksOracle

theorem Carries.safeTarget {target : Address} {endpoint : Bytes} (carries : Carries w before)
    (safe : SafeTarget chain before target endpoint) : SafeTarget chain w target endpoint := by
  have config := carries.config
  obtain ⟨scheduler, registry, rewards, blacklist, endpoint⟩ := safe
  rw [config] at registry rewards blacklist
  exact ⟨scheduler, registry, rewards, blacklist, endpoint⟩

theorem startExecution_targets (carries : Carries w before) {promise : Promise}
    (targets : Targets w (before.startExecution chain d) promise) :
    d.payload.confidential = false ∧ promise = d.promise chain := by
  have promises : (before.startExecution chain d).promises =
      if d.payload.confidential then before.promises else before.promises ++ [d.promise chain] := rfl
  rw [Targets, promises, carries.promises] at targets
  split at targets
  · have lengths := congrArg List.length targets
    rw [List.length_append] at lengths
    exact absurd lengths (Nat.ne_of_lt (Nat.lt_succ_self _))
  · have same := List.append_cancel_left targets
    exact ⟨Bool.not_eq_true _ ▸ ‹_›, (List.cons.inj same).1.symm⟩

theorem startExecution_screened (carries : Carries w before)
    (safe : SafeTarget chain w d.payload.targetContract d.payload.targetEndpoint) :
    Screened chain w (before.startExecution chain d) := by
  refine screened_of_targets carries.waits ?_
  intro promise targets
  obtain ⟨_, rfl⟩ := startExecution_targets carries targets
  exact safe

theorem suspend_silent {frame : Frame} {receiver : Address} {endpoint : Bytes} {args : List Bytes}
    (carries : Carries w before) (other : frame.asksOracle = false) :
    Screened chain w (before.suspend frame receiver endpoint args) := by
  refine screened_of_silent ?_ (Nat.le_of_eq (congrArg List.length carries.promises))
  change (frame :: before.frames).countP Frame.asksOracle ≤ _
  rw [List.countP_cons, other]
  exact carries.waits

theorem dispatchRipe_screened (carries : Carries w before)
    (dispatched : dispatchRipe chain d before = .ok next) : Screened chain w next := by
  simp only [dispatchRipe, Outcome.bind_eq_ok] at dispatched
  obtain ⟨_, checked, rest⟩ := dispatched
  have safe := carries.safeTarget (requireSafeTarget_ok checked)
  have funded : dispatchFunded chain d before = .ok next → Screened chain w next := by
    intro funded
    simp only [dispatchFunded, Outcome.bind_eq_ok, Outcome.pure_eq_ok] at funded
    obtain ⟨_, _, rfl⟩ := funded
    exact startExecution_screened carries safe
  split at rest
  · simp only [Outcome.bind_eq_ok] at rest
    obtain ⟨xwap, _, rest⟩ := rest
    split at rest
    · obtain rfl := (Outcome.pure_eq_ok _ _).mp rest
      exact suspend_silent carries rfl
    · exact funded rest
  · exact funded rest

theorem requireTaskRipeQuantum_query {call : CallContext} {payload : Task}
    {query : Option (Address × Bytes)} (ripe : requireTaskRipeQuantum call payload = .ok query) :
    query = match payload.trigger with
      | .stateDriven receiver endpoint _ _ _ => some (receiver, endpoint)
      | _ => none := by
  unfold requireTaskRipeQuantum at ripe
  cases trigger : payload.trigger with
  | timeOnce | timeRecurring =>
      simp only [trigger, Outcome.bind_eq_ok, Outcome.pure_eq_ok] at ripe
      obtain ⟨_, _, _, _, rfl⟩ := ripe
      rfl
  | stateDriven | eventDriven | quantumSealedHash =>
      simp only [trigger, Outcome.bind_eq_ok, Outcome.pure_eq_ok] at ripe
      obtain ⟨_, _, rfl⟩ := ripe
      rfl

theorem dispatchTaskExecution_queries {receiver : Address} {endpoint : Bytes} {args : List Bytes}
    {comparator : Comparator} {threshold : Nat} (carries : Carries w before)
    (all : w.frames.countP Frame.asksOracle ≤ before.frames.countP Frame.asksOracle)
    (trigger : d.payload.trigger = .stateDriven receiver endpoint args comparator threshold)
    (dispatched : dispatchTaskExecution chain d before = .ok next) :
    Queries w next d receiver endpoint [] ∧ next.promises = w.promises := by
  simp only [dispatchTaskExecution, Outcome.bind_eq_ok] at dispatched
  obtain ⟨query, ripe, rest⟩ := dispatched
  have query' := requireTaskRipeQuantum_query ripe
  rw [trigger] at query'
  subst query'
  obtain rfl := (Outcome.pure_eq_ok _ _).mp rest
  refine ⟨⟨?_, rfl, congrArg (· ++ [Event.syncCall receiver endpoint []]) carries.events⟩,
    carries.promises⟩
  change _ < (Frame.oracle d :: before.frames).countP Frame.asksOracle
  rw [List.countP_cons_of_pos rfl]
  exact Nat.lt_succ_of_le all

theorem Queries.screened_iff {receiver : Address} {endpoint : Bytes} {args : List Bytes}
    {comparator : Comparator} {threshold : Nat} (queries : Queries w next d receiver endpoint [])
    (silent : next.promises = w.promises)
    (trigger : d.payload.trigger = .stateDriven receiver endpoint args comparator threshold) :
    Screened chain w next ↔ OracleSafe chain w d.payload.trigger := by
  rw [trigger]
  constructor
  · intro screened receiver' endpoint' args' comparator' threshold' same
    obtain ⟨safe, _, _, same'⟩ := screened.queries _ _ _ _ queries
    rw [trigger] at same'
    cases same
    cases same'
    exact ⟨safe, rfl⟩
  · intro oracleSafe
    obtain ⟨safe, rfl⟩ := oracleSafe _ _ _ _ _ rfl
    constructor
    · rintro other receiver' endpoint' args' ⟨_, frame, call⟩
      obtain rfl := Frame.oracle.inj (Option.some.inj (queries.frame.symm.trans frame))
      have same := List.append_cancel_left (queries.call.symm.trans call)
      cases same
      exact ⟨safe, comparator, threshold, trigger⟩
    · intro promise targets
      have lengths := congrArg List.length (targets.symm.trans silent)
      rw [List.length_append] at lengths
      exact absurd lengths.symm (Nat.ne_of_lt (Nat.lt_succ_self _))

theorem dispatchTaskExecution_screened_iff (carries : Carries w before)
    (all : w.frames.countP Frame.asksOracle ≤ before.frames.countP Frame.asksOracle)
    (dispatched : dispatchTaskExecution chain d before = .ok next) :
    Screened chain w next ↔ OracleSafe chain w d.payload.trigger := by
  cases trigger : d.payload.trigger with
  | stateDriven =>
      obtain ⟨queries, silent⟩ := dispatchTaskExecution_queries carries all trigger dispatched
      rw [← trigger]
      exact queries.screened_iff silent trigger
  | _ =>
      simp only [dispatchTaskExecution, Outcome.bind_eq_ok] at dispatched
      obtain ⟨query, ripe, rest⟩ := dispatched
      have query' := requireTaskRipeQuantum_query ripe
      rw [trigger] at query'
      subst query'
      exact iff_of_true (dispatchRipe_screened carries rest) (fun _ _ _ _ _ other => nomatch other)

/-! ## Every step -/

theorem executeQuantumTask_dispatches {call : CallContext} {payload : Task}
    {secret : Option Bytes32}
    (stepped : step chain w (.executeQuantumTask call payload secret) = .ok next) :
    ∃ d before, d.payload = payload ∧ Carries w before ∧ before.frames = w.frames ∧
      dispatchTaskExecution chain d before = .ok next := by
  simp only [step, Step.call?, body, executeQuantumTask, Outcome.bind_eq_ok] at stepped
  obtain ⟨_, _, _, _, _, _, _, _, _, _, state, _, _, _, _, _, _, _, _, _, dispatched⟩ := stepped
  exact ⟨_, (w.credit call).assignEnclave (taskHash chain payload) payload call.caller, rfl,
    ⟨rfl, rfl, rfl, Nat.le_refl _⟩, rfl, dispatched⟩

theorem executeQuantumTask_queries {call : CallContext} {payload : Task} {secret : Option Bytes32}
    {receiver : Address} {endpoint : Bytes} {args : List Bytes} {comparator : Comparator}
    {threshold : Nat}
    (trigger : payload.trigger = .stateDriven receiver endpoint args comparator threshold)
    (stepped : step chain w (.executeQuantumTask call payload secret) = .ok next) :
    ∃ d, d.payload = payload ∧ Queries w next d receiver endpoint [] := by
  obtain ⟨d, before, rfl, carries, frames, dispatched⟩ := executeQuantumTask_dispatches stepped
  have all : w.frames.countP Frame.asksOracle ≤ before.frames.countP Frame.asksOracle := by
    rw [frames]
  exact ⟨d, rfl, (dispatchTaskExecution_queries carries all trigger dispatched).1⟩

theorem carries_of_waiting {frame : Frame} {rest : List Frame} (waiting : w.frames = frame :: rest) :
    Carries w { w with frames := rest } := by
  refine ⟨rfl, rfl, rfl, ?_⟩
  rw [waiting]
  exact (List.sublist_cons_self _ _).countP_le

theorem market_screened_iff {results : List Bytes} {rest : List Frame}
    (waiting : w.frames = .xwap d :: rest)
    (resumed : resume chain (.xwap d) results { w with frames := rest } = .ok next) :
    Screened chain w next ↔ (d.payload.confidential = false →
      SafeTarget chain w d.payload.targetContract d.payload.targetEndpoint) := by
  have carries := carries_of_waiting waiting
  simp only [resume, dispatchFunded, Outcome.bind_eq_ok, Outcome.pure_eq_ok] at resumed
  obtain ⟨_, _, _, _, rfl⟩ := resumed
  constructor
  · intro screened plain
    refine screened.targets (d.promise chain) ?_
    change (if d.payload.confidential then _ else _) = _
    rw [plain]
    rfl
  · intro safe
    refine screened_of_targets carries.waits ?_
    intro promise targets
    obtain ⟨plain, rfl⟩ := startExecution_targets carries targets
    exact safe plain

/-- A return is screened exactly if what S-1 leaves open is. -/
theorem syncReturn_screened_iff {results : List Bytes} {frame : Frame} {rest : List Frame}
    (waiting : w.frames = frame :: rest)
    (resumed : resume chain frame results { w with frames := rest } = .ok next) :
    Screened chain w next ↔ Screenable chain w (.syncReturn results) := by
  have carries := carries_of_waiting waiting
  cases frame with
  | oracle d =>
      simp only [resume, Outcome.bind_eq_ok] at resumed
      obtain ⟨_, _, ripe⟩ := resumed
      refine iff_of_true (dispatchRipe_screened carries ripe) ⟨?_, ?_⟩
      · intro payload presented
        simp [Step.dispatched?, waiting] at presented
      · intro _ other _ _ waiting'
        cases waiting.symm.trans waiting'
  | xwap d =>
      rw [market_screened_iff waiting resumed]
      constructor
      · intro safe
        refine ⟨?_, ?_⟩
        · intro payload presented
          simp [Step.dispatched?, waiting] at presented
        · intro _ other _ _ waiting' plain
          cases waiting.symm.trans waiting'
          exact safe plain
      · intro screenable
        exact screenable.market results d rest rfl waiting
  | proof call hash payload =>
      simp only [resume, resumeCompressedTask, Outcome.bind_eq_ok] at resumed
      obtain ⟨_, _, dispatched⟩ := resumed
      have all : w.frames.countP Frame.asksOracle ≤ rest.countP Frame.asksOracle := by
        rw [waiting, List.countP_cons_of_neg Bool.false_ne_true]
      rw [dispatchTaskExecution_screened_iff carries all dispatched]
      constructor
      · intro safe
        refine ⟨?_, ?_⟩
        · intro other presented
          simp only [Step.dispatched?, waiting, Option.some.injEq] at presented
          exact presented ▸ safe
        · intro _ other _ _ waiting'
          cases waiting.symm.trans waiting'
      · intro screenable
        refine screenable.oracle payload ?_
        simp only [Step.dispatched?, waiting]
  | zkVerifier hash enforcer state =>
      simp only [resume, Outcome.bind_eq_ok] at resumed
      obtain ⟨_, _, closed⟩ := resumed
      obtain ⟨_, _, rfl⟩ := finalizeSuccessfulExecution_eq_ok.mp closed
      refine iff_of_true (screened_of_silent carries.waits (Nat.le_refl _)) ⟨?_, ?_⟩
      · intro payload presented
        simp [Step.dispatched?, waiting] at presented
      · intro _ other _ _ waiting'
        cases waiting.symm.trans waiting'

theorem screened_iff_of_silent
    (fewer : next.frames.countP Frame.asksOracle ≤ w.frames.countP Frame.asksOracle)
    (silent : next.promises.length ≤ w.promises.length) (idle : move.dispatched? w = none)
    (calls : ∀ results, move ≠ .syncReturn results) :
    Screened chain w next ↔ Screenable chain w move := by
  refine iff_of_true (screened_of_silent fewer silent) ⟨?_, ?_⟩
  · intro payload presented
    rw [idle] at presented
    cases presented
  · intro results _ _ returns
    exact absurd returns (calls results)

/-- A step makes only calls that S-1 permits, and asks an oracle exactly what the trigger
says, exactly if the oracle of the payload it dispatches is permitted and takes no
arguments, and the target it calls after a market query is still permitted. -/
theorem calls_screened_iff (stepped : step chain w move = .ok next) :
    Screened chain w next ↔ Screenable chain w move := by
  cases step_effect stepped with
  | @executeQuantumTask call payload secret =>
      obtain ⟨d, before, rfl, carries, same, dispatched⟩ := executeQuantumTask_dispatches stepped
      rw [dispatchTaskExecution_screened_iff carries (by rw [same]) dispatched]
      constructor
      · intro safe
        refine ⟨?_, fun _ _ _ other => nomatch other⟩
        intro other presented
        obtain rfl := Option.some.inj presented
        exact safe
      · intro screenable
        exact screenable.oracle d.payload rfl
  | syncReturn waiting resumed => exact syncReturn_screened_iff waiting resumed
  | scheduleQuantumTask _ _ taken | scheduleSovereignTask _ _ taken =>
      rcases takeDeposit_cases taken with ⟨_, rfl⟩ | ⟨_, _, _, rfl⟩ <;>
        exact screened_iff_of_silent (Nat.le_refl _) (Nat.le_refl _) rfl (fun _ => nofun)
  | executeCompressedTask | awaitSettlement =>
      exact screened_iff_of_silent (Nat.le_refl _) (Nat.le_refl _) rfl (fun _ => nofun)
  | settleXseTask _ _ _ _ _ closed =>
      obtain ⟨_, _, rfl⟩ := finalizeSuccessfulExecution_eq_ok.mp closed
      exact screened_iff_of_silent (Nat.le_refl _) (Nat.le_refl _) rfl (fun _ => nofun)
  | @executionCallback index _ _ _ _ called =>
      have fewer : (w.promises.eraseIdx index).length ≤ w.promises.length :=
        List.length_eraseIdx_le _ _
      obtain ⟨_, _, ⟨_, _, rfl⟩ | ⟨_, rfl⟩⟩ := executionCallback_ok called <;>
        exact screened_iff_of_silent (Nat.le_refl _) fewer rfl (fun _ => nofun)
  | callbackFault =>
      exact screened_iff_of_silent (Nat.le_refl _) (List.length_eraseIdx_le _ _) rfl
        (fun _ => nofun)
  | solveIntent | solveMultiIntent | executePreCognitiveLeaf =>
      rw [World.delivered_eq]
      exact screened_iff_of_silent (Nat.le_refl _) (Nat.le_refl _) rfl (fun _ => nofun)
  | _ => exact screened_iff_of_silent (Nat.le_refl _) (Nat.le_refl _) rfl (fun _ => nofun)

namespace Sample

def registryTask : Task := task alice (.stateDriven (.fill 3) [115] [[1]] .gte 0) false

end Sample

theorem calls_screened_sample :
    ∃ w next, step sampleChain w
        (.executeQuantumTask (Sample.call Sample.keeper 0 1000) Sample.oracleTask none) = .ok next ∧
      (∃ d, d.payload = Sample.oracleTask ∧ Queries w next d Sample.alice [] []) ∧
      Screened sampleChain w next := by
  obtain ⟨next, trace, _⟩ := Trace.of_runChecked (step sampleChain)
    (fun w _ => w.config.keeperRegistryAddr = some (.fill 3) ∧
      w.config.rewardsAddr = some (.fill 4) ∧ w.config.targetBlacklist = ∅) Sample.world
    ([Sample.admitKeeper,
      .scheduleQuantumTask (Sample.call Sample.alice 1000 1000) Sample.oracleTask none] ++
      [.executeQuantumTask (Sample.call Sample.keeper 0 1000) Sample.oracleTask none])
    (fun _ => True) (by decide +kernel)
  obtain ⟨w, _, ⟨registry, rewards, blacklist⟩, stepped⟩ := trace.last
  have safe : SafeTarget sampleChain w Sample.alice [] := by
    refine ⟨by decide, ?_, ?_, ?_, by decide +kernel⟩
    · rw [registry]
      decide
    · rw [rewards]
      decide
    · rw [blacklist]
      exact Finset.notMem_empty _
  refine ⟨w, next, stepped, executeQuantumTask_queries rfl stepped,
    (calls_screened_iff stepped).mpr ⟨?_, ?_⟩⟩
  · intro payload presented receiver endpoint args comparator threshold trigger
    cases presented
    cases trigger
    exact ⟨safe, rfl⟩
  · intro _ _ _ other
    cases other

/-- The keeper registry is asked in the name of the scheduler, and the argument of the
query is lost. -/
theorem registry_queried :
    Deployed Sample.world ∧
      ∃ w next d, Trace (step sampleChain) (fun _ _ => True) Sample.world
          [Sample.admitKeeper,
            .scheduleQuantumTask (Sample.call Sample.alice 1000 1000) Sample.registryTask none] w ∧
        step sampleChain w
          (.executeQuantumTask (Sample.call Sample.keeper 0 1000) Sample.registryTask none) =
            .ok next ∧
        d.payload = Sample.registryTask ∧ w.config.keeperRegistryAddr = some (.fill 3) ∧
        Queries w next d (.fill 3) [115] [] ∧ ¬Screened sampleChain w next := by
  obtain ⟨next, trace, _⟩ := Trace.of_runChecked (step sampleChain)
    (fun w _ => w.config.keeperRegistryAddr = some (.fill 3)) Sample.world
    ([Sample.admitKeeper,
      .scheduleQuantumTask (Sample.call Sample.alice 1000 1000) Sample.registryTask none] ++
      [.executeQuantumTask (Sample.call Sample.keeper 0 1000) Sample.registryTask none])
    (fun _ => True) (by decide +kernel)
  obtain ⟨w, reached, registry, stepped⟩ := trace.last
  obtain ⟨d, same, queries⟩ := executeQuantumTask_queries rfl stepped
  refine ⟨Sample.world_deployed, w, next, d, reached.weaken (fun _ _ _ => trivial), stepped, same,
    registry, queries, ?_⟩
  intro screened
  exact (screened.queries _ _ _ _ queries).1.registry registry

end XCron.Scheduler
