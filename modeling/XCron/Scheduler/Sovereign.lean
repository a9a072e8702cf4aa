import XCron.Scheduler.Gates

/-!
# Sovereign tasks

`schedule_sovereign_task` announces an id made of the encrypted payload, the owner and
the deposit, and builds it by appending the first two to a buffer that `top_encode`
then replaces by the third. All that tells two sovereign tasks apart is their deposit,
and a sovereign task is stored under a digest that no keeper can present a payload for.
-/

namespace XCron.Scheduler

open Platform

variable {chain : Chain} {w next : World} {move : Step}

structure Request where
  encryptedPayload : Bytes
  owner : Address
  deposit : Nat
  deriving DecidableEq

namespace Request

def preimage (request : Request) : Bytes :=
  sovereignPreimage request.encryptedPayload request.owner request.deposit

def hash (chain : Chain) (request : Request) : TaskHash := chain.sha256 request.preimage

theorem preimage_eq (request : Request) : request.preimage = natBytes request.deposit := rfl

theorem preimage_inj {first second : Request} :
    first.preimage = second.preimage ↔ first.deposit = second.deposit := by
  rw [preimage_eq, preimage_eq]
  exact ⟨natBytes_injective, congrArg natBytes⟩

end Request

/-! ## Attempts -/

structure Attempts (chain : Chain) (w : World) (call : CallContext) (requested : Option Nat)
    (request : Request) : Prop where
  delivered : call.Delivered chain
  noEsdt : call.esdtTransfers = []
  unpaused : w.config.paused = false
  taken : ∃ paid, takeDeposit call requested (w.credit call) = .ok (request.deposit, paid)
  enough : w.config.minDeposit ≤ request.deposit
  capped : 0 < w.config.maxExecValueEgld → request.deposit ≤ w.config.maxExecValueEgld
  owner : request.owner = (resolveCaller call w).1

theorem Attempts.of_wallet {call : CallContext} (encryptedPayload : Bytes)
    (delivered : call.Delivered chain) (noEsdt : call.esdtTransfers = [])
    (unpaused : w.config.paused = false) (wallet : w.cloneKeyProps.get? call.caller = none)
    (enough : w.config.minDeposit ≤ call.egldValue)
    (capped : 0 < w.config.maxExecValueEgld → call.egldValue ≤ w.config.maxExecValueEgld) :
    Attempts chain w call none ⟨encryptedPayload, call.caller, call.egldValue⟩ := by
  have resolved : resolveCaller call w = (call.caller, false) := by
    rw [resolveCaller, wallet]
  have resolved' : resolveCaller call (w.credit call) = (call.caller, false) := resolved
  refine ⟨delivered, noEsdt, unpaused, ⟨w.credit call, ?_⟩, enough, capped, ?_⟩
  · rw [takeDeposit, resolved']
    rfl
  · rw [resolved]

def alreadyExists : Fault := .signal "Sovereign task already exists"

theorem takeDeposit_quantumTasks {call : CallContext} {requested : Option Nat} {deposit : Nat}
    (taken : takeDeposit call requested w = .ok (deposit, next)) :
    next.quantumTasks = w.quantumTasks := by
  rcases takeDeposit_cases taken with ⟨_, rfl⟩ | ⟨_, _, _, rfl⟩ <;> rfl

theorem Attempts.step_eq {call : CallContext} {requested : Option Nat} {request : Request}
    (attempt : Attempts chain w call requested request) :
    ∃ stored : World,
      step chain w (.scheduleSovereignTask call request.encryptedPayload requested) =
        if w.quantumTasks.get? (request.hash chain) = none then .ok stored
        else .error alreadyExists := by
  obtain ⟨paid, taken⟩ := attempt.taken
  have tasks := takeDeposit_quantumTasks taken
  have config := takeDeposit_config taken
  have unpaused : (w.credit call).requireNotPaused = .ok () :=
    World.requireNotPaused_eq_ok.mpr attempt.unpaused
  have owner : (resolveCaller call (w.credit call)).1 = request.owner := attempt.owner.symm
  have payable : call.payableEgld = .ok () := payableEgld_eq_ok.mpr attempt.noEsdt
  have enough : (w.credit call).config.minDeposit ≤ request.deposit := attempt.enough
  have capped : requireDepositWithinCap paid request.deposit = .ok () := by
    rw [requireDepositWithinCap, Outcome.require_eq_ok, config]
    exact attempt.capped
  refine ⟨(storeTask (request.hash chain) request.owner request.deposit paid).emit
    (.xsePayloadTriggered request.owner request.encryptedPayload), ?_⟩
  have id : chain.sha256 (sovereignPreimage request.encryptedPayload request.owner
      request.deposit) = request.hash chain := rfl
  simp only [step, Step.call?, body, scheduleSovereignTask, ensure, attempt.delivered, payable,
    unpaused, taken, owner, id, capped, require, config, enough, tasks, if_true, Bind.bind,
    Except.bind]
  by_cases free : w.quantumTasks.get? (request.hash chain) = none
  · have free' : (w.credit call).quantumTasks.get? (request.hash chain) = none := free
    rw [if_pos free, if_pos free']
    rfl
  · have taken' : ¬(w.credit call).quantumTasks.get? (request.hash chain) = none := free
    rw [if_neg free, if_neg taken']
    rfl

theorem Attempts.refused_iff {call : CallContext} {requested : Option Nat} {request : Request}
    (attempt : Attempts chain w call requested request) :
    step chain w (.scheduleSovereignTask call request.encryptedPayload requested) =
        .error alreadyExists ↔ w.quantumTasks.get? (request.hash chain) ≠ none := by
  obtain ⟨stored, stepped⟩ := attempt.step_eq
  rw [stepped]
  split <;> simp_all

/-! ## Two requests -/

/-- The ids of two requests differ, or the messages hashed into them collide. -/
def Separated (chain : Chain) (first second : Request) : Prop :=
  first.hash chain ≠ second.hash chain ∨ Collide chain.sha256 first.preimage second.preimage

theorem separated_iff {first second : Request} :
    Separated chain first second ↔ first.deposit ≠ second.deposit := by
  rw [Separated, Collide, Ne, Ne, Ne, Request.preimage_inj]
  constructor
  · rintro (different | ⟨different, _⟩) same
    · exact different (congrArg chain.sha256 (Request.preimage_inj.mpr same))
    · exact different same
  · intro different
    by_cases same : first.hash chain = second.hash chain
    · exact .inr ⟨different, same⟩
    · exact .inl same

/-- In some run of a deployed scheduler the request was granted, and its task is stored
to this day. -/
def Stands (chain : Chain) (w : World) (request : Request) : Prop :=
  ∃ start before after past later call requested, Deployed start ∧
    Trace (step chain) (fun _ _ => True) start past before ∧
    Attempts chain before call requested request ∧
    step chain before (.scheduleSovereignTask call request.encryptedPayload requested) = .ok after ∧
    Trace (step chain) (fun _ _ => True) after later w ∧
    w.quantumTasks.get? (request.hash chain) ≠ none

/-- The call is refused over the id of the standing request, with no collision to
blame. -/
def Obstructs (chain : Chain) (w : World) (first second : Request) (call : CallContext)
    (requested : Option Nat) : Prop :=
  step chain w (.scheduleSovereignTask call second.encryptedPayload requested) =
      .error alreadyExists ∧
    second.hash chain = first.hash chain ∧ ¬Collide chain.sha256 first.preimage second.preimage

theorem obstructs_iff {first second : Request} {call : CallContext} {requested : Option Nat}
    (stands : Stands chain w first) (attempt : Attempts chain w call requested second) :
    Obstructs chain w first second call requested ↔ first.deposit = second.deposit := by
  constructor
  · rintro ⟨_, same, noCollision⟩
    by_contra different
    refine noCollision ⟨mt Request.preimage_inj.mp different, same.symm⟩
  · intro same
    have preimages := Request.preimage_inj.mpr same
    have hashes : first.hash chain = second.hash chain := congrArg chain.sha256 preimages
    obtain ⟨_, _, _, _, _, _, _, _, _, _, _, _, occupied⟩ := stands
    refine ⟨attempt.refused_iff.mpr ?_, hashes.symm, fun collision => collision.1 preimages⟩
    rw [← hashes]
    exact occupied

/-- In every reachable state, a standing sovereign task and another request are told
apart exactly if their deposits differ, and exactly then the one does not keep the
other from being scheduled. -/
theorem sovereign_ids_separate_iff {first second : Request} {call : CallContext}
    {requested : Option Nat} (stands : Stands chain w first)
    (attempt : Attempts chain w call requested second) :
    (Separated chain first second ↔ first.deposit ≠ second.deposit) ∧
      (¬Obstructs chain w first second call requested ↔ first.deposit ≠ second.deposit) :=
  ⟨separated_iff, not_congr (obstructs_iff stands attempt)⟩

/-! ## Enclaves -/

/-- Some step of the past has presented this payload for execution. -/
def Presented (past : List Step) (payload : Task) : Prop :=
  ∃ call secret, .executeQuantumTask call payload secret ∈ past

theorem Dispatched.assignedEnclaveKeeper {d : Dispatch} (dispatched : Dispatched chain d w next) :
    next.assignedEnclaveKeeper = w.assignedEnclaveKeeper := by
  rcases dispatched with ⟨_, _, rfl⟩ | ⟨_, rfl⟩ | rfl <;> rfl

theorem enclave_origin {hash : TaskHash} {keeper : Address}
    (stepped : step chain w move = .ok next)
    (assigned : next.assignedEnclaveKeeper hash = some keeper) :
    w.assignedEnclaveKeeper hash = some keeper ∨
      ∃ payload, Presented [move] payload ∧ taskHash chain payload = hash := by
  have dropped : ∀ closed, Function.update w.assignedEnclaveKeeper closed none hash = some keeper →
      w.assignedEnclaveKeeper hash = some keeper := by
    intro closed assigned
    rw [Function.update_apply] at assigned
    split at assigned
    · cases assigned
    · exact assigned
  cases step_effect stepped with
  | scheduleQuantumTask _ _ taken _ | scheduleSovereignTask _ _ taken _ =>
      rcases takeDeposit_cases taken with ⟨_, rfl⟩ | ⟨_, _, _, rfl⟩ <;> exact .inl assigned
  | @executeQuantumTask call payload secret _ _ _ _ _ _ dispatched =>
      rw [dispatched.assignedEnclaveKeeper] at assigned
      by_cases same : hash = taskHash chain payload
      · exact .inr ⟨payload, ⟨call, secret, List.mem_singleton.mpr rfl⟩, same.symm⟩
      · left
        simp only [World.assignEnclave] at assigned
        split at assigned
        · rw [Function.update_of_ne same] at assigned
          exact assigned
        · exact assigned
  | settleXseTask _ _ _ _ _ closed =>
      obtain ⟨_, _, rfl⟩ := finalizeSuccessfulExecution_eq_ok.mp closed
      exact .inl (dropped _ assigned)
  | rescueStuckXseTask => exact .inl (dropped _ assigned)
  | syncReturn _ resumed =>
      rcases resume_ok resumed with ⟨_, _, dispatched⟩ | ⟨_, _, _, _, dispatched⟩ |
        ⟨_, _, _, _, closed⟩
      · rw [dispatched.assignedEnclaveKeeper] at assigned
        exact .inl assigned
      · rw [dispatched.assignedEnclaveKeeper] at assigned
        exact .inl assigned
      · obtain ⟨_, _, rfl⟩ := finalizeSuccessfulExecution_eq_ok.mp closed
        exact .inl (dropped _ assigned)
  | executionCallback _ called =>
      obtain ⟨_, _, ⟨_, _, rfl⟩ | ⟨_, rfl⟩⟩ := executionCallback_ok called
      · exact .inl (dropped _ assigned)
      · exact .inl (dropped _ assigned)
  | solveIntent | solveMultiIntent | executePreCognitiveLeaf =>
      rw [World.delivered_eq] at assigned
      exact .inl assigned
  | _ => exact .inl assigned

/-- Every enclave of a run goes back to a payload that was presented in it. -/
def Traceable (chain : Chain) (past : List Step) (w : World) : Prop :=
  ∀ hash keeper, w.assignedEnclaveKeeper hash = some keeper →
    ∃ payload, Presented past payload ∧ taskHash chain payload = hash

theorem traceable_concat {past : List Step} (traceable : Traceable chain past w)
    (stepped : step chain w move = .ok next) : Traceable chain (past ++ [move]) next := by
  intro hash keeper assigned
  rcases enclave_origin stepped assigned with before | ⟨payload, ⟨call, secret, member⟩, same⟩
  · obtain ⟨payload, ⟨call, secret, member⟩, same⟩ := traceable hash keeper before
    exact ⟨payload, ⟨call, secret, List.mem_append_left _ member⟩, same⟩
  · exact ⟨payload, ⟨call, secret, List.mem_append_right _ member⟩, same⟩

theorem Deployed.traceable (started : Deployed w) : Traceable chain [] w := by
  obtain ⟨_, _, _, _, _, _, rfl⟩ := started.eq
  intro hash keeper assigned
  cases assigned

/-- A payload of the past passes for the sovereign task: its encoding collides with the
message of the id, or is the numeral of a deposit of at least `256 ^ 71`. -/
def Impersonated (chain : Chain) (past : List Step) (request : Request) : Prop :=
  ∃ payload, Presented past payload ∧
    (Collide chain.sha256 payload.encode request.preimage ∨ 256 ^ 71 ≤ request.deposit)

/-- A sovereign task that is settled has been impersonated. -/
theorem Traceable.impersonated {past : List Step} {request : Request} {call : CallContext}
    {zkProof : Bytes} (traceable : Traceable chain past w)
    (settled : step chain w (.settleXseTask call (request.hash chain) zkProof) = .ok next) :
    Impersonated chain past request := by
  have enclave : w.assignedEnclaveKeeper (request.hash chain) = some call.caller := by
    cases step_effect settled with
    | awaitSettlement _ _ _ enclave _ => exact enclave
    | settleXseTask _ _ _ enclave _ _ => exact enclave
  obtain ⟨payload, presented, same⟩ := traceable _ _ enclave
  refine ⟨payload, presented, ?_⟩
  by_cases numeral : payload.encode = natBytes request.deposit
  · have long := payload.length_encode_ge
    rw [numeral] at long
    exact .inr (le_of_length_natBytes long)
  · exact .inl ⟨numeral, same⟩

namespace Sample

def aliceRequest : Request := ⟨[1], alice, 700⟩

def bobRequest : Request := ⟨[2], bob, 700⟩

def sovereignRun : List Step := [.scheduleSovereignTask (call alice 700 1000) [1] none]

def awaitsBob (w : World) : Prop :=
  (w.config.paused = false ∧ w.config.minDeposit = 0 ∧ w.config.maxExecValueEgld = 0) ∧
    (w.cloneKeyProps.get? bob).isNone = true ∧
    (w.quantumTasks.get? (aliceRequest.hash sampleChain)).isSome = true

instance (w : World) : Decidable (awaitsBob w) := inferInstanceAs (Decidable (_ ∧ _ ∧ _))

theorem awaitsBob.stands {w : World}
    (trace : Trace (step sampleChain) (fun _ _ => True) world sovereignRun w) (awaits : awaitsBob w) :
    Stands sampleChain w aliceRequest := by
  cases trace with
  | cons _ stepped rest =>
      cases rest
      refine ⟨world, world, w, [], [], call alice 700 1000, none, world_deployed, .nil _, ?_, stepped,
        .nil _, ?_⟩
      · exact Attempts.of_wallet [1] (by decide) rfl rfl rfl (by decide) (by decide)
      · exact Option.isSome_iff_ne_none.mp awaits.2.2

theorem awaitsBob.attempts {w : World} (awaits : awaitsBob w) :
    Attempts sampleChain w (call bob 700 1000) none bobRequest := by
  obtain ⟨⟨unpaused, noMinimum, noCap⟩, wallet, _⟩ := awaits
  refine Attempts.of_wallet [2] (by decide) rfl unpaused (Option.isNone_iff_eq_none.mp wallet) ?_ ?_
  · rw [noMinimum]
    exact Nat.zero_le _
  · rw [noCap]
    intro positive
    cases positive

end Sample

theorem sovereign_ids_separate_iff_sample :
    ∃ w, Trace (step sampleChain) (fun _ _ => True) Sample.world Sample.sovereignRun w ∧
      (Separated sampleChain Sample.aliceRequest Sample.bobRequest ↔
        Sample.aliceRequest.deposit ≠ Sample.bobRequest.deposit) := by
  obtain ⟨w, trace, awaits⟩ := Trace.of_runChecked (step sampleChain) (fun _ _ => True) Sample.world
    Sample.sovereignRun Sample.awaitsBob (by decide +kernel)
  exact ⟨w, trace, (sovereign_ids_separate_iff (awaits.stands trace) awaits.attempts).1⟩

/-- Alice's task keeps Bob from scheduling a different one. -/
theorem sovereign_id_obstructs :
    ∃ w, Trace (step sampleChain) (fun _ _ => True) Sample.world Sample.sovereignRun w ∧
      Stands sampleChain w Sample.aliceRequest ∧
      Attempts sampleChain w (Sample.call Sample.bob 700 1000) none Sample.bobRequest ∧
      Sample.aliceRequest ≠ Sample.bobRequest ∧
      ¬Separated sampleChain Sample.aliceRequest Sample.bobRequest ∧
      Obstructs sampleChain w Sample.aliceRequest Sample.bobRequest (Sample.call Sample.bob 700 1000)
        none := by
  obtain ⟨w, trace, awaits⟩ := Trace.of_runChecked (step sampleChain) (fun _ _ => True) Sample.world
    Sample.sovereignRun Sample.awaitsBob (by decide +kernel)
  refine ⟨w, trace, awaits.stands trace, awaits.attempts, by decide, ?_,
    (obstructs_iff (awaits.stands trace) awaits.attempts).mpr rfl⟩
  exact mt separated_iff.mp (not_not_intro rfl)

end XCron.Scheduler
