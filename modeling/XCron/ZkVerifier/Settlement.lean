import XCron.Scheduler.Rescue
import XCron.Scheduler.Sovereign
import XCron.ZkVerifier.Contract

/-!
# Settling enclave tasks

A task leaves the enclave through `settleXseTask`. A sovereign task never gets there,
as nobody can be assigned its enclave; and a confidential task gets as far as the query
of the verifier, which asks for an endpoint that the verifier does not have.
-/

namespace XCron.Scheduler

open Platform

variable {chain : Chain} {w : World}

/-- `settleXseTask` in one piece: the query it makes, if it makes one, is answered by a
verifier in the given state, and a query that fails takes the whole call with it. -/
def settleWithVerifier (chain : Chain) (call : CallContext) (hash : TaskHash) (zkProof : Bytes)
    (verifier : ZkVerifier.State) (w : World) : Outcome World := do
  let waiting ← step chain w (.settleXseTask call hash zkProof)
  match waiting.events.getLast? with
  | some (.syncCall _ endpoint arguments) => do
      let (_, results) ← ZkVerifier.callEndpoint chain { call with caller := chain.scAddress }
        endpoint arguments verifier
      step chain waiting (.syncReturn results)
  | _ => pure waiting

/-- The verifier refuses the name that the scheduler calls it by. -/
theorem verifyZkProof_unknown (chain : Chain) (call : CallContext) (arguments : List Bytes)
    (verifier : ZkVerifier.State) :
    ∃ fault, ZkVerifier.callEndpoint chain call "verifyZkProof".toUTF8.toList arguments verifier =
      .error fault := by
  have unknown : ZkVerifier.readQuery "verifyZkProof".toUTF8.toList arguments = .error .rejected := by
    unfold ZkVerifier.readQuery
    rw [if_neg (by decide +kernel), if_neg (by decide +kernel), if_neg (by decide +kernel),
      if_neg (by decide +kernel)]
  unfold ZkVerifier.callEndpoint
  rw [unknown]
  cases call.notPayable with
  | error fault => exact ⟨fault, rfl⟩
  | ok _ => exact ⟨.rejected, rfl⟩

theorem settleXseTask_waits {call : CallContext} {hash : TaskHash} {zkProof : Bytes}
    {address : Address} {waiting : World} (configured : w.config.zkVerifierAddr = some address)
    (nonzero : address ≠ Bytes32.zero)
    (stepped : step chain w (.settleXseTask call hash zkProof) = .ok waiting) :
    ∃ frame, waiting = w.suspend frame address "verifyZkProof".toUTF8.toList [hash.val, zkProof] := by
  simp only [step, Step.call?, body, Outcome.bind_eq_ok, Outcome.ensure_eq_ok,
    notPayable_eq_ok] at stepped
  obtain ⟨_, _, _, ⟨noEgld, noEsdt⟩, settled⟩ := stepped
  rw [credit_of_noValue w noEgld noEsdt] at settled
  simp only [settleXseTask, Outcome.bind_eq_ok, Outcome.load_eq_ok, configured,
    Option.some.injEq] at settled
  obtain ⟨_, _, _, _, _, _, _, _, state, _, _, _, _, rfl, settled⟩ := settled
  rw [if_pos nonzero, Outcome.pure_eq_ok] at settled
  exact ⟨_, settled.symm⟩

/-- So settling never succeeds against a verifier of this repository. -/
theorem settleWithVerifier_fails {address : Address}
    (configured : w.config.zkVerifierAddr = some address) (nonzero : address ≠ Bytes32.zero)
    (call : CallContext) (hash : TaskHash) (zkProof : Bytes) (verifier : ZkVerifier.State) :
    ∃ fault, settleWithVerifier chain call hash zkProof verifier w = .error fault := by
  unfold settleWithVerifier
  cases stepped : step chain w (.settleXseTask call hash zkProof) with
  | error fault => exact ⟨fault, rfl⟩
  | ok waiting =>
      obtain ⟨frame, rfl⟩ := settleXseTask_waits configured nonzero stepped
      obtain ⟨fault, refused⟩ := verifyZkProof_unknown chain
        { call with caller := chain.scAddress } [hash.val, zkProof] verifier
      refine ⟨fault, ?_⟩
      simp only [World.suspend, World.emit, List.getLast?_append, List.getLast?_singleton,
        Option.some_or, Bind.bind, Except.bind, refused]

/-! ## What can be settled -/

/-- After the past, whatever is done next, by anyone, ends with the settlement of a
sovereign task that no payload has impersonated. -/
def SovereignSettles (chain : Chain) (past : List Step) (w : World) (request : Request) : Prop :=
  ∃ steps ready call zkProof next, Trace (step chain) (fun _ _ => True) w steps ready ∧
    step chain ready (.settleXseTask call (request.hash chain) zkProof) = .ok next ∧
    ¬Impersonated chain (past ++ steps) request

/-- Calls of the verifier prepare it for the settlement of a task by its keeper. -/
def EnclaveSettles (chain : Chain) (w : World) (hash : TaskHash) (keeper : Address)
    (verifier : ZkVerifier.State) : Prop :=
  ∃ steps prepared call zkProof next,
    Trace (ZkVerifier.step chain) (fun _ _ => True) verifier steps prepared ∧
    call.caller = keeper ∧ settleWithVerifier chain call hash zkProof prepared w = .ok next

theorem Traceable.not_sovereignSettles {past : List Step} (traceable : Traceable chain past w)
    (request : Request) : ¬SovereignSettles chain past w request := by
  rintro ⟨steps, ready, call, zkProof, next, trace, settled, genuine⟩
  have traceable' : Traceable chain (past ++ steps) ready :=
    trace.history (Traceable chain) (fun _ _ _ _ => traceable_concat) traceable
  exact genuine (traceable'.impersonated settled)

theorem not_enclaveSettles {address : Address} (configured : w.config.zkVerifierAddr = some address)
    (nonzero : address ≠ Bytes32.zero) (hash : TaskHash) (keeper : Address)
    (verifier : ZkVerifier.State) : ¬EnclaveSettles chain w hash keeper verifier := by
  rintro ⟨steps, prepared, call, zkProof, next, _, _, settled⟩
  obtain ⟨fault, failed⟩ := settleWithVerifier_fails configured nonzero call hash zkProof prepared
  rw [failed] at settled
  cases settled

/-- In no state that a run of the scheduler reaches can a sovereign task be settled, nor,
with a verifier of this repository, any other enclave task. -/
theorem enclave_tasks_unsettled {start : World} {past : List Step} {allowed : World → Step → Prop}
    (started : Deployed start) (trace : Trace (step chain) allowed start past w) :
    (∀ request, ¬SovereignSettles chain past w request) ∧
      ∀ address, w.config.zkVerifierAddr = some address → address ≠ Bytes32.zero →
        ∀ hash keeper verifier, ¬EnclaveSettles chain w hash keeper verifier := by
  constructor
  · have traceable : Traceable chain ([] ++ past) w :=
      trace.history (Traceable chain) (fun _ _ _ _ => traceable_concat) started.traceable
    exact traceable.not_sovereignSettles
  · intro address configured nonzero
    exact not_enclaveSettles configured nonzero

namespace Sample

def configureVerifier : Step :=
  .configure (Sample.call (.fill 2) 0 1000) (.setZkVerifierAddr (.fill 10))

def verifier : ZkVerifier.State :=
  { proofs := .empty, schedulerAddr := .fill 1, version := 1, events := [] }

def enclaveRun : List Step :=
  admitKeeper :: configureVerifier :: sealedRun.tail ++ sovereignRun

end Sample

theorem enclave_tasks_unsettled_sample :
    ∃ w, Trace (step sampleChain) (fun _ _ => True) Sample.world Sample.enclaveRun w ∧
      w.config.zkVerifierAddr = some (.fill 10) ∧
      ¬SovereignSettles sampleChain Sample.enclaveRun w Sample.aliceRequest ∧
      ¬EnclaveSettles sampleChain w (taskHash sampleChain Sample.sealedTask) Sample.keeper
        Sample.verifier := by
  obtain ⟨w, trace, configured⟩ := Trace.of_runChecked (step sampleChain) (fun _ _ => True)
    Sample.world Sample.enclaveRun (fun w => w.config.zkVerifierAddr = some (.fill 10))
    (by decide +kernel)
  have unsettled := enclave_tasks_unsettled Sample.world_deployed trace
  exact ⟨w, trace, configured, unsettled.1 _, unsettled.2 _ configured (by decide) _ _ _⟩

/-- Both kinds of task are there to be settled, and neither can be. -/
theorem enclave_tasks_stuck :
    Deployed Sample.world ∧ ZkVerifier.Deployed Sample.verifier ∧
      ∃ w, Trace (step sampleChain) (fun _ _ => True) Sample.world Sample.enclaveRun w ∧
        (w.config.paused = false ∧ Sample.keeper ∈ w.config.whitelistedKeepers) ∧
        w.quantumTasks.get? (Sample.aliceRequest.hash sampleChain) =
          some ⟨Sample.alice, 700, .pending, 0⟩ ∧
        w.quantumTasks.get? (taskHash sampleChain Sample.sealedTask) = some Sample.bobsExecution ∧
        w.assignedEnclaveKeeper (taskHash sampleChain Sample.sealedTask) = some Sample.keeper ∧
        w.config.zkVerifierAddr = some (.fill 10) ∧
        ¬SovereignSettles sampleChain Sample.enclaveRun w Sample.aliceRequest ∧
        ¬EnclaveSettles sampleChain w (taskHash sampleChain Sample.sealedTask) Sample.keeper
          Sample.verifier := by
  obtain ⟨w, trace, open', sovereign, executing, enclave, configured⟩ := Trace.of_runChecked
    (step sampleChain) (fun _ _ => True) Sample.world Sample.enclaveRun
    (fun w => (w.config.paused = false ∧ Sample.keeper ∈ w.config.whitelistedKeepers) ∧
      w.quantumTasks.get? (Sample.aliceRequest.hash sampleChain) =
        some ⟨Sample.alice, 700, .pending, 0⟩ ∧
      w.quantumTasks.get? (taskHash sampleChain Sample.sealedTask) = some Sample.bobsExecution ∧
      w.assignedEnclaveKeeper (taskHash sampleChain Sample.sealedTask) = some Sample.keeper ∧
      w.config.zkVerifierAddr = some (.fill 10)) (by decide +kernel)
  have traceable : Traceable sampleChain ([] ++ Sample.enclaveRun) w :=
    trace.history (Traceable sampleChain) (fun _ _ _ _ => traceable_concat)
      Sample.world_deployed.traceable
  exact ⟨Sample.world_deployed, ⟨.fill 1, rfl⟩, w, trace, open', sovereign, executing, enclave,
    configured, traceable.not_sovereignSettles _, not_enclaveSettles configured (by decide) _ _ _⟩

end XCron.Scheduler
