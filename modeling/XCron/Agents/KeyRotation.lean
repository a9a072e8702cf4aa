import XCron.Agents.Ownership
import XCron.Agents.Validation

/-!
# Key rotation

An update of an agent gives its NFT a new name and a new public key, but whoever submits a
proof is compared with the key in `agent_details`, which only the registration writes. The
key that was registered stays in force.
-/

namespace XCron.Agents

open Platform

/-! ## Who may submit proofs -/

structure Submission (identity : Identity.World) (nonce : Nat) where
  chain : Chain
  registries : Validation.Registries
  validations : Validation.World
  call : CallContext
  jobId : Bytes
  proof : Bytes
  job : JobData
  reads : validations.identity registries = identity
  found : validations.jobData.get? jobId = some job
  ours : job.agentNonce = nonce

variable {identity : Identity.World} {nonce : Nat}

def Submission.Accepted (submission : Submission identity nonce) : Prop :=
  ∃ after, Validation.step submission.chain submission.validations
    (.submitProof submission.registries submission.call submission.jobId submission.proof) =
      .ok after

/-- Proofs for the jobs of an agent are accepted from the account with the key, as long as
the job takes proofs, and from no other account but the owner's. -/
structure KeyGoverns (identity : Identity.World) (nonce : Nat) (key : Bytes) : Prop where
  accepts : ∀ submission : Submission identity nonce,
    submission.call.Plain submission.chain → submission.call.caller.val = key →
    (submission.Accepted ↔ submission.job.status = .new ∨ submission.job.status = .pending)
  rejects : ∀ submission : Submission identity nonce, submission.call.caller.val ≠ key →
    identity.agents.getValue nonce ≠ some submission.call.caller → ¬submission.Accepted

theorem isAuthorized_iff {details : AgentDetails}
    (stored : identity.agentDetails.get? nonce = some details) (caller : Address) :
    Validation.isAuthorized identity caller nonce = .ok true ↔
      caller.val = details.publicKey ∨ identity.agents.getValue nonce = some caller := by
  simp only [Validation.isAuthorized, stored, Outcome.bind_eq_ok, Outcome.load_eq_ok]
  constructor
  · rintro ⟨found, same, authorized⟩
    obtain rfl := Option.some.inj same
    split at authorized
    next matching => exact .inl matching
    next _ =>
      simp only [Outcome.bind_eq_ok, Outcome.load_eq_ok, Outcome.pure_eq_ok,
        decide_eq_true_eq] at authorized
      obtain ⟨owner, owned, rfl⟩ := authorized
      exact .inr owned
  · intro known
    refine ⟨details, rfl, ?_⟩
    split
    next _ => rfl
    next other =>
      rcases known with matching | owned
      · exact absurd matching other
      · simp [owned]

/-- A submission is accepted from the key and from the owner, for a job that takes proofs. -/
theorem Submission.accepted_iff (submission : Submission identity nonce) {details : AgentDetails}
    (stored : identity.agentDetails.get? nonce = some details) :
    submission.Accepted ↔ submission.call.Plain submission.chain ∧
      (submission.call.caller.val = details.publicKey ∨
        identity.agents.getValue nonce = some submission.call.caller) ∧
      (submission.job.status = .new ∨ submission.job.status = .pending) := by
  obtain ⟨chain, registries, validations, call, jobId, proof, job, rfl, found, rfl⟩ := submission
  have authorized := isAuthorized_iff stored call.caller
  unfold Submission.Accepted
  simp only [Validation.step, Validation.submitProof, Outcome.bind_eq_ok, Outcome.ensure_eq_ok,
    CallContext.notPayable, Validation.job_eq_ok, Outcome.require_eq_ok, Validation.requireOpen,
    Outcome.pure_eq_ok]
  constructor
  · rintro ⟨_, _, delivered, _, ⟨noEgld, noEsdt⟩, job', found', allowed, permits, _, rfl, _, takes, _⟩
    obtain rfl := Option.some.inj (found.symm.trans found')
    exact ⟨⟨delivered, noEgld, noEsdt⟩, authorized.mp permits, takes⟩
  · rintro ⟨⟨delivered, noEgld, noEsdt⟩, known, takes⟩
    exact ⟨_, (), delivered, (), ⟨noEgld, noEsdt⟩, job, found, true, authorized.mpr known, (), rfl,
      (), takes, rfl⟩

theorem keyGoverns_of_stored {details : AgentDetails}
    (stored : identity.agentDetails.get? nonce = some details) :
    KeyGoverns identity nonce details.publicKey where
  accepts := by
    intro submission plain key
    rw [submission.accepted_iff stored]
    constructor
    · rintro ⟨_, _, takes⟩
      exact takes
    · intro takes
      exact ⟨plain, .inl key, takes⟩
  rejects := by
    intro submission other notOwner accepted
    obtain ⟨_, known, _⟩ := (submission.accepted_iff stored).mp accepted
    rcases known with key | owner
    · exact other key
    · exact notOwner owner

/-! ## What an update changes -/

variable {chain : Chain} {w next : Identity.World} {call : CallContext}

def updates (nonce : Nat) : Identity.Step → Prop
  | .updateAgent call _ => ∃ payment ∈ call.esdtTransfers, payment.nonce = nonce
  | _ => False

/-- The name and the key of an agent are the new ones, and until its next update the new
key governs. -/
structure KeyRotated (chain : Chain) (next : Identity.World) (nonce : Nat)
    (profile : Identity.Profile) : Prop where
  stored : next.agentDetails.get? nonce = some ⟨profile.name, profile.publicKey⟩
  governs : ∀ steps later,
    Trace (Identity.step chain) (fun _ move => ¬updates nonce move) next steps later →
    KeyGoverns later nonce profile.publicKey

theorem details_kept {later : Identity.World} {steps : List Identity.Step}
    {allowed : Identity.World → Identity.Step → Prop} (orderly : Identity.Orderly w)
    (present : w.agents.getValue nonce ≠ none)
    (trace : Trace (Identity.step chain) allowed w steps later) :
    later.agentDetails.get? nonce = w.agentDetails.get? nonce := by
  have kept : Identity.Orderly later ∧ later.agents.getValue nonce ≠ none ∧
      later.agentDetails.get? nonce = w.agentDetails.get? nonce := by
    refine trace.preserves (fun later => Identity.Orderly later ∧
      later.agents.getValue nonce ≠ none ∧
      later.agentDetails.get? nonce = w.agentDetails.get? nonce) ?_ ⟨orderly, present, rfl⟩
    rintro before move after _ ⟨orderly, present, same⟩ stepped
    obtain ⟨owner, details⟩ := Identity.step_keeps orderly present stepped
    exact ⟨orderly.step stepped, owner ▸ present, details.trans same⟩
  exact kept.2.2

/-- An update rotates the key of an agent exactly if the name and the key that it brings
are the registered ones. -/
theorem keyRotated_iff {update : Identity.Update} {payment : Payment} {steps : List Identity.Step}
    (trace : Trace (Identity.step chain) (fun _ _ => True) Identity.init steps w)
    (paid : call.esdtTransfers = [payment])
    (stepped : Identity.step chain w (.updateAgent call update) = .ok next) :
    KeyRotated chain next payment.nonce update.profile ↔
      w.agentDetails.get? payment.nonce = some ⟨update.profile.name, update.profile.publicKey⟩ := by
  have orderly := Identity.run_orderly trace
  have present : w.agents.getValue payment.nonce ≠ none := by
    rw [Identity.updateAgent_owner paid stepped]
    exact Option.some_ne_none _
  obtain ⟨owner, details⟩ := Identity.step_keeps orderly present stepped
  rw [← details]
  constructor
  · intro rotated
    exact rotated.stored
  · intro stored
    refine ⟨stored, ?_⟩
    intro steps later onwards
    have kept := details_kept (orderly.step stepped) (owner ▸ present) onwards
    exact keyGoverns_of_stored (kept.trans stored)

namespace Sample

def dave : Address := .fill 23

def alice : Address := Identity.Sample.alice

def registration : List Identity.Step :=
  [.issueToken (Identity.Sample.agentCall (.fill 2) []),
    .issueCallback (some Identity.Sample.collection),
    .registerAgent (Identity.Sample.agentCall alice []) ⟨[1], [2], dave.val⟩ [] []]

def rotation (account : Address) : Identity.Update := ⟨⟨[1], [2], account.val⟩, none, none⟩

def validations : Validation.World :=
  { Validation.init (.fill 40) with
    jobData := Cells.empty.set [7] ⟨.new, [], .fill 32, 1000, 1⟩ }

def submits (identity : Identity.World) (account : Address) : Validation.Step :=
  .submitProof (fun _ => identity) (Identity.Sample.agentCall account []) [7] [9]

end Sample

theorem keyRotated_iff_sample :
    ∃ w next, Trace (Identity.step sampleChain) (fun _ _ => True) Identity.init
        Sample.registration w ∧
      Identity.step sampleChain w (.updateAgent (Identity.Sample.shows Sample.alice)
        (Sample.rotation Sample.dave)) = .ok next ∧
      KeyRotated sampleChain next 1 (Sample.rotation Sample.dave).profile := by
  obtain ⟨w, trace, stored, updated⟩ := Trace.of_runChecked (Identity.step sampleChain)
    (fun _ _ => True) Identity.init Sample.registration
    (fun w => w.agentDetails.get? 1 = some ⟨[1], Sample.dave.val⟩ ∧
      endsIn (fun _ => True) (Identity.step sampleChain w (.updateAgent
        (Identity.Sample.shows Sample.alice) (Sample.rotation Sample.dave))) = true)
    (by decide +kernel)
  obtain ⟨next, stepped, _⟩ := endsIn_iff.mp updated
  exact ⟨w, next, trace, stepped, (keyRotated_iff trace rfl stepped).mpr stored⟩

/-- Alice has given her agent the key of Bob, and still the proofs of Dave are accepted while
those of Bob are not. -/
theorem revoked_key_governs :
    ∃ w next, Trace (Identity.step sampleChain) (fun _ _ => True) Identity.init
        Sample.registration w ∧
      Identity.step sampleChain w (.updateAgent (Identity.Sample.shows Sample.alice)
        (Sample.rotation Identity.Sample.bob)) = .ok next ∧
      endsIn (fun _ => True) (Validation.step sampleChain Sample.validations
        (Sample.submits next Sample.dave)) = true ∧
      endsIn (fun _ => True) (Validation.step sampleChain Sample.validations
        (Sample.submits next Identity.Sample.bob)) = false ∧
      ¬KeyRotated sampleChain next 1 (Sample.rotation Identity.Sample.bob).profile := by
  obtain ⟨w, trace, updated⟩ := Trace.of_runChecked (Identity.step sampleChain)
    (fun _ _ => True) Identity.init Sample.registration
    (fun w => endsIn (fun next => next.agentDetails.get? 1 = some ⟨[1], Sample.dave.val⟩ ∧
      endsIn (fun _ => True) (Validation.step sampleChain Sample.validations
        (Sample.submits next Sample.dave)) = true ∧
      endsIn (fun _ => True) (Validation.step sampleChain Sample.validations
        (Sample.submits next Identity.Sample.bob)) = false)
      (Identity.step sampleChain w (.updateAgent (Identity.Sample.shows Sample.alice)
        (Sample.rotation Identity.Sample.bob))) = true)
    (by decide +kernel)
  obtain ⟨next, stepped, stored, accepted, rejected⟩ := endsIn_iff.mp updated
  refine ⟨w, next, trace, stepped, accepted, rejected, ?_⟩
  intro rotated
  have same := Option.some.inj (stored.symm.trans rotated.stored)
  revert same
  decide

end XCron.Agents
