import XCron.Common.Types
import XCron.Platform.Call
import XCron.Platform.Cells
import XCron.Platform.Codec
import XCron.Platform.Trace

/-!
# The proof verifier

`zk-verifier/src/lib.rs`: keepers commit to a historical value for a task number, and
whoever knows the salt of the commitment has it verified. Other contracts reach the
verifier by the name of an endpoint and raw arguments, so the names it exports are part
of the model.
-/

namespace XCron.ZkVerifier

open Platform

structure ProofData where
  commitment : Bytes32
  blockNonce : UInt64
  claimedValue : Nat
  prover : Address
  submittedAt : UInt64
  verified : Bool
  deriving DecidableEq

def ProofData.encode (proof : ProofData) : Bytes :=
  proof.commitment.val ++ encodeU64 proof.blockNonce ++ encodeBigUint proof.claimedValue ++
    proof.prover.val ++ encodeU64 proof.submittedAt ++ encodeBool proof.verified

inductive Event where
  | proofSubmitted (taskId : UInt64) (prover : Address) (blockNonce : UInt64)
  | proofVerified (taskId : UInt64) (valid : Bool)

structure State where
  proofs : Cells UInt64 ProofData
  schedulerAddr : Address
  version : UInt32
  events : List Event

def State.emit (event : Event) (s : State) : State := { s with events := s.events ++ [event] }

def init (schedulerAddr : Address) : Outcome State := do
  require (schedulerAddr ≠ Bytes32.zero) "Scheduler address cannot be zero"
  pure { proofs := .empty, schedulerAddr := schedulerAddr, version := 1, events := [] }

def Deployed (s : State) : Prop := ∃ schedulerAddr, init schedulerAddr = .ok s

/-! ## Endpoints -/

def submitProof (call : CallContext) (taskId : UInt64) (commitment : Bytes32) (blockNonce : UInt64)
    (claimedValue : Nat) (s : State) : Outcome State := do
  require (∀ existing ∈ s.proofs.get? taskId, existing.verified = false)
    "Proof already verified — cannot overwrite"
  pure ({ s with
    proofs := s.proofs.set taskId
      { commitment := commitment
        blockNonce := blockNonce
        claimedValue := claimedValue
        prover := call.caller
        submittedAt := call.blockTimestamp
        verified := false } }.emit (.proofSubmitted taskId call.caller blockNonce))

def ProofData.message (proof : ProofData) (salt : Bytes) : Bytes :=
  encodeU64 proof.blockNonce ++ natBytes proof.claimedValue ++ salt

def verifyProof (chain : Chain) (taskId : UInt64) (salt : Bytes) (s : State) : Outcome State := do
  require (s.proofs.get? taskId ≠ none) "No proof submitted"
  let proof ← load (s.proofs.get? taskId)
  require (proof.verified = false) "Already verified"
  require (chain.sha256 (proof.message salt) = proof.commitment)
    "ZK verification failed: commitment mismatch"
  pure ({ s with proofs := s.proofs.set taskId { proof with verified := true } }.emit
    (.proofVerified taskId true))

def isProofValid (taskId : UInt64) (s : State) : Bool :=
  match s.proofs.get? taskId with
  | none => false
  | some proof => proof.verified

def getProof (taskId : UInt64) (s : State) : Outcome ProofData := do
  require (s.proofs.get? taskId ≠ none) "No proof found"
  load (s.proofs.get? taskId)

/-! ## Calls by name -/

/-- The exported endpoints and views with their arguments. -/
inductive Query where
  | submitProof (taskId : UInt64) (commitment : Bytes32) (blockNonce : UInt64) (claimedValue : Nat)
  | verifyProof (taskId : UInt64) (salt : Bytes)
  | isProofValid (taskId : UInt64)
  | getProof (taskId : UInt64)

def readU64 (argument : Bytes) : Outcome UInt64 := do
  ensure (beValue argument < 2 ^ 64)
  pure (UInt64.ofNat (beValue argument))

def readBytes32 (argument : Bytes) : Outcome Bytes32 :=
  if exact : argument.length = 32 then .ok ⟨argument, exact⟩ else .error .rejected

/-- The endpoint behind a name. A call of any other name, or with another number of
arguments, is refused by the framework. -/
def readQuery (endpoint : Bytes) (arguments : List Bytes) : Outcome Query :=
  if endpoint = "submitProof".toUTF8.toList then
    match arguments with
    | [taskId, commitment, blockNonce, claimedValue] => do
        pure (.submitProof (← readU64 taskId) (← readBytes32 commitment) (← readU64 blockNonce)
          (beValue claimedValue))
    | _ => .error .rejected
  else if endpoint = "verifyProof".toUTF8.toList then
    match arguments with
    | [taskId, salt] => do pure (.verifyProof (← readU64 taskId) salt)
    | _ => .error .rejected
  else if endpoint = "isProofValid".toUTF8.toList then
    match arguments with
    | [taskId] => do pure (.isProofValid (← readU64 taskId))
    | _ => .error .rejected
  else if endpoint = "getProof".toUTF8.toList then
    match arguments with
    | [taskId] => do pure (.getProof (← readU64 taskId))
    | _ => .error .rejected
  else .error .rejected

/-- The result of a Boolean view: false is the empty buffer. -/
def finishBool (value : Bool) : Bytes := if value then [1] else []

def answer (chain : Chain) (call : CallContext) : Query → State → Outcome (State × List Bytes)
  | .submitProof taskId commitment blockNonce claimedValue, s => do
      let s ← submitProof call taskId commitment blockNonce claimedValue s
      pure (s, [])
  | .verifyProof taskId salt, s => do
      let s ← verifyProof chain taskId salt s
      pure (s, [])
  | .isProofValid taskId, s => pure (s, [finishBool (isProofValid taskId s)])
  | .getProof taskId, s => do
      let proof ← getProof taskId s
      pure (s, [proof.encode])

def callEndpoint (chain : Chain) (call : CallContext) (endpoint : Bytes) (arguments : List Bytes)
    (s : State) : Outcome (State × List Bytes) := do
  call.notPayable
  let query ← readQuery endpoint arguments
  answer chain call query s

/-- What can happen to the verifier. -/
inductive Step where
  | call (call : CallContext) (endpoint : Bytes) (arguments : List Bytes)
  | upgrade (call : CallContext)

def step (chain : Chain) (s : State) : Step → Outcome State
  | .call call endpoint arguments => do
      let (s, _) ← callEndpoint chain call endpoint arguments s
      pure s
  | .upgrade call => do
      call.onlyOwner chain
      pure { s with version := s.version + 1 }

/-! ## Verified proofs -/

variable {chain : Chain} {s next : State} {move : Step}

/-- What a call can do to the proofs: store an unverified one where none is verified, or
verify one that was committed to. -/
inductive Proved (chain : Chain) (s next : State) : Prop where
  | unchanged (same : next.proofs = s.proofs)
  | submitted (taskId : UInt64) (proof : ProofData) (fresh : proof.verified = false)
      (open' : ∀ existing, s.proofs.get? taskId = some existing → existing.verified = false)
      (stored : next.proofs = s.proofs.set taskId proof)
  | verified (taskId : UInt64) (proof : ProofData) (salt : Bytes)
      (found : s.proofs.get? taskId = some proof) (fresh : proof.verified = false)
      (opened : chain.sha256 (proof.message salt) = proof.commitment)
      (stored : next.proofs = s.proofs.set taskId { proof with verified := true })

theorem answer_proved {call : CallContext} {query : Query} {results : List Bytes}
    (answered : answer chain call query s = .ok (next, results)) : Proved chain s next := by
  cases query with
  | submitProof taskId commitment blockNonce claimedValue =>
      simp only [answer, submitProof, Outcome.bind_eq_ok, Outcome.require_eq_ok,
        Outcome.pure_eq_ok, Prod.mk.injEq] at answered
      obtain ⟨_, ⟨_, fresh, rfl⟩, rfl, _⟩ := answered
      exact .submitted taskId _ rfl fresh rfl
  | verifyProof taskId salt =>
      simp only [answer, verifyProof, Outcome.bind_eq_ok, Outcome.require_eq_ok,
        Outcome.load_eq_ok, Outcome.pure_eq_ok, Prod.mk.injEq] at answered
      obtain ⟨_, ⟨_, _, proof, found, _, fresh, _, opened, rfl⟩, rfl, _⟩ := answered
      exact .verified taskId proof salt found fresh opened rfl
  | isProofValid taskId =>
      simp only [answer, Outcome.pure_eq_ok, Prod.mk.injEq] at answered
      obtain ⟨rfl, _⟩ := answered
      exact .unchanged rfl
  | getProof taskId =>
      simp only [answer, Outcome.bind_eq_ok, Outcome.pure_eq_ok, Prod.mk.injEq] at answered
      obtain ⟨_, _, rfl, _⟩ := answered
      exact .unchanged rfl

theorem step_proved (stepped : step chain s move = .ok next) : Proved chain s next := by
  cases move with
  | call call endpoint arguments =>
      simp only [step, callEndpoint, Outcome.bind_eq_ok, Outcome.pure_eq_ok] at stepped
      obtain ⟨⟨_, _⟩, ⟨_, _, query, _, answered⟩, rfl⟩ := stepped
      exact answer_proved answered
  | upgrade call =>
      simp only [step, Outcome.bind_eq_ok, Outcome.pure_eq_ok] at stepped
      obtain ⟨_, _, rfl⟩ := stepped
      exact .unchanged rfl

/-- A verified proof was opened with a salt. -/
def Opened (chain : Chain) (s : State) : Prop :=
  ∀ taskId proof, s.proofs.get? taskId = some proof → proof.verified = true →
    ∃ salt, chain.sha256 (proof.message salt) = proof.commitment

theorem Opened.step (opened : Opened chain s) (stepped : step chain s move = .ok next) :
    Opened chain next := by
  intro taskId proof found verified
  cases step_proved stepped with
  | unchanged same =>
      rw [same] at found
      exact opened taskId proof found verified
  | submitted _ _ fresh _ stored =>
      rw [stored] at found
      rcases Cells.of_get?_set found with ⟨_, rfl⟩ | ⟨_, found⟩
      · rw [fresh] at verified
        cases verified
      · exact opened taskId proof found verified
  | verified _ _ salt _ _ matching stored =>
      rw [stored] at found
      rcases Cells.of_get?_set found with ⟨_, rfl⟩ | ⟨_, found⟩
      · exact ⟨salt, matching⟩
      · exact opened taskId proof found verified

theorem verified_kept {taskId : UInt64} {proof : ProofData}
    (stepped : step chain s move = .ok next) (found : s.proofs.get? taskId = some proof)
    (verified : proof.verified = true) : next.proofs.get? taskId = some proof := by
  cases step_proved stepped with
  | unchanged same => rw [same, found]
  | submitted other _ _ open' stored =>
      rw [stored, Cells.get?_set_ne, found]
      rintro rfl
      rw [open' proof found] at verified
      cases verified
  | verified other unproved _ found' fresh _ stored =>
      rw [stored, Cells.get?_set_ne, found]
      rintro rfl
      rw [found] at found'
      obtain rfl := Option.some.inj found'
      rw [fresh] at verified
      cases verified

/-- In every run of the verifier, a proof that `isProofValid` reports was opened with a
salt, and stays reported whatever happens later. -/
theorem valid_proofs_final {start later : State} {steps further : List Step}
    {allowed : State → Step → Prop} {taskId : UInt64} (started : Deployed start)
    (trace : Trace (step chain) allowed start steps s)
    (onwards : Trace (step chain) allowed s further later) (valid : isProofValid taskId s = true) :
    ∃ proof salt, s.proofs.get? taskId = some proof ∧
      chain.sha256 (proof.message salt) = proof.commitment ∧
      later.proofs.get? taskId = some proof ∧ isProofValid taskId later = true := by
  have opened : Opened chain s := by
    refine trace.preserves (Opened chain) (fun _ _ _ _ opened => opened.step) ?_
    obtain ⟨_, started⟩ := started
    simp only [init, Outcome.bind_eq_ok, Outcome.pure_eq_ok] at started
    obtain ⟨_, _, rfl⟩ := started
    intro taskId proof found
    simp at found
  unfold isProofValid at valid
  split at valid
  · cases valid
  · rename_i proof found
    obtain ⟨salt, matching⟩ := opened taskId proof found valid
    have kept : later.proofs.get? taskId = some proof := by
      refine onwards.preserves (fun s => s.proofs.get? taskId = some proof) ?_ found
      intro _ _ _ _ found stepped
      exact verified_kept stepped found valid
    refine ⟨proof, salt, found, matching, kept, ?_⟩
    rw [isProofValid, kept]
    exact valid

namespace Sample

def prover : CallContext :=
  { caller := .fill 5, egldValue := 0, esdtTransfers := [], blockTimestamp := 10, blockRound := 1
    blockRandomSeed := [], gasLeft := 0 }

def deployed : State :=
  { proofs := .empty, schedulerAddr := .fill 3, version := 1, events := [] }

def opening : List Step :=
  [.call prover "submitProof".toUTF8.toList
      [[1], (sampleChain.sha256 (encodeU64 5 ++ natBytes 7 ++ [2])).val, [5], [7]],
    .call prover "verifyProof".toUTF8.toList [[1], [2]]]

def afterwards : List Step :=
  [.call prover "submitProof".toUTF8.toList [[2], (Bytes32.fill 9).val, [5], [7]]]

end Sample

theorem valid_proofs_final_sample :
    ∃ s later proof salt, Trace (step sampleChain) (fun _ _ => True) Sample.deployed Sample.opening
        s ∧
      Trace (step sampleChain) (fun _ _ => True) s Sample.afterwards later ∧
      s.proofs.get? 1 = some proof ∧
      sampleChain.sha256 (proof.message salt) = proof.commitment ∧
      later.proofs.get? 1 = some proof ∧ isProofValid 1 later = true := by
  obtain ⟨s, trace, valid, onwards⟩ := Trace.of_runChecked (step sampleChain) (fun _ _ => True)
    Sample.deployed Sample.opening
    (fun s => isProofValid 1 s = true ∧
      endsIn (fun later => (later.proofs.get? 2).isSome = true)
        (runChecked (step sampleChain) (fun _ _ => True) s Sample.afterwards) = true)
    (by decide +kernel)
  obtain ⟨later, further, _⟩ := Trace.of_runChecked _ _ _ _ _ onwards
  obtain ⟨proof, salt, kept⟩ := valid_proofs_final ⟨.fill 3, rfl⟩ trace further valid
  exact ⟨s, later, proof, salt, trace, further, kept⟩

end XCron.ZkVerifier
