import XCron.Agents.Identity
import XCron.Platform.UnorderedSet

/-!
# The validation registry

`xcron-agent-shield/validation-registry/src`: employers open jobs, agents submit proofs of
their work, and validators that the owner of the agent nominates answer with a score. The
registry reads owners, keys and prices from the storage of the identity registry.
-/

namespace XCron.Agents.Validation

open Platform

/-! ## Storage -/

inductive Event where
  | validationRequest (validatorAddress : Address) (agentNonce : Nat) (requestHash requestUri : Bytes)
  | validationResponse (validatorAddress : Address) (agentNonce : Nat) (requestHash : Bytes)
      (data : ValidationRequestData)

structure World where
  identityRegistryAddress : Address
  jobData : Cells Bytes JobData
  validationRequestData : Cells Bytes ValidationRequestData
  agentValidations : Nat → UnorderedSet Bytes
  whitelistedValidators : UnorderedSet Address
  sent : List Transfer
  events : List Event

abbrev Registries := Address → Identity.World

def World.identity (registries : Registries) (w : World) : Identity.World :=
  registries w.identityRegistryAddress

def World.emit (event : Event) (w : World) : World := { w with events := w.events ++ [event] }

def World.send (receiver : Address) (payment : Payment) (w : World) : World :=
  { w with sent := w.sent ++ [⟨receiver, payment⟩] }

def storedTokenId : Identity.TokenState → TokenIdentifier
  | .notSet => []
  | .pending => "pending".toUTF8.toList
  | .issued tokenId => tokenId

def threeDays : UInt64 := 3 * 24 * 60 * 60 * 1000

/-! ## Endpoints -/

/-- The payment of a service reaches the owner of the agent. -/
def payService (call : CallContext) (owner : Address) (price : Payment) (w : World) :
    Outcome World := do
  match ← singleOptional call with
  | some payment => do
      require (payment.token = price.token ∧ payment.nonce = price.nonce) "Invalid payment token"
      require (price.amount ≤ payment.amount) "Insufficient payment"
      pure (if 0 < payment.amount then w.send owner payment else w)
  | none => do
      require (price.amount = 0) "Insufficient payment"
      pure w

/-- `init_job`; `now` is the time of the block in milliseconds. -/
def initJob (registries : Registries) (call : CallContext) (now : UInt64) (jobId : Bytes)
    (agentNonce : Nat) (serviceId : Option UInt32) (w : World) : Outcome World := do
  require (w.jobData.get? jobId = none) "Job already initialized"
  let opened := { w with
    jobData := w.jobData.set jobId
      { status := .new
        proof := []
        employer := call.caller
        creationTimestamp := now
        agentNonce := agentNonce } }
  match serviceId with
  | none => pure opened
  | some id => do
      let owner ← load ((opened.identity registries).agents.getValue agentNonce)
      match ((opened.identity registries).agentServiceConfig agentNonce).get? id with
      | some price => payService call owner price opened
      | none => pure opened

def World.prove (jobId : Bytes) (job : JobData) (proof : Bytes) (w : World) : World :=
  { w with jobData := w.jobData.set jobId { job with proof := proof, status := .pending } }

/-- Whether an account may submit proofs for an agent: by its key, or else as its owner. -/
def isAuthorized (identity : Identity.World) (caller : Address) (agentNonce : Nat) :
    Outcome Bool := do
  let details ← load (identity.agentDetails.get? agentNonce)
  if caller.val = details.publicKey then pure true
  else do
    let owner ← load (identity.agents.getValue agentNonce)
    pure (caller = owner)

def requireOpen (job : JobData) : Outcome Unit :=
  require (job.status = .new ∨ job.status = .pending) "Job status invalid for proof submission"

def World.job (w : World) (jobId : Bytes) : Outcome JobData :=
  match w.jobData.get? jobId with
  | some job => .ok job
  | none => .error (.signal errJobNotFound)

def submitProof (registries : Registries) (call : CallContext) (jobId proof : Bytes) (w : World) :
    Outcome World := do
  let job ← w.job jobId
  let authorized ← isAuthorized (w.identity registries) call.caller job.agentNonce
  require (authorized = true) errNotAgentOwner
  requireOpen job
  pure (w.prove jobId job proof)

def submitProofWithNft (registries : Registries) (call : CallContext) (jobId proof : Bytes)
    (w : World) : Outcome World := do
  let job ← w.job jobId
  let payment ← singleEsdt call
  requireOpen job
  require (payment.token = storedTokenId (w.identity registries).agentTokenId)
    "Invalid agent NFT: wrong token ID or nonce"
  require (payment.nonce = job.agentNonce) "Invalid agent NFT: wrong token ID or nonce"
  pure ((w.prove jobId job proof).send call.caller payment)

def validationRequest (registries : Registries) (call : CallContext) (jobId : Bytes)
    (validatorAddress : Address) (requestUri requestHash : Bytes) (w : World) :
    Outcome World := do
  let job ← w.job jobId
  let owner ← load ((w.identity registries).agents.getValue job.agentNonce)
  require (call.caller = owner) errNotAgentOwner
  require (validatorAddress ∈ w.whitelistedValidators.items) "Unauthorized Validator Node"
  let request :=
    { validatorAddress := validatorAddress
      agentNonce := job.agentNonce
      jobId := jobId
      response := 0
      responseHash := []
      tag := []
      lastUpdate := 0 }
  pure ({ w with
    validationRequestData := w.validationRequestData.set requestHash request
    agentValidations := Function.update w.agentValidations job.agentNonce
      ((w.agentValidations job.agentNonce).insert requestHash)
    jobData := w.jobData.set jobId { job with status := .validationRequested } }.emit
    (.validationRequest validatorAddress job.agentNonce requestHash requestUri))

def scored (response : UInt8) (job : JobData) : JobData :=
  { job with status := if 70 ≤ response then .verified else .rejected }

def validationResponse (call : CallContext) (requestHash : Bytes) (response : UInt8)
    (responseHash tag : Bytes) (w : World) : Outcome World := do
  match w.validationRequestData.get? requestHash with
  | none => .error (.signal "Validation request not found")
  | some data => do
      require (call.caller = data.validatorAddress) "Only the designated validator can respond"
      let updated := { data with
        response := response
        responseHash := responseHash
        tag := tag
        lastUpdate := call.blockTimestamp }
      let w := { w with
        validationRequestData := w.validationRequestData.set requestHash updated
        jobData := match w.jobData.get? updated.jobId with
          | some job => w.jobData.set updated.jobId (scored response job)
          | none => w.jobData }
      pure (w.emit (.validationResponse call.caller updated.agentNonce requestHash updated))

def cleanJob (now : UInt64) (jobs : Cells Bytes JobData) (jobId : Bytes) : Cells Bytes JobData :=
  match jobs.get? jobId with
  | some job => if job.creationTimestamp + threeDays < now then jobs.clear jobId else jobs
  | none => jobs

def cleanOldJobs (now : UInt64) (jobIds : List Bytes) (w : World) : World :=
  { w with jobData := jobIds.foldl (cleanJob now) w.jobData }

/-! ## Configuration -/

inductive ConfigCall where
  | setIdentityRegistryAddress (address : Address)
  | addWhitelistedValidator (address : Address)
  | removeWhitelistedValidator (address : Address)
  | upgrade

def World.configure (w : World) : ConfigCall → World
  | .setIdentityRegistryAddress address => { w with identityRegistryAddress := address }
  | .addWhitelistedValidator address =>
      { w with whitelistedValidators := w.whitelistedValidators.insert address }
  | .removeWhitelistedValidator address =>
      { w with whitelistedValidators := w.whitelistedValidators.swapRemove address }
  | .upgrade => w

def init (identityRegistryAddress : Address) : World :=
  { identityRegistryAddress := identityRegistryAddress
    jobData := .empty
    validationRequestData := .empty
    agentValidations := fun _ => .empty
    whitelistedValidators := .empty
    sent := []
    events := [] }

def Deployed (w : World) : Prop := ∃ identityRegistryAddress, init identityRegistryAddress = w

/-! ## Steps -/

inductive Step where
  | initJob (registries : Registries) (call : CallContext) (now : UInt64) (jobId : Bytes)
      (agentNonce : Nat) (serviceId : Option UInt32)
  | submitProof (registries : Registries) (call : CallContext) (jobId proof : Bytes)
  | submitProofWithNft (registries : Registries) (call : CallContext) (jobId proof : Bytes)
  | validationRequest (registries : Registries) (call : CallContext) (jobId : Bytes)
      (validatorAddress : Address) (requestUri requestHash : Bytes)
  | validationResponse (call : CallContext) (requestHash : Bytes) (response : UInt8)
      (responseUri responseHash tag : Bytes)
  | cleanOldJobs (call : CallContext) (now : UInt64) (jobIds : List Bytes)
  | configure (call : CallContext) (change : ConfigCall)

def step (chain : Chain) (w : World) : Step → Outcome World
  | .initJob registries call now jobId agentNonce serviceId => do
      ensure (call.Delivered chain)
      initJob registries call now jobId agentNonce serviceId w
  | .submitProof registries call jobId proof => do
      ensure (call.Delivered chain)
      call.notPayable
      submitProof registries call jobId proof w
  | .submitProofWithNft registries call jobId proof => do
      ensure (call.Delivered chain)
      submitProofWithNft registries call jobId proof w
  | .validationRequest registries call jobId validatorAddress requestUri requestHash => do
      ensure (call.Delivered chain)
      call.notPayable
      validationRequest registries call jobId validatorAddress requestUri requestHash w
  | .validationResponse call requestHash response _ responseHash tag => do
      ensure (call.Delivered chain)
      call.notPayable
      validationResponse call requestHash response responseHash tag w
  | .cleanOldJobs call now jobIds => do
      ensure (call.Delivered chain)
      call.notPayable
      pure (cleanOldJobs now jobIds w)
  | .configure call change => do
      ensure (call.Delivered chain)
      call.notPayable
      call.onlyOwner chain
      pure (w.configure change)

theorem job_eq_ok {w : World} {jobId : Bytes} {job : JobData} :
    w.job jobId = .ok job ↔ w.jobData.get? jobId = some job := by
  unfold World.job
  split
  next other found => simp [found]
  next missing => simp [missing]

end XCron.Agents.Validation
