import XCron.Agents.Validation

/-!
# The reputation registry

`xcron-agent-shield/reputation-registry/src`: the employer of a job rates an agent, and
the score of the agent is the running average of its ratings, from which the fair value of
its NFT is computed. Apart from that anyone may leave raw feedback, which nothing is
computed from.
-/

namespace XCron.Agents.Reputation

open Platform

/-! ## Storage -/

structure FeedbackData where
  value : Int64
  valueDecimals : UInt8
  tag1 : Bytes
  tag2 : Bytes
  isRevoked : Bool
  deriving DecidableEq

structure NewFeedbackEventData where
  feedbackIndex : UInt64
  value : Int64
  valueDecimals : UInt8
  tag1 : Bytes
  tag2 : Bytes
  endpoint : Bytes
  feedbackUri : Bytes
  feedbackHash : Bytes

inductive Event where
  | reputationUpdated (agentNonce newScore : Nat)
  | newFeedback (agentNonce : Nat) (clientAddress : Address) (data : NewFeedbackEventData)
  | feedbackRevoked (agentNonce : Nat) (clientAddress : Address) (feedbackIndex : UInt64)

structure World where
  reputationScore : Nat → Nat
  totalJobs : Nat → UInt64
  validationContractAddress : Address
  identityContractAddress : Address
  hasGivenFeedback : Bytes → Bool
  agentResponse : Bytes → Bytes
  feedbackData : Cells (Nat × Address × UInt64) FeedbackData
  lastFeedbackIndex : Nat → Address → UInt64
  feedbackClients : Nat → UnorderedSet Address
  events : List Event

def World.emit (event : Event) (w : World) : World := { w with events := w.events ++ [event] }

abbrev Validations := Address → Validation.World

def World.externalJob (validations : Validations) (jobId : Bytes) (w : World) : Outcome JobData :=
  (validations w.validationContractAddress).job jobId

/-! ## Endpoints -/

/-- `calculate_new_score`: the running average. A counter that has wrapped around has no
predecessor. -/
def calculateNewScore (agentNonce rating : Nat) (w : World) : Outcome (World × Nat) := do
  let totalJobs := w.totalJobs agentNonce + 1
  ensure (1 ≤ totalJobs.toNat)
  let weightedScore := w.reputationScore agentNonce * (totalJobs.toNat - 1)
  let score ← bigUintDiv (weightedScore + rating) totalJobs.toNat
  pure ({ w with totalJobs := Function.update w.totalJobs agentNonce totalJobs }, score)

def giveFeedbackSimple (validations : Validations) (call : CallContext) (jobId : Bytes)
    (agentNonce rating : Nat) (w : World) : Outcome World := do
  let job ← w.externalJob validations jobId
  require (call.caller = job.employer) "Only the employer can provide feedback"
  require (w.hasGivenFeedback jobId = false) "Feedback already provided for this job"
  let (w, newScore) ← calculateNewScore agentNonce rating w
  pure ({ w with
    reputationScore := Function.update w.reputationScore agentNonce newScore
    hasGivenFeedback := Function.update w.hasGivenFeedback jobId true }.emit
    (.reputationUpdated agentNonce newScore))

structure Feedback where
  value : Int64
  valueDecimals : UInt8
  tag1 : Bytes
  tag2 : Bytes
  endpoint : Bytes
  feedbackUri : Bytes
  feedbackHash : Bytes

/-- `giveFeedback`. An address without an agent reads as the nonce zero. -/
def giveFeedback (registries : Validation.Registries) (call : CallContext) (agentNonce : Nat)
    (feedback : Feedback) (w : World) : Outcome World := do
  let optOwnerNonce :=
    ((registries w.identityContractAddress).agents.getId call.caller).getD 0
  require (optOwnerNonce ≠ 0 → optOwnerNonce ≠ agentNonce)
    "Agent owner cannot give feedback to own agent"
  require (feedback.valueDecimals ≤ 18) "Value decimals must be 0-18"
  let newIndex := w.lastFeedbackIndex agentNonce call.caller + 1
  pure ({ w with
    lastFeedbackIndex := Function.update w.lastFeedbackIndex agentNonce
      (Function.update (w.lastFeedbackIndex agentNonce) call.caller newIndex)
    feedbackClients := Function.update w.feedbackClients agentNonce
      ((w.feedbackClients agentNonce).insert call.caller)
    feedbackData := w.feedbackData.set (agentNonce, call.caller, newIndex)
      ⟨feedback.value, feedback.valueDecimals, feedback.tag1, feedback.tag2, false⟩ }.emit
    (.newFeedback agentNonce call.caller
      ⟨newIndex, feedback.value, feedback.valueDecimals, feedback.tag1, feedback.tag2,
        feedback.endpoint, feedback.feedbackUri, feedback.feedbackHash⟩))

def revokeFeedback (call : CallContext) (agentNonce : Nat) (feedbackIndex : UInt64) (w : World) :
    Outcome World := do
  match w.feedbackData.get? (agentNonce, call.caller, feedbackIndex) with
  | none => .error (.signal "Feedback not found")
  | some data => do
      require (data.isRevoked = false) "Feedback already revoked"
      pure ({ w with
        feedbackData := w.feedbackData.set (agentNonce, call.caller, feedbackIndex)
          { data with isRevoked := true } }.emit
        (.feedbackRevoked agentNonce call.caller feedbackIndex))

def appendResponse (validations : Validations) (jobId responseUri : Bytes) (w : World) :
    Outcome World := do
  let _ ← w.externalJob validations jobId
  pure { w with agentResponse := Function.update w.agentResponse jobId responseUri }

/-- `evaluateAgentFairValue`: a year's earnings over the expected return, in proportion to
the score, which is 80 while there is none. -/
def evaluateAgentFairValue (agentNonce netMonthlyEarnings : Nat) (expectedAprBasisPoints : UInt32)
    (w : World) : Outcome Nat := do
  require (0 < expectedAprBasisPoints) "Invalid Expected APR"
  let annualEarnings := netMonthlyEarnings * 12
  let baseValue ← bigUintDiv (annualEarnings * 10000) expectedAprBasisPoints.toNat
  let repScore := w.reputationScore agentNonce
  let adjustedScore := if repScore = 0 then 80 else repScore
  bigUintDiv (baseValue * adjustedScore) 100

/-! ## Configuration -/

inductive ConfigCall where
  | setIdentityContractAddress (address : Address)
  | setValidationContractAddress (address : Address)
  | upgrade

def World.configure (w : World) : ConfigCall → World
  | .setIdentityContractAddress address => { w with identityContractAddress := address }
  | .setValidationContractAddress address => { w with validationContractAddress := address }
  | .upgrade => w

def init (validationContractAddress identityContractAddress : Address) : World :=
  { reputationScore := fun _ => 0
    totalJobs := fun _ => 0
    validationContractAddress := validationContractAddress
    identityContractAddress := identityContractAddress
    hasGivenFeedback := fun _ => false
    agentResponse := fun _ => []
    feedbackData := .empty
    lastFeedbackIndex := fun _ _ => 0
    feedbackClients := fun _ => .empty
    events := [] }

def Deployed (w : World) : Prop :=
  ∃ validationContractAddress identityContractAddress,
    init validationContractAddress identityContractAddress = w

/-! ## Steps -/

inductive Step where
  | giveFeedbackSimple (validations : Validations) (call : CallContext) (jobId : Bytes)
      (agentNonce rating : Nat)
  | giveFeedback (registries : Validation.Registries) (call : CallContext) (agentNonce : Nat)
      (feedback : Feedback)
  | revokeFeedback (call : CallContext) (agentNonce : Nat) (feedbackIndex : UInt64)
  | appendResponse (validations : Validations) (call : CallContext) (jobId responseUri : Bytes)
  | configure (call : CallContext) (change : ConfigCall)

def step (chain : Chain) (w : World) : Step → Outcome World
  | .giveFeedbackSimple validations call jobId agentNonce rating => do
      ensure (call.Delivered chain)
      call.notPayable
      giveFeedbackSimple validations call jobId agentNonce rating w
  | .giveFeedback registries call agentNonce feedback => do
      ensure (call.Delivered chain)
      call.notPayable
      giveFeedback registries call agentNonce feedback w
  | .revokeFeedback call agentNonce feedbackIndex => do
      ensure (call.Delivered chain)
      call.notPayable
      revokeFeedback call agentNonce feedbackIndex w
  | .appendResponse validations call jobId responseUri => do
      ensure (call.Delivered chain)
      call.notPayable
      appendResponse validations jobId responseUri w
  | .configure call change => do
      ensure (call.Delivered chain)
      call.notPayable
      call.onlyOwner chain
      pure (w.configure change)

end XCron.Agents.Reputation
