import XCron.Agents.Reputation
import XCron.Platform.Trace

/-!
# The agent marketplace

`xcron-agent-shield/xcron-agent-marketplace/src`: a seller leaves an agent NFT with the
contract, which gives it back or sells it at the fair value that the reputation registry
computes at the time of the sale.
-/

namespace XCron.Agents.Marketplace

open Platform

/-! ## Storage -/

/-- The storage, the owners of the NFTs, and what the contract has sent. -/
structure World where
  reputationRegistryAddress : Address
  treasuryAddress : Address
  agentNftTokenId : TokenIdentifier
  listings : Cells Nat Address
  listingEarnings : Nat → Nat
  listingApr : Nat → UInt32
  holder : Nat → Option Address
  sent : List Transfer

namespace World

def handOver (receiver : Address) (nonce : Nat) (w : World) : World :=
  { w with holder := Function.update w.holder nonce (some receiver) }

def sendNft (chain : Chain) (receiver : Address) (nonce : Nat) (w : World) : Outcome World :=
  if w.holder nonce = some chain.scAddress then
    .ok { w.handOver receiver nonce with
      sent := w.sent ++ [⟨receiver, ⟨w.agentNftTokenId, nonce, 1⟩⟩] }
  else .error .esdtShortage

/-- EGLD is sent, unless there is none to send. What a sale sends came in with its payment,
so that the balance never falls short. -/
def sendEgld (receiver : Address) (amount : Nat) (w : World) : World :=
  if 0 < amount then { w with sent := w.sent ++ [⟨receiver, ⟨egldTokenId, 0, amount⟩⟩] } else w

def clearListing (nonce : Nat) (w : World) : World :=
  { w with
    listings := w.listings.clear nonce
    listingEarnings := Function.update w.listingEarnings nonce 0
    listingApr := Function.update w.listingApr nonce 0 }

def seller (nonce : Nat) (w : World) : Outcome Address :=
  match w.listings.get? nonce with
  | some seller => .ok seller
  | none => .error (.signal "Agent not listed")

end World

abbrev Reputations := Address → Reputation.World

/-! ## Endpoints -/

def listAgent (call : CallContext) (netMonthlyEarnings : Nat) (expectedAprBasisPoints : UInt32)
    (w : World) : Outcome World := do
  let payment ← single call
  require (payment.token = w.agentNftTokenId) "Invalid Agent NFT Token ID"
  require (payment.amount = 1) "Must list exactly 1 Agent NFT"
  require (0 < expectedAprBasisPoints) "Invalid Expected APR"
  pure { w with
    listings := w.listings.set payment.nonce call.caller
    listingEarnings := Function.update w.listingEarnings payment.nonce netMonthlyEarnings
    listingApr := Function.update w.listingApr payment.nonce expectedAprBasisPoints }

def cancelListing (chain : Chain) (call : CallContext) (agentNonce : Nat) (w : World) :
    Outcome World := do
  let seller ← w.seller agentNonce
  require (call.caller = seller) "Only seller can cancel listing"
  let w ← w.sendNft chain seller agentNonce
  pure (w.clearListing agentNonce)

def fivePercent (fairValue : Nat) : Nat := fairValue * 5 / 100

def World.fairValue (reputations : Reputations) (agentNonce : Nat) (w : World) : Outcome Nat :=
  Reputation.evaluateAgentFairValue agentNonce (w.listingEarnings agentNonce)
    (w.listingApr agentNonce) (reputations w.reputationRegistryAddress)

def buyAgent (chain : Chain) (reputations : Reputations) (call : CallContext) (agentNonce : Nat)
    (w : World) : Outcome World := do
  let seller ← w.seller agentNonce
  let fairValue ← w.fairValue reputations agentNonce
  require (call.egldValue = fairValue) "Payment must perfectly match AVS Fair Value"
  let treasury := w.treasuryAddress
  let w ← w.sendNft chain call.caller agentNonce
  let w := w.sendEgld seller (fairValue - fivePercent fairValue)
  let w := w.sendEgld treasury (fivePercent fairValue)
  pure (w.clearListing agentNonce)

def init (reputationRegistryAddress treasuryAddress : Address)
    (xcronAgentTokenId : TokenIdentifier) (holder : Nat → Option Address) : World :=
  { reputationRegistryAddress := reputationRegistryAddress
    treasuryAddress := treasuryAddress
    agentNftTokenId := xcronAgentTokenId
    listings := .empty
    listingEarnings := fun _ => 0
    listingApr := fun _ => 0
    holder := holder
    sent := [] }

/-- A marketplace that has just been deployed, for a collection that is not EGLD and of
which it holds nothing. -/
def Deployed (chain : Chain) (w : World) : Prop :=
  ∃ reputationRegistryAddress treasuryAddress xcronAgentTokenId holder,
    xcronAgentTokenId ≠ egldTokenId ∧ (∀ nonce, holder nonce ≠ some chain.scAddress) ∧
      init reputationRegistryAddress treasuryAddress xcronAgentTokenId holder = w

/-! ## Steps -/

inductive Step where
  | listAgent (call : CallContext) (netMonthlyEarnings : Nat) (expectedAprBasisPoints : UInt32)
  | cancelListing (call : CallContext) (agentNonce : Nat)
  | buyAgent (reputations : Reputations) (call : CallContext) (agentNonce : Nat)
  | mintNft (receiver : Address) (nonce : Nat)
  | transferNft (sender receiver : Address) (nonce : Nat)
  | upgrade

/-- The agent NFTs that come with a call belong to the caller; there is one of each. -/
def World.Holds (w : World) (call : CallContext) : Prop :=
  ∀ payment ∈ call.esdtTransfers, payment.token = w.agentNftTokenId →
    payment.amount = 1 ∧ w.holder payment.nonce = some call.caller

instance (w : World) (call : CallContext) : Decidable (w.Holds call) :=
  inferInstanceAs (Decidable (∀ payment ∈ call.esdtTransfers, _ → _ ∧ _))

/-- The NFTs of a call reach the contract before the endpoint body runs. -/
def World.credit (chain : Chain) (call : CallContext) (w : World) : World :=
  { w with
    holder := fun nonce =>
      if ∃ payment ∈ call.esdtTransfers, payment.token = w.agentNftTokenId ∧
        payment.nonce = nonce then some chain.scAddress
      else w.holder nonce }

def deliver (chain : Chain) (call : CallContext) (w : World) : Outcome World := do
  ensure (call.Delivered chain ∧ call.caller ≠ chain.scAddress ∧ w.Holds call)
  pure (w.credit chain call)

def step (chain : Chain) (w : World) : Step → Outcome World
  | .listAgent call netMonthlyEarnings expectedAprBasisPoints => do
      let w ← deliver chain call w
      listAgent call netMonthlyEarnings expectedAprBasisPoints w
  | .cancelListing call agentNonce => do
      let w ← deliver chain call w
      call.notPayable
      cancelListing chain call agentNonce w
  | .buyAgent reputations call agentNonce => do
      let w ← deliver chain call w
      call.payableEgld
      buyAgent chain reputations call agentNonce w
  | .mintNft receiver nonce => do
      ensure (w.holder nonce = none ∧ receiver ≠ chain.scAddress)
      pure (w.handOver receiver nonce)
  | .transferNft sender receiver nonce => do
      ensure (w.holder nonce = some sender ∧ sender ≠ chain.scAddress ∧ receiver ≠ chain.scAddress)
      pure (w.handOver receiver nonce)
  | .upgrade => pure w

end XCron.Agents.Marketplace
