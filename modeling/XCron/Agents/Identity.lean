import XCron.Agents.Types
import XCron.Platform.BiDiMap
import XCron.Platform.Trace

/-!
# The identity registry

`xcron-agent-shield/identity-registry/src`: an agent is an NFT that the registry mints for
its owner. The registry keeps who owns an agent, what it is called, its public key, its
metadata and its services.
-/

namespace XCron.Agents.Identity

open Platform

/-! ## Storage -/

inductive TokenState where
  | notSet
  | pending
  | issued (tokenId : TokenIdentifier)
  deriving DecidableEq

structure NftData where
  name : Bytes
  hash : Bytes
  attributes : Bytes
  uris : List Bytes

inductive Event where
  | agentRegistered (owner : Address) (nonce : Nat) (name uri : Bytes)
  | agentUpdated (nonce : Nat)
  | metadataUpdated (nonce : Nat)
  | serviceConfigsUpdated (nonce : Nat)

/-- The storage, and from `lastNonce` on what the chain knows of the collection. -/
structure World where
  agentTokenId : TokenState
  agents : BiDiMap Nat Address
  agentDetails : Cells Nat AgentDetails
  agentMetadata : Nat → Cells Bytes Bytes
  agentServiceConfig : Nat → Cells UInt32 Payment
  lastNonce : Nat
  nfts : Cells Nat NftData
  holder : Nat → Option Address
  events : List Event

def errAgentAlreadyRegistered : String := "Agent already registered for this address"

namespace World

def emit (event : Event) (w : World) : World := { w with events := w.events ++ [event] }

def handOver (receiver : Address) (nonce : Nat) (w : World) : World :=
  { w with holder := Function.update w.holder nonce (some receiver) }

def sendNft (chain : Chain) (receiver : Address) (nonce : Nat) (w : World) : Outcome World :=
  if w.holder nonce = some chain.scAddress then .ok (w.handOver receiver nonce)
  else .error .esdtShortage

/-- `require!(!agent_token_id().is_empty())`, which an issue under way passes too. -/
def requireToken (w : World) : Outcome Unit :=
  require (w.agentTokenId ≠ .notSet) "Token not issued"

def getTokenId (w : World) : Outcome TokenIdentifier :=
  match w.agentTokenId with
  | .issued tokenId => .ok tokenId
  | _ => .error .rejected

/-- `require_agent_owner`. An agent that is not registered has no address to decode. -/
def requireAgentOwner (call : CallContext) (nonce : Nat) (w : World) : Outcome Unit := do
  let owner ← load (w.agents.getValue nonce)
  require (call.caller = owner) errNotAgentOwner

def syncMetadata (nonce : Nat) (entries : List MetadataEntry) (w : World) : World :=
  { w with
    agentMetadata := Function.update w.agentMetadata nonce
      (entries.foldl (fun cells entry => cells.set entry.key entry.value) (w.agentMetadata nonce)) }

/-- `sync_service_configs`. A price of zero ends the call. -/
def syncServiceConfigs (nonce : Nat) (configs : List ServiceConfigInput) (w : World) :
    Outcome World := do
  ensure (∀ config ∈ configs, 0 < config.price)
  pure { w with
    agentServiceConfig := Function.update w.agentServiceConfig nonce
      (configs.foldl (fun cells config =>
        cells.set config.serviceId ⟨config.token, config.nonce, config.price⟩)
        (w.agentServiceConfig nonce)) }

def syncOptional (nonce : Nat) (metadata : Option (List MetadataEntry))
    (services : Option (List ServiceConfigInput)) (w : World) : Outcome World :=
  let w := match metadata with
    | some entries => w.syncMetadata nonce entries
    | none => w
  match services with
  | some configs => w.syncServiceConfigs nonce configs
  | none => pure w

end World

/-! ## Endpoints -/

def issueToken (w : World) : Outcome World := do
  require (w.agentTokenId = .notSet) "Token already issued"
  pure { w with agentTokenId := .pending }

def issueCallback (issued : Option TokenIdentifier) (w : World) : World :=
  match issued with
  | some tokenId => { w with agentTokenId := .issued tokenId }
  | none => { w with agentTokenId := .notSet }

/-- The arguments that `register_agent` and `update_agent` share. -/
structure Profile where
  name : Bytes
  uri : Bytes
  publicKey : Bytes

def registerAgent (chain : Chain) (call : CallContext) (profile : Profile)
    (metadata : List MetadataEntry) (services : List ServiceConfigInput) (w : World) :
    Outcome World := do
  w.requireToken
  require (w.agents.getId call.caller = none) errAgentAlreadyRegistered
  let details := AgentDetails.mk profile.name profile.publicKey
  let _ ← w.getTokenId
  let nonce := w.lastNonce + 1
  let w := { w with
    lastNonce := nonce
    nfts := w.nfts.set nonce ⟨profile.name, [], details.topEncode, [profile.uri]⟩
    holder := Function.update w.holder nonce (some chain.scAddress)
    agents := w.agents.insert nonce call.caller
    agentDetails := w.agentDetails.set nonce details }
  let w := w.syncMetadata nonce metadata
  let w ← w.syncServiceConfigs nonce services
  (w.emit (.agentRegistered call.caller nonce profile.name profile.uri)).sendNft chain
    call.caller nonce

structure Update where
  profile : Profile
  metadata : Option (List MetadataEntry)
  services : Option (List ServiceConfigInput)

/-- `update_agent`. The new name, and the new public key as its hash, go to the NFT, whose
attributes are emptied; `agent_details` is not written. -/
def updateAgent (chain : Chain) (call : CallContext) (update : Update) (w : World) :
    Outcome World := do
  w.requireToken
  let payment ← singleEsdt call
  let tokenId ← w.getTokenId
  require (payment.token = tokenId) "Invalid NFT sent"
  let nonce := payment.nonce
  let owner ← load (w.agents.getValue nonce)
  require (call.caller = owner) errNotAgentOwner
  let w := { w with
    nfts := w.nfts.set nonce
      ⟨update.profile.name, update.profile.publicKey, [], [update.profile.uri]⟩ }
  let w ← w.syncOptional nonce update.metadata update.services
  let w ← w.sendNft chain call.caller nonce
  pure (w.emit (.agentUpdated nonce))

def syncOwnership (chain : Chain) (call : CallContext) (w : World) : Outcome World := do
  w.requireToken
  let payment ← singleEsdt call
  let tokenId ← w.getTokenId
  require (payment.token = tokenId) "Invalid NFT sent"
  let nonce := payment.nonce
  let w := { w with agents := w.agents.insert nonce call.caller }
  let w ← w.sendNft chain call.caller nonce
  pure (w.emit (.agentUpdated nonce))

def manage (call : CallContext) (nonce : Nat) (change : World → Outcome World) (event : Event)
    (w : World) : Outcome World := do
  w.requireToken
  w.requireAgentOwner call nonce
  let w ← change w
  pure (w.emit event)

def setMetadata (call : CallContext) (nonce : Nat) (entries : List MetadataEntry) :
    World → Outcome World :=
  manage call nonce (fun w => pure (w.syncMetadata nonce entries)) (.metadataUpdated nonce)

def setServiceConfigs (call : CallContext) (nonce : Nat) (configs : List ServiceConfigInput) :
    World → Outcome World :=
  manage call nonce (World.syncServiceConfigs nonce configs) (.serviceConfigsUpdated nonce)

def removeMetadata (call : CallContext) (nonce : Nat) (keys : List Bytes) :
    World → Outcome World :=
  manage call nonce (fun w => pure { w with
    agentMetadata := Function.update w.agentMetadata nonce
      (keys.foldl Cells.clear (w.agentMetadata nonce)) }) (.metadataUpdated nonce)

def removeServiceConfigs (call : CallContext) (nonce : Nat) (serviceIds : List UInt32) :
    World → Outcome World :=
  manage call nonce (fun w => pure { w with
    agentServiceConfig := Function.update w.agentServiceConfig nonce
      (serviceIds.foldl Cells.clear (w.agentServiceConfig nonce)) }) (.serviceConfigsUpdated nonce)

inductive OwnerAction where
  | setMetadata (entries : List MetadataEntry)
  | setServiceConfigs (configs : List ServiceConfigInput)
  | removeMetadata (keys : List Bytes)
  | removeServiceConfigs (serviceIds : List UInt32)

def OwnerAction.run (call : CallContext) (nonce : Nat) : OwnerAction → World → Outcome World
  | .setMetadata entries => Identity.setMetadata call nonce entries
  | .setServiceConfigs configs => Identity.setServiceConfigs call nonce configs
  | .removeMetadata keys => Identity.removeMetadata call nonce keys
  | .removeServiceConfigs serviceIds => Identity.removeServiceConfigs call nonce serviceIds

/-- A registry that has just been deployed, before there is a collection. -/
def init : World :=
  { agentTokenId := .notSet
    agents := .empty
    agentDetails := .empty
    agentMetadata := fun _ => .empty
    agentServiceConfig := fun _ => .empty
    lastNonce := 0
    nfts := .empty
    holder := fun _ => none
    events := [] }

/-! ## Steps -/

/-- What can happen to the registry and its NFTs; an `upgrade` changes nothing. -/
inductive Step where
  | issueToken (call : CallContext)
  | issueCallback (issued : Option TokenIdentifier)
  | registerAgent (call : CallContext) (profile : Profile) (metadata : List MetadataEntry)
      (services : List ServiceConfigInput)
  | updateAgent (call : CallContext) (update : Update)
  | syncOwnership (call : CallContext)
  | own (call : CallContext) (nonce : Nat) (action : OwnerAction)
  | transferNft (sender receiver : Address) (nonce : Nat)
  | upgrade

/-- The agent NFTs that come with a call belong to the caller; there is one of each. -/
def World.Holds (w : World) (call : CallContext) : Prop :=
  ∀ payment ∈ call.esdtTransfers, w.agentTokenId = .issued payment.token →
    payment.amount = 1 ∧ w.holder payment.nonce = some call.caller

instance (w : World) (call : CallContext) : Decidable (w.Holds call) :=
  inferInstanceAs (Decidable (∀ payment ∈ call.esdtTransfers, _ → _ ∧ _))

/-- The NFTs of a call reach the contract before the endpoint body runs. -/
def World.credit (chain : Chain) (call : CallContext) (w : World) : World :=
  { w with
    holder := fun nonce =>
      if ∃ payment ∈ call.esdtTransfers, w.agentTokenId = .issued payment.token ∧
        payment.nonce = nonce then some chain.scAddress
      else w.holder nonce }

def deliver (chain : Chain) (call : CallContext) (w : World) : Outcome World := do
  ensure (call.Delivered chain ∧ w.Holds call)
  pure (w.credit chain call)

def step (chain : Chain) (w : World) : Step → Outcome World
  | .issueToken call => do
      let w ← deliver chain call w
      call.payableEgld
      call.onlyOwner chain
      issueToken w
  | .issueCallback issued => do
      ensure (w.agentTokenId = .pending)
      pure (issueCallback issued w)
  | .registerAgent call profile metadata services => do
      let w ← deliver chain call w
      call.notPayable
      registerAgent chain call profile metadata services w
  | .updateAgent call update => do
      let w ← deliver chain call w
      updateAgent chain call update w
  | .syncOwnership call => do
      let w ← deliver chain call w
      syncOwnership chain call w
  | .own call nonce action => do
      let w ← deliver chain call w
      call.notPayable
      action.run call nonce w
  | .transferNft sender receiver nonce => do
      ensure (w.holder nonce = some sender ∧ sender ≠ chain.scAddress ∧ receiver ≠ chain.scAddress)
      pure (w.handOver receiver nonce)
  | .upgrade => pure w

/-! ## What a step does -/

variable {chain : Chain} {w next : World} {move : Step} {call : CallContext} {nonce : Nat}

structure SameRegister (w next : World) : Prop where
  agentTokenId : next.agentTokenId = w.agentTokenId
  agents : next.agents = w.agents
  agentDetails : next.agentDetails = w.agentDetails
  lastNonce : next.lastNonce = w.lastNonce

theorem SameRegister.refl (w : World) : SameRegister w w := ⟨rfl, rfl, rfl, rfl⟩

theorem SameRegister.trans {middle : World} (first : SameRegister w middle)
    (second : SameRegister middle next) : SameRegister w next :=
  ⟨second.agentTokenId.trans first.agentTokenId, second.agents.trans first.agents,
    second.agentDetails.trans first.agentDetails, second.lastNonce.trans first.lastNonce⟩

theorem sendNft_eq_ok {receiver : Address} :
    w.sendNft chain receiver nonce = .ok next ↔
      w.holder nonce = some chain.scAddress ∧ w.handOver receiver nonce = next := by
  unfold World.sendNft
  split
  next held => simp [held]
  next missing => simp [missing]

theorem deliver_eq_ok :
    deliver chain call w = .ok next ↔
      (call.Delivered chain ∧ w.Holds call) ∧ w.credit chain call = next := by
  simp only [deliver, Outcome.bind_eq_ok, Outcome.ensure_eq_ok, Outcome.pure_eq_ok, exists_const]

theorem requireToken_eq_ok (u : Unit) : w.requireToken = .ok u ↔ w.agentTokenId ≠ .notSet :=
  Outcome.require_eq_ok _ _ _

theorem getTokenId_eq_ok {tokenId : TokenIdentifier} :
    w.getTokenId = .ok tokenId ↔ w.agentTokenId = .issued tokenId := by
  unfold World.getTokenId
  cases w.agentTokenId with
  | issued other => simp
  | _ => simp

theorem requireAgentOwner_eq_ok (u : Unit) :
    w.requireAgentOwner call nonce = .ok u ↔ w.agents.getValue nonce = some call.caller := by
  simp only [World.requireAgentOwner, Outcome.bind_eq_ok, Outcome.load_eq_ok,
    Outcome.require_eq_ok]
  constructor
  · rintro ⟨owner, found, rfl⟩
    exact found
  · intro found
    exact ⟨call.caller, found, rfl⟩

theorem syncServiceConfigs_same {configs : List ServiceConfigInput}
    (synced : w.syncServiceConfigs nonce configs = .ok next) :
    SameRegister w next ∧ next.holder = w.holder := by
  simp only [World.syncServiceConfigs, Outcome.bind_eq_ok, Outcome.pure_eq_ok] at synced
  obtain ⟨_, _, rfl⟩ := synced
  exact ⟨⟨rfl, rfl, rfl, rfl⟩, rfl⟩

theorem syncOptional_same {metadata : Option (List MetadataEntry)}
    {services : Option (List ServiceConfigInput)}
    (synced : w.syncOptional nonce metadata services = .ok next) :
    SameRegister w next ∧ next.holder = w.holder := by
  cases metadata with
  | none =>
      cases services with
      | none =>
          simp only [World.syncOptional, Outcome.pure_eq_ok] at synced
          exact synced ▸ ⟨.refl w, rfl⟩
      | some configs => exact syncServiceConfigs_same synced
  | some entries =>
      cases services with
      | none =>
          simp only [World.syncOptional, Outcome.pure_eq_ok] at synced
          subst synced
          exact ⟨⟨rfl, rfl, rfl, rfl⟩, rfl⟩
      | some configs =>
          obtain ⟨same, holder⟩ := syncServiceConfigs_same synced
          exact ⟨⟨same.agentTokenId, same.agents, same.agentDetails, same.lastNonce⟩, holder⟩

theorem holder_of_credit (chain : Chain) (holds : w.Holds call) {other : Nat}
    (held : (w.credit chain call).holder other ≠ none) : w.holder other ≠ none := by
  unfold World.credit at held
  dsimp only at held
  split at held
  next paid =>
    obtain ⟨payment, member, agent, rfl⟩ := paid
    rw [(holds payment member agent).2]
    exact Option.some_ne_none _
  next _ => exact held

/-- A holder shows an NFT, and the registry tries to record it as the owner. -/
structure Synced (call : CallContext) (payment : Payment) (w next : World) : Prop where
  paid : call.esdtTransfers = [payment]
  issued : w.agentTokenId = .issued payment.token
  owned : w.holder payment.nonce = some call.caller
  returned : next.holder payment.nonce = some call.caller
  same : SameRegister { w with agents := w.agents.insert payment.nonce call.caller } next
  holders : ∀ other, next.holder other ≠ none → w.holder other ≠ none

/-- What a step does to the register of agents. -/
inductive Change (w : World) : Step → World → Prop where
  | same {move : Step} {next : World} :
      SameRegister { w with agentTokenId := next.agentTokenId } next →
      (∀ other, next.holder other ≠ none → w.holder other ≠ none) → Change w move next
  | registered {call : CallContext} {profile : Profile} {metadata : List MetadataEntry}
      {services : List ServiceConfigInput} {next : World} :
      w.agents.getId call.caller = none →
      next.lastNonce = w.lastNonce + 1 →
      next.agents = w.agents.insert (w.lastNonce + 1) call.caller →
      next.agentDetails = w.agentDetails.set (w.lastNonce + 1) ⟨profile.name, profile.publicKey⟩ →
      (∀ other, other ≠ w.lastNonce + 1 → next.holder other ≠ none → w.holder other ≠ none) →
      Change w (.registerAgent call profile metadata services) next
  | synced {call : CallContext} {payment : Payment} {next : World} :
      Synced call payment w next → Change w (.syncOwnership call) next

theorem holder_handOver {receiver : Address} {other : Nat} (held : w.holder nonce ≠ none)
    (heldNow : (w.handOver receiver nonce).holder other ≠ none) : w.holder other ≠ none := by
  by_cases same : other = nonce
  · rw [same]
    exact held
  · have unchanged : (w.handOver receiver nonce).holder other = w.holder other :=
      Function.update_of_ne same _ _
    rw [← unchanged]
    exact heldNow

theorem syncOwnership_synced (stepped : step chain w (.syncOwnership call) = .ok next) :
    ∃ payment, Synced call payment w next := by
  simp only [step, syncOwnership, Outcome.bind_eq_ok, deliver_eq_ok, singleEsdt_eq_ok,
    getTokenId_eq_ok, Outcome.require_eq_ok, sendNft_eq_ok, Outcome.pure_eq_ok] at stepped
  obtain ⟨_, ⟨⟨_, holds⟩, rfl⟩, _, _, payment, paid, tokenId, issued, _, same, _, ⟨held, rfl⟩, rfl⟩ :=
    stepped
  have agent : w.agentTokenId = .issued payment.token := same ▸ issued
  have owned := (holds payment (paid ▸ List.mem_singleton_self _) agent).2
  refine ⟨payment, paid, agent, owned, Function.update_self .., ⟨rfl, rfl, rfl, rfl⟩, ?_⟩
  intro other heldNow
  refine holder_of_credit chain holds ?_
  refine holder_handOver ?_ heldNow
  exact Option.ne_none_iff_exists'.mpr ⟨_, held⟩

theorem registerAgent_change {profile : Profile} {metadata : List MetadataEntry}
    {services : List ServiceConfigInput}
    (stepped : step chain w (.registerAgent call profile metadata services) = .ok next) :
    Change w (.registerAgent call profile metadata services) next := by
  simp only [step, registerAgent, Outcome.bind_eq_ok, deliver_eq_ok, Outcome.require_eq_ok,
    sendNft_eq_ok] at stepped
  obtain ⟨_, ⟨⟨_, holds⟩, rfl⟩, _, _, _, _, _, unregistered, _, _, middle, synced, held, rfl⟩ := stepped
  obtain ⟨same, holder⟩ := syncServiceConfigs_same synced
  refine .registered unregistered same.lastNonce same.agents same.agentDetails ?_
  intro other different heldNow
  refine holder_of_credit chain holds ?_
  have unsent : (Function.update middle.holder (w.lastNonce + 1) (some call.caller)) other =
      middle.holder other := Function.update_of_ne different _ _
  change (Function.update middle.holder (w.lastNonce + 1) (some call.caller)) other ≠ none at heldNow
  rw [unsent, holder] at heldNow
  change Function.update (w.credit chain call).holder (w.lastNonce + 1) (some chain.scAddress)
    other ≠ none at heldNow
  rw [Function.update_of_ne different] at heldNow
  exact heldNow

theorem updateAgent_change {update : Update}
    (stepped : step chain w (.updateAgent call update) = .ok next) :
    Change w (.updateAgent call update) next := by
  simp only [step, updateAgent, Outcome.bind_eq_ok, deliver_eq_ok, singleEsdt_eq_ok,
    getTokenId_eq_ok, Outcome.require_eq_ok, Outcome.load_eq_ok, sendNft_eq_ok,
    Outcome.pure_eq_ok] at stepped
  obtain ⟨_, ⟨⟨_, holds⟩, rfl⟩, _, _, payment, paid, tokenId, issued, _, agent, owner, owned, _, _,
    middle, serviced, _, ⟨held, rfl⟩, rfl⟩ := stepped
  obtain ⟨same, holder⟩ := syncOptional_same serviced
  refine .same ⟨rfl, same.agents, same.agentDetails, same.lastNonce⟩ ?_
  intro other heldNow
  refine holder_of_credit chain holds ?_
  have unsent : middle.holder other ≠ none :=
    holder_handOver (Option.ne_none_iff_exists'.mpr ⟨_, held⟩) heldNow
  rw [holder] at unsent
  exact unsent

theorem manage_same {change : World → Outcome World} {event : Event}
    (changes : ∀ before after, change before = .ok after →
      SameRegister before after ∧ after.holder = before.holder)
    (managed : manage call nonce change event w = .ok next) :
    SameRegister w next ∧ next.holder = w.holder := by
  simp only [manage, Outcome.bind_eq_ok, Outcome.pure_eq_ok] at managed
  obtain ⟨_, _, _, _, middle, changed, rfl⟩ := managed
  obtain ⟨same, holder⟩ := changes _ _ changed
  exact ⟨⟨same.agentTokenId, same.agents, same.agentDetails, same.lastNonce⟩, holder⟩

/-- What an action writes. -/
def OwnerAction.change (nonce : Nat) : OwnerAction → World → Outcome World
  | .setMetadata entries => fun w => pure (w.syncMetadata nonce entries)
  | .setServiceConfigs configs => World.syncServiceConfigs nonce configs
  | .removeMetadata keys => fun w => pure { w with
      agentMetadata := Function.update w.agentMetadata nonce
        (keys.foldl Cells.clear (w.agentMetadata nonce)) }
  | .removeServiceConfigs serviceIds => fun w => pure { w with
      agentServiceConfig := Function.update w.agentServiceConfig nonce
        (serviceIds.foldl Cells.clear (w.agentServiceConfig nonce)) }

theorem OwnerAction.run_eq (call : CallContext) (nonce : Nat) (action : OwnerAction) :
    ∃ event, action.run call nonce = manage call nonce (action.change nonce) event := by
  cases action with
  | setMetadata _ | removeMetadata _ => exact ⟨.metadataUpdated nonce, rfl⟩
  | setServiceConfigs _ | removeServiceConfigs _ => exact ⟨.serviceConfigsUpdated nonce, rfl⟩

theorem OwnerAction.run_same {action : OwnerAction} (ran : action.run call nonce w = .ok next) :
    SameRegister w next ∧ next.holder = w.holder := by
  obtain ⟨event, run⟩ := action.run_eq call nonce
  rw [run] at ran
  refine manage_same ?_ ran
  intro before after changed
  cases action with
  | setServiceConfigs configs => exact syncServiceConfigs_same changed
  | _ =>
      simp only [OwnerAction.change, Outcome.pure_eq_ok] at changed
      subst changed
      exact ⟨⟨rfl, rfl, rfl, rfl⟩, rfl⟩

theorem step_change (stepped : step chain w move = .ok next) : Change w move next := by
  cases move with
  | issueToken call =>
      simp only [step, issueToken, Outcome.bind_eq_ok, deliver_eq_ok, Outcome.pure_eq_ok] at stepped
      obtain ⟨_, ⟨⟨_, holds⟩, rfl⟩, _, _, _, _, _, _, rfl⟩ := stepped
      exact .same ⟨rfl, rfl, rfl, rfl⟩ fun other held => holder_of_credit chain holds held
  | issueCallback issued =>
      simp only [step, Outcome.bind_eq_ok, Outcome.pure_eq_ok] at stepped
      obtain ⟨_, _, rfl⟩ := stepped
      cases issued with
      | none => exact .same ⟨rfl, rfl, rfl, rfl⟩ fun _ held => held
      | some tokenId => exact .same ⟨rfl, rfl, rfl, rfl⟩ fun _ held => held
  | registerAgent call profile metadata services => exact registerAgent_change stepped
  | updateAgent call update => exact updateAgent_change stepped
  | syncOwnership call =>
      obtain ⟨payment, synced⟩ := syncOwnership_synced stepped
      exact .synced synced
  | own call nonce action =>
      simp only [step, Outcome.bind_eq_ok, deliver_eq_ok] at stepped
      obtain ⟨_, ⟨⟨_, holds⟩, rfl⟩, _, _, ran⟩ := stepped
      obtain ⟨same, holder⟩ := OwnerAction.run_same ran
      refine .same ⟨rfl, same.agents, same.agentDetails, same.lastNonce⟩ ?_
      intro other held
      refine holder_of_credit chain holds ?_
      rw [← holder]
      exact held
  | transferNft sender receiver nonce =>
      simp only [step, Outcome.bind_eq_ok, Outcome.ensure_eq_ok, Outcome.pure_eq_ok] at stepped
      obtain ⟨_, ⟨held, _⟩, rfl⟩ := stepped
      refine .same ⟨rfl, rfl, rfl, rfl⟩ fun other heldNow => holder_handOver ?_ heldNow
      exact Option.ne_none_iff_exists'.mpr ⟨_, held⟩
  | upgrade =>
      simp only [step, Outcome.pure_eq_ok] at stepped
      subst stepped
      exact .same ⟨rfl, rfl, rfl, rfl⟩ fun _ held => held

/-! ## What every step keeps -/

/-- Every NFT that someone holds is registered, and every registered one has details. -/
structure Orderly (w : World) : Prop where
  minted : ∀ other, w.agents.getValue other ≠ none → other ≤ w.lastNonce
  registered : ∀ other, w.holder other ≠ none → w.agents.getValue other ≠ none
  detailed : ∀ other, w.agents.getValue other ≠ none → w.agentDetails.get? other ≠ none

theorem Synced.unchanged {payment : Payment} (synced : Synced call payment w next)
    (orderly : Orderly w) : next.agents = w.agents := by
  have held : w.holder payment.nonce ≠ none := synced.owned ▸ Option.some_ne_none _
  exact synced.same.agents.trans (BiDiMap.insert_of_present _ (orderly.registered _ held))

theorem Orderly.fresh (orderly : Orderly w) : w.agents.getValue (w.lastNonce + 1) = none := by
  by_contra used
  have := orderly.minted _ used
  omega

theorem Orderly.step (orderly : Orderly w) (stepped : Identity.step chain w move = .ok next) :
    Orderly next := by
  cases step_change stepped with
  | same same holders =>
      obtain ⟨_, agents, details, lastNonce⟩ := same
      constructor
      · rw [agents, lastNonce]
        exact orderly.minted
      · intro other held
        rw [agents]
        exact orderly.registered other (holders other held)
      · rw [agents, details]
        exact orderly.detailed
  | registered free lastNonce agents details holders =>
      have value := fun other =>
        BiDiMap.getValue_insert_of_free other orderly.fresh free
      refine ⟨?_, ?_, ?_⟩ <;> intro other
      · rw [agents, lastNonce, value]
        split
        next same => exact fun _ => same.le
        next _ => exact fun present => (orderly.minted other present).trans (Nat.le_succ _)
      · rw [agents, value]
        intro held
        split
        next same => exact Option.some_ne_none _
        next different => exact orderly.registered other (holders other different held)
      · rw [agents, details, value, Cells.get?_set]
        split
        next same => exact fun _ => Option.some_ne_none _
        next _ => exact orderly.detailed other
  | synced synced =>
      have agents := synced.unchanged orderly
      constructor
      · rw [agents, synced.same.lastNonce]
        exact orderly.minted
      · intro other held
        rw [agents]
        exact orderly.registered other (synced.holders other held)
      · rw [agents, synced.same.agentDetails]
        exact orderly.detailed

theorem init_orderly : Orderly init := by
  constructor
  · intro other present
    exact absurd (Cells.get?_empty other) present
  · intro other held
    exact absurd rfl held
  · intro other present
    exact absurd (Cells.get?_empty other) present

theorem run_orderly {final : World} {steps : List Step}
    (trace : Trace (Identity.step chain) (fun _ _ => True) init steps final) : Orderly final :=
  trace.preserves Orderly (fun _ _ _ _ orderly stepped => orderly.step stepped) init_orderly

/-- No step gives a registered agent another owner, another name or another key. -/
theorem step_keeps (orderly : Orderly w) (present : w.agents.getValue nonce ≠ none)
    (stepped : step chain w move = .ok next) :
    next.agents.getValue nonce = w.agents.getValue nonce ∧
      next.agentDetails.get? nonce = w.agentDetails.get? nonce := by
  cases step_change stepped with
  | same same _ => exact ⟨by rw [same.agents], by rw [same.agentDetails]⟩
  | registered free lastNonce agents details _ =>
      have different : nonce ≠ w.lastNonce + 1 := by
        have := orderly.minted nonce present
        omega
      rw [agents, details]
      exact ⟨BiDiMap.getValue_of_insert _ different, Cells.get?_set_ne _ _ different⟩
  | synced synced =>
      rw [synced.unchanged orderly, synced.same.agentDetails]
      exact ⟨rfl, rfl⟩

end XCron.Agents.Identity
