import XCron.Agents.Identity

/-!
# Ownership after a sale

Whoever holds the NFT of an agent may ask the registry to record the new owner. But every
NFT that can be held is registered, so the two-way map refuses the new pair, and the
registry goes on with the owner it had.
-/

namespace XCron.Agents.Identity

open Platform

variable {chain : Chain} {w next : World} {call : CallContext} {nonce : Nat}

/-! ## Who may act for an agent -/

def OwnerAction.Priced : OwnerAction → Prop
  | .setServiceConfigs configs => ∀ config ∈ configs, 0 < config.price
  | _ => True

def Update.Priced (update : Update) : Prop :=
  ∀ configs ∈ update.services, ∀ config ∈ configs, 0 < config.price

/-- The calls about an agent are accepted from its owner, who sends the NFT along with an
update, and from no one else. -/
structure Governs (chain : Chain) (w : World) (nonce : Nat) (owner : Address) : Prop where
  recorded : w.agents.getValue nonce = some owner
  acts : ∀ (call : CallContext) (action : OwnerAction), call.Plain chain → call.caller = owner →
    action.Priced → ∃ next, step chain w (.own call nonce action) = .ok next
  updates : ∀ (call : CallContext) (update : Update) (tokenId : TokenIdentifier),
    call.Delivered chain → call.caller = owner → w.agentTokenId = .issued tokenId →
    call.esdtTransfers = [⟨tokenId, nonce, 1⟩] → update.Priced →
    ∃ next, step chain w (.updateAgent call update) = .ok next
  noOtherActs : ∀ (call : CallContext) (action : OwnerAction) (next : World), call.caller ≠ owner →
    step chain w (.own call nonce action) ≠ .ok next
  noOtherUpdates : ∀ (call : CallContext) (update : Update) (payment : Payment) (next : World),
    call.caller ≠ owner → call.esdtTransfers = [payment] → payment.nonce = nonce →
    step chain w (.updateAgent call update) ≠ .ok next

theorem syncServiceConfigs_succeeds (nonce : Nat) {configs : List ServiceConfigInput}
    (priced : ∀ config ∈ configs, 0 < config.price) (w : World) :
    ∃ next, w.syncServiceConfigs nonce configs = .ok next := by
  simp only [World.syncServiceConfigs, Outcome.bind_eq_ok, Outcome.ensure_eq_ok,
    Outcome.pure_eq_ok]
  exact ⟨_, (), priced, rfl⟩

theorem manage_succeeds {change : World → Outcome World} {event : Event}
    (issued : w.agentTokenId ≠ .notSet) (owned : w.agents.getValue nonce = some call.caller)
    (changes : ∃ after, change w = .ok after) :
    ∃ next, manage call nonce change event w = .ok next := by
  obtain ⟨after, changed⟩ := changes
  simp only [manage, Outcome.bind_eq_ok, Outcome.pure_eq_ok]
  exact ⟨_, (), (requireToken_eq_ok ()).mpr issued, (), (requireAgentOwner_eq_ok ()).mpr owned,
    after, changed, rfl⟩

theorem manage_owner {change : World → Outcome World} {event : Event}
    (managed : manage call nonce change event w = .ok next) :
    w.agents.getValue nonce = some call.caller := by
  simp only [manage, Outcome.bind_eq_ok, requireAgentOwner_eq_ok] at managed
  obtain ⟨_, _, _, owned, _⟩ := managed
  exact owned

theorem OwnerAction.run_owner {action : OwnerAction} (ran : action.run call nonce w = .ok next) :
    w.agents.getValue nonce = some call.caller := by
  obtain ⟨event, run⟩ := action.run_eq call nonce
  rw [run] at ran
  exact manage_owner ran

theorem OwnerAction.run_succeeds {action : OwnerAction} (issued : w.agentTokenId ≠ .notSet)
    (owned : w.agents.getValue nonce = some call.caller) (priced : action.Priced) :
    ∃ next, action.run call nonce w = .ok next := by
  obtain ⟨event, run⟩ := action.run_eq call nonce
  rw [run]
  apply manage_succeeds issued owned
  cases action with
  | setServiceConfigs configs => exact syncServiceConfigs_succeeds nonce priced w
  | _ => exact ⟨_, rfl⟩

theorem syncOptional_succeeds (nonce : Nat) {update : Update} (priced : update.Priced) (w : World) :
    ∃ next, w.syncOptional nonce update.metadata update.services = .ok next := by
  unfold World.syncOptional
  cases services : update.services with
  | none => exact ⟨_, rfl⟩
  | some configs => exact syncServiceConfigs_succeeds nonce (priced configs services) _

theorem updateAgent_owner {update : Update} {payment : Payment}
    (paid : call.esdtTransfers = [payment])
    (stepped : step chain w (.updateAgent call update) = .ok next) :
    w.agents.getValue payment.nonce = some call.caller := by
  simp only [step, updateAgent, Outcome.bind_eq_ok, deliver_eq_ok, singleEsdt_eq_ok,
    Outcome.require_eq_ok, Outcome.load_eq_ok] at stepped
  obtain ⟨_, ⟨_, rfl⟩, _, _, other, paid', _, _, _, _, owner, owned, _, rfl, _⟩ := stepped
  obtain rfl := (List.cons.inj (paid.symm.trans paid')).1
  exact owned

theorem updateAgent_succeeds {update : Update} {tokenId : TokenIdentifier}
    (delivered : call.Delivered chain) (issued : w.agentTokenId = .issued tokenId)
    (owned : w.agents.getValue nonce = some call.caller) (held : w.holder nonce = some call.caller)
    (paid : call.esdtTransfers = [⟨tokenId, nonce, 1⟩]) (priced : update.Priced) :
    ∃ next, step chain w (.updateAgent call update) = .ok next := by
  have holds : w.Holds call := by
    intro payment member _
    rw [paid, List.mem_singleton] at member
    subst member
    exact ⟨rfl, held⟩
  have received : (w.credit chain call).holder nonce = some chain.scAddress := by
    refine if_pos ⟨⟨tokenId, nonce, 1⟩, ?_, issued, rfl⟩
    rw [paid]
    exact List.mem_singleton_self _
  simp only [step, updateAgent, Outcome.bind_eq_ok, deliver_eq_ok, singleEsdt_eq_ok,
    getTokenId_eq_ok, requireToken_eq_ok, Outcome.require_eq_ok, Outcome.load_eq_ok,
    sendNft_eq_ok, Outcome.pure_eq_ok]
  obtain ⟨middle, synced⟩ := syncOptional_succeeds nonce priced
    { w.credit chain call with
      nfts := w.nfts.set nonce
        ⟨update.profile.name, update.profile.publicKey, [], [update.profile.uri]⟩ }
  obtain ⟨_, holder⟩ := syncOptional_same synced
  refine ⟨_, _, ⟨⟨delivered, holds⟩, rfl⟩, (), ?_, _, paid, tokenId, issued, (), rfl, _, owned, (),
    rfl, middle, synced, _, ⟨holder ▸ received, rfl⟩, rfl⟩
  have set : w.agentTokenId ≠ .notSet := by simp [issued]
  exact set

theorem governs_of_recorded {tokenId : TokenIdentifier} {owner : Address}
    (issued : w.agentTokenId = .issued tokenId) (owned : w.agents.getValue nonce = some owner)
    (held : w.holder nonce = some owner) : Governs chain w nonce owner where
  recorded := owned
  acts := by
    rintro call action plain rfl priced
    have set : (w.credit chain call).agentTokenId ≠ .notSet := by simp [World.credit, issued]
    obtain ⟨next, ran⟩ := OwnerAction.run_succeeds (w := w.credit chain call) set owned priced
    have holds : w.Holds call := by
      intro payment member
      rw [plain.noEsdt] at member
      cases member
    refine ⟨next, ?_⟩
    simp only [step, Outcome.bind_eq_ok, deliver_eq_ok]
    exact ⟨_, ⟨⟨plain.delivered, holds⟩, rfl⟩, (), plain.notPayable (), ran⟩
  updates := by
    rintro call update tokenId' delivered rfl issued' paid priced
    exact updateAgent_succeeds delivered issued' owned held paid priced
  noOtherActs := by
    intro call action next other stepped
    simp only [step, Outcome.bind_eq_ok, deliver_eq_ok] at stepped
    obtain ⟨_, ⟨_, rfl⟩, _, _, ran⟩ := stepped
    have recorded := OwnerAction.run_owner ran
    exact other (Option.some.inj (recorded.symm.trans owned))
  noOtherUpdates := by
    rintro call update payment next other paid rfl stepped
    exact other (Option.some.inj ((updateAgent_owner paid stepped).symm.trans owned))

/-! ## Synchronising -/

/-- After a holder has synchronised an agent, it governs the agent exactly if it was the
recorded owner before. -/
theorem synced_governs_iff {payment : Payment} {steps : List Step}
    (trace : Trace (step chain) (fun _ _ => True) init steps w)
    (paid : call.esdtTransfers = [payment])
    (stepped : step chain w (.syncOwnership call) = .ok next) :
    Governs chain next payment.nonce call.caller ↔
      w.agents.getValue payment.nonce = some call.caller := by
  obtain ⟨shown, synced⟩ := syncOwnership_synced stepped
  obtain rfl := (List.cons.inj (paid.symm.trans synced.paid)).1
  have unchanged := synced.unchanged (run_orderly trace)
  have issued : next.agentTokenId = .issued payment.token :=
    synced.same.agentTokenId.trans synced.issued
  rw [← unchanged]
  constructor
  · intro governs
    exact governs.recorded
  · intro recorded
    exact governs_of_recorded issued recorded synced.returned

namespace Sample

def collection : TokenIdentifier := "AGENT-1a2b3c".toUTF8.toList

def alice : Address := .fill 21

def bob : Address := .fill 22

def agentCall (caller : Address) (transfers : List Payment) : CallContext :=
  { caller := caller
    egldValue := 0
    esdtTransfers := transfers
    blockTimestamp := 1000
    blockRound := 1
    blockRandomSeed := []
    gasLeft := 1000 }

def profile : Profile := { name := [1], uri := [2], publicKey := alice.val }

def registration : List Step :=
  [.issueToken (agentCall (.fill 2) []), .issueCallback (some collection),
    .registerAgent (agentCall alice []) profile [] []]

def sale : List Step := registration ++ [.transferNft alice bob 1]

def shows (holder : Address) : CallContext := agentCall holder [⟨collection, 1, 1⟩]

end Sample

theorem synced_governs_iff_sample :
    ∃ w next, Trace (step sampleChain) (fun _ _ => True) init Sample.registration w ∧
      step sampleChain w (.syncOwnership (Sample.shows Sample.alice)) = .ok next ∧
      Governs sampleChain next 1 Sample.alice := by
  obtain ⟨w, trace, recorded, synced⟩ := Trace.of_runChecked (step sampleChain) (fun _ _ => True)
    init Sample.registration (fun w => w.agents.getValue 1 = some Sample.alice ∧
      endsIn (fun _ => True) (step sampleChain w (.syncOwnership (Sample.shows Sample.alice))) = true)
    (by decide +kernel)
  obtain ⟨next, stepped, _⟩ := endsIn_iff.mp synced
  exact ⟨w, next, trace, stepped, (synced_governs_iff trace rfl stepped).mpr recorded⟩

/-- Bob has bought the NFT and synchronised it, and still Alice is the recorded owner, whose
calls are accepted while Bob's are not. -/
theorem seller_still_governs :
    ∃ final, Trace (step sampleChain) (fun _ _ => True) init
        (Sample.sale ++ [.syncOwnership (Sample.shows Sample.bob)]) final ∧
      final.holder 1 = some Sample.bob ∧ final.agents.getValue 1 = some Sample.alice ∧
      endsIn (fun _ => True) (step sampleChain final
        (.own (Sample.agentCall Sample.alice []) 1 (.setMetadata [⟨[7], [8]⟩]))) = true ∧
      endsIn (fun _ => True) (step sampleChain final
        (.own (Sample.agentCall Sample.bob []) 1 (.setMetadata [⟨[7], [8]⟩]))) = false :=
  Trace.of_runChecked _ _ _ _ _ (by decide +kernel)

end XCron.Agents.Identity
