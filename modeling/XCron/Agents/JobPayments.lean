import XCron.Agents.Verification
import XCron.Platform.Holdings

/-!
# What comes with a job

`init_job` takes any payment and passes one on only inside two optional branches: a
service must be named, and it must be configured for the agent. The contract has no
endpoint that pays out what it holds.
-/

namespace XCron.Agents.Validation

open Platform

def Step.call : Step → CallContext
  | .initJob _ call _ _ _ _ | .submitProof _ call _ _ | .submitProofWithNft _ call _ _
  | .validationRequest _ call _ _ _ _ | .validationResponse call _ _ _ _ _
  | .cleanOldJobs call _ _ | .configure call _ => call

variable {chain : Chain} {registries : Registries} {call : CallContext} {now : UInt64}
  {jobId : Bytes} {agentNonce : Nat} {serviceId : Option UInt32} {w next : World} {move : Step}

/-! ## What the contract holds -/

def transfersOf (w next : World) : List Transfer := next.sent.drop w.sent.length

def leaving (chain : Chain) (w next : World) : List Payment :=
  ((transfersOf w next).filter fun transfer => transfer.receiver ≠ chain.scAddress).map
    Transfer.payment

/-- What the contract holds after a step: the payments of the call come in before it runs,
and what it sends to others goes out. -/
def heldAfter (chain : Chain) (call : CallContext) (w next : World) (held : Holdings) : Holdings :=
  fun token nonce =>
    held.credit (payments call) token nonce - received (leaving chain w next) token nonce

def heldAlong (chain : Chain) : World → Holdings → List Step → Holdings
  | _, held, [] => held
  | w, held, move :: rest =>
      match step chain w move with
      | .ok next => heldAlong chain next (heldAfter chain move.call w next held) rest
      | .error _ => held

/-! ## What is asked of a job -/

/-- The price that the agent has configured for the service of a job, if one is named. -/
def World.priceOf (registries : Registries) (agentNonce : Nat) (serviceId : Option UInt32)
    (w : World) : Option Payment :=
  serviceId.bind fun id => ((w.identity registries).agentServiceConfig agentNonce).get? id

/-- Everything that is paid goes to the registered owner of the agent, nothing stays behind,
and a configured service is started with at least its price. -/
structure NothingTrapped (chain : Chain) (registries : Registries) (call : CallContext)
    (agentNonce : Nat) (serviceId : Option UInt32) (w next : World) : Prop where
  forwarded : ∀ transfer ∈ transfersOf w next,
    (w.identity registries).agents.getValue agentNonce = some transfer.receiver
  kept : ∀ held, heldAfter chain call w next held = held
  priced : ∀ price, w.priceOf registries agentNonce serviceId = some price →
    price.amount ≤ received (payments call) price.token price.nonce

/-- Nothing is paid, or a service is named that the agent has configured, and the agent is
not owned by the contract itself. -/
def Forwards (chain : Chain) (registries : Registries) (call : CallContext) (agentNonce : Nat)
    (serviceId : Option UInt32) (w : World) : Prop :=
  payments call = [] ∨
    (w.priceOf registries agentNonce serviceId).isSome = true ∧
      (w.identity registries).agents.getValue agentNonce ≠ some chain.scAddress

instance : Decidable (Forwards chain registries call agentNonce serviceId w) :=
  have : Decidable (payments call = []) := instDecidableEqList _ _
  inferInstanceAs (Decidable (_ ∨ _ ∧ _))

/-! ## What a step sends -/

theorem payments_positive (delivered : call.Delivered chain) {payment : Payment}
    (member : payment ∈ payments call) : 0 < payment.amount := by
  rcases List.mem_append.mp member with egld | esdt
  · split at egld
    next => cases egld
    next attached =>
      obtain rfl := List.mem_singleton.mp egld
      exact Nat.pos_of_ne_zero attached
  · exact (delivered.2.1 payment esdt).1

theorem transfersOf_same (same : next.sent = w.sent) : transfersOf w next = [] := by
  rw [transfersOf, same, List.drop_length]

theorem transfersOf_append {transfers : List Transfer} (sent : next.sent = w.sent ++ transfers) :
    transfersOf w next = transfers := by
  rw [transfersOf, sent, List.drop_left]

/-- How a job is paid for. -/
inductive PaidFor (registries : Registries) (call : CallContext) (agentNonce : Nat)
    (serviceId : Option UInt32) (w next : World) : Prop where
  | unasked : w.priceOf registries agentNonce serviceId = none → next.sent = w.sent →
      PaidFor registries call agentNonce serviceId w next
  | free {price : Payment} : w.priceOf registries agentNonce serviceId = some price →
      payments call = [] → price.amount = 0 → next.sent = w.sent →
      PaidFor registries call agentNonce serviceId w next
  | forwarded {price payment : Payment} {owner : Address} :
      w.priceOf registries agentNonce serviceId = some price →
      (w.identity registries).agents.getValue agentNonce = some owner →
      payments call = [payment] → payment.token = price.token → payment.nonce = price.nonce →
      price.amount ≤ payment.amount → next.sent = w.sent ++ [⟨owner, payment⟩] →
      PaidFor registries call agentNonce serviceId w next

theorem singleOptional_eq_ok {optional : Option Payment} :
    singleOptional call = .ok optional ↔ payments call = optional.toList := by
  unfold singleOptional
  split
  next none => cases optional <;> simp [none]
  next payment one => cases optional <;> simp [one]
  next many none one =>
    cases optional with
    | none => simpa using none
    | some payment => simpa using one payment

theorem initJob_paidFor
    (stepped : step chain w (.initJob registries call now jobId agentNonce serviceId) = .ok next) :
    PaidFor registries call agentNonce serviceId w next := by
  simp only [step, initJob, Outcome.bind_eq_ok, Outcome.ensure_eq_ok] at stepped
  obtain ⟨_, delivered, _, _, stepped⟩ := stepped
  cases serviceId with
  | none =>
      simp only [Outcome.pure_eq_ok] at stepped
      subst stepped
      exact .unasked rfl rfl
  | some id =>
      simp only [Outcome.bind_eq_ok, Outcome.load_eq_ok] at stepped
      obtain ⟨owner, owned, stepped⟩ := stepped
      split at stepped
      next price configured =>
        simp only [payService, Outcome.bind_eq_ok, singleOptional_eq_ok] at stepped
        obtain ⟨optional, attached, stepped⟩ := stepped
        cases optional with
        | none =>
            simp only [Outcome.bind_eq_ok, Outcome.require_eq_ok, Outcome.pure_eq_ok] at stepped
            obtain ⟨_, costless, rfl⟩ := stepped
            exact .free configured attached costless rfl
        | some payment =>
            simp only [Outcome.bind_eq_ok, Outcome.require_eq_ok, Outcome.pure_eq_ok] at stepped
            obtain ⟨_, ⟨token, nonce⟩, _, covered, rfl⟩ := stepped
            have positive : 0 < payment.amount := by
              apply payments_positive delivered
              rw [attached]
              exact List.mem_singleton_self payment
            rw [if_pos positive]
            exact .forwarded configured owned attached token nonce covered rfl
      next unknown =>
        simp only [Outcome.pure_eq_ok] at stepped
        subst stepped
        exact .unasked unknown rfl

/-! ## Jobs -/

theorem heldAfter_silent (same : next.sent = w.sent) (held : Holdings) :
    heldAfter chain call w next held = held.credit (payments call) := by
  funext token nonce
  rw [heldAfter, leaving, transfersOf_same same]
  rfl

theorem credit_ne {paid : List Payment} {payment : Payment} (member : payment ∈ paid)
    (positive : 0 < payment.amount) (held : Holdings) : held.credit paid ≠ held := by
  intro same
  have more := congrFun (congrFun same payment.token) payment.nonce
  have least := amount_le_received member
  rw [Holdings.credit] at more
  omega

theorem kept_of_silent (delivered : call.Delivered chain) (same : next.sent = w.sent) :
    (∀ held, heldAfter chain call w next held = held) ↔ payments call = [] := by
  constructor
  · intro kept
    by_contra some
    obtain ⟨payment, member⟩ := List.exists_mem_of_ne_nil _ some
    have unchanged := kept .empty
    rw [heldAfter_silent same] at unchanged
    exact credit_ne member (payments_positive delivered member) _ unchanged
  · intro none held
    rw [heldAfter_silent same, none]
    rfl

theorem heldAfter_forwarded {owner : Address} {payment : Payment}
    (attached : payments call = [payment]) (sent : next.sent = w.sent ++ [⟨owner, payment⟩])
    (held : Holdings) :
    heldAfter chain call w next held =
      if owner = chain.scAddress then held.credit [payment] else held := by
  have transfers := transfersOf_append sent
  funext token nonce
  rw [heldAfter, leaving, transfers, attached]
  split
  next itself => simp [itself, received]
  next other =>
    have leaves : ([⟨owner, payment⟩] : List Transfer).filter
        (fun transfer => transfer.receiver ≠ chain.scAddress) = [⟨owner, payment⟩] := by
      simp [other]
    rw [leaves, List.map_singleton, Holdings.credit, Nat.add_sub_cancel]

/-- A job leaves the holdings of the contract as they were, and its payment with the owner
of the agent, exactly if nothing is paid or a configured service is named. -/
theorem job_payment_forwarded_iff
    (opened : step chain w (.initJob registries call now jobId agentNonce serviceId) = .ok next) :
    NothingTrapped chain registries call agentNonce serviceId w next ↔
      Forwards chain registries call agentNonce serviceId w := by
  have delivered : call.Delivered chain := by
    simp only [step, Outcome.bind_eq_ok, Outcome.ensure_eq_ok] at opened
    obtain ⟨_, delivered, _⟩ := opened
    exact delivered
  cases initJob_paidFor opened with
  | unasked unpriced same =>
      constructor
      · intro clean
        exact .inl ((kept_of_silent delivered same).mp clean.kept)
      · rintro (none | ⟨priced, _⟩)
        · refine ⟨?_, (kept_of_silent delivered same).mpr none, ?_⟩
          · rw [transfersOf_same same]
            rintro _ ⟨⟩
          · rw [unpriced]
            rintro _ ⟨⟩
        · rw [unpriced] at priced
          cases priced
  | free priced none costless same =>
      refine iff_of_true ⟨?_, (kept_of_silent delivered same).mpr none, ?_⟩ (.inl none)
      · rw [transfersOf_same same]
        rintro _ ⟨⟩
      · intro price priced'
        obtain rfl := Option.some.inj (priced.symm.trans priced')
        omega
  | @forwarded price payment owner priced owned attached token nonce covered sent =>
      have member : payment ∈ [payment] := List.mem_singleton_self payment
      have positive : 0 < payment.amount := by
        apply payments_positive delivered
        rw [attached]
        exact member
      constructor
      · intro clean
        refine .inr ⟨by rw [priced]; rfl, ?_⟩
        rw [owned]
        intro itself
        have unchanged := clean.kept .empty
        rw [heldAfter_forwarded attached sent, if_pos (Option.some.inj itself)] at unchanged
        exact credit_ne member positive _ unchanged
      · rintro (none | ⟨_, others⟩)
        · rw [attached] at none
          cases none
        · rw [owned] at others
          have other : owner ≠ chain.scAddress := fun same => others (congrArg some same)
          refine ⟨?_, ?_, ?_⟩
          · rw [transfersOf_append sent]
            intro transfer only
            obtain rfl := List.mem_singleton.mp only
            exact owned
          · intro held
            rw [heldAfter_forwarded attached sent, if_neg other]
          · intro price' priced'
            obtain rfl := Option.some.inj (priced.symm.trans priced')
            rw [attached, ← token, ← nonce]
            exact covered.trans (amount_le_received member)

/-! ## Runs -/

theorem sends_some (stepped : step chain w move = .ok next) :
    ∃ transfers, next.sent = w.sent ++ transfers ∧
      (transfers.map Transfer.payment).Sublist (payments move.call) := by
  have silent (same : next.sent = w.sent) : ∃ transfers, next.sent = w.sent ++ transfers ∧
      (transfers.map Transfer.payment).Sublist (payments move.call) :=
    ⟨[], by rw [same, List.append_nil], List.nil_sublist _⟩
  cases move with
  | initJob registries call now jobId agentNonce serviceId =>
      cases initJob_paidFor stepped with
      | unasked _ same => exact silent same
      | free _ _ _ same => exact silent same
      | forwarded _ _ attached _ _ _ sent =>
          refine ⟨_, sent, ?_⟩
          rw [Step.call, attached]
          exact List.Sublist.refl _
  | submitProofWithNft registries call jobId proof =>
      simp only [step, submitProofWithNft, Outcome.bind_eq_ok, singleEsdt_eq_ok,
        Outcome.pure_eq_ok] at stepped
      obtain ⟨_, _, _, _, payment, attached, _, _, _, _, _, _, rfl⟩ := stepped
      refine ⟨[⟨call.caller, payment⟩], rfl, ?_⟩
      rw [Step.call, payments, attached]
      exact List.sublist_append_right _ _
  | submitProof registries call jobId proof =>
      simp only [step, submitProof, Outcome.bind_eq_ok, Outcome.pure_eq_ok] at stepped
      obtain ⟨_, _, _, _, _, _, _, _, _, _, _, _, rfl⟩ := stepped
      exact silent rfl
  | validationRequest registries call jobId validatorAddress requestUri requestHash =>
      simp only [step, validationRequest, Outcome.bind_eq_ok, Outcome.pure_eq_ok] at stepped
      obtain ⟨_, _, _, _, _, _, _, _, _, _, _, _, rfl⟩ := stepped
      exact silent rfl
  | validationResponse call requestHash response responseUri responseHash tag =>
      simp only [step, validationResponse, Outcome.bind_eq_ok] at stepped
      obtain ⟨_, _, _, _, stepped⟩ := stepped
      split at stepped
      next => cases stepped
      next data _ =>
        simp only [Outcome.bind_eq_ok, Outcome.pure_eq_ok] at stepped
        obtain ⟨_, _, rfl⟩ := stepped
        exact silent rfl
  | cleanOldJobs call now jobIds =>
      simp only [step, Outcome.bind_eq_ok, Outcome.pure_eq_ok] at stepped
      obtain ⟨_, _, _, _, rfl⟩ := stepped
      exact silent rfl
  | configure call change =>
      simp only [step, Outcome.bind_eq_ok, Outcome.pure_eq_ok] at stepped
      obtain ⟨_, _, _, _, _, _, rfl⟩ := stepped
      cases change <;> exact silent rfl

theorem held_le_heldAfter (stepped : step chain w move = .ok next) (held : Holdings)
    (token : Bytes) (nonce : Nat) :
    held token nonce ≤ heldAfter chain move.call w next held token nonce := by
  obtain ⟨transfers, sent, some⟩ := sends_some stepped
  have left : (leaving chain w next).Sublist (payments move.call) := by
    rw [leaving, transfersOf_append sent]
    exact (List.filter_sublist.map _).trans some
  have bounded := received_le_of_sublist left token nonce
  rw [heldAfter, Holdings.credit]
  omega

/-- What the contract holds of a token never falls: whatever stays behind stays for good. -/
theorem held_grows {allowed : World → Step → Prop} {final : World} {steps : List Step}
    (trace : Trace (step chain) allowed w steps final) (held : Holdings) (token : Bytes)
    (nonce : Nat) : held token nonce ≤ heldAlong chain w held steps token nonce := by
  induction trace generalizing held with
  | nil => exact Nat.le_refl _
  | @cons w next final move rest _ stepped _ inductionHypothesis =>
      rw [heldAlong, stepped]
      exact (held_le_heldAfter stepped held token nonce).trans (inductionHypothesis _)

namespace Sample

def paying (amount : Nat) : CallContext := { Sample.call carol with egldValue := amount }

def pricedRegistries : Registries := fun _ =>
  { identity with agentServiceConfig := fun _ => Cells.empty.set 1 ⟨egldTokenId, 0, 300⟩ }

def paidJob (serviceId : Option UInt32) : Step :=
  .initJob pricedRegistries (paying 500) 1000 carolsJob 1 serviceId

end Sample

theorem job_payment_forwarded_iff_sample :
    ∃ next, step sampleChain (init (.fill 40)) (Sample.paidJob (some 1)) = .ok next ∧
      next.sent = [⟨Identity.Sample.alice, ⟨egldTokenId, 0, 500⟩⟩] ∧
      NothingTrapped sampleChain Sample.pricedRegistries (Sample.paying 500) 1 (some 1)
        (init (.fill 40)) next := by
  have succeeds : endsIn (fun next : World =>
      next.sent = [⟨Identity.Sample.alice, ⟨egldTokenId, 0, 500⟩⟩])
      (step sampleChain (init (.fill 40)) (Sample.paidJob (some 1))) = true := by
    decide +kernel
  obtain ⟨next, opened, sent⟩ := endsIn_iff.mp succeeds
  exact ⟨next, opened, sent, (job_payment_forwarded_iff opened).mpr (by decide +kernel)⟩

def Sample.Trapped (serviceId : Option UInt32) : Prop :=
  ∃ next, step sampleChain (init (.fill 40)) (paidJob serviceId) = .ok next ∧
    heldAfter sampleChain (paying 500) (init (.fill 40)) next .empty egldTokenId 0 = 500 ∧
    ¬NothingTrapped sampleChain pricedRegistries (paying 500) 1 serviceId (init (.fill 40)) next

theorem Sample.trapped {serviceId : Option UInt32}
    (ends : endsIn (fun next : World =>
        heldAfter sampleChain (paying 500) (init (.fill 40)) next .empty egldTokenId 0 = 500)
      (step sampleChain (init (.fill 40)) (paidJob serviceId)) = true) : Trapped serviceId := by
  obtain ⟨next, opened, held⟩ := endsIn_iff.mp ends
  refine ⟨next, opened, held, ?_⟩
  intro clean
  rw [clean.kept] at held
  cases held

/-- Carol names no service, or one that the agent does not offer. -/
theorem job_payment_trapped : Sample.Trapped none ∧ Sample.Trapped (some 2) :=
  ⟨Sample.trapped (by decide +kernel), Sample.trapped (by decide +kernel)⟩

end XCron.Agents.Validation
