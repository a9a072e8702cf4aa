import XCron.Scheduler.Exchange

/-!
# Backing of pending intents

An intent records the identifier and the amount of the token it locks, and is
paid out as nonce zero. Whatever the endpoints do, the balances of nonce zero
cover what the pending intents lock, so that their owners can take it back.
-/

namespace XCron.Scheduler

open Platform

variable {chain : Chain} {w next : World} {move : Step}

/-! ## Token balances -/

/-- The amount of a token in a list of payments, whatever their nonces. -/
def paymentsOf (token : TokenIdentifier) (payments : List EsdtPayment) : Nat :=
  ((payments.filter fun payment => payment.token = token).map EsdtPayment.amount).sum

theorem paymentsOf_cons (token : TokenIdentifier) (payment : EsdtPayment)
    (payments : List EsdtPayment) : paymentsOf token (payment :: payments) =
      (if payment.token = token then payment.amount else 0) + paymentsOf token payments := by
  by_cases same : payment.token = token <;> simp [paymentsOf, same]

/-- The amount of a token with nonce zero in a list of payments. -/
def fungiblePaymentsOf (token : TokenIdentifier) (payments : List EsdtPayment) : Nat :=
  ((payments.filter fun payment => payment.token = token ∧ payment.nonce = 0).map
    EsdtPayment.amount).sum

theorem fungiblePaymentsOf_eq (token : TokenIdentifier) {payments : List EsdtPayment}
    (genuine : ∀ payment ∈ payments, payment.Genuine chain) :
    fungiblePaymentsOf token payments =
      if chain.fungible token then paymentsOf token payments else 0 := by
  induction payments with
  | nil => simp [fungiblePaymentsOf, paymentsOf]
  | cons payment payments inductionHypothesis =>
      have tail := inductionHypothesis fun other membership =>
        genuine other (List.mem_cons_of_mem payment membership)
      have head := (genuine payment List.mem_cons_self).2
      unfold fungiblePaymentsOf paymentsOf at tail ⊢
      by_cases same : payment.token = token
      · subst same
        by_cases fungible : chain.fungible payment.token = true
        · simp only [fungible, if_true] at tail ⊢
          simpa [head.mpr fungible] using tail
        · have nonce : payment.nonce ≠ 0 := fun zero => fungible (head.mp zero)
          simp only [fungible] at tail ⊢
          simpa [nonce] using tail
      · simpa [same] using tail

theorem payEsdt_esdt_le (chain : Chain) (token : TokenIdentifier) (nonce : Nat)
    (receiver : Address) (tokenIn : TokenIdentifier) (amount : Nat) (w : World) :
    (w.payEsdt chain receiver tokenIn 0 amount).esdt token nonce ≤ w.esdt token nonce := by
  simp only [World.payEsdt]
  split
  next matching =>
    obtain ⟨rfl, rfl, _⟩ := matching
    omega
  · exact Nat.le_refl _

theorem le_payEsdt_esdt (chain : Chain) (token : TokenIdentifier) (receiver : Address)
    (tokenIn : TokenIdentifier) (amount : Nat) (w : World) :
    w.esdt token 0 ≤ (w.payEsdt chain receiver tokenIn 0 amount).esdt token 0 +
      if tokenIn = token then amount else 0 := by
  simp only [World.payEsdt]
  split
  next matching =>
    obtain ⟨rfl, _, _⟩ := matching
    simp only [if_true]
    omega
  · omega

theorem delivered_esdt_le (chain : Chain) (token : TokenIdentifier) (nonce : Nat) (owner : Address)
    (payments : List EsdtPayment) (w : World) :
    (w.delivered chain owner payments).esdt token nonce ≤ w.esdt token nonce := by
  induction payments generalizing w with
  | nil => exact Nat.le_refl _
  | cons payment payments inductionHypothesis =>
      apply Nat.le_trans (inductionHypothesis _)
      exact payEsdt_esdt_le chain token nonce owner payment.token payment.amount w

theorem le_delivered_esdt (chain : Chain) (token : TokenIdentifier) (owner : Address)
    (payments : List EsdtPayment) (w : World) : w.esdt token 0 ≤
      (w.delivered chain owner payments).esdt token 0 + paymentsOf token payments := by
  induction payments generalizing w with
  | nil => exact Nat.le_refl _
  | cons payment payments inductionHypothesis =>
      have tail := inductionHypothesis (w.payEsdt chain owner payment.token 0 payment.amount)
      have head := le_payEsdt_esdt chain token owner payment.token payment.amount w
      rw [World.delivered, paymentsOf_cons]
      omega

theorem credit_esdt (token : TokenIdentifier) {call : CallContext}
    (delivered : call.Delivered chain) :
    (w.credit call).esdt token 0 = w.esdt token 0 +
      if chain.fungible token then paymentsOf token call.esdtTransfers else 0 := by
  rw [← fungiblePaymentsOf_eq token delivered.2.1]
  rfl

/-! ## What pending intents lock -/

def locks {Terms : Type} (token : TokenIdentifier) (intent : IntentRecord Terms) : Nat :=
  if intent.tokenIn = token then intent.amountIn else 0

/-- The sum of `amount_in` over the pending intents that lock a token. -/
def pendingDeposits (token : TokenIdentifier) (w : World) : Nat :=
  w.intents.pendingTotal (locks token) + w.multiIntents.pendingTotal (locks token) +
    w.preCognitiveIntents.pendingTotal (locks token)

theorem pendingTotal_le_pendingDeposits (token : TokenIdentifier) (family : Family) (w : World) :
    (family.book w).pendingTotal (locks token) ≤ pendingDeposits token w := by
  unfold pendingDeposits
  cases family <;> simp only [Family.book] <;> omega

theorem pendingDeposits_of_others (token : TokenIdentifier) {family : Family}
    (others : ∀ other, other ≠ family → other.book next = other.book w) :
    pendingDeposits token next + (family.book w).pendingTotal (locks token) =
      pendingDeposits token w + (family.book next).pendingTotal (locks token) := by
  have first := others .intents
  have second := others .multiIntents
  have third := others .preCognitiveIntents
  unfold pendingDeposits
  cases family <;> simp [Family.book] at first second third ⊢ <;> simp [*] <;> omega

/-- An intent in the book of a family, still pending. -/
def Holds (w : World) (family : Family) (id : Nat) (intent : IntentRecord family.Terms) : Prop :=
  (family.book w).byId.get? id = some intent ∧ intent.status = .pending

/-- Every token covers what the pending intents lock of it, and a token that is
not fungible is never there with nonce zero. -/
structure Reserves (chain : Chain) (w : World) : Prop where
  backed : ∀ token, pendingDeposits token w ≤ w.esdt token 0
  absent : ∀ token, chain.fungible token = false → w.esdt token 0 = 0

theorem pendingDeposits_of_books (token : TokenIdentifier)
    (books : ∀ family : Family, family.book next = family.book w) :
    pendingDeposits token next = pendingDeposits token w := by
  have first := books .intents
  have second := books .multiIntents
  have third := books .preCognitiveIntents
  simp only [Family.book] at first second third
  unfold pendingDeposits
  rw [first, second, third]

/-- Every step keeps the deposits backed. A token that is not fungible is locked
by no intent, and no step changes that. -/
theorem Reserves.backed_step (reserves : Reserves chain w) (stepped : step chain w move = .ok next)
    (token : TokenIdentifier) : pendingDeposits token next ≤ next.esdt token 0 := by
  have backed := reserves.backed token
  cases step_intentEffect stepped with
  | cancelled family call id intent _ found _ pending _ book others _ balances =>
      have moved := pendingDeposits_of_others token others
      have released := IntentBook.pendingTotal_cancel (locks token) found pending
      have paid := le_payEsdt_esdt chain token call.caller intent.tokenIn
        intent.amountIn w
      rw [← book] at released
      unfold locks at released moved
      rw [balances]
      omega
  | settled family call id intent _ delivered _ found pending _ _ _ _ book others _ balances =>
      have moved := pendingDeposits_of_others token others
      have released := IntentBook.pendingTotal_settle (locks token) call.caller found pending
      have credited := credit_esdt (w := w) token delivered
      have handed := le_delivered_esdt chain token intent.owner call.esdtTransfers
        (w.credit call)
      have paid := le_payEsdt_esdt chain token call.caller intent.tokenIn
        intent.amountIn ((w.credit call).delivered chain intent.owner call.esdtTransfers)
      rw [← book] at released
      rw [balances]
      cases fungible : chain.fungible token with
      | true =>
          rw [fungible] at credited
          simp only [if_true] at credited
          unfold locks at released moved
          omega
      | false =>
          have absent := reserves.absent token fungible
          omega
  | untouched payments _ books _ balances =>
      rw [pendingDeposits_of_books token books, balances]
      exact Nat.le_trans backed (Nat.le_add_right _ _)

/-- No step brings a token that is not fungible in with nonce zero. -/
theorem Reserves.absent_step (reserves : Reserves chain w) (stepped : step chain w move = .ok next)
    {token : TokenIdentifier} (unique : chain.fungible token = false) : next.esdt token 0 = 0 := by
  have absent := reserves.absent token unique
  cases step_intentEffect stepped with
  | cancelled family call id intent _ found _ pending _ book others _ balances =>
      have paid := payEsdt_esdt_le chain token 0 call.caller intent.tokenIn
        intent.amountIn w
      rw [balances]
      omega
  | settled family call id intent _ delivered _ found pending _ _ _ _ book others _ balances =>
      have credited := credit_esdt (w := w) token delivered
      have handed := delivered_esdt_le chain token 0 intent.owner call.esdtTransfers
        (w.credit call)
      have paid := payEsdt_esdt_le chain token 0 call.caller intent.tokenIn
        intent.amountIn ((w.credit call).delivered chain intent.owner call.esdtTransfers)
      rw [unique] at credited
      simp only [Bool.false_eq_true, if_false] at credited
      rw [balances]
      omega
  | untouched payments _ _ genuine balances =>
      have nothing := fungiblePaymentsOf_eq token genuine
      rw [unique] at nothing
      rw [balances, absent, Nat.zero_add]
      exact nothing

theorem Reserves.step (reserves : Reserves chain w) (stepped : step chain w move = .ok next) :
    Reserves chain next :=
  ⟨reserves.backed_step stepped, fun _ => reserves.absent_step stepped⟩

theorem Deployed.reserves (started : Deployed w) : Reserves chain w := by
  obtain ⟨_, _, _, _, _, _, rfl⟩ := started.eq
  exact ⟨fun _ => Nat.le_refl 0, fun _ _ => rfl⟩

theorem book_nonce_run {w₀ : World} {steps : List Step} {allowed : World → Step → Prop}
    (family : Family) (trace : Trace (Scheduler.step chain) allowed w₀ steps w) :
    (family.book w).nonce = (family.book w₀).nonce := by
  refine trace.preserves (fun w => (family.book w).nonce = (family.book w₀).nonce) ?_ rfl
  intro w move next _ same stepped
  rw [← same]
  cases step_bookMove family stepped with
  | closed _ _ _ _ _ _ _ book => rw [book]
  | kept _ book => rw [book]

/-- Since no call creates an intent, a deployment never comes to hold one. -/
theorem Deployed.holds_nothing {w₀ : World} {steps : List Step} {allowed : World → Step → Prop}
    (started : Deployed w₀) (trace : Trace (Scheduler.step chain) allowed w₀ steps w)
    {family : Family} {id : Nat} {intent : IntentRecord family.Terms} :
    ¬Holds w family id intent := by
  intro held
  have numbered := numbered_run (started.numbered family) trace
  have within := (numbered.present id).mp ⟨intent, held.1⟩
  have none : (family.book w₀).nonce = 0 := by
    obtain ⟨_, _, _, _, _, _, rfl⟩ := started.eq
    cases family <;> rfl
  have same := book_nonce_run family trace
  omega

/-! ## Cancelling -/

def Family.cancelStep : Family → CallContext → Nat → Step
  | .intents, call, id => .cancelIntent call id
  | .multiIntents, call, id => .cancelMultiIntent call id
  | .preCognitiveIntents, call, id => .cancelPreCognitiveIntent call id

structure OwnerCall {Terms : Type} (chain : Chain) (call : CallContext)
    (intent : IntentRecord Terms) : Prop where
  delivered : call.Delivered chain
  byOwner : intent.owner = call.caller
  noEgld : call.egldValue = 0
  noEsdt : call.esdtTransfers = []

def Family.cancelEndpoint : Family → Chain → CallContext → Nat → World → Outcome World
  | .intents => cancelIntent
  | .multiIntents => cancelMultiIntent
  | .preCognitiveIntents => cancelPreCognitiveIntent

theorem step_cancelStep {Terms : Type} {intent : IntentRecord Terms} {call : CallContext}
    (owner : OwnerCall chain call intent) (family : Family) (id : Nat) :
    step chain w (family.cancelStep call id) = family.cancelEndpoint chain call id w := by
  have unchanged := credit_of_noValue w owner.noEgld owner.noEsdt
  have admitted : ensure (call.Delivered chain) = .ok () :=
    (Outcome.ensure_eq_ok _ _).mpr owner.delivered
  have unpaid : call.notPayable = .ok () := notPayable_eq_ok.mpr ⟨owner.noEgld, owner.noEsdt⟩
  cases family <;>
    simp only [Family.cancelStep, step, Step.call?, body, admitted, unpaid, unchanged] <;> rfl

theorem cancelStep_succeeds_iff {family : Family} {id : Nat} {intent : IntentRecord family.Terms}
    {call : CallContext} (held : Holds w family id intent) (owner : OwnerCall chain call intent) :
    (∃ next, step chain w (family.cancelStep call id) = .ok next) ↔
      intent.amountIn ≤ w.esdt intent.tokenIn 0 ∧ intent.fee ≤ w.egld := by
  obtain ⟨found, pending⟩ := held
  rw [step_cancelStep owner]
  constructor
  · rintro ⟨next, cancelled⟩
    cases family with
    | intents =>
        obtain ⟨_, found', _, _, covered, affordable, _⟩ := cancelIntent_eq_ok.mp cancelled
        obtain rfl := Option.some.inj (found.symm.trans found')
        exact ⟨covered, affordable⟩
    | multiIntents =>
        obtain ⟨_, found', _, _, covered, affordable, _⟩ := cancelMultiIntent_eq_ok.mp cancelled
        obtain rfl := Option.some.inj (found.symm.trans found')
        exact ⟨covered, affordable⟩
    | preCognitiveIntents =>
        obtain ⟨_, found', _, _, covered, affordable, _⟩ :=
          cancelPreCognitiveIntent_eq_ok.mp cancelled
        obtain rfl := Option.some.inj (found.symm.trans found')
        exact ⟨covered, affordable⟩
  · rintro ⟨covered, affordable⟩
    cases family with
    | intents => exact ⟨_, cancelIntent_eq_ok.mpr
        ⟨intent, found, owner.byOwner, pending, covered, affordable, rfl⟩⟩
    | multiIntents => exact ⟨_, cancelMultiIntent_eq_ok.mpr
        ⟨intent, found, owner.byOwner, pending, covered, affordable, rfl⟩⟩
    | preCognitiveIntents => exact ⟨_, cancelPreCognitiveIntent_eq_ok.mpr
        ⟨intent, found, owner.byOwner, pending, covered, affordable, rfl⟩⟩

theorem Reserves.covers (reserves : Reserves chain w) {family : Family} {id : Nat}
    {intent : IntentRecord family.Terms} (held : Holds w family id intent) :
    intent.amountIn ≤ w.esdt intent.tokenIn 0 := by
  have backed := reserves.backed intent.tokenIn
  have locked := IntentBook.weight_le_pendingTotal (locks intent.tokenIn) held.1 held.2
  have share := pendingTotal_le_pendingDeposits intent.tokenIn family w
  simp only [locks, if_true] at locked share
  omega

theorem Solvent.intentFee_le (solvent : Solvent w) {family : Family} {id : Nat}
    {intent : IntentRecord family.Terms} (held : Holds w family id intent) :
    intent.fee ≤ w.egld := by
  refine solvent.fee_le ?_ held.1 held.2
  unfold intentFees
  cases family <;> simp only [Family.book] <;> omega

/-- In every run from a deployment, or from a scheduler whose pending intents are
covered: every token covers the pending intents that lock it; after a deployment
the owner of a pending intent can always cancel it, and otherwise exactly if the
balance covers its fee; and in plain runs of a sound scheduler the balance always
does. -/
theorem intents_backed {w₀ : World} {steps : List Step} (started : Deployed w₀ ∨ Reserves chain w₀)
    (trace : Trace (step chain) (fun _ _ => True) w₀ steps w) :
    (∀ token, pendingDeposits token w ≤ w.esdt token 0) ∧
      (Deployed w₀ → ∀ family id intent call, Holds w family id intent →
        OwnerCall chain call intent → ∃ next, step chain w (family.cancelStep call id) = .ok next) ∧
      (∀ family id intent call, Holds w family id intent → OwnerCall chain call intent →
        ((∃ next, step chain w (family.cancelStep call id) = .ok next) ↔ intent.fee ≤ w.egld)) ∧
      (Sound w₀ → Trace (step chain) (Plain chain) w₀ steps w →
        ∀ family id intent, Holds w family id intent → intent.fee ≤ w.egld) := by
  have start : Reserves chain w₀ := by
    rcases started with deployed | reserves
    · exact deployed.reserves
    · exact reserves
  have reserves : Reserves chain w :=
    trace.preserves (Reserves chain) (fun _ _ _ _ reserves stepped => reserves.step stepped) start
  refine ⟨reserves.backed, ?_, ?_, ?_⟩
  · intro deployed family id intent call held _
    exact absurd held (deployed.holds_nothing trace)
  · intro family id intent call held owner
    rw [cancelStep_succeeds_iff held owner, and_iff_right (reserves.covers held)]
  · intro sound plain family id intent held
    exact (sound.run plain).solvent.intentFee_le held

namespace Sample

def aliceAsks : CallContext := Sample.call alice 0 1000

theorem upgradedWorld_reserves : Reserves sampleChain upgradedWorld := by
  constructor
  · intro token
    have locked : pendingDeposits token upgradedWorld = locks token pendingIntent :=
      Cells.total_set_of_none (fun intent : Intent =>
        if intent.status = .pending then locks token intent else 0) pendingIntent
        (Cells.get?_empty 1)
    rw [locked]
    unfold locks
    split
    next same => simp [upgradedWorld, pendingIntent, ← same]
    next => exact Nat.zero_le _
  · intro token unique
    have other : token ≠ [70] := by
      rintro rfl
      simp [sampleChain] at unique
    simp [upgradedWorld, other]

end Sample

/-- Alice gets the deposit of the intent back that was pending when the scheduler
was upgraded. -/
theorem intents_backed_sample :
    ∃ w next, Trace (step sampleChain) (fun _ _ => True) Sample.upgradedWorld [Sample.admitKeeper] w ∧
      pendingDeposits [70] w = 100 ∧ (∀ token, pendingDeposits token w ≤ w.esdt token 0) ∧
      step sampleChain w (.cancelIntent Sample.aliceAsks 1) = .ok next := by
  obtain ⟨w, trace, found, locked, fee⟩ := Trace.of_runChecked (step sampleChain) (fun _ _ => True)
    Sample.upgradedWorld [Sample.admitKeeper]
    (fun w => w.intents.byId.get? 1 = some Sample.pendingIntent ∧ pendingDeposits [70] w = 100 ∧
      w.egld = 5) (by decide +kernel)
  obtain ⟨backed, _, cancels, _⟩ := intents_backed (.inr Sample.upgradedWorld_reserves) trace
  have owner : OwnerCall sampleChain Sample.aliceAsks Sample.pendingIntent :=
    ⟨by decide, rfl, rfl, rfl⟩
  have held : Holds w .intents 1 Sample.pendingIntent := ⟨found, rfl⟩
  obtain ⟨next, cancelled⟩ := (cancels .intents 1 _ _ held owner).mpr (Nat.le_of_eq fee.symm)
  exact ⟨w, next, trace, locked, backed, cancelled⟩

end XCron.Scheduler
