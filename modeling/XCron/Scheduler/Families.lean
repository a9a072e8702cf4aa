import XCron.Scheduler.Effects

/-!
# The three intent families as one

`Intent`, `MultiIntent` and `PreCognitiveIntent` are kept in books of the same
shape. Seen through `Family`, a step does one of three things: it cancels or
settles an intent of one family, or it touches no book and no token except by
receiving some. Nothing creates an intent: a call that brings a token is stopped
by `egld()`, and one that brings none by the check for a token.
-/

namespace XCron.Scheduler

open Platform

variable {chain : Chain} {w next : World} {move : Step}

inductive Family where
  | intents
  | multiIntents
  | preCognitiveIntents
  deriving DecidableEq

namespace Family

abbrev Terms : Family → Type
  | .intents => MultiIntentOutcome
  | .multiIntents => List MultiIntentOutcome
  | .preCognitiveIntents => Bytes32

def book : (family : Family) → World → IntentBook family.Terms
  | .intents, w => w.intents
  | .multiIntents, w => w.multiIntents
  | .preCognitiveIntents, w => w.preCognitiveIntents

def creates : Family → Step → Bool
  | .intents, .createIntent _ _ _ _ _ => true
  | .multiIntents, .createMultiIntent _ _ _ _ => true
  | .preCognitiveIntents, .createPreCognitiveIntent _ _ _ _ => true
  | _, _ => false

def cancellation : Family → Step → Option (CallContext × Nat)
  | .intents, .cancelIntent call id => some (call, id)
  | .multiIntents, .cancelMultiIntent call id => some (call, id)
  | .preCognitiveIntents, .cancelPreCognitiveIntent call id => some (call, id)
  | _, _ => none

def settlement : Family → Step → Option (CallContext × Nat)
  | .intents, .solveIntent call id => some (call, id)
  | .multiIntents, .solveMultiIntent call id => some (call, id)
  | .preCognitiveIntents, .executePreCognitiveLeaf call id _ _ => some (call, id)
  | _, _ => none

/-- The outcomes that a settling step has to deliver under the given terms. A
pre-cognitive intent asks for the outcome of a leaf under its root. -/
def requested : (family : Family) → family.Terms → Step → List MultiIntentOutcome
  | .intents, terms, _ => [terms]
  | .multiIntents, terms, _ => terms
  | .preCognitiveIntents, _, .executePreCognitiveLeaf _ _ _ leaf =>
      [⟨leaf.expectedTokenOut, leaf.minReturn⟩]
  | .preCognitiveIntents, _, _ => []

def Approved (chain : Chain) : (family : Family) → family.Terms → Step → Prop
  | .preCognitiveIntents, root, .executePreCognitiveLeaf _ _ merkleProof leaf =>
      verifyMerkleProof chain (chain.sha256 leaf.preimage) merkleProof root = true
  | _, _, _ => True

def closes (family : Family) (id : Nat) (move : Step) : Bool :=
  (family.cancellation move).any (fun request => request.2 = id) ||
    (family.settlement move).any (fun request => request.2 = id)

end Family

/-- Everything a step can do to the intents and to the token balances. -/
inductive IntentEffect (chain : Chain) (w : World) (move : Step) (next : World) : Prop where
  | cancelled (family : Family) (call : CallContext) (id : Nat) (intent : IntentRecord family.Terms)
      (request : family.cancellation move = some (call, id))
      (found : (family.book w).byId.get? id = some intent)
      (owned : intent.owner = call.caller) (pending : intent.status = .pending)
      (covered : intent.amountIn ≤ w.esdt intent.tokenIn 0)
      (book : family.book next =
        { family.book w with byId := (family.book w).byId.set id intent.cancelled })
      (others : ∀ other, other ≠ family → other.book next = other.book w)
      (sent : next.sent = w.sent ++ depositTransfers call.caller intent)
      (balances : next.esdt =
        (w.payEsdt chain call.caller intent.tokenIn 0 intent.amountIn).esdt)
  | settled (family : Family) (call : CallContext) (id : Nat) (intent : IntentRecord family.Terms)
      (request : family.settlement move = some (call, id)) (delivered : call.Delivered chain)
      (keeper : call.caller ∈ w.config.whitelistedKeepers)
      (found : (family.book w).byId.get? id = some intent)
      (pending : intent.status = .pending) (timely : call.blockTimestamp ≤ intent.deadline)
      (approved : family.Approved chain intent.terms move)
      (met : List.Forall₂ MeetsOutcome (family.requested intent.terms move) call.esdtTransfers)
      (covered : intent.amountIn ≤
        ((w.credit call).delivered chain intent.owner call.esdtTransfers).esdt intent.tokenIn 0)
      (book : family.book next = (family.book w).settle id intent call.caller)
      (others : ∀ other, other ≠ family → other.book next = other.book w)
      (sent : next.sent = w.sent ++ deliveryTransfers intent.owner call.esdtTransfers ++
        depositTransfers call.caller intent)
      (balances : ∀ token nonce, next.esdt token nonce =
        (((w.credit call).delivered chain intent.owner call.esdtTransfers).payEsdt chain call.caller
          intent.tokenIn 0 intent.amountIn).esdt token nonce)
  | untouched (payments : List EsdtPayment)
      (idle : ∀ (family : Family) id, family.closes id move = false)
      (books : ∀ family : Family, family.book next = family.book w)
      (genuine : ∀ payment ∈ payments, payment.Genuine chain)
      (balances : ∀ token nonce, next.esdt token nonce = w.esdt token nonce +
        ((payments.filter fun payment => payment.token = token ∧ payment.nonce = nonce).map
          EsdtPayment.amount).sum)

section Frames

variable (family : Family)

@[simp]
theorem book_paidOut {Terms : Type} (receiver : Address) (intent : IntentRecord Terms) (w : World) :
    family.book (w.paidOut chain receiver intent) = family.book w := by
  cases family <;> rfl

@[simp]
theorem book_delivered (owner : Address) (payments : List EsdtPayment) (w : World) :
    family.book (w.delivered chain owner payments) = family.book w := by
  rw [World.delivered_eq]
  cases family <;> rfl

end Frames

def Step.concernsIntents : Step → Bool
  | .createIntent _ _ _ _ _ | .cancelIntent _ _ | .solveIntent _ _
  | .createMultiIntent _ _ _ _ | .cancelMultiIntent _ _ | .solveMultiIntent _ _
  | .createPreCognitiveIntent _ _ _ _ | .cancelPreCognitiveIntent _ _
  | .executePreCognitiveLeaf _ _ _ _ => true
  | _ => false

theorem Family.closes_eq_false (unconcerned : move.concernsIntents = false) (family : Family)
    (id : Nat) : family.closes id move = false := by
  cases move <;> first | (cases family <;> rfl) | cases unconcerned

theorem IntentEffect.of_same (unconcerned : move.concernsIntents = false)
    (intents : next.intents = w.intents) (multiIntents : next.multiIntents = w.multiIntents)
    (preCognitiveIntents : next.preCognitiveIntents = w.preCognitiveIntents)
    (balances : next.esdt = w.esdt) : IntentEffect chain w move next := by
  refine .untouched [] (Family.closes_eq_false unconcerned) ?_ (by simp) (by simp [balances])
  intro family
  cases family with
  | intents => exact intents
  | multiIntents => exact multiIntents
  | preCognitiveIntents => exact preCognitiveIntents

theorem IntentEffect.of_dispatched {d : Dispatch} {before : World}
    (unconcerned : move.concernsIntents = false) (dispatched : Dispatched chain d before next)
    (intents : before.intents = w.intents) (multiIntents : before.multiIntents = w.multiIntents)
    (preCognitiveIntents : before.preCognitiveIntents = w.preCognitiveIntents)
    (balances : before.esdt = w.esdt) : IntentEffect chain w move next := by
  rcases dispatched with ⟨_, _, rfl⟩ | ⟨_, rfl⟩ | rfl
  · exact .of_same unconcerned intents multiIntents preCognitiveIntents balances
  · exact .of_same unconcerned intents multiIntents preCognitiveIntents balances
  · exact .of_same unconcerned intents multiIntents preCognitiveIntents balances

theorem credit_esdt_of_noEsdt {call : CallContext} (w : World) (noEsdt : call.esdtTransfers = []) :
    (w.credit call).esdt = w.esdt := by
  simp [World.credit, noEsdt]

theorem IntentEffect.of_taken {call : CallContext} {requested : Option Nat} {deposit : Nat}
    {paid : World} (unconcerned : move.concernsIntents = false) (noEsdt : call.esdtTransfers = [])
    (taken : takeDeposit call requested (w.credit call) = .ok (deposit, paid))
    (intents : next.intents = paid.intents) (multiIntents : next.multiIntents = paid.multiIntents)
    (preCognitiveIntents : next.preCognitiveIntents = paid.preCognitiveIntents)
    (balances : next.esdt = paid.esdt) : IntentEffect chain w move next := by
  have nothing := credit_esdt_of_noEsdt w noEsdt
  rcases takeDeposit_cases taken with ⟨_, rfl⟩ | ⟨props, _, _, rfl⟩
  · exact .of_same unconcerned intents multiIntents preCognitiveIntents (balances.trans nothing)
  · exact .of_same unconcerned intents multiIntents preCognitiveIntents (balances.trans nothing)

theorem IntentEffect.of_settled (family : Family) {call : CallContext} {id : Nat}
    {intent : IntentRecord family.Terms} {middle : World}
    (request : family.settlement move = some (call, id)) (delivered : call.Delivered chain)
    (keeper : call.caller ∈ w.config.whitelistedKeepers)
    (found : (family.book w).byId.get? id = some intent) (pending : intent.status = .pending)
    (timely : call.blockTimestamp ≤ intent.deadline)
    (approved : family.Approved chain intent.terms move)
    (met : List.Forall₂ MeetsOutcome (family.requested intent.terms move) call.esdtTransfers)
    (covered : intent.amountIn ≤
      ((w.credit call).delivered chain intent.owner call.esdtTransfers).esdt intent.tokenIn 0)
    (book : family.book middle = (family.book w).settle id intent call.caller)
    (others : ∀ other, other ≠ family → other.book middle = other.book w)
    (sent : middle.sent = w.sent) (balances : middle.esdt = (w.credit call).esdt) :
    IntentEffect chain w move
      ((middle.delivered chain intent.owner call.esdtTransfers).paidOut chain call.caller
        intent) := by
  refine .settled family call id intent request delivered keeper found pending timely approved met
    covered ?_ ?_ ?_ ?_
  · rw [book_paidOut, book_delivered]
    exact book
  · intro other different
    rw [book_paidOut, book_delivered]
    exact others other different
  · rw [World.paidOut_sent, World.delivered_sent, sent]
  · intro token nonce
    have handed : ∀ token nonce,
        (middle.delivered chain intent.owner call.esdtTransfers).esdt token nonce =
          ((w.credit call).delivered chain intent.owner call.esdtTransfers).esdt token nonce :=
      World.delivered_esdt balances
    simp only [World.paidOut, World.payIfPositive, World.payEsdt, handed]

/-- The transition function, as far as intents and tokens are concerned. -/
theorem step_intentEffect (stepped : step chain w move = .ok next) :
    IntentEffect chain w move next := by
  cases step_effect stepped with
  | scheduleQuantumTask _ noEsdt taken _ => exact .of_taken rfl noEsdt taken rfl rfl rfl rfl
  | scheduleSovereignTask _ noEsdt taken _ => exact .of_taken rfl noEsdt taken rfl rfl rfl rfl
  | authorizeCloneKey _ noEsdt _ => exact .of_same rfl rfl rfl rfl (credit_esdt_of_noEsdt w noEsdt)
  | fundCloneKey _ noEsdt _ => exact .of_same rfl rfl rfl rfl (credit_esdt_of_noEsdt w noEsdt)
  | executeQuantumTask _ _ _ _ dispatched => exact .of_dispatched rfl dispatched rfl rfl rfl rfl
  | settleXseTask _ _ _ _ _ closed =>
      obtain ⟨_, _, rfl⟩ := finalizeSuccessfulExecution_eq_ok.mp closed
      exact .of_same rfl rfl rfl rfl rfl
  | syncReturn _ resumed =>
      rcases resume_ok resumed with ⟨_, _, dispatched⟩ | ⟨_, _, _, _, dispatched⟩ |
        ⟨_, _, _, _, closed⟩
      · exact .of_dispatched rfl dispatched rfl rfl rfl rfl
      · exact .of_dispatched rfl dispatched rfl rfl rfl rfl
      · obtain ⟨_, _, rfl⟩ := finalizeSuccessfulExecution_eq_ok.mp closed
        exact .of_same rfl rfl rfl rfl rfl
  | executionCallback _ called =>
      obtain ⟨_, _, ⟨_, _, rfl⟩ | ⟨_, rfl⟩⟩ := executionCallback_ok called
      · exact .of_same rfl rfl rfl rfl rfl
      · exact .of_same rfl rfl rfl rfl rfl
  | @cancelIntent call id intent _ found owned pending covered _ =>
      refine .cancelled .intents call id intent rfl found owned pending covered rfl ?_
        (World.paidOut_sent ..) rfl
      intro other different
      cases other <;> first | rfl | exact absurd rfl different
  | @cancelMultiIntent call id intent _ found owned pending covered _ =>
      refine .cancelled .multiIntents call id intent rfl found owned pending covered rfl ?_
        (World.paidOut_sent ..) rfl
      intro other different
      cases other <;> first | rfl | exact absurd rfl different
  | @cancelPreCognitiveIntent call id intent _ found owned pending covered _ =>
      refine .cancelled .preCognitiveIntents call id intent rfl found owned pending covered rfl ?_
        (World.paidOut_sent ..) rfl
      intro other different
      cases other <;> first | rfl | exact absurd rfl different
  | @solveIntent call id intent payment delivered keeper found pending timely received met
      covered _ =>
      rw [← received] at covered ⊢
      refine .of_settled .intents rfl delivered keeper found pending timely trivial ?_ covered rfl ?_
        rfl rfl
      · rw [received]
        exact .cons met .nil
      · intro other different
        cases other <;> first | rfl | exact absurd rfl different
  | @solveMultiIntent call id intent delivered keeper found pending timely met covered _ =>
      refine .of_settled .multiIntents rfl delivered keeper found pending timely trivial met covered
        rfl ?_ rfl rfl
      intro other different
      cases other <;> first | rfl | exact absurd rfl different
  | @executePreCognitiveLeaf call id merkleProof leaf intent payment delivered keeper found pending
      timely proved received met covered _ =>
      rw [← received] at covered ⊢
      refine .of_settled .preCognitiveIntents rfl delivered keeper found pending timely proved ?_
        covered rfl ?_ rfl rfl
      · rw [received]
        exact .cons met .nil
      · intro other different
        cases other <;> first | rfl | exact absurd rfl different
  | @receiveEsdt payment genuine =>
      refine .untouched [payment] (Family.closes_eq_false rfl) ?_ ?_ ?_
      · intro family
        cases family <;> rfl
      · intro other membership
        obtain rfl := List.mem_singleton.mp membership
        exact genuine
      · intro token nonce
        by_cases matching : payment.token = token ∧ payment.nonce = nonce
        · simp [matching]
        · simp [matching]
  | _ => exact .of_same rfl rfl rfl rfl rfl

/-- Every call that would create an intent fails. -/
theorem creates_fails {family : Family} (creates : family.creates move = true) :
    ∃ fault, step chain w move = .error fault := by
  cases stepped : step chain w move with
  | error fault => exact ⟨fault, rfl⟩
  | ok next =>
      exfalso
      cases step_effect stepped <;> cases family <;> cases creates

end XCron.Scheduler
