import XCron.Scheduler.Families
import XCron.Scheduler.Soundness

/-!
# Fair exchange

Every intent has its number, is written once, and leaves the pending state at
most once: to its owner, who gets the deposit back, or to a keeper, who gets it
in exchange for the outcomes the owner asked for.
-/

namespace XCron.Scheduler

open Platform

variable {chain : Chain} {w next : World} {move : Step} {family : Family} {id : Nat}

/-! ## One book -/

/-- What may become of an intent: nothing, or it is closed once, and only its
status and settler change. -/
def Evolves {Terms : Type} (before after : IntentRecord Terms) : Prop :=
  after = before ∨
    before.status = .pending ∧ (after = before.cancelled ∨ ∃ keeper, after = before.settled keeper)

theorem Evolves.trans {Terms : Type} {first second third : IntentRecord Terms}
    (before : Evolves first second) (after : Evolves second third) : Evolves first third := by
  rcases before with rfl | ⟨pending, closed⟩
  · exact after
  · rcases after with rfl | ⟨again, _⟩
    · exact .inr ⟨pending, closed⟩
    · rcases closed with rfl | ⟨keeper, rfl⟩
      · exact absurd again (by simp [IntentRecord.cancelled])
      · exact absurd again (by simp [IntentRecord.settled])

namespace IntentBook

variable {Terms : Type} {book : IntentBook Terms}

/-- The identifiers in use are exactly those from one to the nonce, and every
intent carries its own. -/
structure Numbered (book : IntentBook Terms) : Prop where
  present : ∀ id, (∃ intent, book.byId.get? id = some intent) ↔ 1 ≤ id ∧ id ≤ book.nonce
  labelled : ∀ id intent, book.byId.get? id = some intent → intent.id = id

theorem Numbered.set (numbered : book.Numbered) {id : Nat} {intent closed : IntentRecord Terms}
    (found : book.byId.get? id = some intent) (label : closed.id = intent.id) :
    ({ book with byId := book.byId.set id closed } : IntentBook Terms).Numbered := by
  constructor
  · intro other
    rw [← numbered.present other]
    simp only [Cells.get?_set]
    split
    next same => simp [same, found]
    next => rfl
  · intro other record present
    rcases Cells.of_get?_set present with ⟨same, rfl⟩ | ⟨_, present⟩
    · rw [label, same]
      exact numbered.labelled id intent found
    · exact numbered.labelled other record present

def closings (book : IntentBook Terms) (id : Nat) : Nat :=
  match book.byId.get? id with
  | some intent => if intent.status = .pending then 0 else 1
  | none => 0

theorem closings_le_one (book : IntentBook Terms) (id : Nat) : book.closings id ≤ 1 := by
  unfold closings
  split
  · split <;> omega
  · omega

theorem closings_set {id : Nat} {intent closed : IntentRecord Terms}
    (found : book.byId.get? id = some intent) (pending : intent.status = .pending)
    (left : closed.status ≠ .pending) (other : Nat) :
    ({ book with byId := book.byId.set id closed } : IntentBook Terms).closings other =
      book.closings other + if other = id then 1 else 0 := by
  unfold closings
  by_cases same : other = id
  · subst same
    simp [found, pending, left]
  · simp [same]

end IntentBook

/-! ## One step -/

/-- A keeper settles an intent in time: the owner is sent all the outcomes, in
order, and the keeper exactly the deposit. -/
def FairSettlement (chain : Chain) (family : Family) (w : World) (move : Step) (next : World)
    (id : Nat) (intent after : IntentRecord family.Terms) : Prop :=
  ∃ call, family.settlement move = some (call, id) ∧
    call.caller ∈ w.config.whitelistedKeepers ∧ call.blockTimestamp ≤ intent.deadline ∧
    family.Approved chain intent.terms move ∧
    List.Forall₂ MeetsOutcome (family.requested intent.terms move) call.esdtTransfers ∧
    next.sent = w.sent ++ deliveryTransfers intent.owner call.esdtTransfers ++
      depositTransfers call.caller intent ∧
    after = intent.settled call.caller

/-- The owner cancels an intent and is sent exactly the deposit. -/
def FairCancellation (family : Family) (w : World) (move : Step) (next : World) (id : Nat)
    (intent after : IntentRecord family.Terms) : Prop :=
  ∃ call, family.cancellation move = some (call, id) ∧ call.caller = intent.owner ∧
    next.sent = w.sent ++ depositTransfers intent.owner intent ∧ after = intent.cancelled

theorem FairSettlement.status {intent after : IntentRecord family.Terms}
    (settlement : FairSettlement chain family w move next id intent after) :
    after.status = .settled := by
  obtain ⟨_, _, _, _, _, _, _, rfl⟩ := settlement
  rfl

theorem FairCancellation.status {intent after : IntentRecord family.Terms}
    (cancellation : FairCancellation family w move next id intent after) :
    after.status = .cancelled := by
  obtain ⟨_, _, _, _, rfl⟩ := cancellation
  rfl

/-- What a step does to the book of one family. -/
inductive BookMove (chain : Chain) (family : Family) (w : World) (move : Step) (next : World) :
    Prop where
  | closed (id : Nat) (intent after : IntentRecord family.Terms)
      (closes : ∀ other, family.closes other move = decide (other = id))
      (found : (family.book w).byId.get? id = some intent) (pending : intent.status = .pending)
      (fair : FairSettlement chain family w move next id intent after ∨
        FairCancellation family w move next id intent after)
      (book : family.book next =
        { family.book w with byId := (family.book w).byId.set id after })
  | kept (idle : ∀ id, family.closes id move = false) (book : family.book next = family.book w)

theorem Family.closes_of_cancellation {call : CallContext}
    (request : family.cancellation move = some (call, id)) (other : Family) (number : Nat) :
    other.closes number move = decide (other = family ∧ number = id) := by
  cases family <;> cases move <;> cases request <;> cases other <;>
    simp [Family.closes, Family.cancellation, Family.settlement, eq_comm]

theorem Family.closes_of_settlement {call : CallContext}
    (request : family.settlement move = some (call, id)) (other : Family) (number : Nat) :
    other.closes number move = decide (other = family ∧ number = id) := by
  cases family <;> cases move <;> cases request <;> cases other <;>
    simp [Family.closes, Family.cancellation, Family.settlement, eq_comm]

theorem step_bookMove (family : Family) (stepped : step chain w move = .ok next) :
    BookMove chain family w move next := by
  cases step_intentEffect stepped with
  | cancelled touched call id intent request found owned pending _ book others sent _ =>
      have closes := Family.closes_of_cancellation request family
      by_cases same : family = touched
      · subst same
        refine .closed id intent intent.cancelled (by simpa using closes) found pending (.inr ?_) book
        exact ⟨call, request, owned.symm, owned ▸ sent, rfl⟩
      · exact .kept (by simpa [same] using closes) (others family same)
  | settled touched call id intent request _ keeper found pending timely approved met _ book others
      sent _ =>
      have closes := Family.closes_of_settlement request family
      by_cases same : family = touched
      · subst same
        refine .closed id intent (intent.settled call.caller) (by simpa using closes) found pending
          (.inl ?_) book
        exact ⟨call, request, keeper, timely, approved, met, sent, rfl⟩
      · exact .kept (by simpa [same] using closes) (others family same)
  | untouched _ idle books _ _ => exact .kept (idle family) (books family)

theorem closed_evolves {intent after : IntentRecord family.Terms} (pending : intent.status = .pending)
    (fair : FairSettlement chain family w move next id intent after ∨
      FairCancellation family w move next id intent after) :
    Evolves intent after ∧ after.status ≠ .pending ∧ after.id = intent.id := by
  rcases fair with ⟨call, _, _, _, _, _, _, rfl⟩ | ⟨call, _, _, _, rfl⟩
  · exact ⟨.inr ⟨pending, .inr ⟨call.caller, rfl⟩⟩, by simp [IntentRecord.settled], rfl⟩
  · exact ⟨.inr ⟨pending, .inl rfl⟩, by simp [IntentRecord.cancelled], rfl⟩

theorem BookMove.numbered (moved : BookMove chain family w move next)
    (numbered : (family.book w).Numbered) : (family.book next).Numbered := by
  cases moved with
  | closed number intent after _ found pending fair book =>
      rw [book]
      exact numbered.set found (closed_evolves pending fair).2.2
  | kept _ book =>
      rw [book]
      exact numbered

theorem BookMove.evolves (moved : BookMove chain family w move next)
    {intent : IntentRecord family.Terms} (found : (family.book w).byId.get? id = some intent) :
    ∃ after, (family.book next).byId.get? id = some after ∧ Evolves intent after := by
  cases moved with
  | closed number other after _ found' pending fair book =>
      rw [book]
      simp only [Cells.get?_set]
      split
      next same =>
        subst same
        obtain rfl := Option.some.inj (found.symm.trans found')
        exact ⟨after, rfl, (closed_evolves pending fair).1⟩
      next => exact ⟨intent, found, .inl rfl⟩
  | kept _ book =>
      rw [book]
      exact ⟨intent, found, .inl rfl⟩

/-- A status changes only through a fair settlement or a fair cancellation. -/
theorem BookMove.fair (moved : BookMove chain family w move next)
    {intent after : IntentRecord family.Terms} (found : (family.book w).byId.get? id = some intent)
    (found' : (family.book next).byId.get? id = some after) (changed : after.status ≠ intent.status) :
    FairSettlement chain family w move next id intent after ∨
      FairCancellation family w move next id intent after := by
  cases moved with
  | closed number other closed _ stored _ fair book =>
      rw [book] at found'
      rcases Cells.of_get?_set found' with ⟨rfl, rfl⟩ | ⟨_, found'⟩
      · obtain rfl := Option.some.inj (stored.symm.trans found)
        exact fair
      · obtain rfl := Option.some.inj (found.symm.trans found')
        exact absurd rfl changed
  | kept _ book =>
      rw [book] at found'
      obtain rfl := Option.some.inj (found.symm.trans found')
      exact absurd rfl changed

theorem BookMove.closings (moved : BookMove chain family w move next) (id : Nat) :
    (family.book next).closings id =
      (family.book w).closings id + if family.closes id move then 1 else 0 := by
  cases moved with
  | closed number intent after closes found pending fair book =>
      rw [book, IntentBook.closings_set found pending (closed_evolves pending fair).2.1, closes]
      simp only [decide_eq_true_eq]
  | kept idle book =>
      rw [book, idle]
      rfl

/-! ## Runs -/

theorem Deployed.numbered {w₀ : World} (started : Deployed w₀) (family : Family) :
    (family.book w₀).Numbered := by
  obtain ⟨_, _, _, _, _, _, rfl⟩ := started.eq
  constructor
  · intro id
    cases family <;> simp [Family.book, deployed] <;> omega
  · intro id intent found
    cases family <;> simp [Family.book, deployed] at found

theorem numbered_run {w₀ : World} {steps : List Step} {allowed : World → Step → Prop}
    (numbered : (family.book w₀).Numbered) (trace : Trace (step chain) allowed w₀ steps w) :
    (family.book w).Numbered :=
  trace.preserves (fun w => (family.book w).Numbered)
    (fun _ _ _ _ numbered stepped => (step_bookMove family stepped).numbered numbered) numbered

theorem evolves_run {w₀ : World} {steps : List Step} {allowed : World → Step → Prop}
    (trace : Trace (step chain) allowed w₀ steps w)
    {intent : IntentRecord family.Terms} (found : (family.book w₀).byId.get? id = some intent) :
    ∃ after, (family.book w).byId.get? id = some after ∧ Evolves intent after := by
  induction trace generalizing intent with
  | nil => exact ⟨intent, found, .inl rfl⟩
  | cons _ stepped _ inductionHypothesis =>
      have moved := step_bookMove family stepped
      obtain ⟨middle, found', first⟩ := moved.evolves found
      obtain ⟨after, found'', rest⟩ := inductionHypothesis found'
      exact ⟨after, found'', first.trans rest⟩

theorem closings_run {w₀ : World} {steps : List Step} {allowed : World → Step → Prop}
    (trace : Trace (step chain) allowed w₀ steps w) (id : Nat) :
    (family.book w).closings id =
      (family.book w₀).closings id + steps.countP (family.closes id) := by
  induction trace with
  | nil => rfl
  | cons _ stepped _ inductionHypothesis =>
      have moved := step_bookMove family stepped
      rw [inductionHypothesis, moved.closings, List.countP_cons]
      omega

/-- In every run from a deployment, or from books that are numbered like those of
one, and for each family: identifiers run from one to the nonce; whatever happens
later, an intent keeps its fields and leaves the pending state at most once; its
status changes only in a fair settlement or a fair cancellation; its deposit is
paid out at most once; and no call creates an intent. -/
theorem intent_exchange (family : Family) {w₀ : World} {steps : List Step}
    (started : Deployed w₀ ∨ (family.book w₀).Numbered)
    (trace : Trace (step chain) (fun _ _ => True) w₀ steps w) :
    (family.book w).Numbered ∧
      (∀ id intent, (family.book w).byId.get? id = some intent →
        ∀ rest later, Trace (step chain) (fun _ _ => True) w rest later →
          ∃ after, (family.book later).byId.get? id = some after ∧ Evolves intent after) ∧
      (∀ move next id intent after, step chain w move = .ok next →
        (family.book w).byId.get? id = some intent →
        (family.book next).byId.get? id = some after → after.status ≠ intent.status →
        intent.status = .pending ∧
          ((after.status = .settled ∧ FairSettlement chain family w move next id intent after) ∨
            (after.status = .cancelled ∧ FairCancellation family w move next id intent after))) ∧
      (∀ id, steps.countP (family.closes id) ≤ 1) ∧
      ∀ move, family.creates move = true → ∃ fault, step chain w move = .error fault := by
  have start : (family.book w₀).Numbered := by
    rcases started with deployed | numbered
    · exact deployed.numbered family
    · exact numbered
  refine ⟨numbered_run start trace, ?_, ?_, ?_, fun move => creates_fails⟩
  · intro id intent found rest later continued
    exact evolves_run continued found
  · intro move next id intent after stepped found found' changed
    have moved := step_bookMove family stepped
    obtain ⟨_, found'', evolved⟩ := moved.evolves found
    obtain rfl := Option.some.inj (found'.symm.trans found'')
    have pending : intent.status = .pending := by
      rcases evolved with rfl | ⟨pending, _⟩
      · exact absurd rfl changed
      · exact pending
    refine ⟨pending, ?_⟩
    rcases moved.fair found found' changed with settlement | cancellation
    · exact .inl ⟨settlement.status, settlement⟩
    · exact .inr ⟨cancellation.status, cancellation⟩
  · intro id
    have counted : (family.book w).closings id = _ := closings_run trace id
    have once := (family.book w).closings_le_one id
    omega

namespace Sample

/-- A call that carries a token. -/
def tokenCall (caller : Address) (payment : EsdtPayment) : CallContext :=
  { Sample.call caller 0 1000 with esdtTransfers := [payment] }

def pendingIntent : Intent :=
  { id := 1
    owner := alice
    tokenIn := [70]
    amountIn := 100
    terms := ⟨[70], 50⟩
    deadline := 2000
    fee := 5
    status := .pending
    settledBy := none }

/-- A scheduler that was upgraded while Alice's intent was pending. -/
def upgradedWorld : World :=
  { world with
    egld := 5
    esdt := fun token nonce => if token = [70] ∧ nonce = 0 then 100 else 0
    intents := { nonce := 1, byId := Cells.empty.set 1 pendingIntent } }

def solvedRun : List Step := [admitKeeper, .solveIntent (tokenCall keeper ⟨[70], 0, 60⟩) 1]

theorem upgradedWorld_numbered : (Family.intents.book upgradedWorld).Numbered := by
  constructor
  · intro id
    by_cases first : id = 1
    · simp [Family.book, upgradedWorld, first]
    · simp only [Family.book, upgradedWorld, Cells.get?_set_ne _ _ first, Cells.get?_empty]
      exact iff_of_false (by simp) (by omega)
  · intro id intent found
    rcases Cells.of_get?_set found with ⟨same, rfl⟩ | ⟨_, found⟩
    · exact same.symm
    · simp at found

end Sample

theorem intent_exchange_sample :
    ∃ w, Trace (step sampleChain) (fun _ _ => True) Sample.upgradedWorld Sample.solvedRun w ∧
      (Family.intents.book w).Numbered ∧
      Sample.solvedRun.countP (Family.intents.closes 1) = 1 ∧
      w.sent = [.esdt Sample.alice [70] 0 60, .esdt Sample.keeper [70] 0 100,
        .egld Sample.keeper 5] := by
  obtain ⟨w, trace, sent⟩ := Trace.of_runChecked (step sampleChain)
    (fun _ _ => True) Sample.upgradedWorld Sample.solvedRun
    (fun w => w.sent = [.esdt Sample.alice [70] 0 60, .esdt Sample.keeper [70] 0 100,
      .egld Sample.keeper 5]) (by decide +kernel)
  have exchanged := intent_exchange .intents (.inr Sample.upgradedWorld_numbered) trace
  exact ⟨w, trace, exchanged.1, by decide +kernel, sent⟩

end XCron.Scheduler
