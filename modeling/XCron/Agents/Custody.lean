import XCron.Agents.Marketplace
import XCron.Agents.Ownership

/-!
# Custody of the listed agents

The marketplace does not look whether an NFT is listed already when it lists it. It need
not: a listed NFT is the one that the contract holds, and nobody else can bring it.
-/

namespace XCron.Agents.Marketplace

open Platform

variable {chain : Chain} {start w next : World} {past : List Step} {move : Step} {nonce : Nat}
  {call : CallContext}

/-! ## What custody is -/

/-- The listed NFTs are those that the contract holds, and the other cells of a listing
are empty unless it is there. -/
structure Custody (chain : Chain) (w : World) : Prop where
  listed_iff : ∀ nonce, w.listings.get? nonce ≠ none ↔ w.holder nonce = some chain.scAddress
  unlisted : ∀ nonce, w.listings.get? nonce = none →
    w.listingEarnings nonce = 0 ∧ w.listingApr nonce = 0
  apr : ∀ nonce, w.listings.get? nonce ≠ none → 0 < w.listingApr nonce

def Step.lists (nonce : Nat) : Step → Bool
  | .listAgent call _ _ => call.esdtTransfers.any fun payment => payment.nonce = nonce
  | _ => false

def Step.settles (nonce : Nat) : Step → Bool
  | .cancelListing _ settled | .buyAgent _ _ settled => settled = nonce
  | _ => false

/-- Every listing but the standing one, if there is one, was settled once. -/
def SettledOnce (past : List Step) (w : World) : Prop :=
  ∀ nonce, past.countP (Step.lists nonce) =
    past.countP (Step.settles nonce) + (w.listings.get? nonce).isSome.toNat

def payout (receiver : Address) (amount : Nat) : List Transfer :=
  if 0 < amount then [⟨receiver, ⟨egldTokenId, 0, amount⟩⟩] else []

/-- The NFT leaves the contract: to the seller who cancels the listing, or to a buyer who
has paid the fair value, of which the treasury gets five percent and the seller the rest. -/
inductive Released (w : World) (nonce : Nat) : Step → World → Prop where
  | cancelled {call : CallContext} {next : World} :
      w.listings.get? nonce = some call.caller → next.holder nonce = some call.caller →
      next.sent = w.sent ++ [⟨call.caller, ⟨w.agentNftTokenId, nonce, 1⟩⟩] →
      Released w nonce (.cancelListing call nonce) next
  | sold {reputations : Reputations} {call : CallContext} {seller : Address} {fairValue : Nat}
      {next : World} :
      w.listings.get? nonce = some seller → w.fairValue reputations nonce = .ok fairValue →
      call.egldValue = fairValue → next.holder nonce = some call.caller →
      next.sent = w.sent ++ [⟨call.caller, ⟨w.agentNftTokenId, nonce, 1⟩⟩] ++
        payout seller (fairValue - fairValue * 5 / 100) ++
        payout w.treasuryAddress (fairValue * 5 / 100) →
      Released w nonce (.buyAgent reputations call nonce) next

/-- What is asked of a step: the contract lets an NFT go only as above, and writes over no
listing. -/
structure Honoured (chain : Chain) (w : World) (move : Step) (next : World) : Prop where
  released : ∀ nonce, w.holder nonce = some chain.scAddress →
    next.holder nonce ≠ some chain.scAddress → Released w nonce move next
  standing : ∀ nonce seller seller', w.listings.get? nonce = some seller →
    next.listings.get? nonce = some seller' →
    seller' = seller ∧ next.listingEarnings nonce = w.listingEarnings nonce ∧
      next.listingApr nonce = w.listingApr nonce

/-! ## What a step does -/

structure Listed (chain : Chain) (call : CallContext) (netMonthlyEarnings : Nat)
    (expectedAprBasisPoints : UInt32) (nonce : Nat) (w next : World) : Prop where
  foreign : call.caller ≠ chain.scAddress
  brought : call.esdtTransfers = [⟨w.agentNftTokenId, nonce, 1⟩]
  owned : w.holder nonce = some call.caller
  positive : 0 < expectedAprBasisPoints
  written : next = { w with
    listings := w.listings.set nonce call.caller
    listingEarnings := Function.update w.listingEarnings nonce netMonthlyEarnings
    listingApr := Function.update w.listingApr nonce expectedAprBasisPoints
    holder := Function.update w.holder nonce (some chain.scAddress) }

/-- A listing ends, and the NFT goes to someone else. -/
structure Settled (chain : Chain) (receiver : Address) (nonce : Nat) (w next : World) : Prop where
  foreign : receiver ≠ chain.scAddress
  held : w.holder nonce = some chain.scAddress
  written : next = { w.clearListing nonce with
    holder := Function.update w.holder nonce (some receiver)
    sent := next.sent }

/-- What a step does to the listings and the NFTs. -/
inductive Change (chain : Chain) (w : World) : Step → World → Prop where
  | listed {call : CallContext} {netMonthlyEarnings : Nat} {expectedAprBasisPoints : UInt32}
      {nonce : Nat} {next : World} :
      Listed chain call netMonthlyEarnings expectedAprBasisPoints nonce w next →
      Change chain w (.listAgent call netMonthlyEarnings expectedAprBasisPoints) next
  | settled {move : Step} {receiver : Address} {nonce : Nat} {next : World} :
      Settled chain receiver nonce w next → Released w nonce move next → Change chain w move next
  | moved {move : Step} {next : World} :
      (∀ nonce, move.lists nonce = false ∧ move.settles nonce = false) →
      next = { w with holder := next.holder } →
      (∀ nonce, next.holder nonce = some chain.scAddress ↔
        w.holder nonce = some chain.scAddress) → Change chain w move next

theorem seller_eq_ok {seller : Address} :
    w.seller nonce = .ok seller ↔ w.listings.get? nonce = some seller := by
  unfold World.seller
  split
  next other found => simp [found]
  next missing => simp [missing]

theorem sendNft_eq_ok {receiver : Address} :
    w.sendNft chain receiver nonce = .ok next ↔ w.holder nonce = some chain.scAddress ∧
      { w.handOver receiver nonce with
        sent := w.sent ++ [⟨receiver, ⟨w.agentNftTokenId, nonce, 1⟩⟩] } = next := by
  unfold World.sendNft
  split
  next held => simp [held]
  next missing => simp [missing]

theorem sendEgld_eq (receiver : Address) (amount : Nat) (w : World) :
    w.sendEgld receiver amount = { w with sent := w.sent ++ payout receiver amount } := by
  unfold World.sendEgld payout
  split
  · rfl
  · simp

theorem deliver_eq_ok :
    deliver chain call w = .ok next ↔
      (call.Delivered chain ∧ call.caller ≠ chain.scAddress ∧ w.Holds call) ∧
        w.credit chain call = next := by
  simp only [deliver, Outcome.bind_eq_ok, Outcome.ensure_eq_ok, Outcome.pure_eq_ok, exists_const]

theorem credit_of_none (chain : Chain) (w : World) (empty : call.esdtTransfers = []) :
    w.credit chain call = w := by
  unfold World.credit
  rw [empty]
  simp

theorem credit_of_single (chain : Chain) {payment : Payment}
    (paid : call.esdtTransfers = [payment]) (agent : payment.token = w.agentNftTokenId) :
    w.credit chain call =
      { w with holder := Function.update w.holder payment.nonce (some chain.scAddress) } := by
  unfold World.credit
  rw [paid]
  congr 1
  funext other
  simp [agent, Function.update_apply, eq_comm]

theorem single_eq_ok_of_ne {payment : Payment} (found : single call = .ok payment)
    (foreign : payment.token ≠ egldTokenId) : call.esdtTransfers = [payment] := by
  unfold single payments at found
  split at found
  next only listed =>
    obtain rfl := Except.ok.inj found
    split at listed
    next _ => exact listed
    next _ =>
      obtain ⟨rfl, _⟩ := List.cons.inj listed
      exact absurd rfl foreign
  next _ => cases found

theorem listAgent_change {netMonthlyEarnings : Nat} {expectedAprBasisPoints : UInt32}
    (agentToken : w.agentNftTokenId ≠ egldTokenId)
    (stepped : step chain w (.listAgent call netMonthlyEarnings expectedAprBasisPoints) = .ok next) :
    Change chain w (.listAgent call netMonthlyEarnings expectedAprBasisPoints) next := by
  simp only [step, listAgent, Outcome.bind_eq_ok, deliver_eq_ok, Outcome.require_eq_ok,
    Outcome.pure_eq_ok] at stepped
  obtain ⟨_, ⟨⟨_, foreign, holds⟩, rfl⟩, payment, single, _, agent, _, one, _, positive, rfl⟩ := stepped
  have agent' : payment.token = w.agentNftTokenId := agent
  have brought := single_eq_ok_of_ne single (agent' ▸ agentToken)
  have owned := (holds payment (brought ▸ List.mem_singleton_self _) agent').2
  have transferred : call.esdtTransfers = [⟨w.agentNftTokenId, payment.nonce, 1⟩] := by
    rw [brought, ← agent', ← one]
  rw [credit_of_single chain brought agent']
  exact .listed ⟨foreign, transferred, owned, positive, rfl⟩

theorem cancelListing_change (stepped : step chain w (.cancelListing call nonce) = .ok next) :
    Change chain w (.cancelListing call nonce) next := by
  simp only [step, cancelListing, Outcome.bind_eq_ok, deliver_eq_ok, CallContext.notPayable,
    Outcome.ensure_eq_ok, Outcome.require_eq_ok, seller_eq_ok, sendNft_eq_ok, Outcome.pure_eq_ok]
    at stepped
  obtain ⟨_, ⟨⟨_, foreign, _⟩, rfl⟩, _, ⟨_, empty⟩, seller, listed, _, rfl, _, ⟨held, rfl⟩, rfl⟩ :=
    stepped
  rw [credit_of_none chain w empty] at listed held ⊢
  exact .settled ⟨foreign, held, rfl⟩ (.cancelled listed (Function.update_self ..) rfl)

theorem buyAgent_change {reputations : Reputations}
    (stepped : step chain w (.buyAgent reputations call nonce) = .ok next) :
    Change chain w (.buyAgent reputations call nonce) next := by
  simp only [step, buyAgent, Outcome.bind_eq_ok, deliver_eq_ok, CallContext.payableEgld,
    Outcome.ensure_eq_ok, Outcome.require_eq_ok, seller_eq_ok, sendNft_eq_ok, sendEgld_eq,
    Outcome.pure_eq_ok] at stepped
  obtain ⟨_, ⟨⟨_, foreign, _⟩, rfl⟩, _, empty, seller, listed, fairValue, valued, _, paid, _,
    ⟨held, rfl⟩, rfl⟩ := stepped
  rw [credit_of_none chain w empty] at listed valued held ⊢
  exact .settled ⟨foreign, held, rfl⟩ (.sold listed valued paid (Function.update_self ..) rfl)

theorem handOver_change {receiver : Address} (outside : w.holder nonce ≠ some chain.scAddress)
    (foreign : receiver ≠ chain.scAddress)
    (silent : ∀ nonce, move.lists nonce = false ∧ move.settles nonce = false) :
    Change chain w move (w.handOver receiver nonce) := by
  refine .moved silent rfl ?_
  intro other
  by_cases same : other = nonce
  · subst same
    simp [World.handOver, outside, foreign]
  · simp [World.handOver, Function.update_of_ne same]

theorem step_change (agentToken : w.agentNftTokenId ≠ egldTokenId)
    (stepped : step chain w move = .ok next) : Change chain w move next := by
  cases move with
  | listAgent call netMonthlyEarnings expectedAprBasisPoints =>
      exact listAgent_change agentToken stepped
  | cancelListing call agentNonce => exact cancelListing_change stepped
  | buyAgent reputations call agentNonce => exact buyAgent_change stepped
  | mintNft receiver nonce =>
      simp only [step, Outcome.bind_eq_ok, Outcome.ensure_eq_ok, Outcome.pure_eq_ok] at stepped
      obtain ⟨_, ⟨free, foreign⟩, rfl⟩ := stepped
      exact handOver_change (by simp [free]) foreign fun _ => ⟨rfl, rfl⟩
  | transferNft sender receiver nonce =>
      simp only [step, Outcome.bind_eq_ok, Outcome.ensure_eq_ok, Outcome.pure_eq_ok] at stepped
      obtain ⟨_, ⟨held, outside, foreign⟩, rfl⟩ := stepped
      exact handOver_change (by simp [held, outside]) foreign fun _ => ⟨rfl, rfl⟩
  | upgrade =>
      simp only [step, Outcome.pure_eq_ok] at stepped
      subst stepped
      exact .moved (fun _ => ⟨rfl, rfl⟩) rfl fun _ => Iff.rfl

/-! ## What every step keeps -/

theorem SettledOnce.concat (once : SettledOnce past w)
    (balanced : ∀ nonce, (w.listings.get? nonce).isSome.toNat + (move.lists nonce).toNat =
      (move.settles nonce).toNat + (next.listings.get? nonce).isSome.toNat) :
    SettledOnce (past ++ [move]) next := by
  have single (marks : Step → Bool) : [move].countP marks = (marks move).toNat := by
    rw [List.countP_singleton]
    cases marks move <;> rfl
  intro nonce
  have before := once nonce
  have balance := balanced nonce
  rw [List.countP_append, List.countP_append, single, single]
  omega

section Listing

variable {netMonthlyEarnings : Nat} {expectedAprBasisPoints : UInt32}
  (listed : Listed chain call netMonthlyEarnings expectedAprBasisPoints nonce w next)

include listed

theorem Listed.fresh (custody : Custody chain w) : w.listings.get? nonce = none := by
  by_contra already
  have held := (custody.listed_iff nonce).mp already
  rw [listed.owned] at held
  exact listed.foreign (Option.some.inj held)

theorem Listed.custody (custody : Custody chain w) : Custody chain next := by
  rw [listed.written]
  refine ⟨?_, ?_, ?_⟩ <;> intro other <;> by_cases same : other = nonce
  · subst same
    simp
  · simpa [same] using custody.listed_iff other
  · subst same
    simp
  · simpa [same] using custody.unlisted other
  · subst same
    simpa using listed.positive
  · simpa [same] using custody.apr other

theorem Listed.lists_iff (other : Nat) :
    (Step.listAgent call netMonthlyEarnings expectedAprBasisPoints).lists other =
      decide (nonce = other) := by
  simp [Step.lists, listed.brought]

theorem Listed.settledOnce (custody : Custody chain w) (once : SettledOnce past w) :
    SettledOnce (past ++ [.listAgent call netMonthlyEarnings expectedAprBasisPoints]) next := by
  apply once.concat
  intro other
  have fresh := listed.fresh custody
  rw [listed.lists_iff, listed.written]
  by_cases same : nonce = other
  · subst same
    simp [Step.settles, fresh]
  · simp [Step.settles, same, Ne.symm same]

theorem Listed.honoured (custody : Custody chain w) :
    Honoured chain w (.listAgent call netMonthlyEarnings expectedAprBasisPoints) next := by
  have fresh := listed.fresh custody
  rw [listed.written]
  constructor
  · intro other held gone
    refine absurd ?_ gone
    by_cases same : other = nonce
    · simp [same]
    · simpa [same] using held
  · intro other seller seller' found found'
    have different : other ≠ nonce := by
      rintro rfl
      simp [fresh] at found
    rw [Cells.get?_set_ne _ _ different] at found'
    exact ⟨Option.some.inj (found'.symm.trans found), Function.update_of_ne different _ _,
      Function.update_of_ne different _ _⟩

end Listing

section Settlement

variable {receiver : Address} (settled : Settled chain receiver nonce w next)

include settled

theorem Settled.listings : next.listings = w.listings.clear nonce := by
  rw [settled.written]
  rfl

theorem Settled.custody (custody : Custody chain w) : Custody chain next := by
  rw [settled.written]
  refine ⟨?_, ?_, ?_⟩ <;> intro other <;> by_cases same : other = nonce
  · subst same
    simp [World.clearListing, settled.foreign]
  · simpa [World.clearListing, same] using custody.listed_iff other
  · subst same
    simp [World.clearListing]
  · simpa [World.clearListing, same] using custody.unlisted other
  · subst same
    simp [World.clearListing]
  · simpa [World.clearListing, same] using custody.apr other

theorem Settled.settledOnce (custody : Custody chain w) (released : Released w nonce move next)
    (once : SettledOnce past w) : SettledOnce (past ++ [move]) next := by
  apply once.concat
  intro other
  have standing := Option.isSome_iff_ne_none.mpr ((custody.listed_iff nonce).mpr settled.held)
  have marks : move.lists other = false ∧ move.settles other = decide (nonce = other) := by
    cases released <;> exact ⟨rfl, rfl⟩
  rw [marks.1, marks.2, settled.listings]
  by_cases same : nonce = other
  · subst same
    simp [standing]
  · simp [same, Ne.symm same]

theorem Settled.honoured (released : Released w nonce move next) : Honoured chain w move next := by
  constructor
  · intro other held gone
    by_cases same : other = nonce
    · rw [same]
      exact released
    · rw [settled.written] at gone
      simp only [Function.update_of_ne same] at gone
      exact absurd held gone
  · intro other seller seller' found found'
    rw [settled.listings] at found'
    have different : other ≠ nonce := by
      rintro rfl
      simp at found'
    rw [Cells.get?_clear_ne _ different] at found'
    rw [settled.written]
    exact ⟨Option.some.inj (found'.symm.trans found), Function.update_of_ne different _ _,
      Function.update_of_ne different _ _⟩

end Settlement

/-- The collection has an identifier of its own, and the listings are in custody. -/
structure Kept (chain : Chain) (past : List Step) (w : World) : Prop where
  agentToken : w.agentNftTokenId ≠ egldTokenId
  custody : Custody chain w
  once : SettledOnce past w

theorem Kept.step (kept : Kept chain past w) (stepped : Marketplace.step chain w move = .ok next) :
    Kept chain (past ++ [move]) next ∧ Honoured chain w move next := by
  obtain ⟨agentToken, custody, once⟩ := kept
  cases step_change agentToken stepped with
  | listed listed =>
      refine ⟨⟨?_, listed.custody custody, listed.settledOnce custody once⟩,
        listed.honoured custody⟩
      rw [listed.written]
      exact agentToken
  | settled settled released =>
      refine ⟨⟨?_, settled.custody custody, settled.settledOnce custody released once⟩,
        settled.honoured released⟩
      rw [settled.written]
      exact agentToken
  | moved silent written unmoved =>
      rw [written]
      refine ⟨⟨agentToken, ⟨?_, custody.unlisted, custody.apr⟩, ?_⟩, ?_, ?_⟩
      · intro nonce
        exact (custody.listed_iff nonce).trans (unmoved nonce).symm
      · apply once.concat
        intro nonce
        rw [(silent nonce).1, (silent nonce).2]
        exact Nat.add_comm _ _
      · intro nonce held gone
        exact absurd ((unmoved nonce).mpr held) gone
      · intro nonce seller seller' found found'
        exact ⟨Option.some.inj (found'.symm.trans found), rfl, rfl⟩

theorem Deployed.kept (deployed : Deployed chain start) : Kept chain [] start := by
  obtain ⟨_, _, _, holder, agentToken, elsewhere, rfl⟩ := deployed
  refine ⟨agentToken, ⟨?_, ?_, ?_⟩, ?_⟩ <;> intro nonce
  · simpa [init] using elsewhere nonce
  · exact fun _ => ⟨rfl, rfl⟩
  · simp [init]
  · simp [init]

theorem run_kept (deployed : Deployed chain start)
    (trace : Trace (step chain) (fun _ _ => True) start past w) : Kept chain past w := by
  have kept : Kept chain ([] ++ past) w :=
    trace.history (Kept chain) (fun _ _ _ _ kept stepped => (kept.step stepped).1) deployed.kept
  exact kept

/-- After every run the listed NFTs are those in custody, each listing but the standing one
was settled once, and whatever step comes next, it honours the listings. -/
theorem custody_kept (deployed : Deployed chain start)
    (trace : Trace (step chain) (fun _ _ => True) start past w) :
    Custody chain w ∧ SettledOnce past w ∧
      ∀ move next, step chain w move = .ok next → Honoured chain w move next := by
  have kept := run_kept deployed trace
  refine ⟨kept.custody, kept.once, ?_⟩
  intro move next stepped
  exact (kept.step stepped).2

namespace Sample

def treasury : Address := .fill 51

def deployed : World :=
  init (.fill 50) treasury Identity.Sample.collection fun nonce =>
    if nonce = 1 then some Identity.Sample.alice else none

def sale : List Step :=
  [.listAgent (Identity.Sample.shows Identity.Sample.alice) 100 1200,
    .buyAgent (fun _ => Reputation.init (.fill 41) (.fill 40))
      { Identity.Sample.agentCall Identity.Sample.bob [] with egldValue := 8000 } 1]

end Sample

theorem custody_kept_sample :
    ∃ w, Trace (step sampleChain) (fun _ _ => True) Sample.deployed Sample.sale w ∧
      w.holder 1 = some Identity.Sample.bob ∧
      w.sent = [⟨Identity.Sample.bob, ⟨Identity.Sample.collection, 1, 1⟩⟩,
        ⟨Identity.Sample.alice, ⟨egldTokenId, 0, 7600⟩⟩,
        ⟨Sample.treasury, ⟨egldTokenId, 0, 400⟩⟩] ∧
      Custody sampleChain w ∧ SettledOnce Sample.sale w ∧
      ∀ move next, step sampleChain w move = .ok next → Honoured sampleChain w move next := by
  obtain ⟨w, trace, sold, sent⟩ := Trace.of_runChecked (step sampleChain) (fun _ _ => True)
    Sample.deployed Sample.sale
    (fun w => w.holder 1 = some Identity.Sample.bob ∧
      w.sent = [⟨Identity.Sample.bob, ⟨Identity.Sample.collection, 1, 1⟩⟩,
        ⟨Identity.Sample.alice, ⟨egldTokenId, 0, 7600⟩⟩,
        ⟨Sample.treasury, ⟨egldTokenId, 0, 400⟩⟩])
    (by decide +kernel)
  have elsewhere : ∀ nonce,
      (if nonce = 1 then some Identity.Sample.alice else none) ≠ some sampleChain.scAddress := by
    intro nonce
    split
    · decide
    · nofun
  exact ⟨w, trace, sold, sent, custody_kept ⟨_, _, _, _, by decide +kernel, elsewhere, rfl⟩ trace⟩

end XCron.Agents.Marketplace
