import XCron.HftVault.Contract

/-!
# The vault keeps its inventory

The balance check covers the first token. The others are covered by what the first pool
returns: the second pool is sent one of those payments and nothing else.
-/

namespace XCron.HftVault

open Platform Outcome

variable {chain : Chain} {w next : World}

/-! ## One arbitrage -/

theorem syncCall_ok {pool : Pool} {sent : SyncCall} {payments : List EsdtPayment}
    (called : w.syncCall pool sent = .ok (payments, next)) :
    (∃ deposits, ∀ token nonce,
      next.holdings token nonce + received [sent.payment] token nonce =
        w.holdings token nonce + received payments token nonce + received deposits token nonce) ∧
      next.withdrawals = w.withdrawals := by
  simp only [World.syncCall, bind_eq_ok] at called
  obtain ⟨holdings, paid, answered⟩ := called
  cases response : pool sent with
  | none =>
      rw [response] at answered
      cases answered
  | some response' =>
      rw [response] at answered
      obtain ⟨rfl, rfl⟩ := Prod.mk.inj ((pure_eq_ok _ _).mp answered)
      refine ⟨⟨response'.deposits, ?_⟩, rfl⟩
      intro token nonce
      have left := Holdings.debit_ok paid token nonce
      simp only [Holdings.credit, received_append]
      omega

theorem midPaymentOf_ok {tokenMid : TokenIdentifier} {payments : List EsdtPayment}
    {payment : EsdtPayment} (found : midPaymentOf tokenMid payments = .ok payment) :
    payment ∈ payments ∧ payment.token = tokenMid := by
  unfold midPaymentOf at found
  split at found
  next other searched =>
    obtain rfl := Except.ok.inj found
    exact ⟨List.mem_of_find?_eq_some searched, by simpa using List.find?_some searched⟩
  next => cases found

/-- What an arbitrage leaves behind. -/
structure Profits (request : FlashArbitrage) (w next : World) : Prop where
  gained : w.holdings request.tokenIn 0 < next.holdings request.tokenIn 0
  enough : w.holdings request.tokenIn 0 + request.minFinalAmount ≤
    next.holdings request.tokenIn 0 + request.amountIn
  others : ∀ token nonce, (token, nonce) ≠ (request.tokenIn, 0) →
    w.holdings token nonce ≤ next.holdings token nonce
  withdrawals : next.withdrawals = w.withdrawals

theorem executeFlashArbitrage_ok {call : CallContext} {request : FlashArbitrage}
    {poolA poolB : Pool}
    (executed : executeFlashArbitrage chain call request poolA poolB w = .ok next) :
    Profits request w next := by
  simp only [executeFlashArbitrage, bind_eq_ok, require_eq_ok, pure_eq_ok] at executed
  obtain ⟨_, _, _, _, _, liquid, ⟨midPayments, middle⟩, calledA, _, _, midPayment, found, _, _,
    ⟨finalPayments, final⟩, calledB, _, _, _, gained, _, enough, same⟩ := executed
  obtain rfl : final = next := same
  obtain ⟨⟨depositsA, first⟩, keptA⟩ := syncCall_ok calledA
  obtain ⟨⟨depositsB, second⟩, keptB⟩ := syncCall_ok (w := middle) calledB
  refine ⟨gained, ?_, ?_, keptB.trans keptA⟩
  · change w.holdings request.tokenIn 0 - request.amountIn + request.minFinalAmount ≤
      final.holdings request.tokenIn 0 at enough
    omega
  · intro token nonce other
    have elsewhere : received [request.firstCall.payment] token nonce = 0 := by
      rw [received_single]
      apply if_neg
      rintro ⟨rfl, rfl⟩
      exact other rfl
    have returned : received [(request.secondCall midPayment).payment] token nonce ≤
        received midPayments token nonce :=
      received_single_le (midPaymentOf_ok found).1 token nonce
    have afterFirst := first token nonce
    have afterSecond := second token nonce
    omega

theorem Profits.kept {request : FlashArbitrage} (profits : Profits request w next)
    (token : TokenIdentifier) (nonce : Nat) : w.holdings token nonce ≤ next.holdings token nonce := by
  by_cases same : (token, nonce) = (request.tokenIn, 0)
  · obtain ⟨rfl, rfl⟩ := Prod.mk.inj same
    exact Nat.le_of_lt profits.gained
  · exact profits.others token nonce same

/-- Whatever the pools answer, an arbitrage that succeeds has a profit in the first token,
of no less than the caller asked for, and takes nothing from the other tokens. -/
theorem flash_arbitrage_profits {call : CallContext} {request : FlashArbitrage}
    {poolA poolB : Pool}
    (stepped : step chain w (.executeFlashArbitrage call request poolA poolB) = .ok next) :
    w.holdings request.tokenIn 0 < next.holdings request.tokenIn 0 ∧
      w.holdings request.tokenIn 0 + request.minFinalAmount ≤
        next.holdings request.tokenIn 0 + request.amountIn ∧
      ∀ token nonce, (token, nonce) ≠ (request.tokenIn, 0) →
        w.holdings token nonce ≤ next.holdings token nonce := by
  simp only [step, bind_eq_ok] at stepped
  obtain ⟨_, _, executed⟩ := stepped
  have profits := executeFlashArbitrage_ok executed
  exact ⟨profits.gained, profits.enough, profits.others⟩

namespace Sample

def bot : Address := .fill 5

def call : CallContext :=
  { caller := bot, egldValue := 0, esdtTransfers := [], blockTimestamp := 10, blockRound := 1
    blockRandomSeed := [], gasLeft := 1000 }

def vault : World :=
  { init bot with holdings := Holdings.empty.credit [⟨ascii "WEGLD", 0, 100⟩, ⟨ascii "USDC", 0, 7⟩] }

def request : FlashArbitrage :=
  { tokenIn := ascii "WEGLD", amountIn := 60, poolA := .fill 6, tokenMid := ascii "USDC"
    poolB := .fill 7, minMidAmount := 100, minFinalAmount := 65
    endpointB := ascii "swapTokensFixedInput" }

def poolA : Pool := fun _ =>
  some ⟨[⟨ascii "DUST", 3, 1⟩, ⟨ascii "USDC", 0, 120⟩, ⟨ascii "USDC", 0, 2⟩], []⟩

def poolB : Pool := fun sent =>
  if sent.payment.amount = 120 then some ⟨[⟨ascii "WEGLD", 0, 66⟩], []⟩ else none

end Sample

theorem flash_arbitrage_profits_sample :
    ∃ next, step sampleChain Sample.vault
        (.executeFlashArbitrage Sample.call Sample.request Sample.poolA Sample.poolB) = .ok next ∧
      Sample.vault.holdings (ascii "WEGLD") 0 < next.holdings (ascii "WEGLD") 0 ∧
      Sample.vault.holdings (ascii "WEGLD") 0 + 65 ≤ next.holdings (ascii "WEGLD") 0 + 60 ∧
      ∀ token nonce, (token, nonce) ≠ (ascii "WEGLD", 0) →
        Sample.vault.holdings token nonce ≤ next.holdings token nonce := by
  have runs : endsIn (fun next => next.holdings (ascii "USDC") 0 = 9) (step sampleChain Sample.vault
      (.executeFlashArbitrage Sample.call Sample.request Sample.poolA Sample.poolB)) = true := by
    decide +kernel
  obtain ⟨next, stepped, _⟩ := endsIn_iff.mp runs
  exact ⟨next, stepped, flash_arbitrage_profits stepped⟩

/-! ## Runs -/

def World.withdrawn (w : World) (token : TokenIdentifier) (nonce : Nat) : Nat :=
  received (w.withdrawals.map Withdrawal.payment) token nonce

def Step.deposits (token : TokenIdentifier) (nonce : Nat) : Step → Nat
  | .deposit call => received (carried call) token nonce
  | _ => 0

theorem payCaller_ok {call : CallContext} {payment : EsdtPayment}
    (paid : payCaller call payment w = .ok next) :
    next.withdrawals = w.withdrawals ++ [⟨call.caller, payment⟩] ∧
      ∀ token nonce, next.holdings token nonce + next.withdrawn token nonce =
        w.holdings token nonce + w.withdrawn token nonce := by
  simp only [payCaller, bind_eq_ok, pure_eq_ok] at paid
  obtain ⟨holdings, debited, rfl⟩ := paid
  refine ⟨rfl, ?_⟩
  intro token nonce
  have left := Holdings.debit_ok debited token nonce
  simp only [World.withdrawn, List.map_append, List.map_cons, List.map_nil, received_append]
  omega

inductive Moved (chain : Chain) (w next : World) : Step → Prop where
  | silent {move : Step} (nothing : ∀ token nonce, move.deposits token nonce = 0) :
      next.holdings = w.holdings → next.withdrawals = w.withdrawals → Moved chain w next move
  | deposited {call : CallContext} :
      next.holdings = w.holdings.credit (carried call) → next.withdrawals = w.withdrawals →
      Moved chain w next (.deposit call)
  | withdrawn {move : Step} {call : CallContext} {payment : EsdtPayment}
      (nothing : ∀ token nonce, move.deposits token nonce = 0) :
      call.caller = chain.ownerAddress → payCaller call payment w = .ok next →
      Moved chain w next move
  | traded {call : CallContext} {request : FlashArbitrage} {poolA poolB : Pool} :
      Profits request w next →
      Moved chain w next (.executeFlashArbitrage call request poolA poolB)

theorem step_moved {move : Step} (stepped : step chain w move = .ok next) :
    Moved chain w next move := by
  cases move with
  | deposit call =>
      obtain rfl := (pure_eq_ok _ _).mp stepped
      exact .deposited rfl rfl
  | withdraw call token amount =>
      simp only [step, bind_eq_ok, CallContext.onlyOwner, ensure_eq_ok] at stepped
      obtain ⟨_, _, _, owner, paid⟩ := stepped
      exact .withdrawn (fun _ _ => rfl) owner paid
  | withdrawAll call token =>
      simp only [step, bind_eq_ok, CallContext.onlyOwner, ensure_eq_ok, withdrawAll] at stepped
      obtain ⟨_, _, _, owner, _, _, paid⟩ := stepped
      exact .withdrawn (fun _ _ => rfl) owner paid
  | executeFlashArbitrage call request poolA poolB =>
      simp only [step, bind_eq_ok] at stepped
      obtain ⟨_, _, executed⟩ := stepped
      exact .traded (executeFlashArbitrage_ok executed)
  | upgrade =>
      obtain rfl := (pure_eq_ok _ _).mp stepped
      exact .silent (fun _ _ => rfl) rfl rfl
  | _ =>
      simp only [step, bind_eq_ok, pure_eq_ok] at stepped
      obtain ⟨_, _, _, _, rfl⟩ := stepped
      exact .silent (fun _ _ => rfl) rfl rfl

/-- No step loses tokens: they are still held, or were withdrawn. -/
theorem Moved.conserves {move : Step} (moved : Moved chain w next move) (token : TokenIdentifier)
    (nonce : Nat) :
    w.holdings token nonce + w.withdrawn token nonce + move.deposits token nonce ≤
      next.holdings token nonce + next.withdrawn token nonce := by
  cases moved with
  | silent nothing holdings withdrawals =>
      rw [nothing, holdings, World.withdrawn, World.withdrawn, withdrawals]
      exact Nat.le_refl _
  | deposited holdings withdrawals =>
      simp only [holdings, World.withdrawn, withdrawals, Holdings.credit, Step.deposits]
      omega
  | withdrawn nothing _ paid =>
      rw [nothing, (payCaller_ok paid).2]
      exact Nat.le_refl _
  | traded profits =>
      have kept := profits.kept token nonce
      simp only [World.withdrawn, profits.withdrawals, Step.deposits]
      omega

/-- In every run the vault still holds, or its owner has withdrawn, all that it started
with and all that was deposited. -/
theorem inventory_kept {steps : List Step} {allowed : World → Step → Prop}
    (trace : Trace (step chain) allowed w steps next) (token : TokenIdentifier) (nonce : Nat) :
    w.holdings token nonce + w.withdrawn token nonce +
        (steps.map (Step.deposits token nonce)).sum ≤
      next.holdings token nonce + next.withdrawn token nonce := by
  apply trace.input_le_measure (fun _ => True)
    (fun w => w.holdings token nonce + w.withdrawn token nonce) (Step.deposits token nonce)
  · intros
    trivial
  · intro _ _ _ _ stepped
    exact (step_moved stepped).conserves token nonce
  · trivial

namespace Sample

def busy : List Step :=
  [.executeFlashArbitrage call request poolA poolB,
    .deposit { call with caller := .fill 8, esdtTransfers := [⟨ascii "USDC", 0, 3⟩] },
    .withdraw { call with caller := sampleChain.ownerAddress } (ascii "WEGLD") 6]

end Sample

theorem inventory_kept_sample :
    ∃ next, Trace (step sampleChain) (fun _ _ => True) Sample.vault Sample.busy next ∧
      next.withdrawn (ascii "WEGLD") 0 = 6 ∧ ∀ token nonce,
        Sample.vault.holdings token nonce + Sample.vault.withdrawn token nonce +
            (Sample.busy.map (Step.deposits token nonce)).sum ≤
          next.holdings token nonce + next.withdrawn token nonce := by
  obtain ⟨next, trace, taken⟩ := Trace.of_runChecked (step sampleChain) (fun _ _ => True)
    Sample.vault Sample.busy (fun next => next.withdrawn (ascii "WEGLD") 0 = 6)
    (by decide +kernel)
  exact ⟨next, trace, taken, inventory_kept trace⟩

/-- Only the owner takes tokens out. -/
theorem withdrawals_to_owner {steps : List Step} {allowed : World → Step → Prop}
    {botAddress : Address} (trace : Trace (step chain) allowed (init botAddress) steps next) :
    ∀ withdrawal ∈ next.withdrawals, withdrawal.receiver = chain.ownerAddress := by
  apply trace.preserves
    (fun w => ∀ withdrawal ∈ w.withdrawals, withdrawal.receiver = chain.ownerAddress)
  · intro w move next _ owned stepped
    cases step_moved stepped with
    | silent _ _ withdrawals => rwa [withdrawals]
    | deposited _ withdrawals => rwa [withdrawals]
    | withdrawn _ owner paid =>
        rw [(payCaller_ok paid).1]
        intro withdrawal member
        rcases List.mem_append.mp member with earlier | latest
        · exact owned withdrawal earlier
        · obtain rfl := List.mem_singleton.mp latest
          exact owner
    | traded profits => rwa [profits.withdrawals]
  · simp [init]

end XCron.HftVault
