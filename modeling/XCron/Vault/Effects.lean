import XCron.Platform.Trace
import XCron.Vault.Contract

/-!
# What a step of the vault can do

The transition function inverted once. A refused deposit finds its value back in
the vault, so its callback always pays; this needs to know that the promise of a
deposit carries exactly the deposit.
-/

namespace XCron.Vault

open Platform Outcome

variable {chain : Chain} {w next : World} {move : Step}

/-- The promise of a deposit carries the deposit. -/
def Promise.Faithful (promise : Promise) : Prop :=
  ∀ caller amount, promise.callback = .deposit caller amount → promise.egldValue = amount

def FaithfulPromises (w : World) : Prop := ∀ promise ∈ w.promises, promise.Faithful

def World.deposited (call : CallContext) (w : World) : World :=
  (({ w with
      egld := w.egld + call.egldValue
      ledger := w.ledger.deposit call.caller call.egldValue }).emit
    (.deposit call.caller call.egldValue)).enqueue
    (w.delegationCall "delegate" call.egldValue [] 12000000 (.deposit call.caller call.egldValue)
      5000000)

def World.withdrawn (call : CallContext) (amount : Nat) (w : World) : World :=
  (({ w with ledger := w.ledger.withdraw call.caller amount }).emit
    (.withdraw call.caller amount)).enqueue
    (w.delegationCall "unDelegate" 0 [natBytes amount] 12000000 (.withdraw call.caller amount)
      5000000)

/-- A promise of an automation endpoint: it spends only what is safe, and its
callback leaves the ledger alone. -/
structure Promise.Automated (promise : Promise) (w : World) : Prop where
  affordable : promise.egldValue ≤ w.safeLiquid
  notDeposit : ∀ caller amount, promise.callback ≠ .deposit caller amount
  notWithdraw : ∀ caller amount, promise.callback ≠ .withdraw caller amount

def Step.automated : Step → Bool
  | .claimUnbonded _ | .compound _ | .claimRewards _ | .swap _ | .emergencySwap _ | .mint _ => true
  | _ => false

/-- Everything a successful step can be. -/
inductive Effect (chain : Chain) (w : World) : Step → World → Prop where
  | deposit {call : CallContext} (unpaused : w.config.paused = false)
      (positive : 0 < call.egldValue) : Effect chain w (.deposit call) (w.deposited call)
  | withdraw {call : CallContext} {amount : Nat} (positive : 0 < amount)
      (covered : amount ≤ w.ledger.userBalance.amount call.caller) :
      Effect chain w (.withdraw call amount) (w.withdrawn call amount)
  | withdrawUnbonded {call : CallContext}
      (positive : 0 < w.ledger.pendingWithdrawals.amount call.caller)
      (affordable : w.ledger.pendingWithdrawals.amount call.caller ≤ w.egld) :
      Effect chain w (.withdrawUnbonded call)
        (({ w with ledger := w.ledger.collect call.caller }).pay chain
          (.unbonded call.caller (w.ledger.pendingWithdrawals.amount call.caller)))
  | automation {move : Step} {promise : Promise} (kind : move.automated = true)
      (automated : promise.Automated w) : Effect chain w move (w.enqueue promise)
  /-- A swap with nothing safe to spend. -/
  | idle {move : Step} (kind : move.automated = true) : Effect chain w move w
  | rescueYield {call : CallContext} {amount : Nat} (owner : call.caller = chain.ownerAddress)
      (safe : amount ≤ w.safeLiquid) (affordable : amount ≤ w.egld) :
      Effect chain w (.rescueYield call amount) (w.pay chain (.yield call.caller amount))
  | configure {call : CallContext} {change : ConfigCall} {config : Config}
      (owner : call.caller = chain.ownerAddress) (applied : w.config.apply change = .ok config) :
      Effect chain w (.configure call change) { w with config := config }
  | refused {index returned : Nat} {time : UInt64} {promise : Promise} {caller : Address}
      {amount : Nat} (inFlight : w.promises[index]? = some promise)
      (kind : promise.callback = .deposit caller amount) :
      Effect chain w (.callback index false returned time)
        (({ w.settle index promise false returned with
          ledger := w.ledger.undoDeposit caller amount }).pay chain (.depositRefund caller amount))
  | unbondingRefused {index returned : Nat} {time : UInt64} {promise : Promise} {caller : Address}
      {amount : Nat} (inFlight : w.promises[index]? = some promise)
      (kind : promise.callback = .withdraw caller amount) :
      Effect chain w (.callback index false returned time)
        { w.settle index promise false returned with
          ledger := w.ledger.undoWithdraw caller amount }
  /-- Every other callback only counts and announces. -/
  | settled {index returned : Nat} {time count : UInt64} {succeeded : Bool} {promise : Promise}
      {events : List Event} (inFlight : w.promises[index]? = some promise)
      (notDeposit : succeeded = false → ∀ caller amount, promise.callback ≠ .deposit caller amount)
      (notWithdraw : succeeded = false →
        ∀ caller amount, promise.callback ≠ .withdraw caller amount) :
      Effect chain w (.callback index succeeded returned time)
        { w.settle index promise succeeded returned with compoundCount := count, events := events }
  | receiveEgld {amount : Nat} :
      Effect chain w (.receiveEgld amount) { w with egld := w.egld + amount }

theorem swapAmount_le (w : World) : swapAmount w ≤ w.safeLiquid := by
  unfold swapAmount
  split <;> omega

@[simp]
theorem registerPromise_eq_ok {promise : Promise} :
    w.registerPromise promise = .ok next ↔
      promise.egldValue ≤ w.egld ∧ w.enqueue promise = next := by
  unfold World.registerPromise
  split <;> simp_all

@[simp]
theorem directEgld_eq_ok {transfer : Transfer} :
    w.directEgld chain transfer = .ok next ↔
      transfer.amount ≤ w.egld ∧ w.pay chain transfer = next := by
  unfold World.directEgld
  split <;> simp_all

theorem Effect.delegation {endpoint : String} {arguments : List Bytes} {gas callbackGas : UInt64}
    {callback : Callback} (kind : move.automated = true)
    (notDeposit : ∀ caller amount, callback ≠ .deposit caller amount)
    (notWithdraw : ∀ caller amount, callback ≠ .withdraw caller amount)
    (registered : w.registerPromise
      (w.delegationCall endpoint 0 arguments gas callback callbackGas) = .ok next) :
    Effect chain w move next := by
  obtain ⟨_, rfl⟩ := registerPromise_eq_ok.mp registered
  exact .automation kind ⟨Nat.zero_le _, notDeposit, notWithdraw⟩

theorem Effect.of_swapWith {call : CallContext} {callback : Callback}
    (kind : move.automated = true) (notDeposit : ∀ caller amount, callback ≠ .deposit caller amount)
    (notWithdraw : ∀ caller amount, callback ≠ .withdraw caller amount)
    (swapped : swapWith callback call w = .ok next) : Effect chain w move next := by
  simp only [swapWith, bind_eq_ok] at swapped
  obtain ⟨_, _, _, _, _, _, _, _, dexAddr, _, swapped⟩ := swapped
  split at swapped
  · obtain ⟨_, rfl⟩ := registerPromise_eq_ok.mp swapped
    exact .automation kind ⟨swapAmount_le w, notDeposit, notWithdraw⟩
  · obtain rfl := (pure_eq_ok _ _).mp swapped
    exact .idle kind

theorem Effect.of_callback {index returned : Nat} {succeeded : Bool} {time : UInt64}
    {promise : Promise} (inFlight : w.promises[index]? = some promise)
    (called : runCallback chain time succeeded promise.callback
      (w.settle index promise succeeded returned) = .ok next) :
    Effect chain w (.callback index succeeded returned time) next := by
  cases kind : promise.callback with
  | deposit caller amount =>
      rw [kind] at called
      cases succeeded with
      | true =>
          obtain rfl := Except.ok.inj called
          exact .settled inFlight (by simp) (by simp)
      | false =>
          obtain ⟨_, rfl⟩ := directEgld_eq_ok.mp called
          exact .refused inFlight kind
  | withdraw caller amount =>
      rw [kind] at called
      cases succeeded with
      | true =>
          obtain rfl := Except.ok.inj called
          exact .settled inFlight (by simp) (by simp)
      | false =>
          obtain rfl := Except.ok.inj called
          exact .unbondingRefused inFlight kind
  | _ =>
      rw [kind] at called
      obtain rfl := Except.ok.inj called
      cases succeeded <;> exact .settled inFlight (by simp [kind]) (by simp [kind])

/-- No callback faults: the value of a refused deposit is back when it is paid. -/
theorem runCallback_succeeds (chain : Chain) (w : World) (index returned : Nat) (succeeded : Bool)
    (time : UInt64) {promise : Promise} (faithful : promise.Faithful) :
    ∃ next, runCallback chain time succeeded promise.callback
      (w.settle index promise succeeded returned) = .ok next := by
  cases kind : promise.callback with
  | deposit caller amount =>
      cases succeeded with
      | true => exact ⟨_, rfl⟩
      | false =>
          refine ⟨_, directEgld_eq_ok.mpr ⟨?_, rfl⟩⟩
          have carried := faithful caller amount kind
          simp only [Transfer.amount, World.settle, Bool.false_eq_true, if_false]
          omega
  | _ => exact ⟨_, rfl⟩

theorem step_effect (faithful : FaithfulPromises w) (stepped : step chain w move = .ok next) :
    Effect chain w move next := by
  cases move with
  | deposit call =>
      simp only [step, deposit, bind_eq_ok, World.requireNotPaused, require_eq_ok] at stepped
      obtain ⟨_, _, _, unpaused, _, positive, stepped⟩ := stepped
      obtain ⟨_, rfl⟩ := registerPromise_eq_ok.mp stepped
      exact .deposit unpaused positive
  | withdraw call amount =>
      simp only [step, withdraw, bind_eq_ok, require_eq_ok] at stepped
      obtain ⟨_, _, _, positive, _, covered, stepped⟩ := stepped
      obtain ⟨_, rfl⟩ := registerPromise_eq_ok.mp stepped
      exact .withdraw positive covered
  | withdrawUnbonded call =>
      simp only [step, withdrawUnbonded, bind_eq_ok, require_eq_ok] at stepped
      obtain ⟨_, _, _, positive, _, affordable, stepped⟩ := stepped
      obtain ⟨_, rfl⟩ := directEgld_eq_ok.mp stepped
      exact .withdrawUnbonded positive affordable
  | claimUnbonded call =>
      simp only [step, bind_eq_ok] at stepped
      obtain ⟨_, _, stepped⟩ := stepped
      exact .delegation rfl (by simp) (by simp) stepped
  | compound call =>
      simp only [step, compound, bind_eq_ok] at stepped
      obtain ⟨_, _, _, _, _, _, stepped⟩ := stepped
      exact .delegation rfl (by simp) (by simp) stepped
  | claimRewards call =>
      simp only [step, claimRewards, bind_eq_ok] at stepped
      obtain ⟨_, _, _, _, _, _, stepped⟩ := stepped
      exact .delegation rfl (by simp) (by simp) stepped
  | swap call =>
      simp only [step, bind_eq_ok] at stepped
      obtain ⟨_, _, swapped⟩ := stepped
      exact .of_swapWith rfl (by simp) (by simp) swapped
  | emergencySwap call =>
      simp only [step, bind_eq_ok] at stepped
      obtain ⟨_, _, swapped⟩ := stepped
      exact .of_swapWith rfl (by simp) (by simp) swapped
  | mint call =>
      simp only [step, mint, bind_eq_ok, require_eq_ok] at stepped
      obtain ⟨_, _, _, _, _, _, _, _, nftAddr, _, _, safe, stepped⟩ := stepped
      obtain ⟨_, rfl⟩ := registerPromise_eq_ok.mp stepped
      exact .automation rfl ⟨safe, by simp [mintCall], by simp [mintCall]⟩
  | rescueYield call amount =>
      simp only [step, rescueYield, bind_eq_ok, require_eq_ok, CallContext.onlyOwner,
        ensure_eq_ok] at stepped
      obtain ⟨_, _, _, owner, _, safe, stepped⟩ := stepped
      obtain ⟨affordable, rfl⟩ := directEgld_eq_ok.mp stepped
      exact .rescueYield owner safe affordable
  | configure call change =>
      simp only [step, bind_eq_ok, CallContext.onlyOwner, ensure_eq_ok, pure_eq_ok] at stepped
      obtain ⟨_, _, _, owner, config, applied, rfl⟩ := stepped
      exact .configure owner applied
  | callback index succeeded returned time =>
      simp only [step] at stepped
      split at stepped
      · simp at stepped
      next promise inFlight =>
        have carries := faithful promise (List.mem_of_getElem? inFlight)
        obtain ⟨after, called⟩ := runCallback_succeeds chain w index returned succeeded time carries
        rw [called] at stepped
        obtain rfl := Except.ok.inj stepped
        exact .of_callback inFlight called
  | receiveEgld amount =>
      obtain rfl := Except.ok.inj stepped
      exact .receiveEgld

theorem FaithfulPromises.enqueue (faithful : FaithfulPromises w) {promise : Promise}
    {queued : World} (carries : promise.Faithful)
    (queue : queued.promises = w.promises ++ [promise]) : FaithfulPromises queued := by
  intro other membership
  rw [queue, List.mem_append, List.mem_singleton] at membership
  rcases membership with old | rfl
  · exact faithful other old
  · exact carries

theorem FaithfulPromises.erase (faithful : FaithfulPromises w) {index : Nat} {left : World}
    (rest : left.promises = w.promises.eraseIdx index) : FaithfulPromises left := by
  intro other membership
  rw [rest] at membership
  exact faithful other (List.mem_of_mem_eraseIdx membership)

theorem init_faithful (delegationContract schedulerAddress : Address) :
    FaithfulPromises (init delegationContract schedulerAddress) := by
  intro promise membership
  simp [init] at membership

theorem FaithfulPromises.step (faithful : FaithfulPromises w)
    (stepped : step chain w move = .ok next) : FaithfulPromises next := by
  cases step_effect faithful stepped with
  | deposit =>
      refine faithful.enqueue ?_ rfl
      rintro caller amount ⟨⟩
      rfl
  | withdraw =>
      refine faithful.enqueue ?_ rfl
      rintro caller amount ⟨⟩
  | automation _ automated =>
      exact faithful.enqueue (fun caller amount kind =>
        absurd kind (automated.notDeposit caller amount)) rfl
  | refused => exact faithful.erase rfl
  | unbondingRefused => exact faithful.erase rfl
  | settled => exact faithful.erase rfl
  | _ => exact faithful

end XCron.Vault
