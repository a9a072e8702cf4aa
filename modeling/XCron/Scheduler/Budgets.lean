import XCron.Scheduler.Compressed
import XCron.Scheduler.Ownership

/-!
# Clone-key budgets

A clone key is kept in two maps, by its own address and in the set of its main wallet.
Its budget comes in with `authorizeCloneKey` and `fundCloneKey`, goes out as the deposits
of the tasks it schedules, and what is left goes back to the main wallet on revocation.
The tasks belong to the main wallet for as long as no waiting endpoint and no compressed
payload writes another owner over it.
-/

namespace XCron.Scheduler

open Platform

variable {chain : Chain} {w next : World} {move : Step}

/-! ## What happens to clone keys -/

def Step.requestedDeposit? : Step → Option Nat
  | .scheduleQuantumTask _ _ requested | .scheduleSovereignTask _ _ requested => requested
  | _ => none

def Step.paidInto (cloneAddress : Address) : Step → Nat
  | .authorizeCloneKey call other _ | .fundCloneKey call other =>
      if other = cloneAddress then call.egldValue else 0
  | _ => 0

theorem paidInto_of_unmanaged (unmanaged : move.managesKeys = false) (cloneAddress : Address) :
    move.paidInto cloneAddress = 0 := by
  cases move with
  | authorizeCloneKey | fundCloneKey => cases unmanaged
  | _ => rfl

/-- What a step can do to the clone keys, with the checks it has made. -/
inductive Keyed (w next : World) : Step → Prop where
  | authorized {call : CallContext} {cloneAddress : Address} {ttlSeconds : UInt64}
      (fresh : w.cloneKeyProps.get? cloneAddress = none) (foreign : cloneAddress ≠ call.caller)
      (positive : 0 < call.egldValue) (capped : call.egldValue ≤ Constants.maxCloneKeySpendLimit)
      (few : (w.walletCloneKeys call.caller).card < Constants.maxCloneKeysPerWallet)
      (props : next.cloneKeyProps = w.cloneKeyProps.set cloneAddress
        { mainAddress := call.caller, spendLimit := call.egldValue, spentAmount := 0,
          expiryTimestamp := call.blockTimestamp + ttlSeconds })
      (wallets : next.walletCloneKeys = Function.update w.walletCloneKeys call.caller
        (insert cloneAddress (w.walletCloneKeys call.caller))) :
      Keyed w next (.authorizeCloneKey call cloneAddress ttlSeconds)
  | revoked {call : CallContext} {cloneAddress : Address} {old : CloneKeyProperties}
      (found : w.cloneKeyProps.get? cloneAddress = some old) (owned : old.mainAddress = call.caller)
      (props : next.cloneKeyProps = w.cloneKeyProps.clear cloneAddress)
      (wallets : next.walletCloneKeys = Function.update w.walletCloneKeys call.caller
        ((w.walletCloneKeys call.caller).erase cloneAddress))
      (sent : next.sent = w.sent ++ (refundList old.unspent).map (.egld call.caller)) :
      Keyed w next (.revokeCloneKey call cloneAddress)
  | funded {call : CallContext} {cloneAddress : Address} {old : CloneKeyProperties}
      (found : w.cloneKeyProps.get? cloneAddress = some old) (owned : old.mainAddress = call.caller)
      (capped : old.spendLimit + call.egldValue ≤ Constants.maxCloneKeySpendLimit)
      (props : next.cloneKeyProps = w.cloneKeyProps.set cloneAddress
        { old with spendLimit := old.spendLimit + call.egldValue })
      (wallets : next.walletCloneKeys = w.walletCloneKeys) :
      Keyed w next (.fundCloneKey call cloneAddress)
  | charged {move : Step} {call : CallContext} {old : CloneKeyProperties} {deposit : Nat}
      (schedules : move.scheduling? = some call) (unmanaged : move.managesKeys = false)
      (found : w.cloneKeyProps.get? call.caller = some old)
      (resolved : resolveCaller call w = (old.mainAddress, true))
      (requested : move.requestedDeposit? = some deposit)
      (within : old.spentAmount + deposit ≤ old.spendLimit)
      (props : next.cloneKeyProps = w.cloneKeyProps.set call.caller
        { old with spentAmount := old.spentAmount + deposit })
      (wallets : next.walletCloneKeys = w.walletCloneKeys)
      (stored : ∃ hash, w.quantumTasks.get? hash = none ∧ next.quantumTasks.get? hash =
        some { owner := old.mainAddress, deposit := deposit, status := .pending, executingAt := 0 }) :
      Keyed w next move
  | untouched {move : Step} (direct : ∀ call, move.scheduling? = some call →
        (resolveCaller call w).2 = false)
      (unmanaged : move.managesKeys = false)
      (props : next.cloneKeyProps = w.cloneKeyProps)
      (wallets : next.walletCloneKeys = w.walletCloneKeys) : Keyed w next move

theorem takeDeposit_keyed {call : CallContext} {requested : Option Nat} {deposit : Nat}
    (taken : takeDeposit call requested w = .ok (deposit, next)) :
    ((resolveCaller call w).2 = false ∧ next = w) ∨
      ∃ old, w.cloneKeyProps.get? call.caller = some old ∧
        resolveCaller call w = (old.mainAddress, true) ∧ requested = some deposit ∧
        old.spentAmount + deposit ≤ old.spendLimit ∧ next = w.charged call.caller old deposit := by
  unfold takeDeposit at taken
  split at taken
  next clone =>
    right
    cases requested with
    | none => simp at taken
    | some amount =>
        simp only [chargeCloneKey, Outcome.bind_eq_ok, Outcome.require_eq_ok, Outcome.load_eq_ok,
          Outcome.pure_eq_ok, Prod.mk.injEq] at taken
        obtain ⟨_, _, charged, ⟨old, found, _, live, _, within, rfl⟩, rfl, rfl⟩ := taken
        refine ⟨old, found, ?_, rfl, within, rfl⟩
        rw [resolveCaller, found]
        exact if_neg (UInt64.not_le.mpr live)
  next direct =>
    simp only [Outcome.pure_eq_ok, Prod.mk.injEq] at taken
    exact .inl ⟨Bool.not_eq_true _ ▸ direct, taken.2.symm⟩

theorem storeTask_keyed {call : CallContext} {requested : Option Nat} {deposit : Nat}
    {paid : World} {hash : TaskHash} (schedules : move.scheduling? = some call)
    (asks : move.requestedDeposit? = requested) (unmanaged : move.managesKeys = false)
    (taken : takeDeposit call requested (w.credit call) = .ok (deposit, paid))
    (free : paid.quantumTasks.get? hash = none)
    (stored : next.quantumTasks = paid.quantumTasks.set hash
      { owner := (resolveCaller call w).1, deposit := deposit, status := .pending, executingAt := 0 })
    (props : next.cloneKeyProps = paid.cloneKeyProps)
    (wallets : next.walletCloneKeys = paid.walletCloneKeys) : Keyed w next move := by
  rcases takeDeposit_keyed taken with ⟨direct, rfl⟩ | ⟨old, found, resolved, rfl, within, rfl⟩
  · refine .untouched ?_ unmanaged props wallets
    intro other same
    obtain rfl := Option.some.inj (schedules.symm.trans same)
    exact direct
  · have resolved' : resolveCaller call w = (old.mainAddress, true) := resolved
    refine .charged schedules unmanaged found resolved' asks within props wallets ⟨hash, free, ?_⟩
    rw [stored, resolved', Cells.get?_set_self]

theorem authorizeCloneKey_keyed {call : CallContext} {cloneAddress : Address} {ttlSeconds : UInt64}
    (stepped : step chain w (.authorizeCloneKey call cloneAddress ttlSeconds) = .ok next) :
    Keyed w next (.authorizeCloneKey call cloneAddress ttlSeconds) := by
  simp only [step, Step.call?, body, authorizeCloneKey, Outcome.bind_eq_ok, Outcome.require_eq_ok,
    Outcome.pure_eq_ok] at stepped
  obtain ⟨_, _, _, _, _, _, _, positive, _, capped, _, _, _, _, _, foreign, _, fresh, _, few, rfl⟩ :=
    stepped
  exact .authorized fresh foreign positive capped few rfl rfl

theorem fundCloneKey_keyed {call : CallContext} {cloneAddress : Address}
    (stepped : step chain w (.fundCloneKey call cloneAddress) = .ok next) :
    Keyed w next (.fundCloneKey call cloneAddress) := by
  simp only [step, Step.call?, body, fundCloneKey, Outcome.bind_eq_ok, Outcome.require_eq_ok,
    Outcome.load_eq_ok, Outcome.pure_eq_ok] at stepped
  obtain ⟨_, _, _, _, _, _, _, _, _, _, old, found, _, owned, _, _, _, capped, rfl⟩ := stepped
  exact .funded found owned capped rfl rfl

theorem step_keyed (stepped : step chain w move = .ok next) : Keyed w next move := by
  cases step_effect stepped with
  | scheduleQuantumTask _ _ taken free =>
      exact storeTask_keyed rfl rfl rfl taken free rfl rfl rfl
  | scheduleSovereignTask _ _ taken free =>
      exact storeTask_keyed rfl rfl rfl taken free rfl rfl rfl
  | authorizeCloneKey => exact authorizeCloneKey_keyed stepped
  | fundCloneKey => exact fundCloneKey_keyed stepped
  | revokeCloneKey _ found owned _ =>
      exact .revoked found owned rfl rfl (payIfPositive_refund chain _ _ w)
  | _ =>
      obtain ⟨props, wallets, _, _⟩ := step_sameWallets stepped rfl rfl
      exact .untouched (fun _ none => nomatch none) rfl props wallets

/-! ## The records -/

/-- What every stored clone key satisfies. -/
structure KeySound (cloneAddress : Address) (props : CloneKeyProperties) : Prop where
  foreign : cloneAddress ≠ props.mainAddress
  within : props.spentAmount ≤ props.spendLimit
  positive : 0 < props.spendLimit
  capped : props.spendLimit ≤ Constants.maxCloneKeySpendLimit

/-- The two maps agree, no wallet has too many keys, and every key is sound. -/
structure KeysSound (w : World) : Prop where
  listed : ∀ cloneAddress wallet, (∃ props, w.cloneKeyProps.get? cloneAddress = some props ∧
    props.mainAddress = wallet) ↔ cloneAddress ∈ w.walletCloneKeys wallet
  few : ∀ wallet, (w.walletCloneKeys wallet).card ≤ Constants.maxCloneKeysPerWallet
  records : ∀ cloneAddress props, w.cloneKeyProps.get? cloneAddress = some props →
    KeySound cloneAddress props

theorem KeysSound.replace {cloneAddress : Address} {old changed : CloneKeyProperties}
    (sound : KeysSound w) (found : w.cloneKeyProps.get? cloneAddress = some old)
    (same : changed.mainAddress = old.mainAddress) (sound' : KeySound cloneAddress changed)
    (props : next.cloneKeyProps = w.cloneKeyProps.set cloneAddress changed)
    (wallets : next.walletCloneKeys = w.walletCloneKeys) : KeysSound next := by
  constructor
  · intro other wallet
    rw [wallets, ← sound.listed, props]
    by_cases here : other = cloneAddress
    · subst here
      simp only [Cells.get?_set_self, found, Option.some.injEq, exists_eq_left', same]
    · rw [Cells.get?_set_ne _ _ here]
  · rw [wallets]
    exact sound.few
  · intro other props' found'
    rw [props] at found'
    rcases Cells.of_get?_set found' with ⟨rfl, rfl⟩ | ⟨_, found'⟩
    · exact sound'
    · exact sound.records other props' found'

theorem KeysSound.insert {cloneAddress wallet : Address} {fresh : CloneKeyProperties}
    (sound : KeysSound w) (free : w.cloneKeyProps.get? cloneAddress = none)
    (owned : fresh.mainAddress = wallet) (sound' : KeySound cloneAddress fresh)
    (room : (w.walletCloneKeys wallet).card < Constants.maxCloneKeysPerWallet)
    (props : next.cloneKeyProps = w.cloneKeyProps.set cloneAddress fresh)
    (wallets : next.walletCloneKeys = Function.update w.walletCloneKeys wallet
      (insert cloneAddress (w.walletCloneKeys wallet))) : KeysSound next := by
  have unlisted : ∀ other, cloneAddress ∉ w.walletCloneKeys other := by
    intro other member
    obtain ⟨_, found, _⟩ := (sound.listed cloneAddress other).mpr member
    rw [free] at found
    cases found
  constructor
  · intro other wallet'
    rw [props, wallets, Function.update_apply]
    by_cases here : other = cloneAddress
    · subst here
      simp only [Cells.get?_set_self, Option.some.injEq, exists_eq_left', owned]
      split
      · subst wallet'
        simp
      · simp [unlisted wallet', Ne.symm ‹_›]
    · rw [Cells.get?_set_ne _ _ here, sound.listed]
      split
      · subst wallet'
        simp [here]
      · rfl
  · intro wallet'
    rw [wallets, Function.update_apply]
    split
    · exact Nat.le_trans (Finset.card_insert_le _ _) room
    · exact sound.few wallet'
  · intro other props' found
    rw [props] at found
    rcases Cells.of_get?_set found with ⟨rfl, rfl⟩ | ⟨_, found⟩
    · exact sound'
    · exact sound.records other props' found

theorem KeysSound.erase {cloneAddress : Address} {old : CloneKeyProperties}
    (sound : KeysSound w) (found : w.cloneKeyProps.get? cloneAddress = some old)
    (props : next.cloneKeyProps = w.cloneKeyProps.clear cloneAddress)
    (wallets : next.walletCloneKeys = Function.update w.walletCloneKeys old.mainAddress
      ((w.walletCloneKeys old.mainAddress).erase cloneAddress)) : KeysSound next := by
  constructor
  · intro other wallet
    rw [props, wallets, Function.update_apply]
    by_cases here : other = cloneAddress
    · subst here
      have elsewhere : wallet ≠ old.mainAddress → other ∉ w.walletCloneKeys wallet := by
        intro different member
        obtain ⟨props', found', owned⟩ := (sound.listed other wallet).mpr member
        obtain rfl := Option.some.inj (found.symm.trans found')
        exact different owned.symm
      simp only [Cells.get?_clear_self, reduceCtorEq, false_and, exists_false, false_iff]
      split
      · simp
      · exact elsewhere ‹_›
    · rw [Cells.get?_clear_ne _ here, sound.listed]
      split
      · subst wallet
        simp [here]
      · rfl
  · intro wallet
    rw [wallets, Function.update_apply]
    split
    · exact Nat.le_trans Finset.card_erase_le (sound.few _)
    · exact sound.few wallet
  · intro other props' found'
    rw [props] at found'
    exact sound.records other props' (Cells.get?_of_clear found')

theorem KeysSound.step (sound : KeysSound w) (stepped : step chain w move = .ok next) :
    KeysSound next := by
  cases step_keyed stepped with
  | authorized fresh foreign positive capped few props wallets =>
      exact sound.insert fresh rfl ⟨foreign, Nat.zero_le _, positive, capped⟩ few props wallets
  | revoked found owned props wallets _ =>
      rw [← owned] at wallets
      exact sound.erase found props wallets
  | funded found _ capped props wallets =>
      have before := sound.records _ _ found
      refine sound.replace found ?_ ?_ props wallets
      · rfl
      · exact ⟨before.foreign, Nat.le_add_right_of_le before.within,
          Nat.add_pos_left before.positive _, capped⟩
  | charged _ _ found _ _ within props wallets _ =>
      have before := sound.records _ _ found
      refine sound.replace found ?_ ?_ props wallets
      · rfl
      · exact ⟨before.foreign, within, before.positive, before.capped⟩
  | untouched _ _ props wallets =>
      constructor
      · rw [props, wallets]
        exact sound.listed
      · rw [wallets]
        exact sound.few
      · rw [props]
        exact sound.records

theorem Deployed.keysSound {start : World} (started : Deployed start) : KeysSound start := by
  obtain ⟨_, _, _, _, _, _, rfl⟩ := started.eq
  constructor
  · intro cloneAddress wallet
    simp [deployed]
  · intro wallet
    simp [deployed]
  · intro cloneAddress props found
    simp [deployed] at found

/-! ## The lifetime of a key -/

def Step.revokes (cloneAddress : Address) : Step → Bool
  | .revokeCloneKey _ other => other = cloneAddress
  | _ => false

def chargedTo (cloneAddress : Address) (w : World) (move : Step) : Nat :=
  match move.scheduling? with
  | some call =>
      if call.caller = cloneAddress ∧ (resolveCaller call w).2 then move.requestedDeposit?.getD 0
      else 0
  | none => 0

/-- What a step does to a key that it does not revoke. -/
theorem step_key {cloneAddress : Address} {old : CloneKeyProperties}
    (stepped : step chain w move = .ok next) (kept : move.revokes cloneAddress = false)
    (found : w.cloneKeyProps.get? cloneAddress = some old) :
    next.cloneKeyProps.get? cloneAddress = some { old with
      spendLimit := old.spendLimit + move.paidInto cloneAddress
      spentAmount := old.spentAmount + chargedTo cloneAddress w move } := by
  cases step_keyed stepped with
  | @authorized call other _ fresh _ _ _ _ props _ =>
      have different : other ≠ cloneAddress := by
        rintro rfl
        rw [fresh] at found
        cases found
      rw [props, Cells.get?_set_ne _ _ (Ne.symm different), found]
      simp [Step.paidInto, chargedTo, Step.scheduling?, different]
  | @revoked call other _ _ _ props _ _ =>
      have different : other ≠ cloneAddress := of_decide_eq_false kept
      rw [props, Cells.get?_clear_ne _ (Ne.symm different), found]
      rfl
  | @funded call other _ found' _ _ props _ =>
      rw [props, Cells.get?_set]
      split
      next here =>
        subst here
        obtain rfl := Option.some.inj (found.symm.trans found')
        simp [Step.paidInto, chargedTo, Step.scheduling?]
      next elsewhere =>
        rw [found]
        simp [Step.paidInto, chargedTo, Step.scheduling?, Ne.symm elsewhere]
  | charged schedules unmanaged found' resolved requested _ props _ _ =>
      rw [props, Cells.get?_set, paidInto_of_unmanaged unmanaged]
      split
      next here =>
        subst here
        obtain rfl := Option.some.inj (found.symm.trans found')
        simp [chargedTo, schedules, resolved, requested]
      next elsewhere =>
        rw [found]
        simp [chargedTo, schedules, Ne.symm elsewhere]
  | untouched direct unmanaged props _ =>
      have uncharged : chargedTo cloneAddress w move = 0 := by
        unfold chargedTo
        split
        next call schedules => simp [direct call schedules]
        next => rfl
      rw [props, found, paidInto_of_unmanaged unmanaged, uncharged]
      rfl

/-- What a run does to a key that it does not revoke. -/
theorem trace_key {cloneAddress : Address} {steps : List Step} {old : CloneKeyProperties}
    (trace : Trace (step chain) (fun _ move => move.revokes cloneAddress = false) w steps next)
    (found : w.cloneKeyProps.get? cloneAddress = some old) :
    next.cloneKeyProps.get? cloneAddress = some { old with
      spendLimit := old.spendLimit +
        sumAlong (step chain) (fun _ move => move.paidInto cloneAddress) w steps
      spentAmount := old.spentAmount +
        sumAlong (step chain) (chargedTo cloneAddress) w steps } := by
  induction trace generalizing old with
  | nil => exact found
  | cons kept stepped _ inductionHypothesis =>
      rw [inductionHypothesis (step_key stepped kept found)]
      simp only [sumAlong, stepped, Nat.add_assoc]

/-! ## The tasks of a key -/

/-- The task is still stored, and no endpoint that returns for it remembers another
owner. -/
structure OwnerKept (hash : TaskHash) (owner : Address) (w : World) (move : Step) : Prop where
  stored : w.quantumTasks.get? hash ≠ none
  returns : ∀ frame, Returns w move frame → frame.taskHash = hash → frame.owner = owner

/-- While it is stored, the task belongs to the owner. -/
def BelongsTo (hash : TaskHash) (owner : Address) (w : World) : Prop :=
  ∀ state, w.quantumTasks.get? hash = some state → state.owner = owner

theorem BelongsTo.step {hash : TaskHash} {owner : Address} (belongs : BelongsTo hash owner w)
    (ownerKept : OwnerKept hash owner w move) (stepped : step chain w move = .ok next) :
    BelongsTo hash owner next := by
  intro state found
  cases step_handled stepped with
  | scheduled _ other _ _ free stored _ =>
      have different : hash ≠ other := by
        rintro rfl
        exact ownerKept.stored free
      rw [stored, Cells.get?_set_ne _ _ different] at found
      exact belongs state found
  | started other state' origin stored _ =>
      rw [stored] at found
      rcases Cells.of_get?_set found with ⟨rfl, rfl⟩ | ⟨_, found⟩
      · rcases origin with ⟨before, found, same⟩ | ⟨frame, returns, _, here, same⟩
        · exact same ▸ belongs before found
        · exact same ▸ ownerKept.returns frame returns here
      · exact belongs state found
  | closed other _ _ _ _ stored _ _ _ =>
      rw [stored] at found
      exact belongs state (Cells.get?_of_clear found)
  | untouched stored _ =>
      rw [stored] at found
      exact belongs state found

theorem BelongsTo.refunds {hash : TaskHash} {owner : Address} (belongs : BelongsTo hash owner w)
    (ownerKept : OwnerKept hash owner w move) (stepped : Scheduler.step chain w move = .ok next)
    (gone : next.quantumTasks.get? hash = none) :
    ∃ (reward : Option (Address × Nat)) (refunds : List Nat) (how : Closing)
        (path : Option DispatchPath) (fee : Nat),
      next.sent = w.sent ++ ((reward.map fun paid => .egld paid.1 paid.2).toList ++
        refunds.map (.egld owner)) ∧
      next.journal = w.journal ++
        [.closed hash how path ((reward.map Prod.snd).getD 0) refunds.sum fee] := by
  obtain ⟨state, found⟩ := Option.ne_none_iff_exists'.mp ownerKept.stored
  cases step_handled stepped with
  | scheduled _ other _ _ _ stored _ =>
      rw [stored] at gone
      exact absurd gone (Cells.get?_set_ne_none _ found)
  | started other state' _ stored _ =>
      rw [stored] at gone
      exact absurd gone (Cells.get?_set_ne_none _ found)
  | closed other closer reward refunds origin stored _ sent logged =>
      rw [stored] at gone
      obtain rfl := Cells.eq_of_get?_clear found gone
      have mine : closer = owner := by
        rcases origin with ⟨before, found, rfl⟩ | ⟨frame, returns, here, rfl⟩
        · exact belongs before found
        · exact ownerKept.returns frame returns here
      subst mine
      obtain ⟨how, path, fee, logged⟩ := logged
      exact ⟨reward, refunds, how, path, fee, sent, logged⟩
  | untouched stored _ =>
      rw [stored, found] at gone
      cases gone

/-! ## Budgets over runs -/

/-- What the lifetime of a clone key comes to: its main wallet and its expiry stay, and on
revocation the deposits of its tasks and the refund make up what was paid for it. -/
def Conserved (chain : Chain) (call : CallContext) (cloneAddress : Address) (ttlSeconds : UInt64)
    (opened : World) (steps : List Step) (now : World) : Prop :=
  ∃ props, now.cloneKeyProps.get? cloneAddress = some props ∧
    props.mainAddress = call.caller ∧ props.expiryTimestamp = call.blockTimestamp + ttlSeconds ∧
    ∀ revoker revoked, step chain now (.revokeCloneKey revoker cloneAddress) = .ok revoked →
      ∃ refund, revoked.sent = now.sent ++ (refundList refund).map (.egld call.caller) ∧
        sumAlong (step chain) (chargedTo cloneAddress) opened steps + refund =
          call.egldValue + sumAlong (step chain) (fun _ move => move.paidInto cloneAddress) opened
            steps

/-- What becomes of a task: it belongs to the wallet, and what closes it refunds the
wallet. -/
def RefundsTo (chain : Chain) (hash : TaskHash) (wallet : Address) (now : World) : Prop :=
  BelongsTo hash wallet now ∧
    ∀ move closed, OwnerKept hash wallet now move → step chain now move = .ok closed →
      closed.quantumTasks.get? hash = none →
      ∃ (reward : Option (Address × Nat)) (refunds : List Nat) (how : Closing)
          (path : Option DispatchPath) (fee : Nat),
        closed.sent = now.sent ++ ((reward.map fun paid => .egld paid.1 paid.2).toList ++
          refunds.map (.egld wallet)) ∧
        closed.journal = now.journal ++
          [.closed hash how path ((reward.map Prod.snd).getD 0) refunds.sum fee]

theorem KeysSound.conserved {call : CallContext} {cloneAddress : Address} {ttlSeconds : UInt64}
    {opened now : World} {steps : List Step} (sound : KeysSound w)
    (authorized : Scheduler.step chain w (.authorizeCloneKey call cloneAddress ttlSeconds) =
      .ok opened)
    (trace : Trace (Scheduler.step chain) (fun _ move => move.revokes cloneAddress = false) opened
      steps now) :
    Conserved chain call cloneAddress ttlSeconds opened steps now := by
  have soundNow : KeysSound now :=
    trace.preserves KeysSound (fun _ _ _ _ sound stepped => sound.step stepped)
      (sound.step authorized)
  cases step_keyed authorized with
  | charged _ unmanaged | untouched _ unmanaged => cases unmanaged
  | authorized _ _ _ _ _ props _ =>
      have opened' := congrArg (Cells.get? · cloneAddress) props
      have later := trace_key trace (opened'.trans (Cells.get?_set_self _ _ _))
      have within := (soundNow.records _ _ later).within
      refine ⟨_, later, rfl, rfl, ?_⟩
      intro revoker revoked stepped
      cases step_keyed stepped with
      | charged _ unmanaged | untouched _ unmanaged => cases unmanaged
      | revoked found owned _ _ sent =>
          obtain rfl := Option.some.inj (later.symm.trans found)
          rw [← owned] at sent
          refine ⟨_, sent, ?_⟩
          unfold CloneKeyProperties.unspent
          dsimp only at within ⊢
          omega

theorem KeysSound.task {call : CallContext} (sound : KeysSound w)
    (stepped : Scheduler.step chain w move = .ok next) (schedules : move.scheduling? = some call)
    (clone : (resolveCaller call w).2 = true) :
    call.caller ∈ w.walletCloneKeys (resolveCaller call w).1 ∧
      call.caller ≠ (resolveCaller call w).1 ∧
      ∃ hash deposit, move.requestedDeposit? = some deposit ∧
        w.quantumTasks.get? hash = none ∧ next.quantumTasks.get? hash =
          some { owner := (resolveCaller call w).1, deposit := deposit, status := .pending,
                 executingAt := 0 } := by
  cases step_keyed stepped with
  | authorized | revoked | funded => cases schedules
  | untouched direct => exact absurd clone (Bool.not_eq_true _ ▸ direct call schedules)
  | @charged _ other old deposit schedules' _ found resolved requested _ _ _ stored =>
      obtain rfl := Option.some.inj (schedules.symm.trans schedules')
      obtain ⟨hash, free, stored⟩ := stored
      rw [resolved]
      refine ⟨?_, (sound.records _ _ found).foreign, hash, deposit, requested, free, stored⟩
      exact (sound.listed _ _).mp ⟨old, found, rfl⟩

/-- In every reachable state the clone keys are sound; over the lifetime of a key its
budget is conserved; and a task scheduled through a key belongs to the main wallet, and
refunds the main wallet, as long as no endpoint that returns for it remembers another
owner. -/
theorem cloneKeys_conserve {start : World} {past : List Step} (started : Deployed start)
    (reached : Trace (step chain) (fun _ _ => True) start past w) :
    KeysSound w ∧
      (∀ call cloneAddress ttlSeconds opened steps now,
        step chain w (.authorizeCloneKey call cloneAddress ttlSeconds) = .ok opened →
        Trace (step chain) (fun _ move => move.revokes cloneAddress = false) opened steps now →
        Conserved chain call cloneAddress ttlSeconds opened steps now) ∧
      ∀ move call scheduled, step chain w move = .ok scheduled → move.scheduling? = some call →
        (resolveCaller call w).2 = true →
        call.caller ∈ w.walletCloneKeys (resolveCaller call w).1 ∧
        call.caller ≠ (resolveCaller call w).1 ∧
        ∃ hash deposit, move.requestedDeposit? = some deposit ∧
          w.quantumTasks.get? hash = none ∧
          scheduled.quantumTasks.get? hash =
            some { owner := (resolveCaller call w).1, deposit := deposit, status := .pending,
                   executingAt := 0 } ∧
          ∀ steps now,
            Trace (step chain) (OwnerKept hash (resolveCaller call w).1) scheduled steps now →
            RefundsTo chain hash (resolveCaller call w).1 now := by
  have sound : KeysSound w :=
    reached.preserves KeysSound (fun _ _ _ _ sound stepped => sound.step stepped) started.keysSound
  refine ⟨sound, fun _ _ _ _ _ _ authorized trace => sound.conserved authorized trace, ?_⟩
  intro move call scheduled stepped schedules clone
  obtain ⟨listed, foreign, hash, deposit, requested, free, stored⟩ :=
    sound.task stepped schedules clone
  refine ⟨listed, foreign, hash, deposit, requested, free, stored, ?_⟩
  intro steps now trace
  have first : BelongsTo hash (resolveCaller call w).1 scheduled := by
    intro state found
    obtain rfl := Option.some.inj (stored.symm.trans found)
    rfl
  have belongs : BelongsTo hash (resolveCaller call w).1 now :=
    trace.preserves _ (fun _ _ _ ownerKept belongs stepped => belongs.step ownerKept stepped) first
  exact ⟨belongs, fun _ _ ownerKept stepped gone => belongs.refunds ownerKept stepped gone⟩

namespace Sample

def authorizeBob : Step := .authorizeCloneKey (call alice 1000 1000) bob 3600

def cloneSchedules : Step := .scheduleQuantumTask (call bob 0 1000) compressedTask (some 700)

end Sample

theorem cloneKeys_conserve_sample :
    ∃ opened scheduled, step sampleChain Sample.world Sample.authorizeBob = .ok opened ∧
      step sampleChain opened Sample.cloneSchedules = .ok scheduled ∧
      Conserved sampleChain (Sample.call Sample.alice 1000 1000) Sample.bob 3600 opened
        [Sample.cloneSchedules] scheduled ∧
      KeysSound opened ∧ ∃ hash, RefundsTo sampleChain hash Sample.alice scheduled := by
  obtain ⟨scheduled, trace, _⟩ := Trace.of_runChecked (step sampleChain)
    (fun w move => move.managesKeys = true ∨
      resolveCaller (Sample.call Sample.bob 0 1000) w = (Sample.alice, true))
    Sample.world ([Sample.authorizeBob] ++ [Sample.cloneSchedules]) (fun _ => True)
    (by decide +kernel)
  obtain ⟨opened, reached, permitted, stepped⟩ := trace.last
  have resolved : resolveCaller (Sample.call Sample.bob 0 1000) opened = (Sample.alice, true) :=
    permitted.resolve_left nofun
  cases reached with
  | cons _ authorized rest =>
      cases rest
      have undone : Trace (step sampleChain) (fun _ _ => True) Sample.world [] Sample.world := .nil _
      have done : Trace (step sampleChain) (fun _ _ => True) Sample.world [Sample.authorizeBob]
          opened := .cons trivial authorized (.nil _)
      have conserved := (cloneKeys_conserve Sample.world_deployed undone).2.1 _ _ _ _ _ _ authorized
        (.cons rfl stepped (.nil _))
      obtain ⟨sound, _, tasks⟩ := cloneKeys_conserve Sample.world_deployed done
      have task := tasks Sample.cloneSchedules _ scheduled stepped rfl (by rw [resolved])
      rw [resolved] at task
      obtain ⟨_, _, hash, _, _, _, _, refunds⟩ := task
      exact ⟨opened, scheduled, authorized, stepped, conserved, sound, hash,
        refunds [] scheduled (.nil _)⟩

/-- Bob's key is charged for a task that belongs to Alice. A keeper presents the payload
of the task, which names Bob as the owner; the target fails, and Bob gets the refund. -/
theorem cloneKey_refunded :
    Deployed Sample.world ∧
      (∃ w, Trace (step sampleChain) (fun _ _ => True) Sample.world
          [Sample.admitKeeper, Sample.configureXsc, Sample.authorizeBob] w ∧
        resolveCaller (Sample.call Sample.bob 0 1000) w = (Sample.alice, true)) ∧
      (∃ w, Trace (step sampleChain) (fun _ _ => True) Sample.world
          [Sample.admitKeeper, Sample.configureXsc, Sample.authorizeBob, Sample.cloneSchedules] w ∧
        w.quantumTasks.get? (taskHash sampleChain Sample.compressedTask) =
          some { owner := Sample.alice, deposit := 700, status := .pending, executingAt := 0 } ∧
        w.sent = []) ∧
      ∃ w, Trace (step sampleChain) (fun _ _ => True) Sample.world
          ([Sample.admitKeeper, Sample.configureXsc, Sample.authorizeBob, Sample.cloneSchedules] ++
            Sample.presentCompressed ++ [.executionCallback 0 false]) w ∧
        w.quantumTasks.get? (taskHash sampleChain Sample.compressedTask) = none ∧
        w.sent = [.egld Sample.bob 665] :=
  ⟨Sample.world_deployed, Trace.of_runChecked _ _ _ _ _ (by decide +kernel),
    Trace.of_runChecked _ _ _ _ _ (by decide +kernel),
    Trace.of_runChecked _ _ _ _ _ (by decide +kernel)⟩

end XCron.Scheduler
