import XCron.Scheduler.Families
import XCron.Scheduler.Gates

/-!
# Keeper and token whitelists

The keepers are kept twice, as a set and as the vector that tasks are assigned
from. `add_whitelisted_keeper` pushes to the vector without asking the set, and
`remove_whitelisted_keeper` empties the last slot without shortening it, so that the
two agree only as long as no keeper is added again or taken off. The whitelist of
payment tokens is read by two endpoints and written by none.
-/

namespace XCron.Scheduler

open Platform

variable {chain : Chain} {w next : World} {move : Step}

/-! ## Reading the vector -/

/-- The loop of `get_keeper_list`. -/
def readKeeperList (slots : List (Option Address)) :
    (remaining index : Nat) → Outcome (List Address)
  | 0, _ => pure []
  | remaining + 1, index => do
      let keeper ← vecGet slots index
      let rest ← readKeeperList slots remaining (index + 1)
      pure (keeper :: rest)

def getKeeperList (w : World) : Outcome (List Address) :=
  readKeeperList w.config.keeperList w.config.keeperList.length 1

theorem readKeeperList_eq {slots : List (Option Address)} {keepers : List Address} {index : Nat}
    (full : slots.drop index = keepers.map some) :
    readKeeperList slots keepers.length (index + 1) = .ok keepers := by
  induction keepers generalizing index with
  | nil => rfl
  | cons keeper keepers inductionHypothesis =>
      have first : vecGet slots (index + 1) = .ok keeper := by
        rw [vecGet_eq_ok, Nat.add_sub_cancel, ← List.head?_drop, full]
        rfl
      have rest : slots.drop (index + 1) = keepers.map some := by
        rw [← List.tail_drop, full]
        rfl
      simp only [List.length_cons, readKeeperList, first, inductionHypothesis rest]
      rfl

theorem vecGet_of_full {slots : List (Option Address)} {keepers : List Address}
    (full : slots = keepers.map some) {index : Nat} (inside : index < keepers.length) :
    vecGet slots (index + 1) = .ok (keepers.get ⟨index, inside⟩) := by
  rw [vecGet_eq_ok, full, Nat.add_sub_cancel]
  simp [inside]

/-! ## Scanning the vector -/

theorem removeFromKeeperList_ok {keeper : Address} {slots result : List (Option Address)}
    {remaining index : Nat} (inside : index + remaining = slots.length)
    (scanned : Config.removeFromKeeperList keeper slots remaining (index + 1) = .ok result) :
    (result = slots ∧ some keeper ∉ slots.drop index) ∨
      ∃ position, slots[position]? = some (some keeper) ∧
        ((position + 1 < slots.length ∧ ∃ last, slots[slots.length - 1]? = some (some last) ∧
            result = (slots.set position (some last)).set (slots.length - 1) none) ∨
          (position + 1 = slots.length ∧ result = slots.set (slots.length - 1) none)) := by
  induction remaining generalizing index with
  | zero =>
      obtain rfl := (Outcome.pure_eq_ok _ _).mp scanned
      have passed : slots.length ≤ index := Nat.le_of_eq inside.symm
      rw [List.drop_of_length_le passed]
      exact .inl ⟨rfl, List.not_mem_nil⟩
  | succ remaining inductionHypothesis =>
      simp only [Config.removeFromKeeperList, Outcome.bind_eq_ok, vecGet_eq_ok,
        Nat.add_sub_cancel] at scanned
      obtain ⟨entry, here, scanned⟩ := scanned
      have within : index < slots.length := by omega
      split at scanned
      next found =>
        subst found
        refine .inr ⟨index, here, ?_⟩
        split at scanned
        next before =>
          simp only [Outcome.bind_eq_ok, vecGet_eq_ok, Outcome.pure_eq_ok] at scanned
          obtain ⟨last, final, rfl⟩ := scanned
          exact .inl ⟨before, last, final, rfl⟩
        next atEnd =>
          obtain rfl := (Outcome.pure_eq_ok _ _).mp scanned
          exact .inr ⟨by omega, rfl⟩
      next other =>
        rcases inductionHypothesis (by omega) scanned with ⟨same, absent⟩ | found
        · refine .inl ⟨same, ?_⟩
          rw [List.drop_eq_getElem_cons within, List.mem_cons, not_or]
          rw [List.getElem?_eq_getElem within, Option.some.injEq] at here
          rw [here]
          exact ⟨fun same => other (Option.some.inj same).symm, absent⟩
        · exact .inr found

section Removal

variable {keeper : Address} {slots result : List (Option Address)}
  (scanned : Config.removeFromKeeperList keeper slots slots.length 1 = .ok result)

include scanned

theorem removeFromKeeperList_absent (absent : some keeper ∉ slots) : result = slots := by
  rcases removeFromKeeperList_ok (Nat.zero_add _) scanned with ⟨same, _⟩ | ⟨_, found, _⟩
  · exact same
  · exact absurd (List.mem_of_getElem? found) absent

theorem removeFromKeeperList_hole (present : some keeper ∈ slots) : none ∈ result := by
  have emptied : ∀ others : List (Option Address), others.length = slots.length →
      none ∈ others.set (slots.length - 1) none := by
    intro others same
    have nonempty := List.length_pos_of_mem present
    have inside : slots.length - 1 < others.length := by omega
    exact List.mem_set inside none
  rcases removeFromKeeperList_ok (Nat.zero_add _) scanned with ⟨_, absent⟩ |
    ⟨_, _, ⟨_, _, _, rfl⟩ | ⟨_, rfl⟩⟩
  · exact absurd present absent
  · exact emptied _ List.length_set
  · exact emptied _ rfl

theorem removeFromKeeperList_others {other : Address} (different : other ≠ keeper)
    (present : some other ∈ slots) : some other ∈ result := by
  obtain ⟨place, occupied⟩ := List.mem_iff_getElem?.mp present
  have inside : place < slots.length := (List.getElem?_eq_some_iff.mp occupied).1
  rcases removeFromKeeperList_ok (Nat.zero_add _) scanned with ⟨same, _⟩ |
    ⟨position, found, ⟨before, last, final, rfl⟩ | ⟨atEnd, rfl⟩⟩
  · rw [same]
    exact present
  · by_cases isLast : place = slots.length - 1
    · rw [isLast, final, Option.some.injEq, Option.some.injEq] at occupied
      subst occupied
      refine List.mem_of_getElem? (i := position) ?_
      rw [List.getElem?_set_ne (by omega), List.getElem?_set_self (by omega)]
    · have elsewhere : position ≠ place := by
        rintro rfl
        rw [found, Option.some.injEq, Option.some.injEq] at occupied
        exact different occupied.symm
      refine List.mem_of_getElem? (i := place) ?_
      rw [List.getElem?_set_ne (Ne.symm isLast), List.getElem?_set_ne elsewhere, occupied]
  · have elsewhere : slots.length - 1 ≠ place := by
      intro same
      have here : position = place := by omega
      rw [here, occupied, Option.some.injEq, Option.some.injEq] at found
      exact different found
    refine List.mem_of_getElem? (i := place) ?_
    rw [List.getElem?_set_ne elsewhere, occupied]

end Removal

/-! ## The set and the vector -/

/-- The vector holds every whitelisted keeper once, and nothing else. -/
def Config.Mirrors (c : Config) : Prop :=
  ∃ keepers : List Address,
    c.keeperList = keepers.map some ∧ keepers.Nodup ∧ keepers.toFinset = c.whitelistedKeepers

/-- Every whitelisted keeper has a slot. -/
def Config.Seated (c : Config) : Prop :=
  ∀ keeper ∈ c.whitelistedKeepers, some keeper ∈ c.keeperList

def ConfigCall.keeper? : ConfigCall → Option Address
  | .addWhitelistedKeeper keeper | .removeWhitelistedKeeper keeper => some keeper
  | _ => none

def Step.keeper? : Step → Option Address
  | .configure _ change => change.keeper?
  | _ => none

/-- What a step does to the two lists, with the keeper it names. -/
inductive Relisted (c next : Config) : Option Address → Prop where
  | added {keeper : Address} (listed : next.whitelistedKeepers = insert keeper c.whitelistedKeepers)
      (pushed : next.keeperList = c.keeperList ++ [some keeper]) : Relisted c next (some keeper)
  | removed {keeper : Address} (listed : next.whitelistedKeepers = c.whitelistedKeepers.erase keeper)
      (scanned : Config.removeFromKeeperList keeper c.keeperList c.keeperList.length 1 =
        .ok next.keeperList) : Relisted c next (some keeper)
  | untouched (listed : next.whitelistedKeepers = c.whitelistedKeepers)
      (slots : next.keeperList = c.keeperList) : Relisted c next none

theorem Config.apply_relisted {c changed : Config} {change : ConfigCall}
    (applied : c.apply change = .ok changed) : Relisted c changed change.keeper? := by
  cases change with
  | addWhitelistedKeeper keeper =>
      obtain rfl := (Outcome.pure_eq_ok _ _).mp applied
      exact .added rfl rfl
  | removeWhitelistedKeeper keeper =>
      simp only [Config.apply, Outcome.bind_eq_ok, Outcome.pure_eq_ok] at applied
      obtain ⟨_, _, slots, scanned, rfl⟩ := applied
      exact .removed rfl scanned
  | setProtocolFeeBps value =>
      simp only [Config.apply, Outcome.bind_eq_ok, Outcome.pure_eq_ok] at applied
      obtain ⟨_, _, rfl⟩ := applied
      exact .untouched rfl rfl
  | _ =>
      obtain rfl := (Outcome.pure_eq_ok _ _).mp applied
      exact .untouched rfl rfl

theorem step_relisted (stepped : step chain w move = .ok next) :
    Relisted w.config next.config move.keeper? := by
  cases move with
  | configure call change =>
      cases step_effect stepped with
      | configure _ _ applied => exact Config.apply_relisted applied
  | _ =>
      rcases step_config stepped with ⟨_, _, same, _⟩ | same
      · cases same
      · rw [same]
        exact .untouched rfl rfl

variable {c changed : Config} {keeper? : Option Address}

theorem Config.Seated.relisted (seated : c.Seated) (relisted : Relisted c changed keeper?) :
    changed.Seated := by
  intro other member
  cases relisted with
  | added listed pushed =>
      rw [listed, Finset.mem_insert] at member
      rw [pushed, List.mem_append, List.mem_singleton]
      rcases member with rfl | member
      · exact .inr rfl
      · exact .inl (seated other member)
  | removed listed scanned =>
      rw [listed, Finset.mem_erase] at member
      exact removeFromKeeperList_others scanned member.1 (seated other member.2)
  | untouched listed slots =>
      rw [listed] at member
      rw [slots]
      exact seated other member

theorem Config.Mirrors.no_hole (mirrors : c.Mirrors) : none ∉ c.keeperList := by
  obtain ⟨keepers, slots, _⟩ := mirrors
  rw [slots]
  simp

theorem Config.Mirrors.mem_keeperList (mirrors : c.Mirrors) {keeper : Address} :
    some keeper ∈ c.keeperList ↔ keeper ∈ c.whitelistedKeepers := by
  obtain ⟨keepers, slots, _, listed⟩ := mirrors
  rw [slots, ← listed, List.mem_map_of_injective (Option.some_injective _), List.mem_toFinset]

/-- Adding keeps the lists in step exactly with a new keeper. The lists cannot have
been out of step before, as a keeper without a slot would not be whitelisted. -/
theorem mirrors_added_iff {keeper : Address} (seated : c.Seated)
    (listed : changed.whitelistedKeepers = insert keeper c.whitelistedKeepers)
    (pushed : changed.keeperList = c.keeperList ++ [some keeper]) :
    changed.Mirrors ↔ c.Mirrors ∧ keeper ∉ c.whitelistedKeepers := by
  constructor
  · rintro ⟨keepers, slots, distinct, entries⟩
    rw [pushed, eq_comm, List.map_eq_append_iff] at slots
    obtain ⟨front, back, rfl, front_eq, back_eq⟩ := slots
    obtain rfl : back = [keeper] := by
      rw [← List.map_singleton, (List.map_injective_iff.mpr (Option.some_injective _)).eq_iff]
        at back_eq
      exact back_eq
    obtain ⟨fresh, distinct⟩ := List.nodup_cons.mp (List.nodup_append_comm.mp distinct)
    have absent : keeper ∉ c.whitelistedKeepers := by
      intro member
      have placed := seated keeper member
      rw [← front_eq, List.mem_map_of_injective (Option.some_injective _)] at placed
      exact fresh placed
    have same : insert keeper front.toFinset = insert keeper c.whitelistedKeepers := by
      rw [← listed, ← entries]
      ext other
      simp
    refine ⟨⟨front, front_eq.symm, distinct, ?_⟩, absent⟩
    calc front.toFinset = (insert keeper front.toFinset).erase keeper :=
          (Finset.erase_insert (mt List.mem_toFinset.mp fresh)).symm
      _ = (insert keeper c.whitelistedKeepers).erase keeper := by rw [same]
      _ = c.whitelistedKeepers := Finset.erase_insert absent
  · rintro ⟨⟨keepers, slots, distinct, entries⟩, absent⟩
    rw [← entries, List.mem_toFinset] at absent
    refine ⟨keepers ++ [keeper], ?_, ?_, ?_⟩
    · rw [pushed, slots, List.map_append, List.map_singleton]
    · exact List.nodup_append_comm.mpr (List.nodup_cons.mpr ⟨absent, distinct⟩)
    · rw [listed, ← entries]
      ext other
      simp

/-- Removing keeps the lists in step exactly when there is nothing to remove. -/
theorem mirrors_removed_iff {keeper : Address} (seated : c.Seated)
    (listed : changed.whitelistedKeepers = c.whitelistedKeepers.erase keeper)
    (scanned : Config.removeFromKeeperList keeper c.keeperList c.keeperList.length 1 =
      .ok changed.keeperList) :
    changed.Mirrors ↔ c.Mirrors ∧ keeper ∉ c.whitelistedKeepers := by
  by_cases present : some keeper ∈ c.keeperList
  · have hole := removeFromKeeperList_hole scanned present
    refine iff_of_false (fun mirrors => mirrors.no_hole hole) ?_
    rintro ⟨mirrors, absent⟩
    exact absent (mirrors.mem_keeperList.mp present)
  · have absent : keeper ∉ c.whitelistedKeepers := fun member => present (seated keeper member)
    have slots := removeFromKeeperList_absent scanned present
    rw [Finset.erase_eq_of_notMem absent] at listed
    simp only [Config.Mirrors, slots, listed, absent, not_false_eq_true, and_true]

/-- The step names no keeper that is whitelisted already. -/
def Unlisted (w : World) (move : Step) : Prop :=
  ∀ keeper, move.keeper? = some keeper → keeper ∉ w.config.whitelistedKeepers

theorem mirrors_step_iff (seated : w.config.Seated) (stepped : step chain w move = .ok next) :
    next.config.Mirrors ↔ w.config.Mirrors ∧ Unlisted w move := by
  have named : ∀ keeper, move.keeper? = some keeper →
      (Unlisted w move ↔ keeper ∉ w.config.whitelistedKeepers) := by
    intro keeper names
    simp [Unlisted, names]
  generalize names : move.keeper? = keeper? at named
  have relisted := step_relisted stepped
  rw [names] at relisted
  cases relisted with
  | added listed pushed =>
      rw [mirrors_added_iff seated listed pushed, named _ rfl]
  | removed listed scanned =>
      rw [mirrors_removed_iff seated listed scanned, named _ rfl]
  | untouched listed slots =>
      simp [Config.Mirrors, listed, slots, Unlisted, names]

/-- Neither the view nor the round-robin check can fail on reading the vector. -/
structure Readable (chain : Chain) (w : World) : Prop where
  view : ∃ keepers, getKeeperList w = .ok keepers
  check : ∀ call payload hash keeper, performRoundRobinCheck chain call payload hash keeper w = .ok () ∨
    performRoundRobinCheck chain call payload hash keeper w =
      .error (.signal "Task assigned to another keeper")

theorem Config.Mirrors.readable (chain : Chain) (mirrors : w.config.Mirrors) : Readable chain w := by
  obtain ⟨keepers, slots, _⟩ := mirrors
  have length : w.config.keeperList.length = keepers.length := by rw [slots, List.length_map]
  constructor
  · refine ⟨keepers, ?_⟩
    unfold getKeeperList
    rw [length]
    exact readKeeperList_eq slots
  · intro call payload hash keeper
    unfold performRoundRobinCheck
    split
    next many =>
      have drawn := Nat.mod_lt (beValue ((chain.sha256 (hash.val ++
        encodeU64 (ripeTimeMs call payload.trigger) ++ call.blockRandomSeed)).val.take 8))
        (Nat.zero_lt_of_lt many)
      have entry := vecGet_of_full slots (Nat.lt_of_lt_of_eq drawn length)
      simp only [roundRobinIndex, entry, Bind.bind, Except.bind, require]
      split
      · exact .inl rfl
      · exact .inr rfl
    next => exact .inl rfl

theorem Deployed.mirrors (started : Deployed w) : w.config.Mirrors ∧ w.config.Seated := by
  obtain ⟨_, _, _, _, _, _, rfl⟩ := started.eq
  exact ⟨⟨[], rfl, List.nodup_nil, rfl⟩, fun _ member => absurd member (Finset.notMem_empty _)⟩

/-- After a run the vector mirrors the set, and can be read, exactly if the owner has
only ever added keepers that were not whitelisted and removed keepers that were not
whitelisted either. -/
theorem keeperList_mirrors_iff {start : World} {steps : List Step} {allowed : World → Step → Prop}
    (started : Deployed start) (trace : Trace (step chain) allowed start steps w) :
    w.config.Mirrors ∧ Readable chain w ↔ Trace (step chain) Unlisted start steps w := by
  let Broken : World → Prop := fun w => ¬w.config.Mirrors
  have mirrors : ¬Broken w ↔ Trace (step chain) Unlisted start steps w := by
    refine trace.avoids_iff (fun w => w.config.Seated) ?_ ?_ ?_ started.mirrors.2
      (not_not_intro started.mirrors.1)
    · intro w move next seated stepped
      exact seated.relisted (step_relisted stepped)
    · intro w move next seated broken stepped mirrors
      exact broken ((mirrors_step_iff seated stepped).mp mirrors).1
    · intro w move next seated clean stepped
      rw [not_not, mirrors_step_iff seated stepped, and_iff_right (not_not.mp clean)]
  rw [← mirrors, not_not]
  exact ⟨And.left, fun mirrors => ⟨mirrors, mirrors.readable chain⟩⟩

namespace Sample

def admitAlice : Step := .configure (call (.fill 2) 0 1000) (.addWhitelistedKeeper alice)

def dismissKeeper : Step := .configure (call (.fill 2) 0 1000) (.removeWhitelistedKeeper keeper)

end Sample

theorem keeperList_mirrors_iff_sample :
    ∃ w, Trace (step sampleChain) (fun _ _ => True) Sample.world
        [Sample.admitKeeper, Sample.admitAlice] w ∧
      w.config.keeperList = [some Sample.keeper, some Sample.alice] ∧
      (w.config.Mirrors ∧ Readable sampleChain w ↔
        Trace (step sampleChain) Unlisted Sample.world [Sample.admitKeeper, Sample.admitAlice] w) := by
  obtain ⟨w, trace, slots⟩ := Trace.of_runChecked (step sampleChain) (fun _ _ => True) Sample.world
    [Sample.admitKeeper, Sample.admitAlice]
    (fun w => w.config.keeperList = [some Sample.keeper, some Sample.alice]) (by decide +kernel)
  exact ⟨w, trace, slots, keeperList_mirrors_iff Sample.world_deployed trace⟩

/-- Once a keeper has been taken off, the view of the list fails. -/
theorem keeperList_unreadable :
    Deployed Sample.world ∧
      ∃ w, Trace (step sampleChain) (fun _ _ => True) Sample.world
          [Sample.admitKeeper, Sample.admitAlice, Sample.dismissKeeper] w ∧
        w.config.keeperList = [some Sample.alice, none] ∧ getKeeperList w = .error .decode ∧
        ¬w.config.Mirrors := by
  obtain ⟨w, trace, slots, unreadable⟩ := Trace.of_runChecked (step sampleChain) (fun _ _ => True)
    Sample.world [Sample.admitKeeper, Sample.admitAlice, Sample.dismissKeeper]
    (fun w => w.config.keeperList = [some Sample.alice, none] ∧ getKeeperList w = .error .decode)
    (by decide +kernel)
  refine ⟨Sample.world_deployed, w, trace, slots, unreadable, fun mirrors => mirrors.no_hole ?_⟩
  rw [slots]
  simp

/-! ## The token whitelist -/

def Fresh (w : World) : Prop :=
  ∃ keeperRegistry rewards minDeposit protocolFeeBps,
    init keeperRegistry rewards minDeposit protocolFeeBps (fun _ => false) = .ok w

theorem step_acceptedPaymentTokens (stepped : step chain w move = .ok next) :
    next.acceptedPaymentTokens = w.acceptedPaymentTokens := by
  cases step_effect stepped with
  | scheduleQuantumTask _ _ taken _ | scheduleSovereignTask _ _ taken _ =>
      rcases takeDeposit_cases taken with ⟨_, rfl⟩ | ⟨_, _, _, rfl⟩ <;> rfl
  | authorizeCloneKey | revokeCloneKey | fundCloneKey => rfl
  | _ => exact (step_sameWallets stepped rfl rfl).acceptedPaymentTokens

def ByOwner (chain : Chain) (move : Step) : Prop :=
  ∃ call, move.call? = some call ∧ call.caller = chain.ownerAddress

/-- A call that brings one transfer of the token and the fee, ahead of the deadline. -/
structure PaysWith (chain : Chain) (token : TokenIdentifier) (fee : Nat) (deadline : UInt64)
    (call : CallContext) : Prop where
  delivered : call.Delivered chain
  single : ∃ payment, call.esdtTransfers = [payment] ∧ payment.token = token
  attached : call.egldValue = fee
  seconds : deadline < 10000000000
  ahead : call.blockTimestamp < deadline

/-- The outcomes that `create_multi_intent` takes. -/
def Wellformed (outcomes : List MultiIntentOutcome) : Prop :=
  0 < outcomes.length ∧ outcomes.length ≤ 5 ∧ (outcomes.map MultiIntentOutcome.tokenOut).Nodup

/-- Both endpoints take payments in the token. -/
def TakesToken (chain : Chain) (w : World) (token : TokenIdentifier) : Prop :=
  ∀ call fee deadline, PaysWith chain token fee deadline call →
    (∀ tokenOut minReturn, ∃ next,
      step chain w (.createIntent call tokenOut minReturn deadline fee) = .ok next) ∧
    ∀ outcomes, Wellformed outcomes → ∃ next,
      step chain w (.createMultiIntent call outcomes deadline fee) = .ok next

/-- The owner can open the intents to a token. -/
def Usable (chain : Chain) (w : World) (token : TokenIdentifier) : Prop :=
  ∃ steps ready, (∀ move ∈ steps, ByOwner chain move) ∧
    Trace (step chain) (fun _ _ => True) w steps ready ∧ ready.config.paused = false ∧
    TakesToken chain ready token

/-- The calls that create intents for a token of the whitelist. -/
def Step.createsIntent : Step → Bool
  | .createIntent _ _ _ _ _ | .createMultiIntent _ _ _ _ => true
  | _ => false

theorem createsIntent_fails (creates : move.createsIntent = true) :
    ∃ fault, step chain w move = .error fault := by
  cases move with
  | createIntent call tokenOut minReturn deadline fee =>
      exact creates_fails (show Family.intents.creates _ = true from rfl)
  | createMultiIntent call outcomes deadline fee =>
      exact creates_fails (show Family.multiIntents.creates _ = true from rfl)
  | _ => cases creates

theorem exists_paysWith (chain : Chain) (token : TokenIdentifier) :
    ∃ call, PaysWith chain token 0 1 call := by
  have stranger : ∃ caller : Address, caller ≠ Bytes32.zero ∧ caller ≠ chain.scAddress := by
    by_cases own : Bytes32.fill 1 = chain.scAddress
    · refine ⟨.fill 2, by decide, ?_⟩
      rw [← own]
      decide
    · exact ⟨.fill 1, by decide, own⟩
  obtain ⟨caller, nonzero, foreign⟩ := stranger
  let payment : EsdtPayment := ⟨token, if chain.fungible token then 0 else 1, 1⟩
  have genuine : payment.Genuine chain := by
    refine ⟨Nat.zero_lt_one, ?_⟩
    cases fungible : chain.fungible token <;> simp [payment, fungible]
  have ahead : (0 : UInt64) < 1 := by decide
  refine ⟨⟨caller, 0, [payment], 0, 0, [], 0⟩, ⟨nonzero, ?_, fun own => absurd own foreign⟩,
    ⟨payment, rfl, rfl⟩, rfl, by decide, ahead⟩
  intro other member
  rw [List.mem_singleton.mp member]
  exact genuine

/-- No calls of the owner open the intents. -/
theorem not_usable (w : World) (token : TokenIdentifier) : ¬Usable chain w token := by
  rintro ⟨steps, ready, _, _, _, takes⟩
  obtain ⟨call, pays⟩ := exists_paysWith chain token
  obtain ⟨next, created⟩ := (takes call 0 1 pays).1 token 0
  obtain ⟨fault, failed⟩ : ∃ fault, step chain ready (.createIntent call token 0 1 0) = .error fault :=
    createsIntent_fails rfl
  rw [failed] at created
  cases created

/-- Whatever has happened to a scheduler since its deployment, its whitelist is empty,
and there is no token that its owner could open the intents to: every call that
creates one fails. -/
theorem intents_unusable {start : World} {steps : List Step} {allowed : World → Step → Prop}
    (started : Fresh start) (trace : Trace (step chain) allowed start steps w) :
    (∀ token, w.acceptedPaymentTokens token = false) ∧ (∀ token, ¬Usable chain w token) ∧
      ∀ move, move.createsIntent = true → ∃ fault, step chain w move = .error fault := by
  have shut : w.acceptedPaymentTokens = fun _ => false := by
    obtain ⟨keeperRegistry, rewards, minDeposit, protocolFeeBps, started⟩ := started
    simp only [init, Outcome.bind_eq_ok, Outcome.pure_eq_ok] at started
    obtain ⟨_, _, rfl⟩ := started
    refine trace.preserves (fun w => w.acceptedPaymentTokens = fun _ => false) ?_ rfl
    intro w move next _ shut stepped
    rw [step_acceptedPaymentTokens stepped, shut]
  exact ⟨fun token => congrFun shut token, not_usable w, fun move => createsIntent_fails⟩

namespace Sample

def freshWorld : World := deployed (.fill 3) (.fill 4) 0 500 (fun _ => false)

def aliceOffers : CallContext := { call alice 5 1000 with esdtTransfers := [⟨[70], 0, 100⟩] }

theorem freshWorld_fresh : Fresh freshWorld := ⟨.fill 3, .fill 4, 0, 500, rfl⟩

end Sample

theorem intents_unusable_sample :
    Fresh Sample.freshWorld ∧
      ∃ w, Trace (step sampleChain) (fun _ _ => True) Sample.freshWorld
          [Sample.admitKeeper, Sample.admitAlice] w ∧
        w.config.keeperList.length = 2 ∧ w.acceptedPaymentTokens [70] = false ∧
        ¬Usable sampleChain w [70] := by
  obtain ⟨w, trace, admitted⟩ := Trace.of_runChecked (step sampleChain) (fun _ _ => True)
    Sample.freshWorld [Sample.admitKeeper, Sample.admitAlice]
    (fun w => w.config.keeperList.length = 2) (by decide +kernel)
  obtain ⟨shut, unusable, _⟩ := intents_unusable Sample.freshWorld_fresh trace
  exact ⟨Sample.freshWorld_fresh, w, trace, admitted, shut [70], unusable [70]⟩

/-- A payment that meets every condition but that of `egld()` is refused. -/
theorem intent_refused :
    Fresh Sample.freshWorld ∧ PaysWith sampleChain [70] 5 2000 Sample.aliceOffers ∧
      Sample.freshWorld.config.paused = false ∧
      Sample.aliceOffers.egld = .error (.signal "incorrect number of transfers") ∧
      endsIn (fun _ => True) (step sampleChain Sample.freshWorld
        (.createIntent Sample.aliceOffers [70] 50 2000 5)) = false ∧
      ¬Usable sampleChain Sample.freshWorld [70] := by
  exact ⟨Sample.freshWorld_fresh, ⟨by decide, ⟨_, rfl, rfl⟩, rfl, by decide, by decide⟩, rfl, rfl,
    by decide +kernel, not_usable _ _⟩

end XCron.Scheduler
