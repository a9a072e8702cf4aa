import XCron.Registry.Effects
import XCron.Registry.Records

/-!
# Strikes

A failure that the scheduler reports costs its keeper a share of its stake, and
the third in a row expels it. The report reads the staking provider's cell,
which nothing writes until the owner names a provider: until then every strike
is lost, while `slash_keeper` works.
-/

namespace XCron.Registry

open Platform Outcome

variable {chain : Chain} {w next : World} {move : Step} {keeper : Address}

def strikeAmount (info : KeeperInfo) : Nat :=
  slashOf info.stake (strikeBps (info.consecutiveFailures + 1))

def World.struck (chain : Chain) (provider keeper : Address) (info : KeeperInfo) (w : World) : World :=
  w.punished chain provider keeper (failureInfo info) (strikeAmount info)
    (expelled w (failureInfo info) (strikeAmount info)) (strikeReason (info.consecutiveFailures + 1))

def struckInfo (info : KeeperInfo) (deactivated : Bool) : KeeperInfo :=
  slashedInfo (failureInfo info) (strikeAmount info) deactivated

theorem slashOf_eq {stake bps : Nat} (below : bps < 10000) :
    slashOf stake bps = stake * bps / 10000 := by
  unfold slashOf Constants.bpsDenominator
  split
  · rfl
  · rename_i notLess
    have bounded : stake * bps / 10000 ≤ stake := by
      apply Nat.div_le_of_le_mul
      rw [Nat.mul_comm]
      exact Nat.mul_le_mul_right _ (by omega)
    omega

theorem strikeBps_lt (failures : Nat) : strikeBps failures < 10000 := by
  unfold strikeBps
  split <;> decide

theorem strikeAmount_eq (info : KeeperInfo) :
    strikeAmount info = info.stake * strikeBps (info.consecutiveFailures + 1) / 10000 :=
  slashOf_eq (strikeBps_lt _)

theorem strikeAmount_le (info : KeeperInfo) : strikeAmount info ≤ info.stake := slashOf_le _ _

/-! ## Reports of failures -/

/-- A report that the registry accepts from its sender. -/
structure Reports (chain : Chain) (w : World) (call : CallContext) : Prop where
  plain : call.Plain chain
  late : 0 < call.blockTimestamp
  authorized : call.caller ∈ w.config.authorizedCallers ∨ call.caller = chain.ownerAddress

theorem World.deposit_nothing {call : CallContext} (nothing : call.egldValue = 0) (w : World) :
    { w with egld := w.egld + call.egldValue } = w := by
  rw [nothing]
  rfl

theorem step_of_plain {call : CallContext} (called : move.call? = some call)
    (plain : call.Plain chain) (late : 0 < call.blockTimestamp) :
    step chain w move = body chain move w := by
  unfold step
  rw [called]
  simp only [ensure, plain.delivered, late, and_self, if_true]
  rw [World.deposit_nothing plain.noEgld]
  rfl

theorem strike_eq_ok {info : KeeperInfo} :
    strike chain keeper (failureInfo info) w = .ok next ↔
      ∃ provider, w.config.stakingProviderAddr = some provider ∧
        (provider = Bytes32.zero → strikeAmount info ≤ w.egld) ∧
        w.struck chain provider keeper info = next := by
  simp only [strike, bind_eq_ok, load_eq_ok, seize_eq_ok, pure_eq_ok]
  constructor
  · rintro ⟨provider, set, _, ⟨covered, rfl⟩, rfl⟩
    exact ⟨provider, set, covered, rfl⟩
  · rintro ⟨provider, set, covered, rfl⟩
    exact ⟨provider, set, _, ⟨covered, rfl⟩, rfl⟩

theorem recordFailure_eq_ok {call : CallContext} (reports : Reports chain w call) :
    step chain w (.recordExecution call keeper false) = .ok next ↔
      ∃ info, w.keepers.get? keeper = some info ∧
        ∃ provider, w.config.stakingProviderAddr = some provider ∧
          (provider = Bytes32.zero → strikeAmount info ≤ w.egld) ∧
          w.struck chain provider keeper info = next := by
  rw [step_of_plain rfl reports.plain reports.late]
  simp only [body, bind_eq_ok, recordExecution, load_eq_ok, Bool.false_eq_true, if_false,
    strike_eq_ok]
  constructor
  · rintro ⟨_, _, _, _, info, found, struck⟩
    exact ⟨info, found, struck⟩
  · rintro ⟨info, found, struck⟩
    exact ⟨(), reports.plain.notPayable (), (), (require_eq_ok _ _ _).mpr reports.authorized, info,
      found, struck⟩

theorem recordFailure_ok {call : CallContext}
    (stepped : step chain w (.recordExecution call keeper false) = .ok next) :
    ∃ info provider, w.keepers.get? keeper = some info ∧
      w.config.stakingProviderAddr = some provider ∧ w.struck chain provider keeper info = next := by
  simp only [step, Step.call?, bind_eq_ok, body] at stepped
  obtain ⟨_, _, ran⟩ := stepped
  have recorded := notPayable_ran (recordExecution chain call keeper false)
    ((bind_eq_ok _ _ _).mpr ran)
  simp only [recordExecution, bind_eq_ok, load_eq_ok, Bool.false_eq_true, if_false,
    strike_eq_ok] at recorded
  obtain ⟨_, _, info, found, provider, set, _, rfl⟩ := recorded
  exact ⟨info, provider, found, set, rfl⟩

theorem struck_keepers (chain : Chain) (provider keeper : Address) (info : KeeperInfo) (w : World) :
    (w.struck chain provider keeper info).keepers = w.keepers.set keeper
      (struckInfo info (expelled w (failureInfo info) (strikeAmount info))) :=
  World.punished_keepers _ _ _ _ _ _ _ _

/-! ## The provider's cell -/

theorem config_step (stepped : step chain w move = .ok next) :
    ((∀ call change, move ≠ .configure call change) ∧ next.config = w.config) ∨
      ∃ call change, move = .configure call change ∧ w.config.apply change = .ok next.config := by
  cases step_effect stepped with
  | withdrawStake => exact .inl ⟨by simp, World.withdrawn_config _ _ _ _⟩
  | slashKeeper => exact .inl ⟨by simp, World.punished_config _ _ _ _ _ _ _ _⟩
  | recordFailure => exact .inl ⟨by simp, World.punished_config _ _ _ _ _ _ _ _⟩
  | @configure call change config applied => exact .inr ⟨call, change, rfl, applied⟩
  | _ => exact .inl ⟨by simp, rfl⟩

/-- The owner names a provider, the zero address included. -/
def Step.namesProvider : Step → Bool
  | .configure _ (.setStakingProvider _) => true
  | _ => false

theorem Config.apply_provider {c c' : Config} {change : ConfigCall} (call : CallContext)
    (applied : c.apply change = .ok c') :
    c'.stakingProviderAddr ≠ none ↔
      c.stakingProviderAddr ≠ none ∨ (Step.configure call change).namesProvider = true := by
  cases change with
  | setSlashPctBps value =>
      simp only [Config.apply, bind_eq_ok, pure_eq_ok] at applied
      obtain ⟨_, _, rfl⟩ := applied
      simp [Step.namesProvider]
  | _ =>
      obtain rfl := (pure_eq_ok _ _).mp applied
      simp [Step.namesProvider]

theorem provider_step (stepped : step chain w move = .ok next) :
    next.config.stakingProviderAddr ≠ none ↔
      w.config.stakingProviderAddr ≠ none ∨ move.namesProvider = true := by
  rcases config_step stepped with ⟨other, same⟩ | ⟨call, change, rfl, applied⟩
  · have silent : move.namesProvider = false := by
      cases move with
      | configure call change => exact absurd rfl (other call change)
      | _ => rfl
    simp [same, silent]
  · exact Config.apply_provider call applied

theorem provider_stored_iff {start : World} {steps : List Step} {allowed : World → Step → Prop}
    (deployed : Deployed start) (trace : Trace (step chain) allowed start steps w) :
    w.config.stakingProviderAddr ≠ none ↔ ∃ move ∈ steps, move.namesProvider = true := by
  obtain ⟨_, _, _, _, rfl⟩ := deployed.eq_deployed
  have tracked : w.config.stakingProviderAddr ≠ none ↔
      ∃ move ∈ [] ++ steps, move.namesProvider = true := by
    refine trace.history (fun past w => w.config.stakingProviderAddr ≠ none ↔
      ∃ move ∈ past, move.namesProvider = true) ?_ ?_
    · intro past state move next known stepped
      rw [provider_step stepped, known]
      simp [or_and_right, exists_or]
    · simp [XCron.Registry.deployed]
  exact tracked

/-! ## Strikes are kept where a provider is named -/

/-- A settlement in EGLD: the slash leaves the contract, and no debt is booked. -/
def Liquid (w next : World) : Prop := next.sent ≠ w.sent

/-- The report of a failure takes effect, and settles as a slash of the same state
does. -/
def StrikeKept (chain : Chain) (w : World) (call : CallContext) (keeper : Address) : Prop :=
  ∃ info info' next, w.keepers.get? keeper = some info ∧
    step chain w (.recordExecution call keeper false) = .ok next ∧
    next.keepers.get? keeper = some info' ∧
    info'.consecutiveFailures = info.consecutiveFailures + 1 ∧
    info'.stake = info.stake -
      info.stake * strikeBps (info.consecutiveFailures + 1) / Constants.bpsDenominator ∧
    info'.slashedAmount = info.slashedAmount +
      info.stake * strikeBps (info.consecutiveFailures + 1) / Constants.bpsDenominator ∧
    ∀ other reason after, step chain w (.slashKeeper other keeper reason) = .ok after →
      (Liquid w next ↔ Liquid w after)

theorem liquid_punished (chain : Chain) (provider keeper : Address) (info : KeeperInfo)
    (amount : Nat) (deactivated : Bool) (reason : Bytes) (w : World) :
    Liquid w (w.punished chain provider keeper info amount deactivated reason) ↔
      provider = Bytes32.zero := by
  unfold Liquid World.punished World.seized
  split
  · simp [World.emit, World.pay, World.slash, *]
  · simp [World.emit, World.slash, *]

theorem slashKeeper_ok {call : CallContext} {reason : Bytes}
    (stepped : step chain w (.slashKeeper call keeper reason) = .ok next) :
    ∃ info amount deactivated, next = w.punished chain
      (w.config.stakingProviderAddr.getD Bytes32.zero) keeper info amount deactivated reason := by
  simp only [step, Step.call?, bind_eq_ok, body] at stepped
  obtain ⟨_, _, ran⟩ := stepped
  have slashed := notPayable_ran (slashKeeper chain call keeper reason) ((bind_eq_ok _ _ _).mpr ran)
  simp only [slashKeeper, bind_eq_ok, load_eq_ok, pure_eq_ok, seize_eq_ok] at slashed
  obtain ⟨_, _, info, _, _, ⟨_, rfl⟩, rfl⟩ := slashed
  exact ⟨info, _, _, rfl⟩

/-- In a run of the registry, the report of a registered keeper's failure takes effect
exactly if the owner has named a provider before. -/
theorem strike_kept_iff {start : World} {steps : List Step} {allowed : World → Step → Prop}
    (deployed : Deployed start) (trace : Trace (step chain) allowed start steps w)
    {info : KeeperInfo} (registered : w.keepers.get? keeper = some info) {call : CallContext}
    (reports : Reports chain w call)
    (held : w.config.stakingProviderAddr.getD Bytes32.zero = Bytes32.zero →
      info.stake * strikeBps (info.consecutiveFailures + 1) / Constants.bpsDenominator ≤ w.egld) :
    StrikeKept chain w call keeper ↔ ∃ move ∈ steps, move.namesProvider = true := by
  rw [← provider_stored_iff deployed trace]
  constructor
  · rintro ⟨_, _, next, _, stepped, _⟩
    obtain ⟨_, provider, _, set, _⟩ := recordFailure_ok stepped
    simp [set]
  · intro filled
    obtain ⟨provider, set⟩ := Option.ne_none_iff_exists'.mp filled
    have amount := strikeAmount_eq info
    have covered : provider = Bytes32.zero → strikeAmount info ≤ w.egld := by
      intro zero
      rw [amount]
      exact held (by rw [set, zero]; rfl)
    refine ⟨info, struckInfo info (expelled w (failureInfo info) (strikeAmount info)),
      w.struck chain provider keeper info, registered, ?_, ?_, rfl, ?_, ?_, ?_⟩
    · exact (recordFailure_eq_ok reports).mpr ⟨info, registered, provider, set, covered, rfl⟩
    · rw [struck_keepers, Cells.get?_set_self]
    · exact congrArg (info.stake - ·) amount
    · exact congrArg (info.slashedAmount + ·) amount
    · intro other reason after slashed
      obtain ⟨_, _, _, rfl⟩ := slashKeeper_ok slashed
      rw [World.struck, liquid_punished, liquid_punished, set]
      rfl

namespace Sample

def unnamedRun : List Step := [.registerKeeper (call alice 1000 10)]

def namedRun : List Step :=
  [.registerKeeper (call alice 1000 10), .configure (owner 11) (.setStakingProvider .zero)]

theorem reports (w : World) : Reports sampleChain w (owner 12) :=
  ⟨⟨by decide, rfl, rfl⟩, by decide, .inr rfl⟩

end Sample

theorem strike_kept_iff_sample :
    ∃ w, Trace (step sampleChain) (fun _ _ => True) Sample.registry Sample.namedRun w ∧
      (StrikeKept sampleChain w (Sample.owner 12) Sample.alice ↔
        ∃ move ∈ Sample.namedRun, move.namesProvider = true) := by
  obtain ⟨w, trace, present, rich⟩ := Trace.of_runChecked (step sampleChain) (fun _ _ => True)
    Sample.registry Sample.namedRun
    (fun w => (w.keepers.get? Sample.alice).map KeeperInfo.stake = some 1000 ∧ w.egld = 1000)
    (by decide +kernel)
  obtain ⟨info, found, stake⟩ := Option.map_eq_some_iff.mp present
  refine ⟨w, trace, strike_kept_iff Sample.registry_deployed trace found
    (Sample.reports w) ?_⟩
  intro _
  have share := strikeAmount_le info
  rw [strikeAmount_eq] at share
  rw [rich, ← stake]
  exact share

/-- The strike of a keeper is lost although the contract holds its stake. -/
theorem strike_lost :
    ∃ w, Trace (step sampleChain) (fun _ _ => True) Sample.registry Sample.unnamedRun w ∧
      (w.keepers.get? Sample.alice).map KeeperInfo.stake = some 1000 ∧ w.egld = 1000 ∧
      Reports sampleChain w (Sample.owner 12) ∧
      ¬StrikeKept sampleChain w (Sample.owner 12) Sample.alice := by
  obtain ⟨w, trace, unset, present, rich⟩ := Trace.of_runChecked (step sampleChain)
    (fun _ _ => True) Sample.registry Sample.unnamedRun
    (fun w => w.config.stakingProviderAddr = none ∧
      (w.keepers.get? Sample.alice).map KeeperInfo.stake = some 1000 ∧ w.egld = 1000)
    (by decide +kernel)
  refine ⟨w, trace, present, rich, Sample.reports w, ?_⟩
  rintro ⟨_, _, next, _, stepped, _⟩
  obtain ⟨_, provider, _, set, _⟩ := recordFailure_ok stepped
  rw [unset] at set
  cases set

/-! ## Three strikes -/

/-- What happens between two strikes leaves the keeper's standing alone: it is not
slashed, does not ask to leave and has no success, and the minimum stays. It may
add to its stake. -/
def Step.Uneventful (keeper : Address) : Step → Prop
  | .slashKeeper _ other _ => other ≠ keeper
  | .requestUnstake call => call.caller ≠ keeper
  | .recordExecution _ other _ => other ≠ keeper
  | .configure _ (.setMinStake _) => False
  | _ => True

instance (keeper : Address) (move : Step) : Decidable (move.Uneventful keeper) := by
  unfold Step.Uneventful
  split <;> infer_instance

/-- A keeper with its record, active and under a minimum. -/
structure Stands (keeper : Address) (minStake : Nat) (info : KeeperInfo) (w : World) : Prop where
  found : w.keepers.get? keeper = some info
  active : info.active = true
  minimum : w.config.minStake = minStake

def raised (info : KeeperInfo) (added : Nat) : KeeperInfo :=
  { info with stake := info.stake + added }

theorem Config.apply_minStake {c c' : Config} {call : CallContext} {change : ConfigCall}
    (uneventful : (Step.configure call change).Uneventful keeper)
    (applied : c.apply change = .ok c') : c'.minStake = c.minStake := by
  cases change with
  | setMinStake value => cases uneventful
  | setSlashPctBps value =>
      simp only [Config.apply, bind_eq_ok, pure_eq_ok] at applied
      obtain ⟨_, _, rfl⟩ := applied
      rfl
  | _ =>
      obtain rfl := (pure_eq_ok _ _).mp applied
      rfl

theorem Stands.step {minStake : Nat} {info : KeeperInfo} (stands : Stands keeper minStake info w)
    (uneventful : move.Uneventful keeper) (stepped : step chain w move = .ok next) :
    Stands keeper minStake (raised info (move.paid keeper)) next := by
  have minimum : next.config.minStake = minStake := by
    rw [← stands.minimum]
    rcases config_step stepped with ⟨_, same⟩ | ⟨call, change, rfl, applied⟩
    · rw [same]
    · exact Config.apply_minStake uneventful applied
  refine ⟨?_, stands.active, minimum⟩
  have found := stands.found
  have others {other : Address} {written : KeeperInfo} (different : other ≠ keeper) :
      (w.keepers.set other written).get? keeper = some info :=
    (Cells.get?_set_ne _ _ (Ne.symm different)).trans found
  cases step_effect stepped with
  | @registerKeeper call free =>
      have different : call.caller ≠ keeper := by
        rintro rfl
        rw [found] at free
        cases free
      simp only [Step.paid, different, if_false, raised, Nat.add_zero]
      exact others different
  | @addStake call stored present =>
      by_cases same : call.caller = keeper
      · subst same
        obtain rfl := Option.some.inj (present.symm.trans found)
        simp only [Step.paid, if_true]
        exact Cells.get?_set_self _ _ _
      · simp only [Step.paid, same, if_false, raised, Nat.add_zero]
        exact others same
  | requestUnstake => exact others uneventful
  | @withdrawStake call stored present inactive =>
      have different : keeper ≠ call.caller := by
        rintro rfl
        obtain rfl := Option.some.inj (present.symm.trans found)
        rw [stands.active] at inactive
        cases inactive
      rw [World.withdrawn_keepers, Cells.get?_clear_ne _ different]
      exact found
  | slashKeeper =>
      rw [World.punished_keepers]
      exact others uneventful
  | recordSuccess => exact others uneventful
  | recordFailure =>
      rw [World.punished_keepers]
      exact others uneventful
  | _ => exact found

def addedBy (keeper : Address) (steps : List Step) : Nat := (steps.map (Step.paid keeper)).sum

theorem Stands.run {minStake : Nat} {info : KeeperInfo} {steps : List Step}
    (stands : Stands keeper minStake info w)
    (trace : Trace (Registry.step chain) (fun _ move => move.Uneventful keeper) w steps next) :
    Stands keeper minStake (raised info (addedBy keeper steps)) next := by
  induction trace generalizing info with
  | nil => exact stands
  | @cons state middle final move rest uneventful stepped _ inductionHypothesis =>
      have later := inductionHypothesis (stands.step uneventful stepped)
      have sum : raised (raised info (move.paid keeper)) (addedBy keeper rest) =
          raised info (addedBy keeper (move :: rest)) := by
        simp only [raised, addedBy, List.map_cons, List.sum_cons, Nat.add_assoc]
      rw [← sum]
      exact later

/-- A strike took an amount from the keeper's stake and counted it. -/
def StruckBy (keeper : Address) (before after : World) (amount : Nat) : Prop :=
  ∃ info info', before.keepers.get? keeper = some info ∧ after.keepers.get? keeper = some info' ∧
    info'.stake + amount = info.stake ∧ info'.slashedAmount = info.slashedAmount + amount ∧
    info'.consecutiveFailures = info.consecutiveFailures + 1

/-- The keeper is still active, and above the maintenance margin. -/
def Remains (keeper : Address) (w : World) : Prop :=
  ∃ info, w.keepers.get? keeper = some info ∧ info.active = true ∧
    w.config.minStake * 75 / 100 ≤ info.stake

def Expelled (keeper : Address) (w : World) : Prop :=
  (∃ info, w.keepers.get? keeper = some info ∧ info.active = false) ∧
    keeper ∉ w.activeKeeperSet

theorem struckBy_of_struck {info : KeeperInfo} {deactivated : Bool}
    (found : w.keepers.get? keeper = some info)
    (found' : next.keepers.get? keeper = some (struckInfo info deactivated)) :
    StruckBy keeper w next (strikeAmount info) := by
  refine ⟨info, _, found, found', ?_, rfl, rfl⟩
  exact Nat.sub_add_cancel (strikeAmount_le info)

theorem Stands.survives {minStake : Nat} {info : KeeperInfo} {call : CallContext}
    (stands : Stands keeper minStake info w)
    (stepped : Registry.step chain w (.recordExecution call keeper false) = .ok next)
    (few : info.consecutiveFailures + 1 < 3)
    (enough : minStake * 75 / 100 ≤ info.stake - strikeAmount info) :
    Stands keeper minStake (struckInfo info false) next ∧ Remains keeper next ∧
      StruckBy keeper w next (strikeAmount info) := by
  obtain ⟨stored, provider, present, _, rfl⟩ := recordFailure_ok stepped
  obtain rfl := Option.some.inj (present.symm.trans stands.found)
  have kept : expelled w (failureInfo stored) (strikeAmount stored) = false := by
    simp only [expelled, failureInfo, Constants.maxStrikes, stands.minimum, decide_eq_false_iff_not]
    omega
  have found' : (w.struck chain provider keeper stored).keepers.get? keeper =
      some (struckInfo stored false) := by
    rw [struck_keepers, kept, Cells.get?_set_self]
  have minimum : (w.struck chain provider keeper stored).config.minStake = minStake := by
    rw [World.struck, World.punished_config]
    exact stands.minimum
  refine ⟨⟨found', stands.active, minimum⟩, ⟨_, found', stands.active, ?_⟩,
    struckBy_of_struck present found'⟩
  rw [minimum]
  exact enough

theorem Stands.expelled {minStake : Nat} {info : KeeperInfo} {call : CallContext}
    (stands : Stands keeper minStake info w)
    (stepped : Registry.step chain w (.recordExecution call keeper false) = .ok next)
    (third : info.consecutiveFailures = 2) :
    Expelled keeper next ∧ StruckBy keeper w next (strikeAmount info) := by
  obtain ⟨stored, provider, present, _, rfl⟩ := recordFailure_ok stepped
  obtain rfl := Option.some.inj (present.symm.trans stands.found)
  have out : Registry.expelled w (failureInfo stored) (strikeAmount stored) = true := by
    simp only [Registry.expelled, failureInfo, Constants.maxStrikes, third, decide_eq_true_eq]
    exact .inl (Nat.le_refl _)
  have found' : (w.struck chain provider keeper stored).keepers.get? keeper =
      some (struckInfo stored true) := by
    rw [struck_keepers, out, Cells.get?_set_self]
  refine ⟨⟨⟨_, found', rfl⟩, ?_⟩, struckBy_of_struck present found'⟩
  rw [World.struck, World.punished_activeKeeperSet, out]
  simp

/-- The record at the next strike, once a strike has been survived and stake added. -/
def carriedOn (info : KeeperInfo) (added : Nat) : KeeperInfo := raised (struckInfo info false) added

theorem strikeAmount_of_failures {info : KeeperInfo} {failures : Nat}
    (counted : info.consecutiveFailures = failures) :
    strikeAmount info = info.stake * strikeBps (failures + 1) / 10000 := by
  rw [strikeAmount_eq, counted]

theorem Stands.round {minStake : Nat} {info : KeeperInfo} {struck : World} {call : CallContext}
    {steps : List Step} (stands : Stands keeper minStake info w)
    (stepped : Registry.step chain w (.recordExecution call keeper false) = .ok struck)
    (between : Trace (Registry.step chain) (fun _ move => move.Uneventful keeper) struck steps next)
    (few : info.consecutiveFailures + 1 < 3)
    (enough : minStake * 75 / 100 ≤ info.stake - strikeAmount info) :
    Stands keeper minStake (carriedOn info (addedBy keeper steps)) next ∧ Remains keeper struck ∧
      StruckBy keeper w struck (strikeAmount info) := by
  obtain ⟨stands', remains, taken⟩ := stands.survives stepped few enough
  exact ⟨stands'.run between, remains, taken⟩

/-- Five, fifteen and twenty per cent, each of what the one before has left and of what
was added since. -/
theorem strikes_bounded {minStake stake : Nat} (funded : minStake ≤ stake) (added added' : Nat) :
    let first := stake * 500 / 10000
    let second := (stake - first + added) * 1500 / 10000
    let third := (stake - first + added - second + added') * 2000 / 10000
    minStake * 75 / 100 ≤ stake - first ∧
      minStake * 75 / 100 ≤ stake - first + added - second ∧
      100 * (first + second + third) ≤ 36 * (stake + added + added') := by
  intro first second third
  omega

/-- A keeper with the minimum stake and no failures survives two failures in a row and
is expelled by the third. The three slashes take at most 36 per cent of what it staked,
what it added between them included. -/
theorem three_strikes {start struck₁ before₂ struck₂ before₃ struck₃ : World} {info : KeeperInfo}
    {call₁ call₂ call₃ : CallContext} {first second : List Step}
    (found : start.keepers.get? keeper = some info) (active : info.active = true)
    (funded : start.config.minStake ≤ info.stake) (clean : info.consecutiveFailures = 0)
    (strike₁ : step chain start (.recordExecution call₁ keeper false) = .ok struck₁)
    (between₁ : Trace (step chain) (fun _ move => move.Uneventful keeper) struck₁ first before₂)
    (strike₂ : step chain before₂ (.recordExecution call₂ keeper false) = .ok struck₂)
    (between₂ : Trace (step chain) (fun _ move => move.Uneventful keeper) struck₂ second before₃)
    (strike₃ : step chain before₃ (.recordExecution call₃ keeper false) = .ok struck₃) :
    ∃ slash₁ slash₂ slash₃, StruckBy keeper start struck₁ slash₁ ∧ Remains keeper struck₁ ∧
      StruckBy keeper before₂ struck₂ slash₂ ∧ Remains keeper struck₂ ∧
      StruckBy keeper before₃ struck₃ slash₃ ∧ Expelled keeper struck₃ ∧
      100 * (slash₁ + slash₂ + slash₃) ≤
        36 * (info.stake + addedBy keeper first + addedBy keeper second) := by
  let info₂ := carriedOn info (addedBy keeper first)
  let info₃ := carriedOn info₂ (addedBy keeper second)
  have failures₂ : info₂.consecutiveFailures = 1 := congrArg (· + 1) clean
  have failures₃ : info₃.consecutiveFailures = 2 := congrArg (· + 1) failures₂
  have amount₁ : strikeAmount info = info.stake * 500 / 10000 := strikeAmount_of_failures clean
  have amount₂ : strikeAmount info₂ = info₂.stake * 1500 / 10000 :=
    strikeAmount_of_failures failures₂
  have amount₃ : strikeAmount info₃ = info₃.stake * 2000 / 10000 :=
    strikeAmount_of_failures failures₃
  have stake₂ : info₂.stake = info.stake - strikeAmount info + addedBy keeper first := rfl
  have stake₃ : info₃.stake = info₂.stake - strikeAmount info₂ + addedBy keeper second := rfl
  obtain ⟨margin₁, margin₂, total⟩ :=
    strikes_bounded funded (addedBy keeper first) (addedBy keeper second)
  rw [← amount₁] at margin₁
  rw [← amount₁, ← stake₂, ← amount₂] at margin₂
  rw [← amount₁, ← stake₂, ← amount₂, ← stake₃, ← amount₃] at total
  have stands : Stands keeper start.config.minStake info start := ⟨found, active, rfl⟩
  obtain ⟨stands₂, remains₁, taken₁⟩ := stands.round strike₁ between₁ (by omega) margin₁
  obtain ⟨stands₃, remains₂, taken₂⟩ := stands₂.round strike₂ between₂
    (Nat.lt_of_le_of_lt (Nat.le_of_eq (congrArg (· + 1) failures₂)) (by decide)) margin₂
  obtain ⟨out, taken₃⟩ := stands₃.expelled strike₃ failures₃
  exact ⟨_, _, _, taken₁, remains₁, taken₂, remains₂, taken₃, out, total⟩

namespace Sample

def after (w : World) (move : Step) : World :=
  match step sampleChain w move with
  | .ok next => next
  | .error _ => w

theorem step_after {w : World} {move : Step}
    (runs : endsIn (fun _ => True) (step sampleChain w move) = true) :
    step sampleChain w move = .ok (after w move) := by
  obtain ⟨next, stepped, _⟩ := endsIn_iff.mp runs
  rw [after, stepped]

def small : World :=
  after (after (deployed 19 1000 50 treasury) (.registerKeeper (call alice 19 10)))
    (.configure (owner 11) (.setStakingProvider .zero))

def failure (time : UInt64) : Step := .recordExecution (owner time) alice false

def topUp : Step := .addStake (call alice 1000 13)

end Sample

/-- Of nineteen units the first strike takes none, and the keeper is expelled all the
same. -/
theorem three_strikes_sample :
    ∃ struck₁ struck₂ struck₃ slash₁ slash₂ slash₃,
      StruckBy Sample.alice Sample.small struck₁ slash₁ ∧ Remains Sample.alice struck₁ ∧
      StruckBy Sample.alice struck₁ struck₂ slash₂ ∧ Remains Sample.alice struck₂ ∧
      StruckBy Sample.alice struck₂ struck₃ slash₃ ∧ Expelled Sample.alice struck₃ ∧
      100 * (slash₁ + slash₂ + slash₃) ≤ 36 * 19 := by
  have found : Sample.small.keepers.get? Sample.alice =
      some ⟨Sample.alice, 19, 10, 0, 0, 0, 0, true, 0⟩ := by decide +kernel
  have strike₁ : endsIn (fun _ => True) (step sampleChain Sample.small (Sample.failure 12)) = true := by
    decide +kernel
  have strike₂ : endsIn (fun _ => True) (step sampleChain (Sample.after Sample.small
      (Sample.failure 12)) (Sample.failure 13)) = true := by decide +kernel
  have strike₃ : endsIn (fun _ => True) (step sampleChain (Sample.after (Sample.after Sample.small
      (Sample.failure 12)) (Sample.failure 13)) (Sample.failure 14)) = true := by decide +kernel
  exact ⟨_, _, _, three_strikes found rfl (by decide +kernel) rfl (Sample.step_after strike₁)
    (.nil _) (Sample.step_after strike₂) (.nil _) (Sample.step_after strike₃)⟩

/-- A stake that is added between two strikes is slashed with the rest. -/
theorem slashes_exceed_initial_stake :
    Sample.small.keepers.get? Sample.alice = some ⟨Sample.alice, 19, 10, 0, 0, 0, 0, true, 0⟩ ∧
      Sample.small.config.minStake = 19 ∧
      Sample.small.config.stakingProviderAddr = some Bytes32.zero ∧
      ∃ final, Trace (step sampleChain)
          (fun _ move => move.Uneventful Sample.alice ∨ move.records Sample.alice false = true)
          Sample.small
          [Sample.failure 12, Sample.topUp, Sample.failure 14, Sample.failure 15] final ∧
        (final.keepers.get? Sample.alice).any fun info => 36 * 19 < 100 * info.slashedAmount := by
  refine ⟨by decide +kernel, by decide +kernel, by decide +kernel, ?_⟩
  exact Trace.of_runChecked (step sampleChain)
    (fun _ move => move.Uneventful Sample.alice ∨ move.records Sample.alice false = true)
    Sample.small [Sample.failure 12, Sample.topUp, Sample.failure 14, Sample.failure 15]
    (fun final => (final.keepers.get? Sample.alice).any fun info => 36 * 19 < 100 * info.slashedAmount)
    (by decide +kernel)

end XCron.Registry
