import XCron.Registry.Records
import XCron.Registry.Reserve

/-!
# The cooldown

A keeper that has asked to leave waits out the cooldown. One that was deactivated
without asking does not: its request time reads as zero, and `withdraw_stake`
takes the cooldown to have run since then.
-/

namespace XCron.Registry

open Platform

variable {chain : Chain} {w next : World} {move : Step} {keeper : Address} {past : List Step}

def Step.asked? (keeper : Address) : Step → Option UInt64
  | .requestUnstake call => if call.caller = keeper then some call.blockTimestamp else none
  | _ => none

def requestTimes (keeper : Address) (past : List Step) : List UInt64 :=
  (sinceLatest (Step.registers keeper) past).filterMap (Step.asked? keeper)

/-- The keeper asked to leave since its latest registration, and the cooldown has
passed since. -/
def Waited (cooldown : UInt64) (past : List Step) (call : CallContext) : Prop :=
  ∃ request, .requestUnstake request ∈ sinceLatest (Step.registers call.caller) past ∧
    request.caller = call.caller ∧
    request.blockTimestamp.toNat + cooldown.toNat ≤ call.blockTimestamp.toNat

/-- Whoever withdraws has a request on record, and the end of its cooldown is a
time that 64 bits can hold. -/
def Asked (w : World) : Step → Prop
  | .withdrawStake call =>
      w.unstakeRequestTime call.caller ≠ 0 ∧
        (w.unstakeRequestTime call.caller).toNat + w.config.cooldownSeconds.toNat < 2 ^ 64
  | _ => True

instance (w : World) : (move : Step) → Decidable (Asked w move)
  | .withdrawStake _ => inferInstanceAs (Decidable (_ ∧ _))
  | .registerKeeper _ | .addStake _ | .requestUnstake _ | .slashKeeper _ _ _
  | .recordExecution _ _ _ | .delegateStake _ _ | .unDelegateStake _ _ _
  | .claimProviderRewards _ _ | .withdrawProviderStake _ _ | .sweepSlashedDebt _ _
  | .configure _ _ | .receiveEgld _ => isTrue trivial

/-- The request that a stored time stands for: none if the cell is empty. -/
def onRecord (time : UInt64) : List UInt64 := if time = 0 then [] else [time]

/-- The request time of a registered keeper is that of its one request since it
registered, if there was one. -/
def Remembered (past : List Step) (w : World) : Prop :=
  ∀ keeper info, w.keepers.get? keeper = some info →
    requestTimes keeper past = onRecord (w.unstakeRequestTime keeper)

theorem requestTimes_concat (keeper : Address) (past : List Step) (move : Step) :
    requestTimes keeper (past ++ [move]) =
      if move.registers keeper then []
      else requestTimes keeper past ++ (move.asked? keeper).toList := by
  unfold requestTimes
  rw [sinceLatest_concat]
  split
  · rename_i registers
    cases move with
    | registerKeeper => rfl
    | _ => cases registers
  · rw [List.filterMap_append]
    cases asked : move.asked? keeper <;> simp [asked]

theorem Remembered.keep (remembered : Remembered past w)
    (same : next.unstakeRequestTime = w.unstakeRequestTime)
    (silent : ∀ keeper, move.registers keeper = false ∧ move.asked? keeper = none)
    (known : ∀ keeper info, next.keepers.get? keeper = some info →
      ∃ stored, w.keepers.get? keeper = some stored) : Remembered (past ++ [move]) next := by
  intro keeper info found
  obtain ⟨stored, found'⟩ := known keeper info found
  rw [requestTimes_concat, (silent keeper).1, (silent keeper).2, same]
  simpa using remembered keeper stored found'

theorem known_set {keepers : Cells Address KeeperInfo} {someone : Address}
    {info info' stored : KeeperInfo} (found : keepers.get? someone = some stored)
    (found' : (keepers.set someone info').get? keeper = some info) :
    ∃ stored, keepers.get? keeper = some stored := by
  rcases Cells.of_get?_set found' with ⟨rfl, _⟩ | ⟨_, found'⟩
  · exact ⟨stored, found⟩
  · exact ⟨info, found'⟩

theorem Remembered.punished (remembered : Remembered past w) {someone provider : Address}
    {info stored : KeeperInfo} {amount : Nat} {deactivated : Bool} {reason : Bytes}
    (found : w.keepers.get? someone = some stored)
    (silent : ∀ keeper, move.registers keeper = false ∧ move.asked? keeper = none) :
    Remembered (past ++ [move])
      (w.punished chain provider someone info amount deactivated reason) := by
  refine remembered.keep (by simp) silent ?_
  intro keeper info' found'
  rw [World.punished_keepers] at found'
  exact known_set found found'

theorem Remembered.step (remembered : Remembered past w) (orderly : w.Orderly)
    (stepped : step chain w move = .ok next) : Remembered (past ++ [move]) next := by
  cases step_effect stepped with
  | @registerKeeper call free enough =>
      intro keeper info found
      change (w.keepers.set call.caller _).get? keeper = _ at found
      change _ = onRecord (w.unstakeRequestTime keeper)
      rw [requestTimes_concat]
      by_cases self : keeper = call.caller
      · rw [self, orderly.absent _ free]
        simp [Step.registers, onRecord]
      · rw [Cells.get?_set_ne _ _ self] at found
        have other : (Step.registerKeeper call).registers keeper = false := by
          simp [Step.registers, Ne.symm self]
        rw [other]
        simpa [Step.asked?] using remembered keeper info found
  | addStake found =>
      exact remembered.keep rfl (fun _ => ⟨rfl, rfl⟩) fun _ _ found' => known_set found found'
  | @requestUnstake call info late found active =>
      have pending : call.blockTimestamp ≠ 0 := (UInt64.ne_of_lt late).symm
      intro keeper info' found'
      simp only [World.unstakeRequested] at found' ⊢
      obtain ⟨stored, known⟩ := known_set found found'
      have before := remembered keeper stored known
      rw [requestTimes_concat]
      by_cases self : keeper = call.caller
      · rw [self, orderly.active _ _ found active] at before
        rw [self, before, Function.update_self]
        simp [Step.registers, Step.asked?, onRecord, pending]
      · rw [Function.update_of_ne self]
        simpa [Step.registers, Step.asked?, Ne.symm self] using before
  | @withdrawStake call info found =>
      intro keeper info' found'
      rw [World.withdrawn_keepers] at found'
      obtain ⟨other, found'⟩ := Cells.of_get?_clear found'
      rw [requestTimes_concat, World.withdrawn_unstakeRequestTime, Function.update_of_ne other]
      simpa [Step.registers, Step.asked?] using remembered keeper info' found'
  | slashKeeper found => exact remembered.punished found fun _ => ⟨rfl, rfl⟩
  | recordSuccess found =>
      exact remembered.keep rfl (fun _ => ⟨rfl, rfl⟩) fun _ _ found' => known_set found found'
  | recordFailure found => exact remembered.punished found fun _ => ⟨rfl, rfl⟩
  | _ => exact remembered.keep rfl (fun _ => ⟨rfl, rfl⟩) fun _ info found' => ⟨info, found'⟩

theorem remembered_run {start : World} {allowed : World → Step → Prop} (deployed : Deployed start)
    (trace : Trace (step chain) allowed start past w) : Remembered past w := by
  have kept : w.Orderly ∧ Remembered ([] ++ past) w := by
    refine trace.history (fun past w => w.Orderly ∧ Remembered past w) ?_ ⟨deployed.orderly, ?_⟩
    · rintro past _ _ _ ⟨orderly, remembered⟩ stepped
      exact ⟨orderly.step stepped, remembered.step orderly stepped⟩
    · obtain ⟨_, _, _, _, rfl⟩ := deployed.eq_deployed
      intro keeper info found
      simp [XCron.Registry.deployed] at found
  exact kept.2

theorem mem_requestTimes {time : UInt64} :
    time ∈ requestTimes keeper past ↔
      ∃ request, .requestUnstake request ∈ sinceLatest (Step.registers keeper) past ∧
        request.caller = keeper ∧ request.blockTimestamp = time := by
  unfold requestTimes
  rw [List.mem_filterMap]
  constructor
  · rintro ⟨move, member, asked⟩
    cases move with
    | requestUnstake request =>
        simp only [Step.asked?] at asked
        split at asked
        · exact ⟨request, member, ‹_›, Option.some.inj asked⟩
        · cases asked
    | _ => cases asked
  · rintro ⟨request, member, rfl, rfl⟩
    exact ⟨_, member, by simp [Step.asked?]⟩

theorem waited_iff {call : CallContext} (remembered : Remembered past w)
    (stepped : step chain w (.withdrawStake call) = .ok next) :
    Waited w.config.cooldownSeconds past call ↔ Asked w (.withdrawStake call) := by
  cases step_effect stepped with
  | @withdrawStake call info found inactive elapsed =>
      have times := remembered call.caller info found
      have bound := call.blockTimestamp.toNat_lt
      rw [UInt64.le_iff_toNat_le, UInt64.toNat_add] at elapsed
      constructor
      · rintro ⟨request, member, asker, waited⟩
        have listed := mem_requestTimes.mpr ⟨request, member, asker, rfl⟩
        rw [times, onRecord] at listed
        split at listed
        · cases listed
        · rename_i pending
          rw [List.mem_singleton.mp listed] at waited
          exact ⟨pending, by omega⟩
      · rintro ⟨pending, fits⟩
        rw [onRecord, if_neg pending] at times
        have listed : w.unstakeRequestTime call.caller ∈ requestTimes call.caller past := by
          rw [times]
          exact List.mem_singleton.mpr rfl
        obtain ⟨request, member, asker, time⟩ := mem_requestTimes.mp listed
        refine ⟨request, member, asker, ?_⟩
        rw [time]
        rw [Nat.mod_eq_of_lt fits] at elapsed
        exact elapsed

/-- In any run, every withdrawal comes after the cooldown of a request that its
keeper made since it registered, exactly if every keeper that withdraws has a
request on record whose cooldown ends within 64 bits. -/
theorem cooldown_waited {start : World} {steps : List Step} {allowed : World → Step → Prop}
    (deployed : Deployed start) (trace : Trace (step chain) allowed start steps w) :
    (∀ past call rest before after, steps = past ++ .withdrawStake call :: rest →
        Trace (step chain) allowed start past before →
        step chain before (.withdrawStake call) = .ok after →
        Waited before.config.cooldownSeconds past call) ↔
      Trace (step chain) Asked start steps w := by
  rw [trace.fair_iff]
  constructor
  · intro waited past move rest before after split reached stepped
    cases move with
    | withdrawStake call =>
        have remembered := remembered_run deployed reached
        exact (waited_iff remembered stepped).mp
          (waited past call rest before after split reached stepped)
    | _ => trivial
  · intro asked past call rest before after split reached stepped
    have remembered := remembered_run deployed reached
    exact (waited_iff remembered stepped).mpr
      (asked past (.withdrawStake call) rest before after split reached stepped)

namespace Sample

def patientRun : List Step :=
  [.registerKeeper (call alice 1000 10), .requestUnstake (call alice 0 17),
    .withdrawStake (call alice 0 67)]

def expelledRun : List Step :=
  [.registerKeeper (call alice 100 1000), .slashKeeper (owner 1001) alice [],
    .withdrawStake (call alice 0 1002)]

end Sample

theorem cooldown_waited_sample :
    ∃ w, Trace (step sampleChain) Asked Sample.registry Sample.patientRun w ∧
      ∀ past call rest before after, Sample.patientRun = past ++ .withdrawStake call :: rest →
        Trace (step sampleChain) Asked Sample.registry past before →
        step sampleChain before (.withdrawStake call) = .ok after →
        Waited before.config.cooldownSeconds past call := by
  obtain ⟨w, trace, _⟩ := Trace.of_runChecked (step sampleChain) Asked Sample.registry
    Sample.patientRun (fun _ => True) (by decide +kernel)
  exact ⟨w, trace, (cooldown_waited Sample.registry_deployed trace).mpr trace⟩

/-- The keeper takes its stake two seconds after it registered and never asked to:
its run has no request in it. -/
theorem cooldown_skipped :
    Deployed Sample.registry ∧ Sample.registry.config.cooldownSeconds = 50 ∧
      (∃ w, Trace (step sampleChain) (fun _ _ => True) Sample.registry Sample.expelledRun w ∧
        w.sent = [⟨Sample.treasury, 10⟩, ⟨Sample.treasury, 4⟩, ⟨Sample.alice, 86⟩]) ∧
      ∀ cooldown, ¬Waited cooldown (Sample.expelledRun.take 2) (Sample.call Sample.alice 0 1002) := by
  refine ⟨Sample.registry_deployed, rfl, Trace.of_runChecked _ _ _ _ _ (by decide +kernel), ?_⟩
  rintro cooldown ⟨request, member, _, _⟩
  have registration : sinceLatest (Step.registers Sample.alice) (Sample.expelledRun.take 2) =
      Sample.expelledRun.take 2 := rfl
  change _ ∈ sinceLatest (Step.registers Sample.alice) (Sample.expelledRun.take 2) at member
  rw [registration] at member
  simp [Sample.expelledRun] at member

end XCron.Registry
