import XCron.Xwap.Contract

/-!
# The average stays between its inputs

Every update moves the averaged reserves by a share of the way to the reserves it is
given. The share is clamped to bounds that the owner may move, so the averages never
leave the range of the reserves submitted so far, and never become zero.
-/

namespace XCron.Xwap

open Platform

variable {w next : World} {move : Step}

/-! ## The weight -/

/-- A weight between the bounds of the moment. -/
def Config.Admits (c : Config) (alpha : UInt64) : Prop :=
  c.alphaMinX1000.toNat ≤ alpha.toNat ∧ alpha.toNat ≤ c.alphaMaxX1000.toNat

theorem toNat_min (first second : UInt64) :
    (min first second).toNat = min first.toNat second.toNat := by
  change (if first ≤ second then first else second).toNat = _
  split
  next least => exact (Nat.min_eq_left (UInt64.le_iff_toNat_le.mp least)).symm
  next greater => exact (Nat.min_eq_right (Nat.le_of_lt (UInt64.not_le.mp greater))).symm

theorem toNat_max (first second : UInt64) :
    (max first second).toNat = max first.toNat second.toNat := by
  change (if first ≤ second then second else first).toNat = _
  split
  next least => exact (Nat.max_eq_right (UInt64.le_iff_toNat_le.mp least)).symm
  next greater => exact (Nat.max_eq_left (Nat.le_of_lt (UInt64.not_le.mp greater))).symm

theorem Config.Sound.clamped {c : Config} (sound : c.Sound) (volatility : UInt64) :
    c.Admits (max (min volatility c.alphaMaxX1000) c.alphaMinX1000) := by
  have bounds := sound.alphaBounds
  unfold Config.Admits
  rw [toNat_max, toNat_min]
  omega

theorem Config.Sound.boosted {c : Config} (sound : c.Sound) {alpha boost : UInt64}
    (admits : c.Admits alpha) (small : boost.toNat ≤ 500) :
    c.Admits (min (alpha + boost) c.alphaMaxX1000) := by
  have bounds := sound.alphaBounds
  have capped := sound.alphaMax
  obtain ⟨above, below⟩ := admits
  have sum : (alpha + boost).toNat = alpha.toNat + boost.toNat := by
    rw [UInt64.toNat_add]
    apply Nat.mod_eq_of_lt
    omega
  unfold Config.Admits
  rw [toNat_min, sum]
  omega

/-- The weight of an update always lies between the bounds. -/
theorem Config.Sound.computeAlpha (sound : w.config.Sound) (gateOpen : Bool) :
    w.config.Admits (computeAlpha gateOpen w) := by
  have least : w.config.Admits w.config.alphaMinX1000 := ⟨Nat.le_refl _, sound.alphaBounds.le⟩
  unfold Xwap.computeAlpha
  dsimp only
  split
  next young => exact least
  next _ =>
    split
    next unpriced => exact least
    next _ =>
      have boostedIf : ∀ {alpha boost : UInt64} (condition : Bool), w.config.Admits alpha →
          boost.toNat ≤ 500 → w.config.Admits
            (if condition then min (alpha + boost) w.config.alphaMaxX1000 else alpha) := by
        intro alpha boost condition admits small
        cases condition with
        | true => exact sound.boosted admits small
        | false => exact admits
      exact boostedIf gateOpen (boostedIf (detectTrend w) (sound.clamped _) sound.trendBoost)
        sound.gateBoost

/-! ## The averages -/

theorem blend_between {alpha : UInt64} (weight : alpha.toNat ≤ 1000) (reserve : Nat)
    {ewma : Nat} (seeded : ewma ≠ 0) :
    min reserve ewma ≤ blend alpha reserve ewma ∧ blend alpha reserve ewma ≤ max reserve ewma := by
  have rest : (alphaScale - alpha).toNat = 1000 - alpha.toNat :=
    UInt64.toNat_sub_of_le _ _ (UInt64.le_iff_toNat_le.mpr weight)
  have whole : ∀ value, alpha.toNat * value + (1000 - alpha.toNat) * value = 1000 * value := by
    intro value
    rw [← Nat.add_mul, Nat.add_sub_cancel' weight]
  unfold blend
  rw [if_neg seeded, rest]
  change _ ≤ _ / 1000 ∧ _ / 1000 ≤ _
  constructor
  · apply (Nat.le_div_iff_mul_le (by decide)).mpr
    calc min reserve ewma * 1000
        = alpha.toNat * min reserve ewma + (1000 - alpha.toNat) * min reserve ewma := by
          rw [whole, Nat.mul_comm]
      _ ≤ alpha.toNat * reserve + (1000 - alpha.toNat) * ewma :=
          Nat.add_le_add (Nat.mul_le_mul_left _ (Nat.min_le_left _ _))
            (Nat.mul_le_mul_left _ (Nat.min_le_right _ _))
  · apply Nat.div_le_of_le_mul
    calc alpha.toNat * reserve + (1000 - alpha.toNat) * ewma
        ≤ alpha.toNat * max reserve ewma + (1000 - alpha.toNat) * max reserve ewma :=
          Nat.add_le_add (Nat.mul_le_mul_left _ (Nat.le_max_left _ _))
            (Nat.mul_le_mul_left _ (Nat.le_max_right _ _))
      _ = 1000 * max reserve ewma := whole _

/-- Between the least and the greatest input so far, and zero before the first one. -/
structure Enclosed (inputs : List Nat) (ewma : Nat) : Prop where
  unseeded : inputs = [] → ewma = 0
  positive : inputs ≠ [] → 0 < ewma
  above : inputs ≠ [] → ∃ least ∈ inputs, least ≤ ewma
  below : inputs ≠ [] → ∃ greatest ∈ inputs, ewma ≤ greatest

theorem Enclosed.blend {inputs : List Nat} {ewma reserve : Nat} (enclosed : Enclosed inputs ewma)
    {alpha : UInt64} (weight : alpha.toNat ≤ 1000) (positive : 0 < reserve) :
    Enclosed (inputs ++ [reserve]) (blend alpha reserve ewma) := by
  have unseeded : inputs ++ [reserve] = [] → Xwap.blend alpha reserve ewma = 0 := by simp
  have last : reserve ∈ inputs ++ [reserve] := by simp
  by_cases first : inputs = []
  · have seed : Xwap.blend alpha reserve ewma = reserve := if_pos (enclosed.unseeded first)
    rw [seed] at unseeded ⊢
    exact ⟨unseeded, fun _ => positive, fun _ => ⟨reserve, last, le_rfl⟩,
      fun _ => ⟨reserve, last, le_rfl⟩⟩
  · have seeded := enclosed.positive first
    obtain ⟨least, leastIn, above⟩ := enclosed.above first
    obtain ⟨greatest, greatestIn, below⟩ := enclosed.below first
    obtain ⟨lower, upper⟩ := blend_between weight reserve seeded.ne'
    refine ⟨unseeded, fun _ => ?_, fun _ => ?_, fun _ => ?_⟩
    · omega
    · by_cases smaller : reserve ≤ ewma
      · exact ⟨reserve, last, by omega⟩
      · exact ⟨least, List.mem_append_left _ leastIn, by omega⟩
    · by_cases greater : ewma ≤ reserve
      · exact ⟨reserve, last, by omega⟩
      · exact ⟨greatest, List.mem_append_left _ greatestIn, by omega⟩

/-! ## Every run -/

def Step.reserveA : Step → Option Nat
  | .updatePrice _ _ rawReserveA _ => some (rawReserveA * scale)
  | _ => none

def Step.reserveB : Step → Option Nat
  | .updatePrice _ _ _ rawReserveB => some (rawReserveB * scale)
  | _ => none

/-- What holds of the oracle after the steps of a run. -/
structure Averaged (past : List Step) (w : World) : Prop where
  sound : w.config.Sound
  sideA : Enclosed (past.filterMap Step.reserveA) w.ewmaReserveA
  sideB : Enclosed (past.filterMap Step.reserveB) w.ewmaReserveB

theorem Averaged.same {past : List Step} (averaged : Averaged past w)
    (sound : next.config.Sound) (silent : move.reserveA = none ∧ move.reserveB = none)
    (sideA : next.ewmaReserveA = w.ewmaReserveA) (sideB : next.ewmaReserveB = w.ewmaReserveB) :
    Averaged (past ++ [move]) next where
  sound := sound
  sideA := by
    rw [List.filterMap_append, sideA]
    simpa [silent.1] using averaged.sideA
  sideB := by
    rw [List.filterMap_append, sideB]
    simpa [silent.2] using averaged.sideB

theorem Averaged.step {past : List Step} (averaged : Averaged past w)
    (stepped : Xwap.step w move = .ok next) : Averaged (past ++ [move]) next := by
  have sound := step_sound averaged.sound stepped
  cases move with
  | updatePrice call block rawReserveA rawReserveB =>
      simp only [Xwap.step, Outcome.bind_eq_ok] at stepped
      obtain ⟨_, _, stepped⟩ := stepped
      have updated := updatePrice_ok stepped
      obtain ⟨gateOpen, alpha, ewmaA, ewmaB⟩ := updated.ewma
      have weight : next.alphaX1000.toNat ≤ 1000 := by
        rw [alpha]
        exact (averaged.sound.computeAlpha gateOpen).2.trans averaged.sound.alphaMax
      have scaled : ∀ {reserve : Nat}, 0 < reserve → 0 < reserve * scale := by
        intro reserve positive
        exact Nat.mul_pos positive (by decide)
      refine ⟨sound, ?_, ?_⟩
      · rw [List.filterMap_append, ewmaA]
        exact averaged.sideA.blend weight (scaled updated.reserveA)
      · rw [List.filterMap_append, ewmaB]
        exact averaged.sideB.blend weight (scaled updated.reserveB)
  | reportPrice call block price =>
      simp only [Xwap.step, reportPrice, Outcome.bind_eq_ok, Outcome.pure_eq_ok] at stepped
      obtain ⟨_, _, _, _, _, _, rfl⟩ := stepped
      exact averaged.same sound ⟨rfl, rfl⟩ rfl rfl
  | configure call change =>
      simp only [Xwap.step, configure, Outcome.bind_eq_ok, Outcome.pure_eq_ok] at stepped
      obtain ⟨_, _, _, _, config, applied, rfl⟩ := stepped
      exact averaged.same sound ⟨rfl, rfl⟩ rfl rfl
  | upgrade =>
      simp only [Xwap.step, Outcome.pure_eq_ok] at stepped
      subst stepped
      exact averaged.same sound ⟨rfl, rfl⟩ rfl rfl

theorem Deployed.averaged (deployed : Deployed w) : Averaged [] w := by
  have sound := deployed.sound
  obtain ⟨caller, poolAddress, rfl⟩ := deployed
  have zero : Enclosed [] 0 := ⟨fun _ => rfl, nofun, nofun, nofun⟩
  exact ⟨sound, zero, zero⟩

theorem Averaged.updates {past : List Step} (averaged : Averaged past w) (block : UInt64)
    {rawReserveA rawReserveB : Nat} (positiveA : 0 < rawReserveA) (positiveB : 0 < rawReserveB) :
    ∃ next, updatePrice block rawReserveA rawReserveB w = .ok next := by
  have weight : ∀ gateOpen, (computeAlpha gateOpen w).toNat ≤ 1000 := by
    intro gateOpen
    exact (averaged.sound.computeAlpha gateOpen).2.trans averaged.sound.alphaMax
  have seeded : ∀ gateOpen, 0 < blend (computeAlpha gateOpen w) (rawReserveA * scale)
      w.ewmaReserveA := by
    intro gateOpen
    have enclosed := averaged.sideA.blend (weight gateOpen)
      (Nat.mul_pos positiveA (by decide : 0 < scale))
    exact enclosed.positive (by simp)
  simp only [updatePrice, Outcome.bind_eq_ok, Outcome.require_eq_ok, bigUintDiv_eq_ok,
    Outcome.pure_eq_ok]
  exact ⟨_, (), positiveA, (), positiveB, _, ⟨positiveA.ne', rfl⟩, (), seeded _, _,
    ⟨(seeded _).ne', rfl⟩, rfl⟩

/-- In every run the weight of an update lies between the bounds of the moment, and the
averages are positive and between the least and the greatest reserve submitted so far.
So an update of positive reserves never fails. -/
theorem ewma_within_inputs {start final : World} {steps : List Step} (deployed : Deployed start)
    (trace : Trace step (fun _ _ => True) start steps final) :
    (∀ gateOpen, final.config.Admits (computeAlpha gateOpen final)) ∧
      final.config.alphaMaxX1000.toNat ≤ 1000 ∧
      Enclosed (steps.filterMap Step.reserveA) final.ewmaReserveA ∧
      Enclosed (steps.filterMap Step.reserveB) final.ewmaReserveB ∧
      ∀ call block rawReserveA rawReserveB, call.egldValue = 0 → call.esdtTransfers = [] →
        0 < rawReserveA → 0 < rawReserveB →
        ∃ next, step final (.updatePrice call block rawReserveA rawReserveB) = .ok next ∧
          next.config = final.config ∧ next.config.Admits next.alphaX1000 ∧
          0 < next.ewmaReserveA ∧
          next.xwapPrice = next.ewmaReserveB * scale / next.ewmaReserveA := by
  have averaged : Averaged ([] ++ steps) final :=
    trace.history Averaged (fun _ _ _ _ averaged stepped => averaged.step stepped) deployed.averaged
  rw [List.nil_append] at averaged
  refine ⟨averaged.sound.computeAlpha, averaged.sound.alphaMax, averaged.sideA, averaged.sideB, ?_⟩
  intro call block rawReserveA rawReserveB noEgld noEsdt positiveA positiveB
  obtain ⟨next, succeeded⟩ := averaged.updates block positiveA positiveB
  have stepped : step final (.updatePrice call block rawReserveA rawReserveB) = .ok next := by
    simp only [step, CallContext.notPayable, Outcome.bind_eq_ok, Outcome.ensure_eq_ok]
    exact ⟨(), ⟨noEgld, noEsdt⟩, succeeded⟩
  have updated := updatePrice_ok succeeded
  obtain ⟨gateOpen, alpha, _⟩ := updated.ewma
  refine ⟨next, stepped, updated.config, ?_, ?_, updated.price⟩
  · rw [updated.config, alpha]
    exact averaged.sound.computeAlpha gateOpen
  · apply (averaged.step stepped).sideA.positive
    simp [Step.reserveA]

namespace Sample

def fallingRun : List Step :=
  [90, 80, 70, 60].map (fun reserve => .updatePrice (oracleCall (.fill 9)) 100 10 reserve) ++
    [.configure (oracleCall (.fill 2)) (.setAlphaBounds 100 900)] ++
    [50, 40, 30].map (fun reserve => .updatePrice (oracleCall (.fill 9)) 100 10 reserve)

end Sample

theorem ewma_within_inputs_sample :
    ∃ final, Trace step (fun _ _ => True) (init (.fill 2) (.fill 3)) Sample.fallingRun final ∧
      final.alphaX1000 = 195 ∧ final.ewmaReserveA = 10 * scale ∧
      Enclosed [90 * scale, 80 * scale, 70 * scale, 60 * scale, 50 * scale, 40 * scale, 30 * scale]
        final.ewmaReserveB := by
  obtain ⟨final, trace, alpha, ewma⟩ := Trace.of_runChecked step (fun _ _ => True)
    (init (.fill 2) (.fill 3)) Sample.fallingRun
    (fun final => final.alphaX1000 = 195 ∧ final.ewmaReserveA = 10 * scale) (by decide +kernel)
  obtain ⟨_, _, _, enclosed, _⟩ := ewma_within_inputs ⟨.fill 2, .fill 3, rfl⟩ trace
  exact ⟨final, trace, alpha, ewma, enclosed⟩

end XCron.Xwap
