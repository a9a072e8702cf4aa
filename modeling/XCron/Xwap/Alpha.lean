import XCron.Xwap.Ewma
import XCron.Xwap.Trend

/-!
# The adaptive weight

The weight of an update is three times the volatility of the price, clamped and boosted.
A volatility that does not fit into a word is replaced by one that the clamp hides, but
one that just fits is still tripled, and the product wraps before the clamp sees it.
-/

namespace XCron.Xwap

open Platform

variable {w : World} {gateOpen : Bool}

/-! ## The value and the way to it -/

def alphaFormula (gateOpen : Bool) (w : World) : Nat :=
  let alphaMax := w.config.alphaMaxX1000.toNat
  let volatility := 1000 * ((w.xwapPrice : Int) - w.prevXwapPrice).natAbs / w.prevXwapPrice
  let alpha := max w.config.alphaMinX1000.toNat (min alphaMax (3 * volatility))
  let alpha :=
    if detectTrend w then min (alpha + w.config.trendBoostX1000.toNat) alphaMax else alpha
  if gateOpen then min (alpha + w.config.gateBoostX1000.toNat) alphaMax else alpha

/-- The volatility as a word: `to_u64().unwrap_or(..)`. -/
def volatilityWord (w : World) : UInt64 :=
  (toU64 (divergence w.xwapPrice w.prevXwapPrice)).getD (w.config.alphaMaxX1000 * 1000 / 3)

def clampedAlpha (w : World) : UInt64 :=
  max (min (volatilityWord w * 3) w.config.alphaMaxX1000) w.config.alphaMinX1000

def trendAlpha (w : World) : UInt64 :=
  if detectTrend w then min (clampedAlpha w + w.config.trendBoostX1000) w.config.alphaMaxX1000
  else clampedAlpha w

/-- No operation on words wraps on the way, those of `detect_trend` included. -/
structure NoWrap (gateOpen : Bool) (w : World) : Prop where
  fallback : w.config.alphaMaxX1000.toNat * 1000 < 2 ^ 64
  tripled : (volatilityWord w).toNat * 3 < 2 ^ 64
  trendBoost : detectTrend w = true →
    (clampedAlpha w).toNat + w.config.trendBoostX1000.toNat < 2 ^ 64
  gateBoost : gateOpen = true → (trendAlpha w).toNat + w.config.gateBoostX1000.toNat < 2 ^ 64
  slots : ∀ i, i < trendWindow → w.priceHistoryIdx.toNat + historyLen.toNat < 2 ^ 64 ∧
    i + 2 ≤ w.priceHistoryIdx.toNat + historyLen.toNat

/-- `compute_alpha` returns the value of the formula, and nothing wraps on the way. -/
structure AlphaExact (gateOpen : Bool) (w : World) : Prop where
  value : (computeAlpha gateOpen w).toNat = alphaFormula gateOpen w
  noWrap : NoWrap gateOpen w

/-- The price has not risen so far that three times its volatility wraps although the
volatility fits: to between 6.1 and 18.4 times ten to the fifteenth of what it was. -/
def RisesModerately (w : World) : Prop :=
  (w.xwapPrice - w.prevXwapPrice) * 1000 < 6148914691236517206 * w.prevXwapPrice ∨
    2 ^ 64 * w.prevXwapPrice ≤ (w.xwapPrice - w.prevXwapPrice) * 1000

instance (w : World) : Decidable (RisesModerately w) := inferInstanceAs (Decidable (_ ∨ _))

/-! ## The volatility -/

theorem computeAlpha_eq (counted : 5 ≤ w.updateCount) (priced : 0 < w.prevXwapPrice) :
    computeAlpha gateOpen w =
      if gateOpen then min (trendAlpha w + w.config.gateBoostX1000) w.config.alphaMaxX1000
      else trendAlpha w := by
  unfold computeAlpha
  dsimp only
  rw [if_neg (UInt64.not_lt.mpr counted), if_neg priced.ne']
  rfl

theorem divergence_natAbs (value reference : Nat) :
    divergence value reference = 1000 * ((value : Int) - reference).natAbs / reference := by
  unfold divergence
  split
  next above =>
    have distance : ((value : Int) - reference).natAbs = value - reference := by omega
    rw [distance, Nat.mul_comm]
  next below =>
    have distance : ((value : Int) - reference).natAbs = reference - value := by omega
    rw [distance, Nat.mul_comm]

theorem divergence_lt_iff_rise {value reference bound : Nat} (priced : 0 < reference)
    (large : 1000 < bound) :
    divergence value reference < bound ↔ (value - reference) * 1000 < bound * reference := by
  unfold divergence
  split
  next above => rw [Nat.div_lt_iff_lt_mul priced]
  next below =>
    have fallen : (reference - value) * 1000 / reference ≤ 1000 := by
      apply Nat.div_le_of_le_mul
      exact Nat.mul_le_mul_right _ (Nat.sub_le _ _)
    refine iff_of_true (by omega) ?_
    rw [Nat.sub_eq_zero_of_le (Nat.le_of_not_lt below), Nat.zero_mul]
    exact Nat.mul_pos (by omega) priced

theorem toNat_volatilityWord (sound : w.config.Sound) :
    (volatilityWord w).toNat =
      if divergence w.xwapPrice w.prevXwapPrice < 2 ^ 64 then
        divergence w.xwapPrice w.prevXwapPrice
      else w.config.alphaMaxX1000.toNat * 1000 / 3 := by
  have capped := sound.alphaMax
  unfold volatilityWord toU64
  split
  next fits => exact Nat.mod_eq_of_lt fits
  next large =>
    have product : (w.config.alphaMaxX1000 * 1000).toNat = w.config.alphaMaxX1000.toNat * 1000 := by
      rw [UInt64.toNat_mul]
      change (_ * 1000) % 2 ^ 64 = _
      omega
    rw [Option.getD_none, UInt64.toNat_div, product]
    rfl

theorem tripled_iff (sound : w.config.Sound) (priced : 0 < w.prevXwapPrice) :
    (volatilityWord w).toNat * 3 < 2 ^ 64 ↔ RisesModerately w := by
  have capped := sound.alphaMax
  have rise (bound : Nat) (large : 1000 < bound) :=
    @divergence_lt_iff_rise w.xwapPrice _ bound priced large
  unfold RisesModerately
  rw [toNat_volatilityWord sound, ← rise _ (by decide), ← Nat.not_lt, ← rise _ (by decide)]
  split
  next fits => omega
  next large =>
    refine iff_of_true ?_ (.inr large)
    omega

/-! ## The clamp and the boosts -/

theorem toNat_clampedAlpha (sound : w.config.Sound) (tripled : (volatilityWord w).toNat * 3 < 2 ^ 64) :
    (clampedAlpha w).toNat = max w.config.alphaMinX1000.toNat (min w.config.alphaMaxX1000.toNat
      (3 * (1000 * ((w.xwapPrice : Int) - w.prevXwapPrice).natAbs / w.prevXwapPrice))) := by
  have bounds := sound.alphaBounds
  have capped := sound.alphaMax
  have product : (volatilityWord w * 3).toNat = (volatilityWord w).toNat * 3 := by
    rw [UInt64.toNat_mul]
    exact Nat.mod_eq_of_lt tripled
  rw [clampedAlpha, toNat_max, toNat_min, product, toNat_volatilityWord sound, ← divergence_natAbs]
  split
  next fits => rw [max_comm, min_comm, Nat.mul_comm]
  next large =>
    have replaced : w.config.alphaMaxX1000.toNat ≤ w.config.alphaMaxX1000.toNat * 1000 / 3 * 3 := by
      omega
    rw [min_eq_right replaced, max_comm, min_eq_left (by omega)]

theorem toNat_boost {alpha boost alphaMax : UInt64} (capped : alphaMax.toNat ≤ 1000)
    (within : alpha.toNat ≤ alphaMax.toNat) (small : boost.toNat ≤ 500) :
    alpha.toNat + boost.toNat < 2 ^ 64 ∧
      (min (alpha + boost) alphaMax).toNat = min (alpha.toNat + boost.toNat) alphaMax.toNat := by
  have fits : alpha.toNat + boost.toNat < 2 ^ 64 := by omega
  rw [toNat_min, UInt64.toNat_add]
  exact ⟨fits, congrArg (min · _) (Nat.mod_eq_of_lt fits)⟩

theorem toNat_trendAlpha (sound : w.config.Sound) :
    (trendAlpha w).toNat =
      if detectTrend w then
        min ((clampedAlpha w).toNat + w.config.trendBoostX1000.toNat) w.config.alphaMaxX1000.toNat
      else (clampedAlpha w).toNat := by
  unfold trendAlpha
  split
  · exact (toNat_boost sound.alphaMax (sound.clamped _).2 sound.trendBoost).2
  · rfl

theorem trendAlpha_le (sound : w.config.Sound) :
    (trendAlpha w).toNat ≤ w.config.alphaMaxX1000.toNat := by
  rw [toNat_trendAlpha sound]
  split
  · exact Nat.min_le_right _ _
  · exact (sound.clamped _).2

theorem toNat_computeAlpha (sound : w.config.Sound) (counted : 5 ≤ w.updateCount)
    (priced : 0 < w.prevXwapPrice) (tripled : (volatilityWord w).toNat * 3 < 2 ^ 64) :
    (computeAlpha gateOpen w).toNat = alphaFormula gateOpen w := by
  have trend := toNat_trendAlpha sound
  rw [toNat_clampedAlpha sound tripled] at trend
  unfold alphaFormula
  rw [computeAlpha_eq counted priced]
  dsimp only
  rw [← trend]
  split
  · exact (toNat_boost sound.alphaMax (trendAlpha_le sound) sound.gateBoost).2
  · rfl

/-- In every reachable state whose price has a predecessor, the weight is that of the
formula, reached without wrapping, exactly if the price has risen moderately. -/
theorem alpha_exact_iff {start : World} {steps : List Step} (deployed : Deployed start)
    (trace : Trace step (fun _ _ => True) start steps w) (counted : 5 ≤ w.updateCount)
    (priced : 0 < w.prevXwapPrice) (gateOpen : Bool) :
    AlphaExact gateOpen w ↔ RisesModerately w := by
  have sound := run_sound deployed trace
  have inside := (history_run deployed trace).ring.inside
  have capped := sound.alphaMax
  rw [← tripled_iff sound priced]
  constructor
  · intro exact'
    exact exact'.noWrap.tripled
  · intro tripled
    refine ⟨toNat_computeAlpha sound counted priced tripled, ?_⟩
    refine ⟨by omega, tripled, fun _ => ?_, fun _ => ?_, fun i within => ?_⟩
    · exact (toNat_boost capped (sound.clamped _).2 sound.trendBoost).1
    · exact (toNat_boost capped (trendAlpha_le sound) sound.gateBoost).1
    · change i < 8 at within
      change _ + 10 < _ ∧ _ ≤ _ + 10
      omega

namespace Sample

def jumpRun (reserve : Nat) : List Step :=
  [1, 1, 1, 1, reserve].map fun reserve => .updatePrice (oracleCall (.fill 9)) 100 1 reserve

def wrappingReserve : Nat := 122978293824730346

end Sample

theorem alpha_exact_iff_sample :
    ∃ final, Trace step (fun _ _ => True) (init (.fill 2) (.fill 3)) (Sample.jumpRun 3) final ∧
      AlphaExact true final ∧ alphaFormula true final = 550 := by
  obtain ⟨final, trace, counted, priced, moderate, value⟩ := Trace.of_runChecked step
    (fun _ _ => True) (init (.fill 2) (.fill 3)) (Sample.jumpRun 3)
    (fun final => 5 ≤ final.updateCount ∧ 0 < final.prevXwapPrice ∧ RisesModerately final ∧
      alphaFormula true final = 550)
    (by decide +kernel)
  exact ⟨final, trace, (alpha_exact_iff ⟨_, _, rfl⟩ trace counted priced true).mpr moderate, value⟩

/-- After a price that rises by a factor of six times ten to the fifteenth the weight is
134, where the formula gives the greatest weight, 700. -/
theorem alpha_wraps :
    ∃ final, Trace step (fun _ _ => True) (init (.fill 2) (.fill 3))
        (Sample.jumpRun Sample.wrappingReserve) final ∧
      5 ≤ final.updateCount ∧ 0 < final.prevXwapPrice ∧ computeAlpha false final = 134 ∧
      alphaFormula false final = 700 ∧ ¬AlphaExact false final := by
  obtain ⟨final, trace, counted, priced, alpha, formula⟩ := Trace.of_runChecked step
    (fun _ _ => True) (init (.fill 2) (.fill 3)) (Sample.jumpRun Sample.wrappingReserve)
    (fun final => 5 ≤ final.updateCount ∧ 0 < final.prevXwapPrice ∧
      computeAlpha false final = 134 ∧ alphaFormula false final = 700)
    (by decide +kernel)
  refine ⟨final, trace, counted, priced, alpha, formula, ?_⟩
  intro same
  have value := same.value
  rw [alpha, formula] at value
  exact absurd value (by decide)

end XCron.Xwap
