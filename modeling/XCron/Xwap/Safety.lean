import XCron.Xwap.Contract

/-!
# When the oracle calls its price safe

Most of the fresh reports confine their median, the gate confines the price of the
oracle to the surroundings of the median, and the consensus counts keepers that reported
a price close to it. All divisions round down, and what does not fit into a word
counts as the largest one.
-/

namespace XCron.Xwap

open Platform

variable {w : World}

/-! ## Numbers -/

theorem toNat_toU64_getD (value : Nat) :
    ((toU64 value).getD (.ofNat (2 ^ 64 - 1))).toNat = min value (2 ^ 64 - 1) := by
  unfold toU64
  split
  next fits =>
    simp only [Option.getD_some, UInt64.toNat_ofNat']
    omega
  next large =>
    simp only [Option.getD_none, UInt64.toNat_ofNat']
    omega

theorem divergence_eq (value reference : Nat) :
    divergence value reference = ((value : Int) - reference).natAbs * 1000 / reference := by
  unfold divergence
  split
  next above =>
    have distance : ((value : Int) - reference).natAbs = value - reference := by omega
    rw [distance]
  next below =>
    have distance : ((value : Int) - reference).natAbs = reference - value := by omega
    rw [distance]

theorem divergence_lt_iff {value reference limit : Nat} (positive : 0 < reference) :
    divergence value reference < limit ↔
      1000 * ((value : Int) - reference).natAbs < limit * reference := by
  rw [divergence_eq, Nat.div_lt_iff_lt_mul positive, Nat.mul_comm _ 1000]

/-! ## The median -/

theorem median_within {prices : List Nat} {lo hi : Nat}
    (majority : prices.length < 2 * prices.countP (fun price => lo ≤ price ∧ price ≤ hi)) :
    lo ≤ middle (insertionSort prices) ∧ middle (insertionSort prices) ≤ hi := by
  have permuted := insertionSort_perm prices
  have sorted := insertionSort_sorted prices
  rw [← permuted.countP_eq, ← permuted.length_eq] at majority
  generalize insertionSort prices = ordered at sorted majority ⊢
  have within : ∀ position, position < ordered.length →
      ordered.length ≤ 2 * (position + 1) → 2 * position ≤ ordered.length →
      lo ≤ ordered.getD position 0 ∧ ordered.getD position 0 ≤ hi := by
    intro position inside low high
    have found : ordered[position]? = some (ordered.getD position 0) := by
      simp [List.getD, inside]
    constructor
    · refine bound_le_of_countP sorted found (fun price => lo ≤ price ∧ price ≤ hi) ?_ ?_
      · intro price keeps
        exact (of_decide_eq_true keeps).1
      · omega
    · refine le_bound_of_countP sorted found (fun price => lo ≤ price ∧ price ≤ hi) ?_ ?_
      · intro price keeps
        exact (of_decide_eq_true keeps).2
      · omega
  have counted := ordered.countP_le_length (p := fun price => decide (lo ≤ price ∧ price ≤ hi))
  unfold middle
  dsimp only
  split
  next odd => exact within (ordered.length / 2) (by omega) (by omega) (by omega)
  next even =>
    have lower := within (ordered.length / 2 - 1) (by omega) (by omega) (by omega)
    have upper := within (ordered.length / 2) (by omega) (by omega) (by omega)
    omega

/-- The same for the reports that the oracle takes into account. -/
theorem getMedianOffChain_within {block : UInt64} {lo hi : Nat}
    (majority : (w.freshReports block).length <
      2 * (w.freshReports block).countP fun report => lo ≤ report.price ∧ report.price ≤ hi) :
    lo ≤ getMedianOffChain block w ∧ getMedianOffChain block w ≤ hi := by
  have counted := (w.freshReports block).countP_le_length
    (p := fun report => decide (lo ≤ report.price ∧ report.price ≤ hi))
  unfold getMedianOffChain
  dsimp only
  rw [List.length_map, if_neg (by omega)]
  apply median_within
  rw [List.length_map, List.countP_map]
  exact majority

/-! ## The gate -/

/-- An open gate holds the price to the surroundings of the median. -/
theorem gate_near {block : UInt64} {spotPrice : Nat}
    (opened : (checkGateInternal block spotPrice w).1 = true) :
    1000 * ((spotPrice : Int) - getMedianOffChain block w).natAbs <
      w.config.gateThresholdPermille.toNat * getMedianOffChain block w := by
  unfold checkGateInternal at opened
  dsimp only at opened
  split at opened
  next zero => cases opened
  next positive =>
    have below := UInt64.lt_iff_toNat_lt.mp (of_decide_eq_true opened)
    rw [toNat_toU64_getD] at below
    have bounded := w.config.gateThresholdPermille.toNat_lt
    apply (divergence_lt_iff (Nat.pos_of_ne_zero positive)).mp
    omega

/-! ## The consensus -/

def World.nearMedian (block : UInt64) (w : World) (keeper : Address) : Bool :=
  match w.freshReport block keeper with
  | some report =>
      1000 * ((report.price : Int) - getMedianOffChain block w).natAbs <
        51 * getMedianOffChain block w
  | none => false

theorem agrees_iff {report : KeeperReport} {median : Nat} (positive : 0 < median) :
    report.agrees median = true ↔
      1000 * ((report.price : Int) - median).natAbs < 51 * median := by
  rw [← divergence_lt_iff positive, KeeperReport.agrees, decide_eq_true_iff, UInt64.le_iff_toNat_le,
    toNat_toU64_getD]
  change min _ _ ≤ 50 ↔ _
  omega

theorem agreeing_le (median : Nat) (reports : List KeeperReport) (count : UInt64) :
    (reports.foldl (fun agreeing report => if report.agrees median then agreeing + 1 else agreeing)
      count).toNat ≤ count.toNat + reports.countP (KeeperReport.agrees median) := by
  induction reports generalizing count with
  | nil => exact Nat.le_refl _
  | cons report reports inductionHypothesis =>
      rw [List.foldl_cons, List.countP_cons]
      split
      next agrees =>
        have later := inductionHypothesis (count + 1)
        have wrapped : (count + 1).toNat ≤ count.toNat + 1 := by
          rw [UInt64.toNat_add]
          exact Nat.mod_le _ _
        omega
      next differs => exact inductionHypothesis count

theorem countP_agrees {block : UInt64} (positive : 0 < getMedianOffChain block w) :
    (w.freshReports block).countP (KeeperReport.agrees (getMedianOffChain block w)) =
      w.config.registeredKeepers.items.countP (w.nearMedian block) := by
  unfold World.freshReports
  rw [List.countP_filterMap]
  apply List.countP_congr
  intro keeper _
  unfold World.nearMedian
  cases w.freshReport block keeper with
  | none => simp
  | some report => simp [agrees_iff positive]

/-- A consensus is one of the share of all keepers that is asked for. -/
theorem consensus_share {block : UInt64} (consensus : checkConsensus block w = true) :
    w.config.consensusMinPermille.toNat * w.config.registeredKeepers.items.length ≤
      1000 * w.config.registeredKeepers.items.countP (w.nearMedian block) := by
  unfold checkConsensus at consensus
  dsimp only at consensus
  split at consensus
  next zero => cases consensus
  next positive =>
    split at consensus
    next none => cases consensus
    next some =>
      have share := (Nat.le_div_iff_mul_le (Nat.pos_of_ne_zero some)).mp
        (of_decide_eq_true consensus)
      have counted := agreeing_le (getMedianOffChain block w) (w.freshReports block) 0
      rw [countP_agrees (Nat.pos_of_ne_zero positive)] at counted
      refine share.trans ?_
      rw [UInt64.toNat_mul]
      refine (Nat.mod_le _ _).trans ?_
      change _ * 1000 ≤ _
      change _ ≤ 0 + _ at counted
      omega

/-- If the oracle calls its price safe, and most of the fresh reports lie between two
bounds, then so does the price, but for the threshold of the gate. The required share
of the keepers has reported a price near the median. -/
theorem safe_price_bounded {start final : World} {steps : List Step} (deployed : Deployed start)
    (trace : Trace step (fun _ _ => True) start steps final) {block : UInt64}
    (safe : isSafeToExecute block final = true) {lo hi : Nat}
    (majority : (final.freshReports block).length <
      2 * (final.freshReports block).countP fun report => lo ≤ report.price ∧ report.price ≤ hi) :
    final.config.gateThresholdPermille.toNat < 1000 ∧
      (1000 - final.config.gateThresholdPermille.toNat) * lo < 1000 * final.xwapPrice ∧
      1000 * final.xwapPrice < (1000 + final.config.gateThresholdPermille.toNat) * hi ∧
      final.config.consensusMinPermille.toNat * final.config.registeredKeepers.items.length ≤
        1000 * final.config.registeredKeepers.items.countP (final.nearMedian block) := by
  have threshold := (run_sound deployed trace).gateThreshold.2
  have signals : (checkGateInternal block final.xwapPrice final).1 = true ∧
      checkConsensus block final = true := by
    simp only [isSafeToExecute, computeSignals, Bool.and_eq_true] at safe
    exact safe.1
  have near := gate_near signals.1
  obtain ⟨above, below⟩ := getMedianOffChain_within majority
  generalize final.config.gateThresholdPermille.toNat = limit at threshold near ⊢
  generalize getMedianOffChain block final = median at near above below
  refine ⟨threshold, ?_, ?_, consensus_share signals.2⟩
  · have lower : (1000 - limit) * lo ≤ (1000 - limit) * median := Nat.mul_le_mul_left _ above
    have spread : (1000 - limit) * median + limit * median = 1000 * median := by
      rw [← Nat.add_mul, Nat.sub_add_cancel threshold.le]
    omega
  · have upper : (1000 + limit) * median ≤ (1000 + limit) * hi := Nat.mul_le_mul_left _ below
    have spread : (1000 + limit) * median = 1000 * median + limit * median := Nat.add_mul _ _ _
    omega

namespace Sample

def reportRun : List Step :=
  [4, 5, 6, 7, 8].map (fun keeper =>
      .configure (oracleCall (.fill 2)) (.registerKeeper (.fill keeper))) ++
    [.updatePrice (oracleCall (.fill 9)) 100 10 20,
      .reportPrice (oracleCall (.fill 4)) 100 (2 * scale),
      .reportPrice (oracleCall (.fill 5)) 100 (2 * scale + 3),
      .reportPrice (oracleCall (.fill 6)) 101 (9 * scale),
      .reportPrice (oracleCall (.fill 7)) 101 (2 * scale - 7),
      .reportPrice (oracleCall (.fill 8)) 101 (2 * scale + 1)]

end Sample

theorem safe_price_bounded_sample :
    ∃ final, Trace step (fun _ _ => True) (init (.fill 2) (.fill 3)) Sample.reportRun final ∧
      isSafeToExecute 102 final = true ∧ final.config.gateThresholdPermille.toNat = 100 ∧
      900 * (2 * scale - 7) < 1000 * final.xwapPrice ∧
      1000 * final.xwapPrice < 1100 * (2 * scale + 3) := by
  obtain ⟨final, trace, safe, majority, threshold⟩ := Trace.of_runChecked step (fun _ _ => True)
    (init (.fill 2) (.fill 3)) Sample.reportRun
    (fun final => isSafeToExecute 102 final = true ∧
      (final.freshReports 102).length < 2 * (final.freshReports 102).countP (fun report =>
        2 * scale - 7 ≤ report.price ∧ report.price ≤ 2 * scale + 3) ∧
      final.config.gateThresholdPermille.toNat = 100)
    (by decide +kernel)
  obtain ⟨_, above, below, _⟩ :=
    safe_price_bounded ⟨.fill 2, .fill 3, rfl⟩ trace safe majority
  rw [threshold] at above below
  exact ⟨final, trace, safe, threshold, above, below⟩

end XCron.Xwap
