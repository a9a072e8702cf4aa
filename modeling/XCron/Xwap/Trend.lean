import XCron.Platform.Ring
import XCron.Xwap.Contract

/-!
# The trend of the latest prices

Ten cells keep the latest prices, and a trend is what the last eight moves agree on.
Eight moves are between nine prices, but detection starts with the eighth.
-/

namespace XCron.Xwap

open Platform

variable {w next : World} {move : Step} {prices : List Nat}

/-! ## The prices of a run -/

def Step.recorded : Step → World → List Nat
  | .updatePrice _ _ _ _, next => [next.xwapPrice]
  | _, _ => []

def pricesAlong (start : World) (steps : List Step) : List Nat :=
  outputsAlong step Step.recorded start steps

def moves (recent : List Nat) : List (Nat × Nat) := recent.zip recent.tail

/-- Of the moves between these prices, newest first, nearly all go the same way. -/
def Trending (recent : List Nat) : Prop :=
  trendThreshold ≤ (moves recent).countP (fun ⟨newer, older⟩ => older < newer) ∨
    trendThreshold ≤ (moves recent).countP (fun ⟨newer, older⟩ => newer < older)

instance (recent : List Nat) : Decidable (Trending recent) := inferInstanceAs (Decidable (_ ∨ _))

def lastNine (prices : List Nat) : List Nat := prices.reverse.take 9

/-- The cell that `detect_trend` reads for the price `back` places back. -/
def trendSlot (w : World) (back : Nat) : UInt64 :=
  (w.priceHistoryIdx + historyLen - .ofNat back) % historyLen

/-! ## The ring -/

/-- What the history holds once these prices were recorded. -/
structure History (prices : List Nat) (w : World) : Prop where
  ring : RingHolds 10 (fun position => w.priceHistory.get? (.ofNat position))
    w.priceHistoryIdx.toNat prices.reverse
  count : w.updateCount.toNat = prices.length % 2 ^ 64

theorem updatePrice_recorded {block : UInt64} {rawReserveA rawReserveB : Nat}
    (updated : updatePrice block rawReserveA rawReserveB w = .ok next) :
    next.priceHistory = w.priceHistory.set w.priceHistoryIdx next.xwapPrice ∧
      next.priceHistoryIdx = (w.priceHistoryIdx + 1) % historyLen ∧
      next.updateCount = w.updateCount + 1 := by
  simp only [updatePrice, Outcome.bind_eq_ok, Outcome.require_eq_ok, bigUintDiv_eq_ok,
    Outcome.pure_eq_ok] at updated
  obtain ⟨_, _, _, _, _, _, _, _, newXwap, _, rfl⟩ := updated
  split <;> exact ⟨rfl, rfl, rfl⟩

theorem History.record (history : History prices w) {block : UInt64}
    {rawReserveA rawReserveB : Nat}
    (updated : updatePrice block rawReserveA rawReserveB w = .ok next) :
    History (prices ++ [next.xwapPrice]) next := by
  obtain ⟨cells, index, counted⟩ := updatePrice_recorded updated
  have inside := history.ring.inside
  constructor
  · rw [List.reverse_append, index]
    have moved : ((w.priceHistoryIdx + 1) % historyLen).toNat =
        (w.priceHistoryIdx.toNat + 1) % 10 := by
      rw [UInt64.toNat_mod, UInt64.toNat_add]
      change (w.priceHistoryIdx.toNat + 1) % 2 ^ 64 % 10 = _
      omega
    rw [moved]
    refine (history.ring.write next.xwapPrice).agree ?_
    intro position within
    have back : (UInt64.ofNat position).toNat = position :=
      Nat.mod_eq_of_lt (Nat.lt_trans within (by decide))
    rw [cells, Cells.get?_set, Function.update_apply]
    by_cases here : position = w.priceHistoryIdx.toNat
    · rw [if_pos here, if_pos]
      rw [here, UInt64.ofNat_toNat]
    · rw [if_neg here, if_neg]
      rintro same
      rw [← same, back] at here
      exact here rfl
  · rw [counted, UInt64.toNat_add, history.count, List.length_append]
    change (_ + 1) % 2 ^ 64 = (_ + 1) % 2 ^ 64
    omega

theorem History.step (history : History prices w) (stepped : Xwap.step w move = .ok next) :
    History (prices ++ move.recorded next) next := by
  cases move with
  | updatePrice call block rawReserveA rawReserveB =>
      simp only [Xwap.step, Outcome.bind_eq_ok] at stepped
      obtain ⟨_, _, updated⟩ := stepped
      exact history.record updated
  | reportPrice call block price =>
      simp only [Xwap.step, reportPrice, Outcome.bind_eq_ok, Outcome.pure_eq_ok] at stepped
      obtain ⟨_, _, _, _, _, _, rfl⟩ := stepped
      change History (prices ++ []) _
      rw [List.append_nil]
      exact ⟨history.ring, history.count⟩
  | configure call change =>
      simp only [Xwap.step, configure, Outcome.bind_eq_ok, Outcome.pure_eq_ok] at stepped
      obtain ⟨_, _, _, _, _, _, rfl⟩ := stepped
      change History (prices ++ []) _
      rw [List.append_nil]
      exact ⟨history.ring, history.count⟩
  | upgrade =>
      simp only [Xwap.step, Outcome.pure_eq_ok] at stepped
      subst stepped
      change History (prices ++ []) _
      rw [List.append_nil]
      exact history

theorem history_run {start : World} {steps : List Step} (deployed : Deployed start)
    (trace : Trace Xwap.step (fun _ _ => True) start steps w) :
    History (pricesAlong start steps) w := by
  have fresh : History [] start := by
    obtain ⟨_, _, rfl⟩ := deployed
    exact ⟨.empty (show 0 < 10 by decide) (fun _ => Cells.get?_empty _), rfl⟩
  have history := trace.outputs Step.recorded History
    (fun _ _ _ _ history stepped => history.step stepped) fresh
  rwa [List.nil_append] at history

theorem History.read (history : History prices w) {back : Nat} (within : back < 10) :
    w.priceHistory.get? (trendSlot w (back + 1)) = prices.reverse[back]? := by
  have inside := history.ring.inside
  have slot : (trendSlot w (back + 1)).toNat = ringCell 10 w.priceHistoryIdx.toNat (back + 1) := by
    have small : (UInt64.ofNat (back + 1)).toNat = back + 1 :=
      Nat.mod_eq_of_lt (Nat.lt_trans (Nat.succ_lt_succ within) (by decide))
    have sum : (w.priceHistoryIdx + historyLen).toNat = w.priceHistoryIdx.toNat + 10 := by
      rw [UInt64.toNat_add]
      change (_ + 10) % 2 ^ 64 = _
      omega
    rw [trendSlot, UInt64.toNat_mod, UInt64.toNat_sub_of_le _ _ ?_, sum, small]
    · rfl
    · rw [UInt64.le_iff_toNat_le, sum, small]
      omega
  have holds := history.ring.holds back within
  rw [← slot, UInt64.ofNat_toNat] at holds
  exact holds

/-! ## The window -/

theorem countP_moves (test : Nat × Nat → Bool) (size : Nat) {recent : List Nat}
    (long : size < recent.length) :
    (List.range size).countP (fun i => test (recent[i]?.getD 0, recent[i + 1]?.getD 0)) =
      (moves (recent.take (size + 1))).countP test := by
  induction size generalizing recent with
  | zero =>
      cases recent with
      | nil => rfl
      | cons newest older => simp [moves]
  | succ size inductionHypothesis =>
      match recent, long with
      | newest :: second :: older, long =>
          have rest := @inductionHypothesis (second :: older) (Nat.lt_of_succ_lt_succ long)
          have window : moves ((newest :: second :: older).take (size + 2)) =
              (newest, second) :: moves ((second :: older).take (size + 1)) := rfl
          rw [window, List.countP_cons, ← rest, List.range_succ_eq_map, List.countP_cons,
            List.countP_map]
          rfl

/-- What `detect_trend` promises: a trend of the last nine prices, read from cells that
hold them. -/
structure TrendExact (prices : List Nat) (w : World) : Prop where
  detected : detectTrend w = true ↔ 9 ≤ prices.length ∧ Trending (lastNine prices)
  reads : trendMinHistory ≤ w.updateCount → ∀ i, i < trendWindow → ∃ newer older,
    w.priceHistory.get? (trendSlot w (i + 1)) = some newer ∧
      w.priceHistory.get? (trendSlot w (i + 2)) = some older ∧
      prices.reverse[i]? = some newer ∧ prices.reverse[i + 1]? = some older

theorem History.amount (history : History prices w) {back : Nat} (within : back < 10) :
    w.priceHistory.amount (trendSlot w (back + 1)) = prices.reverse[back]?.getD 0 := by
  rw [Cells.amount, history.read within]

/-- With nine prices recorded, the comparisons are the moves between them. -/
theorem History.comparisons (history : History prices w) (enough : 9 ≤ prices.length)
    (test : Nat × Nat → Bool) :
    (List.range trendWindow).countP (fun i => test
        (w.priceHistory.amount (trendSlot w (i + 1)), w.priceHistory.amount (trendSlot w (i + 2)))) =
      (moves (lastNine prices)).countP test := by
  have long : trendWindow < prices.reverse.length := by
    rw [List.length_reverse]
    exact enough
  refine Eq.trans ?_ (countP_moves test trendWindow long)
  apply List.countP_congr
  intro i member
  have within : i < 8 := List.mem_range.mp member
  rw [history.amount (by omega), history.amount (by omega)]

theorem History.detects (history : History prices w) (enough : 9 ≤ prices.length)
    (active : trendMinHistory ≤ w.updateCount) :
    detectTrend w = true ↔ Trending (lastNine prices) := by
  unfold detectTrend Trending
  rw [if_neg (UInt64.not_lt.mpr active), Bool.or_eq_true, decide_eq_true_eq, decide_eq_true_eq,
    ← history.comparisons enough, ← history.comparisons enough]
  rfl

/-- The number of prices tells whether the window is full: it is not eight, and the
counter has not wrapped around to less while there is a trend. -/
def CountsWindow (prices : List Nat) : Prop :=
  prices.length ≠ 8 ∧
    (9 ≤ prices.length → prices.length % 2 ^ 64 < 8 → ¬Trending (lastNine prices))

/-- After every run the trend is detected from nine prices that were recorded exactly if
the number of prices tells whether there are as many. -/
theorem trend_exact_iff {start : World} {steps : List Step} (deployed : Deployed start)
    (trace : Trace step (fun _ _ => True) start steps w) :
    TrendExact (pricesAlong start steps) w ↔ CountsWindow (pricesAlong start steps) := by
  have history := history_run deployed trace
  generalize pricesAlong start steps = prices at history
  have counted := history.count
  have active : trendMinHistory ≤ w.updateCount ↔ 8 ≤ prices.length % 2 ^ 64 := by
    rw [UInt64.le_iff_toNat_le, counted]
    rfl
  have inactive (few : prices.length % 2 ^ 64 < 8) : detectTrend w = false := by
    unfold detectTrend
    rw [if_pos]
    rw [← UInt64.not_le, active]
    omega
  constructor
  · rintro ⟨detected, reads⟩
    refine ⟨?_, ?_⟩
    · intro eight
      obtain ⟨_, _, _, _, _, ninth⟩ := reads (active.mpr (by omega)) 7 (by decide)
      rw [List.getElem?_eq_none (by rw [List.length_reverse]; omega)] at ninth
      cases ninth
    · intro enough few trending
      rw [inactive few] at detected
      exact absurd (detected.mpr ⟨enough, trending⟩) (by decide)
  · rintro ⟨notEight, wrapped⟩
    by_cases few : prices.length % 2 ^ 64 < 8
    · refine ⟨?_, fun running => absurd (active.mp running) (by omega)⟩
      rw [inactive few]
      exact iff_of_false (by decide) fun ⟨enough, trending⟩ => wrapped enough few trending
    · have enough : 9 ≤ prices.length := by omega
      have running := active.mpr (by omega)
      refine ⟨?_, ?_⟩
      · rw [history.detects enough running]
        exact (and_iff_right enough).symm
      · intro _ i within
        have bound : i < 8 := within
        rw [history.read (show i < 10 by omega), history.read (show i + 1 < 10 by omega)]
        have newer : i < prices.reverse.length := by rw [List.length_reverse]; omega
        have older : i + 1 < prices.reverse.length := by rw [List.length_reverse]; omega
        exact ⟨_, _, List.getElem?_eq_getElem newer, List.getElem?_eq_getElem older,
          List.getElem?_eq_getElem newer, List.getElem?_eq_getElem older⟩

namespace Sample

def risingRun (length : Nat) : List Step :=
  (List.range length).map fun i => .updatePrice (oracleCall (.fill 9)) 100 10 (100 * (i + 1))

end Sample

theorem trend_exact_iff_sample :
    ∃ final, Trace step (fun _ _ => True) (init (.fill 2) (.fill 3)) (Sample.risingRun 9) final ∧
      detectTrend final = true ∧
      TrendExact (pricesAlong (init (.fill 2) (.fill 3)) (Sample.risingRun 9)) final := by
  obtain ⟨final, trace, trend⟩ := Trace.of_runChecked step (fun _ _ => True)
    (init (.fill 2) (.fill 3)) (Sample.risingRun 9) (fun final => detectTrend final = true)
    (by decide +kernel)
  have counts : CountsWindow (pricesAlong (init (.fill 2) (.fill 3)) (Sample.risingRun 9)) := by
    have nine : (pricesAlong (init (.fill 2) (.fill 3)) (Sample.risingRun 9)).length = 9 := by
      decide +kernel
    refine ⟨by omega, fun _ few => absurd few (by omega)⟩
  exact ⟨final, trace, trend, (trend_exact_iff ⟨_, _, rfl⟩ trace).mpr counts⟩

/-- Eight rising prices are a trend, the first one having risen from an empty cell. -/
theorem trend_of_eight_prices :
    ∃ final, Trace step (fun _ _ => True) (init (.fill 2) (.fill 3)) (Sample.risingRun 8) final ∧
      detectTrend final = true ∧ final.priceHistory.get? (trendSlot final 9) = none ∧
      (pricesAlong (init (.fill 2) (.fill 3)) (Sample.risingRun 8)).length = 8 ∧
      ¬TrendExact (pricesAlong (init (.fill 2) (.fill 3)) (Sample.risingRun 8)) final := by
  obtain ⟨final, trace, trend, unwritten⟩ := Trace.of_runChecked step (fun _ _ => True)
    (init (.fill 2) (.fill 3)) (Sample.risingRun 8)
    (fun final => detectTrend final = true ∧ final.priceHistory.get? (trendSlot final 9) = none)
    (by decide +kernel)
  have eight : (pricesAlong (init (.fill 2) (.fill 3)) (Sample.risingRun 8)).length = 8 := by
    decide +kernel
  refine ⟨final, trace, trend, unwritten, eight, ?_⟩
  intro tracked
  have enough := (tracked.detected.mp trend).1
  omega

end XCron.Xwap
