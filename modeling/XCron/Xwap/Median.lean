import XCron.Xwap.Contract

/-!
# The median of the fresh reports

`get_median_off_chain` sorts a vector in place and reads its middle, every time by index.
No index leaves the vector, and what is read is the median of the multiset of the prices,
so the order in which the set lists its keepers does not matter.
-/

namespace XCron.Xwap

open Platform

/-! ## The loop with its indices -/

def indexOutOfRange : Fault := .signal "ManagedVec index out of range"

def vecGet (prices : List Nat) (index : Nat) : Outcome Nat :=
  match prices[index]? with
  | some price => .ok price
  | none => .error indexOutOfRange

section Sorting

variable (failed : List Nat → Outcome (List Nat))

def vecSet (prices : List Nat) (index price : Nat) : Outcome (List Nat) :=
  if index < prices.length then .ok (prices.set index price) else failed prices

def sinkPrice : Nat → List Nat → Outcome (List Nat)
  | 0, prices => pure prices
  | j + 1, prices => do
      let pPrev ← vecGet prices j
      let pCur ← vecGet prices (j + 1)
      if pCur < pPrev then
        let prices ← vecSet failed prices j pCur
        let prices ← vecSet failed prices (j + 1) pPrev
        sinkPrice j prices
      else pure prices

def sortPrices (prices : List Nat) : Outcome (List Nat) :=
  (List.range' 1 (prices.length - 1)).foldlM (fun prices i => sinkPrice failed i prices) prices

/-- The index before another one. From zero the subtraction wraps to one that is never in range. -/
def indexBefore : Nat → Outcome Nat
  | 0 => .error indexOutOfRange
  | index + 1 => .ok index

/-- `get_median_off_chain` with every access to its vector. -/
def medianByIndex (block : UInt64) (w : World) : Outcome Nat := do
  let prices := (w.freshReports block).map KeeperReport.price
  let n := prices.length
  if n = 0 then pure 0
  else
    let prices ← sortPrices failed prices
    let mid := n / 2
    if n % 2 = 1 then vecGet prices mid
    else
      let beforeMid ← indexBefore mid
      let a ← vecGet prices beforeMid
      let b ← vecGet prices mid
      pure ((a + b) / 2)

end Sorting

/-! ## All indices are in range -/

theorem getElem?_of_lt {prices : List Nat} {index : Nat} (within : index < prices.length) :
    prices[index]? = some (prices.getD index 0) := by
  simp [List.getElem?_eq_getElem within, List.getD_eq_getElem?_getD]

theorem vecGet_of_lt {prices : List Nat} {index : Nat} (within : index < prices.length) :
    vecGet prices index = .ok (prices.getD index 0) := by
  rw [vecGet, getElem?_of_lt within]

variable (failed : List Nat → Outcome (List Nat))

theorem vecSet_of_lt {prices : List Nat} {index : Nat} (within : index < prices.length)
    (price : Nat) : vecSet failed prices index price = .ok (prices.set index price) :=
  if_pos within

/-- Below the end of the vector the inner loop exchanges prices and never leaves it. -/
theorem sinkPrice_eq {j : Nat} {prices : List Nat} (within : j < prices.length) :
    sinkPrice failed j prices = .ok (sink j prices) := by
  induction j generalizing prices with
  | zero => rfl
  | succ j inductionHypothesis =>
      have before : j < prices.length := Nat.lt_of_succ_lt within
      rw [sinkPrice, sink, vecGet_of_lt before, vecGet_of_lt within, getElem?_of_lt before,
        getElem?_of_lt within]
      dsimp only [Bind.bind, Except.bind]
      split
      · rw [vecSet_of_lt failed before]
        dsimp only
        rw [vecSet_of_lt failed (by rwa [List.length_set])]
        exact inductionHypothesis (by rwa [List.length_set, List.length_set])
      · rfl

theorem foldlM_sinkPrice {positions : List Nat} {prices : List Nat}
    (within : ∀ i ∈ positions, i < prices.length) :
    positions.foldlM (fun prices i => sinkPrice failed i prices) prices =
      .ok (positions.foldl (fun prices i => sink i prices) prices) := by
  induction positions generalizing prices with
  | nil => rfl
  | cons i positions inductionHypothesis =>
      obtain ⟨first, rest⟩ := List.forall_mem_cons.mp within
      rw [List.foldlM_cons, List.foldl_cons, sinkPrice_eq failed first]
      apply inductionHypothesis
      rwa [length_sink]

theorem sortPrices_eq (prices : List Nat) :
    sortPrices failed prices = .ok (insertionSort prices) := by
  apply foldlM_sinkPrice
  intro i member
  rw [List.mem_range'_1] at member
  omega

theorem medianByIndex_eq (block : UInt64) (w : World) :
    medianByIndex failed block w = .ok (getMedianOffChain block w) := by
  unfold medianByIndex getMedianOffChain
  generalize (w.freshReports block).map KeeperReport.price = prices
  dsimp only
  split
  next empty => rfl
  next some =>
    have length : (insertionSort prices).length = prices.length :=
      (insertionSort_perm prices).length_eq
    have mid : prices.length / 2 < (insertionSort prices).length := by
      omega
    rw [sortPrices_eq, middle, length]
    dsimp only [Bind.bind, Except.bind]
    split
    next odd => exact vecGet_of_lt mid
    next even =>
      obtain ⟨before, position⟩ := Nat.exists_eq_succ_of_ne_zero
        (show prices.length / 2 ≠ 0 by omega)
      have beforeMid : before < (insertionSort prices).length := by
        omega
      rw [position] at mid ⊢
      rw [indexBefore]
      dsimp only
      rw [vecGet_of_lt beforeMid, vecGet_of_lt mid]
      rfl

/-! ## The median -/

def World.freshPrices (block : UInt64) (w : World) (keepers : Finset Address) : Multiset Nat :=
  keepers.val.filterMap fun keeper => (w.freshReport block keeper).map KeeperReport.price

theorem freshPrices_eq (block : UInt64) (w : World) :
    w.freshPrices block w.config.registeredKeepers.members =
      ((w.freshReports block).map KeeperReport.price : List Nat) := by
  unfold World.freshReports
  rw [List.map_filterMap]
  rfl

theorem freshPrices_eq_zero {block : UInt64} {w : World} {keepers : Finset Address}
    (stale : ∀ keeper ∈ keepers, w.freshReport block keeper = none) :
    w.freshPrices block keepers = 0 := by
  rw [Multiset.eq_zero_iff_forall_notMem]
  intro price member
  obtain ⟨keeper, present, found⟩ := (Multiset.mem_filterMap _ _).mp member
  rw [stale keeper present] at found
  cases found

theorem middle_insertionSort (prices : List Nat) :
    middle (insertionSort prices) = median prices := by
  rw [middle, median, (insertionSort_perm prices).length_eq, insertionSort_eq_sort]
  rfl

/-- `get_median_off_chain` depends on the set of the keepers, not on its order. -/
theorem getMedianOffChain_eq (block : UInt64) (w : World) :
    getMedianOffChain block w =
      median (w.freshPrices block w.config.registeredKeepers.members) := by
  rw [freshPrices_eq, getMedianOffChain]
  split
  next empty =>
    rw [List.length_eq_zero_iff.mp empty]
    exact median_zero.symm
  next some => exact middle_insertionSort _

/-! ## Other orders and other keepers -/

def World.withKeepers (keepers : UnorderedSet Address) (w : World) : World :=
  { w with config := { w.config with registeredKeepers := keepers } }

theorem getMedianOffChain_withKeepers (block : UInt64) (keepers : UnorderedSet Address)
    (w : World) : getMedianOffChain block (w.withKeepers keepers) =
      median (w.freshPrices block keepers.members) :=
  getMedianOffChain_eq block (w.withKeepers keepers)

section Reordered

variable {block : UInt64} {w : World} {keepers : UnorderedSet Address}

theorem getMedianOffChain_reordered
    (permuted : keepers.items.Perm w.config.registeredKeepers.items) :
    getMedianOffChain block (w.withKeepers keepers) = getMedianOffChain block w := by
  rw [getMedianOffChain_withKeepers, UnorderedSet.members_eq_of_perm permuted]
  exact (getMedianOffChain_eq block w).symm

theorem checkConsensus_reordered
    (permuted : keepers.items.Perm w.config.registeredKeepers.items) :
    checkConsensus block (w.withKeepers keepers) = checkConsensus block w := by
  have reports : ((w.withKeepers keepers).freshReports block).Perm (w.freshReports block) :=
    permuted.filterMap _
  have counted := reports.foldl_eq'
    (f := fun agreeing report =>
      if report.agrees (getMedianOffChain block w) then agreeing + 1 else agreeing)
    (fun first _ second _ agreeing => by split <;> split <;> rfl) (0 : UInt64)
  have total : (w.withKeepers keepers).config.registeredKeepers.items.length =
      w.config.registeredKeepers.items.length := permuted.length_eq
  rw [checkConsensus, checkConsensus, getMedianOffChain_reordered permuted, total]
  dsimp only
  rw [counted]
  rfl

/-- Gate, consensus and freshness agree on the keepers, whatever order they stand in. -/
theorem computeSignals_reordered
    (permuted : keepers.items.Perm w.config.registeredKeepers.items) :
    computeSignals block (w.withKeepers keepers) = computeSignals block w := by
  have gate (spotPrice : Nat) : checkGateInternal block spotPrice (w.withKeepers keepers) =
      checkGateInternal block spotPrice w := by
    rw [checkGateInternal, checkGateInternal, getMedianOffChain_reordered permuted]
    rfl
  have fresh (maxAge : UInt64) : checkFreshnessInternal block maxAge (w.withKeepers keepers) =
      checkFreshnessInternal block maxAge w :=
    permuted.any_eq
  rw [computeSignals, computeSignals, gate, fresh, checkConsensus_reordered permuted]
  rfl

end Reordered

/-- Registering or removing a keeper changes the set, and with it the multiset of prices;
the place that the keeper takes or leaves in the list is irrelevant. -/
theorem configure_keeper_median {call : CallContext} {w next : World} (block : UInt64)
    (keeper : Address) :
    (configure call (.registerKeeper keeper) w = .ok next → getMedianOffChain block next =
        median (w.freshPrices block (insert keeper w.config.registeredKeepers.members))) ∧
      (configure call (.removeKeeper keeper) w = .ok next → getMedianOffChain block next =
        median (w.freshPrices block (w.config.registeredKeepers.members.erase keeper))) := by
  constructor
  · intro registered
    simp only [configure, Config.apply, Outcome.bind_eq_ok, Outcome.pure_eq_ok] at registered
    obtain ⟨_, _, _, rfl, rfl⟩ := registered
    rw [← UnorderedSet.members_insert]
    exact getMedianOffChain_withKeepers block _ w
  · intro removed
    simp only [configure, Config.apply, Outcome.bind_eq_ok, Outcome.pure_eq_ok] at removed
    obtain ⟨_, _, _, rfl, rfl⟩ := removed
    rw [← UnorderedSet.members_swapRemove]
    exact getMedianOffChain_withKeepers block _ w

/-- The sort stays within its vector and ends with the prices in ascending order, and the
result is the median of the fresh prices, or zero if there are none. It depends on which
keepers are registered, not on the order of their list. -/
theorem median_of_fresh_reports (failed : List Nat → Outcome (List Nat)) (block : UInt64)
    (w : World) :
    (∃ sorted, sortPrices failed ((w.freshReports block).map KeeperReport.price) = .ok sorted ∧
        sorted.Pairwise (· ≤ ·) ∧ sorted.Perm ((w.freshReports block).map KeeperReport.price)) ∧
      medianByIndex failed block w = .ok (getMedianOffChain block w) ∧
      getMedianOffChain block w =
        median (w.freshPrices block w.config.registeredKeepers.members) ∧
      ((∀ keeper ∈ w.config.registeredKeepers.members, w.freshReport block keeper = none) →
        getMedianOffChain block w = 0) ∧
      (∀ keepers : UnorderedSet Address, keepers.items.Perm w.config.registeredKeepers.items →
        getMedianOffChain block (w.withKeepers keepers) = getMedianOffChain block w) ∧
      ∀ call keeper next,
        (configure call (.registerKeeper keeper) w = .ok next → getMedianOffChain block next =
          median (w.freshPrices block (insert keeper w.config.registeredKeepers.members))) ∧
        (configure call (.removeKeeper keeper) w = .ok next → getMedianOffChain block next =
          median (w.freshPrices block (w.config.registeredKeepers.members.erase keeper))) := by
  refine ⟨⟨_, sortPrices_eq failed _, insertionSort_sorted _, insertionSort_perm _⟩,
    medianByIndex_eq failed block w, getMedianOffChain_eq block w, ?_,
    fun _ => getMedianOffChain_reordered, fun _ keeper _ => configure_keeper_median block keeper⟩
  intro stale
  rw [getMedianOffChain_eq, freshPrices_eq_zero stale, median_zero]

namespace Sample

def quotedOracle : World :=
  { (init (.fill 2) (.fill 3)).withKeepers ⟨[.fill 4, .fill 5, .fill 6, .fill 7], by decide⟩ with
    keeperReport := (((Cells.empty.set (.fill 4) ⟨30, 100⟩).set (.fill 5) ⟨10, 101⟩).set
      (.fill 6) ⟨90, 80⟩).set (.fill 7) ⟨21, 101⟩ }

def reshuffled : UnorderedSet Address := ⟨[.fill 4, .fill 7, .fill 6, .fill 5], by decide⟩

def bereftOracle : World :=
  (quotedOracle.withKeepers ⟨[.fill 7, .fill 5, .fill 6], by decide⟩).emit
    (.keeperRegistryUpdated (.fill 4) false)

end Sample

theorem median_of_fresh_reports_sample :
    medianByIndex pure 101 Sample.quotedOracle = .ok 21 ∧
      getMedianOffChain 200 Sample.quotedOracle = 0 ∧
      getMedianOffChain 101 (Sample.quotedOracle.withKeepers Sample.reshuffled) = 21 ∧
      median (Sample.quotedOracle.freshPrices 101
        (Sample.quotedOracle.config.registeredKeepers.members.erase (.fill 4))) = 15 := by
  have value : getMedianOffChain 101 Sample.quotedOracle = 21 := by decide
  obtain ⟨_, byIndex, _, _, reordered, configured⟩ :=
    median_of_fresh_reports pure 101 Sample.quotedOracle
  obtain ⟨_, _, _, stale, _⟩ := median_of_fresh_reports pure 200 Sample.quotedOracle
  have removed : configure (Sample.oracleCall (.fill 2)) (.removeKeeper (.fill 4))
      Sample.quotedOracle = .ok Sample.bereftOracle := rfl
  refine ⟨by rw [byIndex, value], stale (by decide), ?_, ?_⟩
  · rw [reordered Sample.reshuffled (by decide), value]
  · rw [← (configured _ _ _).2 removed]
    decide

theorem computeSignals_reordered_sample :
    computeSignals 101 (Sample.quotedOracle.withKeepers Sample.reshuffled) =
      computeSignals 101 Sample.quotedOracle :=
  computeSignals_reordered (by decide)

end XCron.Xwap
