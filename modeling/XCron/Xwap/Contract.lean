import XCron.Common.Types
import XCron.Platform.Call
import XCron.Platform.Cells
import XCron.Platform.Median
import XCron.Platform.Trace
import XCron.Platform.UnorderedSet

/-!
# The price oracle

`xwap/src`: the reserves of a pool are averaged into a price, keepers report prices from
elsewhere, and the oracle calls its price safe while it is close to the median of the
fresh reports and enough keepers agree with that median. `u64` arithmetic wraps.
-/

namespace XCron.Xwap

open Platform

/-! ## Storage -/

structure KeeperReport where
  price : Nat
  block : UInt64
  deriving DecidableEq

structure XwapSignals where
  gateOpen : Bool
  consensusOk : Bool
  freshnessOk : Bool
  stabilityPermille : UInt64
  safe : Bool

structure Config where
  gateThresholdPermille : UInt64
  alphaMinX1000 : UInt64
  alphaMaxX1000 : UInt64
  trendBoostX1000 : UInt64
  gateBoostX1000 : UInt64
  freshnessBlocks : UInt64
  consensusMinPermille : UInt64
  poolAddress : Address
  ownerAddress : Address
  registeredKeepers : UnorderedSet Address

inductive Event where
  | priceUpdated (xwapPrice : Nat) (alphaX1000 : UInt64) (gateOpen : Bool) (block : UInt64)
  | gateClosed (poolSpot medianOffChain : Nat) (divergencePermille : UInt64)
  | keeperReported (keeper : Address) (price : Nat) (block : UInt64)
  | keeperRegistryUpdated (keeper : Address) (registered : Bool)

structure World where
  config : Config
  ewmaReserveA : Nat
  ewmaReserveB : Nat
  xwapPrice : Nat
  prevXwapPrice : Nat
  alphaX1000 : UInt64
  priceHistory : Cells UInt64 Nat
  priceHistoryIdx : UInt64
  updateCount : UInt64
  keeperReport : Cells Address KeeperReport
  events : List Event

def World.emit (event : Event) (w : World) : World := { w with events := w.events ++ [event] }

/-! ## Numbers -/

def toU64 (value : Nat) : Option UInt64 := if value < 2 ^ 64 then some (.ofNat value) else none

def saturatingSub (minuend subtrahend : UInt64) : UInt64 :=
  if subtrahend ≤ minuend then minuend - subtrahend else 0

/-- How far a value is from a reference that is not zero, in thousandths of it. -/
def divergence (value reference : Nat) : Nat :=
  if reference < value then (value - reference) * 1000 / reference
  else (reference - value) * 1000 / reference

/-! ## Keepers -/

/-- Reports within 5% of the median count as agreeing. -/
def consensusTolerancePermille : UInt64 := 50

def reportPrice (call : CallContext) (block : UInt64) (price : Nat) (w : World) :
    Outcome World := do
  require (call.caller ∈ w.config.registeredKeepers.items) "caller is not a registered keeper"
  require (0 < price) "price cannot be zero"
  pure ({ w with keeperReport := w.keeperReport.set call.caller ⟨price, block⟩ }.emit
    (.keeperReported call.caller price block))

def World.freshReport (block : UInt64) (w : World) (keeper : Address) : Option KeeperReport :=
  match w.keeperReport.get? keeper with
  | some report =>
      if saturatingSub block report.block ≤ w.config.freshnessBlocks then some report else none
  | none => none

def World.freshReports (block : UInt64) (w : World) : List KeeperReport :=
  w.config.registeredKeepers.items.filterMap (w.freshReport block)

def middle (prices : List Nat) : Nat :=
  let mid := prices.length / 2
  if prices.length % 2 = 1 then prices.getD mid 0
  else (prices.getD (mid - 1) 0 + prices.getD mid 0) / 2

def getMedianOffChain (block : UInt64) (w : World) : Nat :=
  let prices := (w.freshReports block).map KeeperReport.price
  if prices.length = 0 then 0 else middle (insertionSort prices)

/-- Whether the price of a report is close to the median. -/
def KeeperReport.agrees (median : Nat) (report : KeeperReport) : Bool :=
  (toU64 (divergence report.price median)).getD (.ofNat (2 ^ 64 - 1)) ≤ consensusTolerancePermille

/-- `check_consensus`. The number of keepers is a `usize`, which the cast to `u64` keeps. -/
def checkConsensus (block : UInt64) (w : World) : Bool :=
  let median := getMedianOffChain block w
  if median = 0 then false
  else
    let total := w.config.registeredKeepers.items.length
    if total = 0 then false
    else
      let agreeing := (w.freshReports block).foldl
        (fun agreeing report => if report.agrees median then agreeing + 1 else agreeing) (0 : UInt64)
      w.config.consensusMinPermille.toNat ≤ (agreeing * 1000).toNat / total

/-! ## The average of the reserves -/

def alphaScale : UInt64 := 1000

def scale : Nat := 10 ^ 18

def historyLen : UInt64 := 10

def trendMinHistory : UInt64 := 8
def trendWindow : Nat := 8
def trendThreshold : Nat := 7

def checkGateInternal (block : UInt64) (spotPrice : Nat) (w : World) : Bool × UInt64 :=
  let median := getMedianOffChain block w
  if median = 0 then (false, .ofNat (2 ^ 64 - 1))
  else
    let divergencePermille := (toU64 (divergence spotPrice median)).getD (.ofNat (2 ^ 64 - 1))
    (divergencePermille < w.config.gateThresholdPermille, divergencePermille)

def detectTrend (w : World) : Bool :=
  if w.updateCount < trendMinHistory then false
  else
    let price (back : Nat) : Nat := w.priceHistory.amount
      ((w.priceHistoryIdx + historyLen - .ofNat back) % historyLen)
    let up := (List.range trendWindow).countP fun i => price (i + 2) < price (i + 1)
    let down := (List.range trendWindow).countP fun i => price (i + 1) < price (i + 2)
    trendThreshold ≤ up || trendThreshold ≤ down

def computeAlpha (gateOpen : Bool) (w : World) : UInt64 :=
  let alphaMin := w.config.alphaMinX1000
  let alphaMax := w.config.alphaMaxX1000
  if w.updateCount < 5 then alphaMin
  else if w.prevXwapPrice = 0 then alphaMin
  else
    let vol := (toU64 (divergence w.xwapPrice w.prevXwapPrice)).getD (alphaMax * 1000 / 3)
    let alpha := max (min (vol * 3) alphaMax) alphaMin
    let alpha := if detectTrend w then min (alpha + w.config.trendBoostX1000) alphaMax else alpha
    if gateOpen then min (alpha + w.config.gateBoostX1000) alphaMax else alpha

def blend (alphaX1000 : UInt64) (reserve ewma : Nat) : Nat :=
  if ewma = 0 then reserve
  else (alphaX1000.toNat * reserve + (alphaScale - alphaX1000).toNat * ewma) / alphaScale.toNat

def updateEwmaReserves (reserveA reserveB : Nat) (alphaX1000 : UInt64) (w : World) : World :=
  { w with
    ewmaReserveA := blend alphaX1000 reserveA w.ewmaReserveA
    ewmaReserveB := blend alphaX1000 reserveB w.ewmaReserveB }

/-- `update_price`. Anyone may call it. -/
def updatePrice (block : UInt64) (rawReserveA rawReserveB : Nat) (w : World) : Outcome World := do
  require (0 < rawReserveA) "reserve_a cannot be zero"
  require (0 < rawReserveB) "reserve_b cannot be zero"
  let spotPrice ← bigUintDiv (rawReserveB * scale) rawReserveA
  let (gateOpen, divergencePermille) := checkGateInternal block spotPrice w
  let alpha := computeAlpha gateOpen w
  let w := updateEwmaReserves (rawReserveA * scale) (rawReserveB * scale) alpha w
  require (0 < w.ewmaReserveA) "ewma_reserve_a is zero after update"
  let newXwap ← bigUintDiv (w.ewmaReserveB * scale) w.ewmaReserveA
  let w := { w with
    priceHistory := w.priceHistory.set w.priceHistoryIdx newXwap
    priceHistoryIdx := (w.priceHistoryIdx + 1) % historyLen
    updateCount := w.updateCount + 1
    prevXwapPrice := w.xwapPrice
    xwapPrice := newXwap
    alphaX1000 := alpha }
  let w := w.emit (.priceUpdated newXwap alpha gateOpen block)
  pure (if gateOpen then w
    else w.emit (.gateClosed spotPrice (getMedianOffChain block w) divergencePermille))

/-! ## Signals -/

def checkFreshnessInternal (block maxAge : UInt64) (w : World) : Bool :=
  w.config.registeredKeepers.items.any fun keeper =>
    match w.keeperReport.get? keeper with
    | some report => saturatingSub block report.block ≤ maxAge
    | none => false

def computeSignals (block : UInt64) (w : World) : XwapSignals :=
  let gateOpen := (checkGateInternal block w.xwapPrice w).1
  let consensusOk := checkConsensus block w
  let freshnessOk := checkFreshnessInternal block w.config.freshnessBlocks w
  { gateOpen := gateOpen
    consensusOk := consensusOk
    freshnessOk := freshnessOk
    stabilityPermille :=
      if w.prevXwapPrice = 0 ∨ w.xwapPrice = 0 then 0
      else (toU64 (divergence w.xwapPrice w.prevXwapPrice)).getD 999
    safe := gateOpen && consensusOk && freshnessOk }

def isSafeToExecute (block : UInt64) (w : World) : Bool := (computeSignals block w).safe

/-! ## Configuration -/

/-- Calls of the stored owner. -/
inductive ConfigCall where
  | setGateThreshold (permille : UInt64)
  | setAlphaBounds (minX1000 maxX1000 : UInt64)
  | setTrendBoost (boostX1000 : UInt64)
  | setGateBoost (boostX1000 : UInt64)
  | setFreshnessBlocks (blocks : UInt64)
  | setConsensusMin (permille : UInt64)
  | registerKeeper (keeper : Address)
  | removeKeeper (keeper : Address)
  | setPoolAddress (pool : Address)

def Config.apply (c : Config) : ConfigCall → Outcome Config
  | .setGateThreshold permille => do
      require (0 < permille ∧ permille < 1000) "threshold out of range"
      pure { c with gateThresholdPermille := permille }
  | .setAlphaBounds minX1000 maxX1000 => do
      require (minX1000 < maxX1000) "min must be < max"
      require (maxX1000 ≤ 1000) "max alpha cannot exceed 1.0"
      pure { c with alphaMinX1000 := minX1000, alphaMaxX1000 := maxX1000 }
  | .setTrendBoost boostX1000 => do
      require (boostX1000 ≤ 500) "boost too high"
      pure { c with trendBoostX1000 := boostX1000 }
  | .setGateBoost boostX1000 => do
      require (boostX1000 ≤ 500) "boost too high"
      pure { c with gateBoostX1000 := boostX1000 }
  | .setFreshnessBlocks blocks => do
      require (0 < blocks ∧ blocks ≤ 20) "freshness out of range"
      pure { c with freshnessBlocks := blocks }
  | .setConsensusMin permille => do
      require (500 ≤ permille ∧ permille ≤ 1000) "consensus out of range"
      pure { c with consensusMinPermille := permille }
  | .registerKeeper keeper =>
      pure { c with registeredKeepers := c.registeredKeepers.insert keeper }
  | .removeKeeper keeper =>
      pure { c with registeredKeepers := c.registeredKeepers.swapRemove keeper }
  | .setPoolAddress pool => pure { c with poolAddress := pool }

def ConfigCall.events : ConfigCall → List Event
  | .registerKeeper keeper => [.keeperRegistryUpdated keeper true]
  | .removeKeeper keeper => [.keeperRegistryUpdated keeper false]
  | _ => []

/-- An owner call: `require_owner` comes first in every one of them. -/
def configure (call : CallContext) (change : ConfigCall) (w : World) : Outcome World := do
  require (call.caller = w.config.ownerAddress) "only owner"
  let config ← w.config.apply change
  pure { w with config := config, events := w.events ++ change.events }

def init (caller poolAddress : Address) : World :=
  { config :=
      { gateThresholdPermille := 100
        alphaMinX1000 := 50
        alphaMaxX1000 := 700
        trendBoostX1000 := 250
        gateBoostX1000 := 250
        freshnessBlocks := 2
        consensusMinPermille := 800
        poolAddress := poolAddress
        ownerAddress := caller
        registeredKeepers := .empty }
    ewmaReserveA := 0
    ewmaReserveB := 0
    xwapPrice := 0
    prevXwapPrice := 0
    alphaX1000 := 50
    priceHistory := .empty
    priceHistoryIdx := 0
    updateCount := 0
    keeperReport := .empty
    events := [] }

def Deployed (w : World) : Prop := ∃ caller poolAddress, init caller poolAddress = w

/-! ## Steps -/

inductive Step where
  | updatePrice (call : CallContext) (block : UInt64) (rawReserveA rawReserveB : Nat)
  | reportPrice (call : CallContext) (block : UInt64) (price : Nat)
  | configure (call : CallContext) (change : ConfigCall)
  | upgrade

def step (w : World) : Step → Outcome World
  | .updatePrice call block rawReserveA rawReserveB => do
      call.notPayable
      updatePrice block rawReserveA rawReserveB w
  | .reportPrice call block price => do
      call.notPayable
      reportPrice call block price w
  | .configure call change => do
      call.notPayable
      configure call change w
  | .upgrade => pure w

/-! ## What the configuration keeps -/

/-- The bounds that `init` and the setters keep the parameters in. -/
structure Config.Sound (c : Config) : Prop where
  gateThreshold : 0 < c.gateThresholdPermille.toNat ∧ c.gateThresholdPermille.toNat < 1000
  alphaBounds : c.alphaMinX1000.toNat < c.alphaMaxX1000.toNat
  alphaMax : c.alphaMaxX1000.toNat ≤ 1000
  trendBoost : c.trendBoostX1000.toNat ≤ 500
  gateBoost : c.gateBoostX1000.toNat ≤ 500
  freshnessBlocks : 0 < c.freshnessBlocks.toNat ∧ c.freshnessBlocks.toNat ≤ 20
  consensusMin : 500 ≤ c.consensusMinPermille.toNat ∧ c.consensusMinPermille.toNat ≤ 1000

variable {w next : World} {move : Step}

theorem Config.Sound.apply {c changed : Config} {change : ConfigCall} (sound : c.Sound)
    (applied : c.apply change = .ok changed) : changed.Sound := by
  cases change <;>
    simp only [Config.apply, Outcome.bind_eq_ok, Outcome.require_eq_ok,
      Outcome.pure_eq_ok] at applied
  case setGateThreshold permille =>
    obtain ⟨_, range, rfl⟩ := applied
    exact { sound with gateThreshold := range }
  case setAlphaBounds minX1000 maxX1000 =>
    obtain ⟨_, ordered, _, capped, rfl⟩ := applied
    exact { sound with alphaBounds := ordered, alphaMax := capped }
  case setTrendBoost boostX1000 =>
    obtain ⟨_, range, rfl⟩ := applied
    exact { sound with trendBoost := range }
  case setGateBoost boostX1000 =>
    obtain ⟨_, range, rfl⟩ := applied
    exact { sound with gateBoost := range }
  case setFreshnessBlocks blocks =>
    obtain ⟨_, range, rfl⟩ := applied
    exact { sound with freshnessBlocks := range }
  case setConsensusMin permille =>
    obtain ⟨_, range, rfl⟩ := applied
    exact { sound with consensusMin := range }
  case registerKeeper keeper =>
    subst applied
    exact { sound with }
  case removeKeeper keeper =>
    subst applied
    exact { sound with }
  case setPoolAddress pool =>
    subst applied
    exact { sound with }

/-! ## What a step does -/

structure Updated (block : UInt64) (rawReserveA rawReserveB : Nat) (w next : World) : Prop where
  reserveA : 0 < rawReserveA
  reserveB : 0 < rawReserveB
  ewma : ∃ gateOpen, next.alphaX1000 = computeAlpha gateOpen w ∧
    next.ewmaReserveA = blend next.alphaX1000 (rawReserveA * scale) w.ewmaReserveA ∧
    next.ewmaReserveB = blend next.alphaX1000 (rawReserveB * scale) w.ewmaReserveB
  price : next.xwapPrice = next.ewmaReserveB * scale / next.ewmaReserveA
  config : next.config = w.config

theorem updatePrice_ok {block : UInt64} {rawReserveA rawReserveB : Nat}
    (updated : updatePrice block rawReserveA rawReserveB w = .ok next) :
    Updated block rawReserveA rawReserveB w next := by
  simp only [updatePrice, Outcome.bind_eq_ok, Outcome.require_eq_ok, bigUintDiv_eq_ok,
    Outcome.pure_eq_ok] at updated
  obtain ⟨_, reserveA, _, reserveB, spotPrice, _, _, _, newXwap, ⟨_, rfl⟩, rfl⟩ := updated
  split
  · exact ⟨reserveA, reserveB, ⟨_, rfl, rfl, rfl⟩, rfl, rfl⟩
  · exact ⟨reserveA, reserveB, ⟨_, rfl, rfl, rfl⟩, rfl, rfl⟩

/-- No step takes a parameter out of its bounds. -/
theorem step_sound (sound : w.config.Sound) (stepped : step w move = .ok next) :
    next.config.Sound := by
  cases move with
  | updatePrice call block rawReserveA rawReserveB =>
      simp only [step, Outcome.bind_eq_ok] at stepped
      obtain ⟨_, _, updated⟩ := stepped
      rw [(updatePrice_ok updated).config]
      exact sound
  | reportPrice call block price =>
      simp only [step, reportPrice, Outcome.bind_eq_ok, Outcome.pure_eq_ok] at stepped
      obtain ⟨_, _, _, _, _, _, rfl⟩ := stepped
      exact sound
  | configure call change =>
      simp only [step, configure, Outcome.bind_eq_ok, Outcome.pure_eq_ok] at stepped
      obtain ⟨_, _, _, _, config, applied, rfl⟩ := stepped
      exact sound.apply applied
  | upgrade =>
      simp only [step, Outcome.pure_eq_ok] at stepped
      exact stepped ▸ sound

theorem Deployed.sound (deployed : Deployed w) : w.config.Sound := by
  obtain ⟨caller, poolAddress, rfl⟩ := deployed
  constructor <;> simp [init]

theorem run_sound {start final : World} {steps : List Step} (deployed : Deployed start)
    (trace : Trace step (fun _ _ => True) start steps final) : final.config.Sound :=
  trace.preserves (fun w => w.config.Sound)
    (fun _ _ _ _ sound stepped => step_sound sound stepped) deployed.sound

namespace Sample

def oracleCall (caller : Address) : CallContext :=
  { caller := caller
    egldValue := 0
    esdtTransfers := []
    blockTimestamp := 1000
    blockRound := 1
    blockRandomSeed := []
    gasLeft := 1000 }

end Sample

end XCron.Xwap
