import Mathlib.Data.List.Forall2
import XCron.Xse.Execution

/-!
# What an order may cost

Every order has a cap of its own, and every asset is bought for the same share of the sum.
A cap below the others is exceeded.
-/

namespace XCron.Xse

open Platform

variable {PublicKey PrivateKey Seed : Type} {build : Build}
  {crypto : Crypto PublicKey PrivateKey Seed} {privateKey : PrivateKey} {seed : Seed}
  {timestamp : Nat} {intent : ExecutionIntent} {placements : List Placement}

def boughtFor (asset : Text) (placements : List Placement) : Nat :=
  ((placements.filter fun placement => placement.asset = asset).map fun placement =>
    placement.quoteOrderQty.toNat).sum

def ExecutionIntent.ordersFor (asset : Text) (intent : ExecutionIntent) : Nat :=
  (intent.orders.filter fun order => order.asset = asset).length

/-- Every order is placed for its asset and within its cap, all of them are within the sum
of the caps, and only allowed assets are bought. -/
structure RespectsCaps (intent : ExecutionIntent) (placements : List Placement) : Prop where
  capped : List.Forall₂ (fun order placement =>
    placement.asset = order.asset ∧ placement.quoteOrderQty.toNat ≤ order.amount.toNat)
    intent.orders placements
  total : (placements.map fun placement => placement.quoteOrderQty.toNat).sum ≤ intent.totalCap
  allowed : ∀ placement ∈ placements, placement.asset ∈ intent.constraints.allowedAssets

/-- The same where all that is bought for the asset of an order is held against its cap. -/
structure RespectsCapsByAsset (intent : ExecutionIntent) (placements : List Placement) : Prop where
  capped : ∀ order ∈ intent.orders, boughtFor order.asset placements ≤ order.amount.toNat
  total : (placements.map fun placement => placement.quoteOrderQty.toNat).sum ≤ intent.totalCap
  allowed : ∀ placement ∈ placements, placement.asset ∈ intent.constraints.allowedAssets

/-- No cap is less than the mean of the caps, their sum being taken as a word and the mean
rounded down. -/
def CapsEven (intent : ExecutionIntent) : Prop :=
  ∀ order ∈ intent.orders,
    intent.totalCap % 2 ^ 128 < intent.orders.length * (order.amount.toNat + 1)

/-- The same where the orders for one asset share the cap of each of them. -/
def CapsEvenByAsset (intent : ExecutionIntent) : Prop :=
  ∀ order ∈ intent.orders, intent.totalCap % 2 ^ 128 <
    intent.orders.length * (order.amount.toNat / intent.ordersFor order.asset + 1)

instance : Decidable (CapsEven intent) := inferInstanceAs (Decidable (∀ order ∈ intent.orders, _))

instance : Decidable (CapsEvenByAsset intent) :=
  inferInstanceAs (Decidable (∀ order ∈ intent.orders, _))

theorem executed_placements
    (executed : executionCycle build crypto privateKey seed timestamp intent =
      .ok (.executed placements)) :
    intent.orders ≠ [] ∧ placements = intent.placements timestamp := by
  have unfolded := executed
  unfold executionCycle at unfolded
  cases encrypts : crypto.encrypt (crypto.publicKey privateKey) seed rawSecret with
  | none =>
      rw [encrypts] at unfolded
      cases unfolded
  | some encryptedBlob =>
      rw [encrypts] at unfolded
      dsimp only at unfolded
      rw [sumU128_amounts] at unfolded
      by_cases overflow : build = .debug ∧ 2 ^ 128 ≤ intent.totalCap
      · rw [if_pos overflow] at unfolded
        cases unfolded
      rw [if_neg overflow] at unfolded
      dsimp only [Bind.bind, Except.bind] at unfolded
      by_cases dryRun : intent.mode = ascii "dry_run"
      · rw [if_pos dryRun] at unfolded
        split at unfolded <;> cases unfolded
      rw [if_neg dryRun] at unfolded
      have some : intent.orders ≠ [] := by
        intro none
        rw [none] at unfolded
        cases unfolded
      refine ⟨some, ?_⟩
      rw [executionCycle_live encrypts overflow dryRun some] at executed
      split at executed
      next => exact (CycleResult.executed.inj (Except.ok.inj executed)).symm
      next => cases executed

theorem placement_share {placement : Placement}
    (member : placement ∈ intent.placements timestamp) :
    placement.quoteOrderQty = intent.share ∧
      ∃ order ∈ intent.orders, placement.asset = order.asset := by
  obtain ⟨order, ordered, rfl⟩ := List.mem_map.mp member
  exact ⟨rfl, order, ordered, rfl⟩

theorem sum_placements_le (intent : ExecutionIntent) (timestamp : Nat) :
    ((intent.placements timestamp).map fun placement => placement.quoteOrderQty.toNat).sum ≤
      intent.totalCap := by
  have shares : (intent.placements timestamp).map (fun placement => placement.quoteOrderQty.toNat) =
      List.replicate intent.orders.length intent.share.toNat := by
    rw [ExecutionIntent.placements, List.map_map]
    exact List.map_const'
  rw [shares, List.sum_replicate_nat, toNat_share]
  exact (Nat.mul_div_le _ _).trans (Nat.mod_le _ _)

theorem boughtFor_placements (intent : ExecutionIntent) (timestamp : Nat) (asset : Text) :
    boughtFor asset (intent.placements timestamp) = intent.ordersFor asset * intent.share.toNat := by
  rw [boughtFor, ExecutionIntent.placements, List.filter_map, List.map_map]
  have shares : (intent.orders.filter fun order => order.asset = asset).map
      (fun _ => intent.share.toNat) =
        List.replicate (intent.ordersFor asset) intent.share.toNat := List.map_const'
  have total := congrArg List.sum shares
  rw [List.sum_replicate_nat] at total
  exact total

theorem share_le_iff (some : intent.orders ≠ []) (bound : Nat) :
    intent.share.toNat ≤ bound ↔
      intent.totalCap % 2 ^ 128 < intent.orders.length * (bound + 1) := by
  rw [toNat_share, ← Nat.lt_succ_iff, Nat.div_lt_iff_lt_mul (List.length_pos_iff.mpr some),
    Nat.mul_comm]

/-- In a cycle of an accepted intent that executes its orders, every order respects its cap
exactly if no cap is below the mean; and where the caps are read as those of the assets,
exactly if none is with the orders for one asset taken together. -/
theorem caps_respected_iff {parseDateTime : Text → Option Int} {now : Int}
    {quantumSignature : Option Bytes}
    (valid : validateIntent parseDateTime now intent quantumSignature = .ok ())
    (executed : executionCycle build crypto privateKey seed timestamp intent =
      .ok (.executed placements)) :
    (RespectsCaps intent placements ↔ CapsEven intent) ∧
      (RespectsCapsByAsset intent placements ↔ CapsEvenByAsset intent) := by
  obtain ⟨some, rfl⟩ := executed_placements executed
  have accepted := accepted_of_ok valid
  have total := sum_placements_le intent timestamp
  have allowed : ∀ placement ∈ intent.placements timestamp,
      placement.asset ∈ intent.constraints.allowedAssets := by
    intro placement member
    obtain ⟨_, order, ordered, same⟩ := placement_share member
    rw [same]
    exact accepted.assets order ordered
  constructor
  · constructor
    · intro respects order ordered
      rw [← share_le_iff some]
      have capped := respects.capped
      rw [ExecutionIntent.placements, List.forall₂_map_right_iff, List.forall₂_same] at capped
      exact (capped order ordered).2
    · intro even
      refine ⟨?_, total, allowed⟩
      rw [ExecutionIntent.placements, List.forall₂_map_right_iff, List.forall₂_same]
      intro order ordered
      exact ⟨rfl, (share_le_iff some _).mpr (even order ordered)⟩
  · have byAsset (order : OrderIntent) (ordered : order ∈ intent.orders) :
        boughtFor order.asset (intent.placements timestamp) ≤ order.amount.toNat ↔
          intent.totalCap % 2 ^ 128 < intent.orders.length *
            (order.amount.toNat / intent.ordersFor order.asset + 1) := by
      have counted : 0 < intent.ordersFor order.asset := by
        apply List.length_pos_of_mem
        exact List.mem_filter.mpr ⟨ordered, decide_eq_true rfl⟩
      rw [boughtFor_placements, ← share_le_iff some, Nat.le_div_iff_mul_le counted, Nat.mul_comm]
    constructor
    · intro respects order ordered
      exact (byAsset order ordered).mp (respects.capped order ordered)
    · intro even
      exact ⟨fun order ordered => (byAsset order ordered).mpr (even order ordered), total, allowed⟩

namespace Sample

def placementsOf (orders : List (String × String)) : List Placement :=
  (Sample.intent orders).placements 1000

end Sample

theorem caps_respected_iff_sample :
    executionCycle .release Sample.crypto () 7 1000
        (Sample.intent [("EGLD/USDT", "100"), ("BTC/USDT", "101")]) =
        .ok (.executed (Sample.placementsOf [("EGLD/USDT", "100"), ("BTC/USDT", "101")])) ∧
      RespectsCaps (Sample.intent [("EGLD/USDT", "100"), ("BTC/USDT", "101")])
        (Sample.placementsOf [("EGLD/USDT", "100"), ("BTC/USDT", "101")]) := by
  have valid : Sample.Accepts [("EGLD/USDT", "100"), ("BTC/USDT", "101")] := by decide +kernel
  have executed : executionCycle .release Sample.crypto () 7 1000
      (Sample.intent [("EGLD/USDT", "100"), ("BTC/USDT", "101")]) =
      .ok (.executed (Sample.placementsOf [("EGLD/USDT", "100"), ("BTC/USDT", "101")])) := by
    decide +kernel
  exact ⟨executed, (caps_respected_iff valid executed).1.mpr (by decide +kernel)⟩

/-- Orders with caps of 1 and 100 are accepted, and both assets are bought for 50. -/
theorem cap_exceeded :
    Sample.Accepts [("EGLD/USDT", "1"), ("BTC/USDT", "100")] ∧
      executionCycle .release Sample.crypto () 7 1000
        (Sample.intent [("EGLD/USDT", "1"), ("BTC/USDT", "100")]) =
        .ok (.executed (Sample.placementsOf [("EGLD/USDT", "1"), ("BTC/USDT", "100")])) ∧
      (Sample.placementsOf [("EGLD/USDT", "1"), ("BTC/USDT", "100")]).map
        (fun placement => placement.quoteOrderQty.toNat) = [50, 50] ∧
      ¬RespectsCaps (Sample.intent [("EGLD/USDT", "1"), ("BTC/USDT", "100")])
        (Sample.placementsOf [("EGLD/USDT", "1"), ("BTC/USDT", "100")]) ∧
      ¬RespectsCapsByAsset (Sample.intent [("EGLD/USDT", "1"), ("BTC/USDT", "100")])
        (Sample.placementsOf [("EGLD/USDT", "1"), ("BTC/USDT", "100")]) := by
  refine ⟨by decide +kernel, by decide +kernel, by decide +kernel, ?_, ?_⟩
  · intro respects
    exact absurd respects.capped (by decide +kernel)
  · intro respects
    exact absurd respects.capped (by decide +kernel)

end XCron.Xse
