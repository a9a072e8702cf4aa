import XCron.Platform.JsonText
import XCron.Platform.Merkle
import XCron.Platform.Sha256
import XCron.Xse.Caps

/-!
# Receipts

The end of `xse-protocol/src/main.rs`. An intent that passes the checks and whose cycle does
not fail gets a receipt, which is written from the orders of the intent and not from what was
placed for them; its hash is that of the orders alone.
-/

namespace XCron.Xse

open Platform

/-! ## The receipt -/

structure ExecutedOrder where
  intentIndex : Nat
  asset : Text
  side : Text
  requestedQuoteAmountAtomic : Text
  executedQuoteAmountAtomic : Text
  executedBaseAmountAtomic : Text
  averagePriceAtomic : Text
  venueOrderId : Text
  venue : Text
  deriving DecidableEq

structure FailureContext where
  failedIntentIndex : Nat
  errorCode : Text
  errorMessage : Text
  partialExecution : Bool
  deriving DecidableEq

structure Proof where
  executorId : Text
  attestationHash : Text
  receiptHash : Text
  deriving DecidableEq

structure ExecutionReceipt where
  batchId : Text
  status : Text
  failureContext : Option FailureContext
  orders : List ExecutedOrder
  totalExecutedQuoteAtomic : Text
  timestamp : Int
  proof : Proof
  metadata : List (Text × Text)
  deriving DecidableEq

def ExecutedOrder.texts (order : ExecutedOrder) : List (Text × Text) :=
  [(ascii "asset", order.asset), (ascii "side", order.side),
    (ascii "requested_quote_amount_atomic", order.requestedQuoteAmountAtomic),
    (ascii "executed_quote_amount_atomic", order.executedQuoteAmountAtomic),
    (ascii "executed_base_amount_atomic", order.executedBaseAmountAtomic),
    (ascii "average_price_atomic", order.averagePriceAtomic),
    (ascii "venue_order_id", order.venueOrderId), (ascii "venue", order.venue)]

def ExecutedOrder.toJson (order : ExecutedOrder) : Text :=
  123 :: (jsonText (ascii "intent_index") ++ 58 :: (formatDecimal order.intentIndex ++
    (order.texts.flatMap nextMember ++ [125])))

def ordersJson (orders : List ExecutedOrder) : Text := jsonArray ExecutedOrder.toJson orders

/-- What the loop over the orders writes. `random` are the numbers that it draws. -/
def executedOrder (venue : Text) (random : Nat → UInt32) (index : Nat) (order : OrderIntent) :
    ExecutedOrder :=
  { intentIndex := index
    asset := order.asset
    side := order.side
    requestedQuoteAmountAtomic := order.maxQuoteAmountAtomic
    executedQuoteAmountAtomic := order.maxQuoteAmountAtomic
    executedBaseAmountAtomic := formatDecimal (order.amount.toNat / 50)
    averagePriceAtomic := formatDecimal (50 * 1000000)
    venueOrderId := ascii "sim_" ++ formatDecimal (random index).toNat
    venue := venue }

def executedOrders (random : Nat → UInt32) (intent : ExecutionIntent) : List ExecutedOrder :=
  intent.orders.mapIdx (executedOrder intent.venue random)

/-! ## The process -/

variable {PublicKey PrivateKey Seed : Type}

/-- What a process reads apart from its intent: the clock at three times, its keys, the reader
of dates, the signature over the intent and whether it is authorized by it, and what it draws. -/
structure Boot (PublicKey PrivateKey Seed : Type) where
  build : Build
  privateKey : PrivateKey
  seed : Seed
  parseDateTime : Text → Option Int
  validatedAt : Int
  quantumSignature : Bytes
  authorized : Bool
  executedAt : Nat
  random : Nat → UInt32
  settledAt : Int

namespace Boot

variable (crypto : Crypto PublicKey PrivateKey Seed) (boot : Boot PublicKey PrivateKey Seed)

def receiptHash (intent : ExecutionIntent) : Text :=
  hexEncode (crypto.sha256 (ordersJson (executedOrders boot.random intent))).val

def executionReceipt (totalAmountAtomic : U128) (intent : ExecutionIntent) : ExecutionReceipt :=
  { batchId := ascii "SIM_BATCH_001"
    status := ascii "SUCCESS"
    failureContext := none
    orders := executedOrders boot.random intent
    totalExecutedQuoteAtomic := formatDecimal totalAmountAtomic.toNat
    timestamp := boot.settledAt
    proof :=
      { executorId := ascii "XSE_NODE_01"
        attestationHash := publicKeyHash crypto boot.privateKey
        receiptHash := boot.receiptHash crypto intent }
    metadata := [(ascii "mode", intent.mode), (ascii "client_ref", intent.clientReferenceId)] }

def cycle (intent : ExecutionIntent) : Except Panic CycleResult :=
  executionCycle boot.build crypto boot.privateKey boot.seed boot.executedAt intent

/-- `main` for an intent that has been read: the receipt that it writes, if it comes so far. -/
def main (intent : ExecutionIntent) : Except Panic (Option ExecutionReceipt) :=
  match validateIntent boot.parseDateTime boot.validatedAt intent (some boot.quantumSignature) with
  | .error _ => pure none
  | .ok _ =>
      if boot.authorized then do
        match ← boot.cycle crypto intent with
        | .failed _ => pure none
        | _ => do
            let totalAmountAtomic ← sumU128 boot.build (intent.orders.map OrderIntent.amount)
            pure (some (boot.executionReceipt crypto totalAmountAtomic intent))
      else pure none

end Boot

def CycleResult.placements : CycleResult → List Placement
  | .executed placements => placements
  | _ => []

/-! ## When a receipt is written -/

section Written

variable {crypto : Crypto PublicKey PrivateKey Seed} {boot : Boot PublicKey PrivateKey Seed}
  {intent : ExecutionIntent} {receipt : ExecutionReceipt}

theorem cycle_cases {build : Build} {privateKey : PrivateKey} {seed : Seed} {timestamp : Nat}
    {result : CycleResult}
    (ended : executionCycle build crypto privateKey seed timestamp intent = .ok result) :
    ¬(build = .debug ∧ 2 ^ 128 ≤ intent.totalCap) ∧
      (intent.mode = ascii "dry_run" ∧ result = .dryRun ∨ (∃ message, result = .failed message) ∨
        intent.mode ≠ ascii "dry_run" ∧ intent.orders ≠ [] ∧
          result = .executed (intent.placements timestamp)) := by
  have unfolded := ended
  unfold executionCycle at unfolded
  cases encrypts : crypto.encrypt (crypto.publicKey privateKey) seed rawSecret with
  | none =>
      rw [encrypts] at unfolded
      cases unfolded
  | some encryptedBlob =>
      rw [encrypts] at unfolded
      dsimp only at unfolded
      rw [sumU128_amounts] at unfolded
      by_cases overflow : build = .debug ∧ 2 ^ 128 ≤ intent.totalCap
      · rw [if_pos overflow] at unfolded
        cases unfolded
      refine ⟨overflow, ?_⟩
      rw [if_neg overflow] at unfolded
      dsimp only [Bind.bind, Except.bind] at unfolded
      by_cases dryRun : intent.mode = ascii "dry_run"
      · rw [if_pos dryRun] at unfolded
        split at unfolded
        next => exact .inl ⟨dryRun, (Except.ok.inj unfolded).symm⟩
        next message _ => exact .inr (.inl ⟨message, (Except.ok.inj unfolded).symm⟩)
      · rw [if_neg dryRun] at unfolded
        have some : intent.orders ≠ [] := by
          intro none
          rw [none] at unfolded
          cases unfolded
        rw [executionCycle_live encrypts overflow dryRun some] at ended
        split at ended
        next => exact .inr (.inr ⟨dryRun, some, (Except.ok.inj ended).symm⟩)
        next message _ => exact .inr (.inl ⟨message, (Except.ok.inj ended).symm⟩)

/-- What is known when a receipt has been written. -/
theorem written_of_main (written : boot.main crypto intent = .ok (some receipt)) :
    validateIntent boot.parseDateTime boot.validatedAt intent (some boot.quantumSignature) =
        .ok () ∧
      receipt = boot.executionReceipt crypto
        (U128.sum (intent.orders.map OrderIntent.amount)) intent ∧
      ∃ result, boot.cycle crypto intent = .ok result ∧
        (intent.mode = ascii "dry_run" ∧ result = .dryRun ∨
          intent.mode ≠ ascii "dry_run" ∧ intent.orders ≠ [] ∧
            result = .executed (intent.placements boot.executedAt)) := by
  unfold Boot.main at written
  split at written
  next => cases written
  next valid =>
      split at written
      next =>
          cases ended : boot.cycle crypto intent with
          | error panic =>
              rw [ended] at written
              cases written
          | ok result =>
              rw [ended] at written
              obtain ⟨fits, cases⟩ := cycle_cases ended
              have total := sumU128_amounts boot.build intent
              rw [if_neg fits] at total
              refine ⟨valid, ?_, result, rfl, ?_⟩
              · dsimp only [Bind.bind, Except.bind] at written
                rw [total] at written
                rcases cases with ⟨_, rfl⟩ | ⟨message, rfl⟩ | ⟨_, _, rfl⟩
                · exact (Option.some.inj (Except.ok.inj written)).symm
                · cases written
                · exact (Option.some.inj (Except.ok.inj written)).symm
              · rcases cases with dryRun | ⟨message, rfl⟩ | live
                · exact .inl dryRun
                · cases written
                · exact .inr live
      next => cases written

theorem main_of_cycle {result : CycleResult}
    (valid : validateIntent boot.parseDateTime boot.validatedAt intent
      (some boot.quantumSignature) = .ok ())
    (authorized : boot.authorized = true) (ended : boot.cycle crypto intent = .ok result)
    (succeeded : ∀ message, result ≠ .failed message) :
    boot.main crypto intent = .ok (some (boot.executionReceipt crypto
      (U128.sum (intent.orders.map OrderIntent.amount)) intent)) := by
  have total := sumU128_amounts boot.build intent
  rw [if_neg (cycle_cases ended).1] at total
  unfold Boot.main
  rw [valid]
  dsimp only
  rw [if_pos authorized, ended]
  dsimp only [Bind.bind, Except.bind]
  rw [total]
  cases result with
  | failed message => exact absurd rfl (succeeded message)
  | dryRun => rfl
  | executed placements => rfl
  | unhealthy => rfl

/-! ## What a receipt says -/

/-- The receipt tells what was placed: every order at its quantity, and all of them in sum. -/
structure Reconciles (receipt : ExecutionReceipt) (placements : List Placement) : Prop where
  orders : List.Forall₂ (fun executed placement => executed.asset = placement.asset ∧
    parseU128 executed.executedQuoteAmountAtomic = some placement.quoteOrderQty)
    receipt.orders placements
  total : (parseU128 receipt.totalExecutedQuoteAtomic).map BitVec.toNat =
    some (placements.map fun placement => placement.quoteOrderQty.toNat).sum

/-- All orders have one cap, and a word holds their sum. -/
def OneCap (intent : ExecutionIntent) : Prop :=
  intent.totalCap < 2 ^ 128 ∧
    ∀ order ∈ intent.orders, ∀ other ∈ intent.orders, order.amount = other.amount

instance : Decidable (OneCap intent) :=
  inferInstanceAs (Decidable (_ ∧ ∀ order ∈ intent.orders, ∀ other ∈ intent.orders, _))

theorem totalCap_of_same {amount : U128} (same : ∀ order ∈ intent.orders, order.amount = amount) :
    intent.totalCap = intent.orders.length * amount.toNat := by
  have amounts : intent.orders.map (fun order => order.amount.toNat) =
      List.replicate intent.orders.length amount.toNat := by
    rw [List.eq_replicate_iff, List.length_map]
    refine ⟨rfl, ?_⟩
    intro value member
    obtain ⟨order, ordered, rfl⟩ := List.mem_map.mp member
    rw [same order ordered]
  rw [ExecutionIntent.totalCap, amounts, List.sum_replicate_nat]

theorem all_share_iff (some : intent.orders ≠ []) :
    (∀ order ∈ intent.orders, order.amount = intent.share) ↔ OneCap intent := by
  have positive := List.length_pos_iff.mpr some
  constructor
  · intro same
    refine ⟨?_, ?_⟩
    · have total := totalCap_of_same same
      rw [toNat_share] at total
      have small := Nat.mul_div_le (intent.totalCap % 2 ^ 128) intent.orders.length
      have bound := Nat.mod_lt intent.totalCap (show 0 < 2 ^ 128 by decide)
      omega
    · intro order ordered other ordered'
      rw [same order ordered, same other ordered']
  · rintro ⟨fits, same⟩ order ordered
    have total := totalCap_of_same fun other ordered' => same other ordered' order ordered
    apply BitVec.eq_of_toNat_eq
    rw [toNat_share, Nat.mod_eq_of_lt fits, total, Nat.mul_div_cancel_left _ positive]

theorem sum_placements (intent : ExecutionIntent) (timestamp : Nat) :
    ((intent.placements timestamp).map fun placement => placement.quoteOrderQty.toNat).sum =
      intent.orders.length * intent.share.toNat := by
  have shares : (intent.placements timestamp).map (fun placement => placement.quoteOrderQty.toNat) =
      List.replicate intent.orders.length intent.share.toNat := by
    rw [ExecutionIntent.placements, List.map_map]
    exact List.map_const'
  rw [shares, List.sum_replicate_nat]

theorem parse_of_accepted {order : OrderIntent} (nonzero : order.amount ≠ 0) :
    parseU128 order.maxQuoteAmountAtomic = some order.amount := by
  cases parsed : parseU128 order.maxQuoteAmountAtomic with
  | none => exact absurd (by rw [OrderIntent.amount, parsed]; rfl) nonzero
  | some amount => rw [OrderIntent.amount, parsed, Option.getD_some]

theorem orders_reconcile_iff {random : Nat → UInt32} {timestamp : Nat}
    (nonzero : ∀ order ∈ intent.orders, order.amount ≠ 0) :
    List.Forall₂ (fun (executed : ExecutedOrder) (placement : Placement) =>
        executed.asset = placement.asset ∧
          parseU128 executed.executedQuoteAmountAtomic = some placement.quoteOrderQty)
        (executedOrders random intent) (intent.placements timestamp) ↔
      ∀ order ∈ intent.orders, order.amount = intent.share := by
  rw [executedOrders, ExecutionIntent.placements, List.forall₂_iff_get]
  simp only [List.length_mapIdx, List.length_map, List.get_eq_getElem, List.getElem_mapIdx,
    List.getElem_map, true_and]
  constructor
  · intro placed order ordered
    obtain ⟨index, inside, rfl⟩ := List.getElem_of_mem ordered
    have read := (placed index inside inside).2
    rw [executedOrder, parse_of_accepted (nonzero _ (List.getElem_mem inside))] at read
    exact Option.some.inj read
  · intro same index inside _
    refine ⟨rfl, ?_⟩
    rw [executedOrder, parse_of_accepted (nonzero _ (List.getElem_mem inside)),
      same _ (List.getElem_mem inside)]
    rfl

/-- Every receipt says that all went well; but what it says was executed is what was placed exactly
if nothing was ordered, or if it was no dry run and all orders had one cap. -/
theorem receipt_reconciles_iff (written : boot.main crypto intent = .ok (some receipt)) :
    receipt.status = ascii "SUCCESS" ∧ ∃ result, boot.cycle crypto intent = .ok result ∧
      (Reconciles receipt result.placements ↔
        intent.orders = [] ∨ intent.mode ≠ ascii "dry_run" ∧ OneCap intent) := by
  obtain ⟨valid, rfl, result, ended, outcome⟩ := written_of_main written
  refine ⟨rfl, result, ended, ?_⟩
  have nonzero := (accepted_of_ok valid).amounts
  rcases outcome with ⟨dryRun, rfl⟩ | ⟨live, some, rfl⟩
  · rw [or_iff_left fun live => live.1 dryRun]
    constructor
    · rintro ⟨placed, _⟩
      have lengths := placed.length_eq
      rw [Boot.executionReceipt, executedOrders, List.length_mapIdx] at lengths
      exact List.length_eq_zero_iff.mp lengths
    · intro none
      have nothing : executedOrders boot.random intent = [] := by
        rw [executedOrders, none]
        rfl
      refine ⟨?_, ?_⟩
      · rw [Boot.executionReceipt, nothing]
        exact .nil
      · rw [Boot.executionReceipt, none, parseU128_formatDecimal]
        rfl
  · rw [or_iff_right some, and_iff_right live, ← all_share_iff some]
    constructor
    · rintro ⟨placed, _⟩
      exact (orders_reconcile_iff nonzero).mp placed
    · intro same
      refine ⟨(orders_reconcile_iff nonzero).mpr same, ?_⟩
      have fits := ((all_share_iff some).mp same).1
      have total : ((intent.orders.map OrderIntent.amount).map BitVec.toNat).sum =
          intent.totalCap := by
        rw [List.map_map]
        rfl
      rw [CycleResult.placements, sum_placements, Boot.executionReceipt, parseU128_formatDecimal,
        Option.map_some, U128.toNat_sum, total, Nat.mod_eq_of_lt fits, totalCap_of_same same]

end Written

namespace Sample

def boot : Boot Unit Unit UInt8 :=
  { build := .release
    privateKey := ()
    seed := 7
    parseDateTime := parseDateTime
    validatedAt := 1767225600
    quantumSignature := [1, 2, 3, 4]
    authorized := true
    executedAt := 1767225600000
    random := UInt32.ofNat
    settledAt := 1767225601 }

def evenIntent : ExecutionIntent := intent [("EGLD/USDT", "100"), ("BTC/USDT", "100")]

def unevenIntent : ExecutionIntent := intent [("EGLD/USDT", "1"), ("BTC/USDT", "199")]

def receipt (intent : ExecutionIntent) : ExecutionReceipt := boot.executionReceipt crypto 200 intent

end Sample

theorem receipt_reconciles_iff_sample :
    (∃ result, Sample.boot.cycle Sample.crypto Sample.evenIntent = .ok result ∧
        Reconciles (Sample.receipt Sample.evenIntent) result.placements) ∧
      ∃ result, Sample.boot.cycle Sample.crypto Sample.unevenIntent = .ok result ∧
        ¬Reconciles (Sample.receipt Sample.unevenIntent) result.placements := by
  have written : Sample.boot.main Sample.crypto Sample.evenIntent =
      .ok (some (Sample.receipt Sample.evenIntent)) := by
    decide +kernel
  have written' : Sample.boot.main Sample.crypto Sample.unevenIntent =
      .ok (some (Sample.receipt Sample.unevenIntent)) := by
    decide +kernel
  obtain ⟨_, result, ended, even⟩ := receipt_reconciles_iff written
  obtain ⟨_, result', ended', uneven⟩ := receipt_reconciles_iff written'
  exact ⟨⟨result, ended, even.mpr (by decide +kernel)⟩, result', ended',
    uneven.not.mpr (by decide +kernel)⟩

/-! ## What the hash covers -/

theorem ExecutedOrder.texts_starts (order : ExecutedOrder) :
    ∃ rest, order.texts.flatMap nextMember ++ [125] = 44 :: rest := ⟨_, rfl⟩

theorem ExecutedOrder.toJson_delimits : SelfDelimiting ExecutedOrder.toJson := by
  intro first second rest rest' same
  obtain ⟨tail, members⟩ := first.texts_starts
  obtain ⟨tail', members'⟩ := second.texts_starts
  rw [ExecutedOrder.toJson, ExecutedOrder.toJson, members, members'] at same
  have numbered : formatDecimal first.intentIndex ++ 44 :: (tail ++ rest) =
      formatDecimal second.intentIndex ++ 44 :: (tail' ++ rest') := by
    simpa using same
  obtain ⟨digits, _, tails⟩ := append_cons_inj IsDigit
    (fun _ member => isDigit_of_mem_formatDecimal member)
    (fun _ member => isDigit_of_mem_formatDecimal member) (by decide) (by decide) numbered
  have listed : first.texts.flatMap nextMember ++ [125] ++ rest =
      second.texts.flatMap nextMember ++ [125] ++ rest' := by
    rw [members, members', List.cons_append, List.cons_append, tails]
  obtain ⟨texts, rests⟩ := nextMember_delimits.stopped
    (fun member => ⟨44, _, rfl, by decide⟩) listed
  refine ⟨?_, rests⟩
  have index := formatDecimal_injective digits
  cases first
  cases second
  simp only [ExecutedOrder.texts, List.cons.injEq, Prod.mk.injEq, true_and, and_true] at texts
  simp only [ExecutedOrder.mk.injEq]
  exact ⟨index, texts⟩

theorem ordersJson_injective : Function.Injective ordersJson :=
  (jsonArray_delimits ExecutedOrder.toJson_delimits fun _ => ⟨123, _, rfl, by decide⟩).injective

/-- The intents have the same orders, for the same venue, and the same numbers are drawn for
them. -/
structure SameOrders (random random' : Nat → UInt32) (intent intent' : ExecutionIntent) : Prop where
  orders : List.Forall₂ (fun order order' => order.side = order'.side ∧ order.asset = order'.asset ∧
    order.maxQuoteAmountAtomic = order'.maxQuoteAmountAtomic) intent.orders intent'.orders
  venue : intent.orders ≠ [] → intent.venue = intent'.venue
  drawn : ∀ index < intent.orders.length, random index = random' index

theorem executedOrders_eq_iff {random random' : Nat → UInt32} {intent intent' : ExecutionIntent} :
    executedOrders random intent = executedOrders random' intent' ↔
      SameOrders random random' intent intent' := by
  constructor
  · intro same
    have lengths : intent.orders.length = intent'.orders.length := by
      simpa [executedOrders] using congrArg List.length same
    have each (index : Nat) (inside : index < intent.orders.length)
        (inside' : index < intent'.orders.length) :
        executedOrder intent.venue random index intent.orders[index] =
          executedOrder intent'.venue random' index intent'.orders[index] := by
      have entries : (executedOrders random intent)[index]? =
          (executedOrders random' intent')[index]? := by
        rw [same]
      rw [executedOrders, executedOrders, List.getElem?_mapIdx, List.getElem?_mapIdx,
        List.getElem?_eq_getElem inside, List.getElem?_eq_getElem inside'] at entries
      exact Option.some.inj entries
    refine ⟨?_, ?_, ?_⟩
    · rw [List.forall₂_iff_get]
      refine ⟨lengths, ?_⟩
      intro index inside inside'
      have entry := each index inside inside'
      simp only [executedOrder, ExecutedOrder.mk.injEq] at entry
      exact ⟨entry.2.2.1, entry.2.1, entry.2.2.2.1⟩
    · intro some
      have positive := List.length_pos_iff.mpr some
      exact congrArg ExecutedOrder.venue (each 0 positive (lengths ▸ positive))
    · intro index inside
      have ids := congrArg ExecutedOrder.venueOrderId (each index inside (lengths ▸ inside))
      rw [executedOrder, executedOrder, List.append_cancel_left_eq] at ids
      exact UInt32.toNat_inj.mp (formatDecimal_injective ids)
  · rintro ⟨orders, venue, drawn⟩
    rw [List.forall₂_iff_get] at orders
    obtain ⟨lengths, each⟩ := orders
    apply List.ext_getElem
    · simpa [executedOrders] using lengths
    · intro index inside inside'
      have here : index < intent.orders.length := by simpa [executedOrders] using inside
      have here' : index < intent'.orders.length := lengths ▸ here
      obtain ⟨side, asset, amount⟩ := each index here here'
      simp only [List.get_eq_getElem] at side asset amount
      have some : intent.orders ≠ [] := List.ne_nil_of_length_pos (by omega)
      simp only [executedOrders, List.getElem_mapIdx, executedOrder, OrderIntent.amount, side, asset,
        amount, venue some, drawn index here]

section Hashes

variable {crypto : Crypto PublicKey PrivateKey Seed} {boot boot' : Boot PublicKey PrivateKey Seed}
  {intent intent' : ExecutionIntent} {receipt receipt' : ExecutionReceipt}

/-- The hash of a receipt is that of another one exactly if the orders are, short of a collision.
Whether they were placed, in which mode, for whom and in what sum is not covered. -/
theorem receipt_hash_eq_iff (written : boot.main crypto intent = .ok (some receipt))
    (written' : boot'.main crypto intent' = .ok (some receipt')) :
    receipt.proof.receiptHash = receipt'.proof.receiptHash ↔
      SameOrders boot.random boot'.random intent intent' ∨
        Collide crypto.sha256 (ordersJson receipt.orders) (ordersJson receipt'.orders) := by
  obtain ⟨_, rfl, _⟩ := written_of_main written
  obtain ⟨_, rfl, _⟩ := written_of_main written'
  simp only [Boot.executionReceipt, Boot.receiptHash]
  rw [← executedOrders_eq_iff]
  constructor
  · intro same
    have decoded := congrArg hexDecode same
    rw [hexDecode_hexEncode, hexDecode_hexEncode, Option.some.injEq] at decoded
    by_cases orders : executedOrders boot.random intent = executedOrders boot'.random intent'
    · exact .inl orders
    · exact .inr ⟨fun same => orders (ordersJson_injective same), Bytes32.ext decoded⟩
  · rintro (orders | ⟨_, digests⟩)
    · rw [orders]
    · rw [digests]

end Hashes

namespace Sample

def hashing : Crypto Unit Unit UInt8 := { crypto with sha256 := sha256 }

def dryIntent : ExecutionIntent :=
  { evenIntent with mode := ascii "dry_run", clientReferenceId := ascii "batch-2" }

end Sample

theorem receipt_hash_eq_iff_sample :
    ∃ receipt receipt', Sample.boot.main Sample.hashing Sample.evenIntent = .ok (some receipt) ∧
      Sample.boot.main Sample.hashing Sample.dryIntent = .ok (some receipt') ∧
      receipt.proof.receiptHash = receipt'.proof.receiptHash := by
  have executed : Sample.boot.cycle Sample.hashing Sample.evenIntent =
      .ok (.executed (Sample.evenIntent.placements Sample.boot.executedAt)) := by
    decide +kernel
  have skipped : Sample.boot.cycle Sample.hashing Sample.dryIntent = .ok .dryRun := by
    decide +kernel
  have live := main_of_cycle (by decide +kernel) rfl executed (by simp)
  have dry := main_of_cycle (by decide +kernel) rfl skipped (by simp)
  refine ⟨_, _, live, dry, ?_⟩
  refine (receipt_hash_eq_iff live dry).mpr (.inl ⟨?_, fun _ => rfl, fun _ _ => rfl⟩)
  exact List.forall₂_same.mpr fun _ _ => ⟨rfl, rfl, rfl⟩

end XCron.Xse
