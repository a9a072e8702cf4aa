import XCron.Xse.Intents
import XCron.Xse.Secrets

/-!
# The execution cycle

`xse-protocol/src/main.rs` after the checks, and `execute_reverse_dca` of `relayer.rs`: the
amounts of the orders are added up, the sum is passed on as a decimal text and divided by
the number of assets, and every asset is bought for the quotient.
-/

namespace XCron.Xse

open Platform

/-! ## What can stop the process -/

inductive Panic where
  | indexOutOfBounds
  | addWithOverflow
  | divideByZero
  | expect (message : String)
  deriving DecidableEq

/-- Whether sums are checked, as in a debug build, or wrap, as in a release build. -/
inductive Build where
  | debug
  | release
  deriving DecidableEq

def sumU128 (build : Build) (words : List U128) : Except Panic U128 :=
  if build = .debug ∧ 2 ^ 128 ≤ (words.map BitVec.toNat).sum then .error .addWithOverflow
  else .ok (U128.sum words)

def firstOf (items : List Text) : Except Panic Text :=
  match items with
  | first :: _ => .ok first
  | [] => .error .indexOutOfBounds

/-- `amount / count as u128`. The length of a vector is a word. -/
def divideU128 (amount : U128) (count : Nat) : Except Panic U128 :=
  if count = 0 then .error .divideByZero else .ok (.ofNat 128 (amount.toNat / count))

/-! ## The relayer -/

inductive CexNetworkStatus where
  | online
  | maintenance
  | suspended
  deriving DecidableEq

structure CexRelayer where
  binanceApiUrl : Text
  networkStatus : CexNetworkStatus

/-- A market order as it is sent: the asset, the quote quantity and the address of the
request up to its signature. -/
structure Placement where
  asset : Text
  quoteOrderQty : U128
  request : Text
  deriving DecidableEq

namespace CexRelayer

def new : CexRelayer :=
  { binanceApiUrl := ascii "https://api.binance.com", networkStatus := .online }

def checkBinanceHealth (relayer : CexRelayer) (_asset : Text) : Bool :=
  relayer.networkStatus = .online

def queryString (asset : Text) (amountPerAssetAtomic : U128) (timestamp : Nat) : Text :=
  ascii "symbol=" ++ asset.filter (· ≠ 47) ++ ascii "&side=BUY&type=MARKET&quoteOrderQty=" ++
    formatDecimal amountPerAssetAtomic.toNat ++ ascii "&timestamp=" ++ formatDecimal timestamp

def place (relayer : CexRelayer) (amountPerAssetAtomic : U128) (timestamp : Nat) (asset : Text) :
    Placement :=
  { asset := asset
    quoteOrderQty := amountPerAssetAtomic
    request := relayer.binanceApiUrl ++ ascii "/api/v3/order?" ++
      queryString asset amountPerAssetAtomic timestamp }

def executeReverseDca {PublicKey PrivateKey Seed : Type} (relayer : CexRelayer)
    (crypto : Crypto PublicKey PrivateKey Seed) (privateKey : PrivateKey)
    (encryptedKeys : EncryptedSecrets) (timestamp : Nat) (targetAssets : List Text)
    (amountAtomicStr : Text) : Except Panic (Except String (List Placement)) :=
  match parseU128 amountAtomicStr with
  | none => .ok (.error "Invalid amount string")
  | some amountAtomic =>
      match decryptSecrets crypto privateKey encryptedKeys with
      | .error message => .ok (.error message)
      | .ok _ => do
          let amountPerAssetAtomic ← divideU128 amountAtomic targetAssets.length
          pure (.ok (targetAssets.map (relayer.place amountPerAssetAtomic timestamp)))

end CexRelayer

/-! ## The cycle -/

inductive CycleResult where
  | dryRun
  | executed (placements : List Placement)
  | unhealthy
  | failed (message : String)
  deriving DecidableEq

def rawSecret : Bytes := ascii "VALID_BINANCE_API_KEY:VALID_BINANCE_API_SECRET"

section Cycle

variable {PublicKey PrivateKey Seed : Type}

/-- The part of `main` that executes an intent. `seed` is the randomness of the encryption,
and `timestamp` the time in milliseconds. -/
def executionCycle (build : Build) (crypto : Crypto PublicKey PrivateKey Seed)
    (privateKey : PrivateKey) (seed : Seed) (timestamp : Nat) (intent : ExecutionIntent) :
    Except Panic CycleResult :=
  match crypto.encrypt (crypto.publicKey privateKey) seed rawSecret with
  | none => .error (.expect "Failed to encrypt client secrets")
  | some encryptedBlob => do
      let encryptedPayload : EncryptedSecrets :=
        { blob := encryptedBlob, enclavePubkeyHash := publicKeyHash crypto privateKey }
      let targetAssets := intent.orders.map OrderIntent.asset
      let totalAmountAtomic ← sumU128 build (intent.orders.map OrderIntent.amount)
      if intent.mode = ascii "dry_run" then
        match decryptSecrets crypto privateKey encryptedPayload with
        | .ok _ => pure .dryRun
        | .error message => pure (.failed message)
      else do
        let asset ← firstOf targetAssets
        if CexRelayer.new.checkBinanceHealth asset then
          match ← CexRelayer.new.executeReverseDca crypto privateKey encryptedPayload timestamp
            targetAssets (formatDecimal totalAmountAtomic.toNat) with
          | .ok placements => pure (.executed placements)
          | .error message => pure (.failed message)
        else pure .unhealthy

variable {build : Build} {crypto : Crypto PublicKey PrivateKey Seed} {privateKey : PrivateKey}
  {seed : Seed} {timestamp : Nat} {intent : ExecutionIntent}

def ExecutionIntent.totalCap (intent : ExecutionIntent) : Nat :=
  (intent.orders.map fun order => order.amount.toNat).sum

def ExecutionIntent.share (intent : ExecutionIntent) : U128 :=
  .ofNat 128 (intent.totalCap % 2 ^ 128 / intent.orders.length)

theorem toNat_share (intent : ExecutionIntent) :
    intent.share.toNat = intent.totalCap % 2 ^ 128 / intent.orders.length := by
  rw [ExecutionIntent.share, BitVec.toNat_ofNat]
  apply Nat.mod_eq_of_lt
  exact Nat.lt_of_le_of_lt (Nat.div_le_self _ _) (Nat.mod_lt _ (by decide))

theorem sumU128_amounts (build : Build) (intent : ExecutionIntent) :
    sumU128 build (intent.orders.map OrderIntent.amount) =
      if build = .debug ∧ 2 ^ 128 ≤ intent.totalCap then .error .addWithOverflow
      else .ok (U128.sum (intent.orders.map OrderIntent.amount)) := by
  have total : ((intent.orders.map OrderIntent.amount).map BitVec.toNat).sum = intent.totalCap := by
    rw [List.map_map]
    rfl
  rw [sumU128, total]

/-- The sum gets through its text, and every asset is bought for its share, provided that
there is one and the keys can be decrypted. -/
theorem executeReverseDca_eq (intent : ExecutionIntent) (some : intent.orders ≠ [])
    (encryptedKeys : EncryptedSecrets) (timestamp : Nat) :
    CexRelayer.new.executeReverseDca crypto privateKey encryptedKeys timestamp
        (intent.orders.map OrderIntent.asset)
        (formatDecimal (U128.sum (intent.orders.map OrderIntent.amount)).toNat) =
      .ok ((decryptSecrets crypto privateKey encryptedKeys).map fun _ =>
        intent.orders.map fun order => CexRelayer.new.place intent.share timestamp order.asset) := by
  have share : divideU128 (U128.sum (intent.orders.map OrderIntent.amount))
      (intent.orders.map OrderIntent.asset).length = .ok intent.share := by
    have count : (intent.orders.map OrderIntent.asset).length ≠ 0 := by
      rw [List.length_map]
      exact fun none => some (List.length_eq_zero_iff.mp none)
    rw [divideU128, if_neg count, U128.toNat_sum, List.map_map, List.length_map]
    rfl
  rw [CexRelayer.executeReverseDca, parseU128_formatDecimal]
  dsimp only
  cases decryptSecrets crypto privateKey encryptedKeys with
  | error message => rfl
  | ok keys =>
      rw [share]
      dsimp only [Bind.bind, Except.bind, pure, Except.pure, Except.map]
      rw [List.map_map]
      rfl

def ExecutionIntent.placements (timestamp : Nat) (intent : ExecutionIntent) : List Placement :=
  intent.orders.map fun order => CexRelayer.new.place intent.share timestamp order.asset

/-- A cycle that orders something ends with its placements or with a refused key. -/
theorem executionCycle_live {encryptedBlob : Bytes}
    (encrypts : crypto.encrypt (crypto.publicKey privateKey) seed rawSecret = some encryptedBlob)
    (fits : ¬(build = .debug ∧ 2 ^ 128 ≤ intent.totalCap)) (live : intent.mode ≠ ascii "dry_run")
    (some : intent.orders ≠ []) :
    executionCycle build crypto privateKey seed timestamp intent =
      match decryptSecrets crypto privateKey ⟨encryptedBlob, publicKeyHash crypto privateKey⟩ with
      | .ok _ => .ok (.executed (intent.placements timestamp))
      | .error message => .ok (.failed message) := by
  have first : ∃ asset, firstOf (intent.orders.map OrderIntent.asset) = .ok asset := by
    cases orders : intent.orders with
    | nil => exact absurd orders some
    | cons order rest => exact ⟨order.asset, rfl⟩
  obtain ⟨asset, first⟩ := first
  have healthy : CexRelayer.new.checkBinanceHealth asset = true := rfl
  unfold executionCycle
  rw [encrypts]
  dsimp only
  rw [sumU128_amounts, if_neg fits]
  dsimp only [Bind.bind, Except.bind]
  rw [if_neg live, first]
  dsimp only
  rw [if_pos healthy, executeReverseDca_eq intent some]
  cases decryptSecrets crypto privateKey ⟨encryptedBlob, publicKeyHash crypto privateKey⟩ with
  | ok keys => rfl
  | error message => rfl

/-! ## When the cycle is defined -/

/-- Something is ordered, unless nothing is executed, and the sum of the amounts fits. -/
def Executable (intent : ExecutionIntent) : Prop :=
  (intent.mode = ascii "dry_run" ∨ intent.orders ≠ []) ∧ intent.totalCap < 2 ^ 128

instance : Decidable (Executable intent) := inferInstanceAs (Decidable ((_ ∨ _) ∧ _))

/-- The cycle comes to an end in every build: it indexes nothing outside of a list, divides
by no zero, and no sum exceeds its word, as a debug build would stop there. -/
def Defined (crypto : Crypto PublicKey PrivateKey Seed) (privateKey : PrivateKey) (seed : Seed)
    (timestamp : Nat) (intent : ExecutionIntent) : Prop :=
  ∀ build, ∃ result, executionCycle build crypto privateKey seed timestamp intent = .ok result

/-- The cycle is defined exactly for executable intents, accepted or not. -/
theorem cycle_defined_iff {encryptedBlob : Bytes}
    (encrypts : crypto.encrypt (crypto.publicKey privateKey) seed rawSecret = some encryptedBlob)
    (timestamp : Nat) (intent : ExecutionIntent) :
    Defined crypto privateKey seed timestamp intent ↔ Executable intent := by
  constructor
  · intro defined
    obtain ⟨result, ended⟩ := defined .debug
    unfold executionCycle at ended
    rw [encrypts] at ended
    dsimp only at ended
    rw [sumU128_amounts] at ended
    have fits : intent.totalCap < 2 ^ 128 := by
      by_contra large
      rw [if_pos ⟨rfl, Nat.le_of_not_lt large⟩] at ended
      cases ended
    refine ⟨?_, fits⟩
    by_contra nothing
    rw [not_or, not_not] at nothing
    obtain ⟨live, none⟩ := nothing
    rw [if_neg (fun overflow => absurd overflow.2 (Nat.not_le_of_lt fits)), none] at ended
    dsimp only [Bind.bind, Except.bind] at ended
    rw [if_neg live] at ended
    cases ended
  · rintro ⟨ordered, fits⟩ build
    have fits' : ¬(build = .debug ∧ 2 ^ 128 ≤ intent.totalCap) :=
      fun overflow => absurd overflow.2 (Nat.not_le_of_lt fits)
    by_cases dryRun : intent.mode = ascii "dry_run"
    · unfold executionCycle
      rw [encrypts]
      dsimp only
      rw [sumU128_amounts, if_neg fits']
      dsimp only [Bind.bind, Except.bind]
      rw [if_pos dryRun]
      split <;> exact ⟨_, rfl⟩
    · rw [executionCycle_live encrypts fits' dryRun (ordered.resolve_left dryRun)]
      split <;> exact ⟨_, rfl⟩

end Cycle

namespace Sample

def intent (orders : List (String × String)) : ExecutionIntent :=
  { intentType := ascii "portfolio_trade_batch"
    venue := ascii "Binance"
    mode := ascii "restricted_live"
    sourceAsset := ascii "USDT"
    orders := orders.map fun (asset, amount) =>
      ⟨ascii "BUY", ascii asset, ascii amount, ascii "MARKET"⟩
    constraints := ⟨100, ascii "2030-05-01T12:00:00Z", [ascii "EGLD/USDT", ascii "BTC/USDT"], false⟩
    clientReferenceId := ascii "batch-1" }

def parseDateTime (text : Text) : Option Int :=
  if text = ascii "2030-05-01T12:00:00Z" then some 1903953600 else none

def Accepts (orders : List (String × String)) : Prop :=
  validateIntent parseDateTime 1767225600 (intent orders) (some [1, 2, 3, 4]) = .ok ()

instance : DecidablePred Accepts := fun _ => inferInstanceAs (Decidable (_ = _))

def half : String := "170141183460469231731687303715884105728"

end Sample

theorem cycle_defined_iff_sample :
    Defined Sample.crypto () 7 1000 (Sample.intent [("EGLD/USDT", "100"), ("BTC/USDT", "50")]) :=
  (cycle_defined_iff (show Sample.crypto.encrypt () 7 rawSecret = some (7 :: rawSecret) by
    decide +kernel) 1000 _).mpr (by decide +kernel)

/-- An intent without orders is accepted, and its cycle stops at the first of them; one
whose amounts exceed a word together is accepted as well, and stops at their sum. -/
theorem accepted_cycle_undefined :
    (Sample.Accepts [] ∧ executionCycle .release Sample.crypto () 7 1000 (Sample.intent []) =
        .error .indexOutOfBounds) ∧
      Sample.Accepts [("EGLD/USDT", Sample.half), ("BTC/USDT", Sample.half)] ∧
        executionCycle .debug Sample.crypto () 7 1000
            (Sample.intent [("EGLD/USDT", Sample.half), ("BTC/USDT", Sample.half)]) =
          .error .addWithOverflow := by
  decide +kernel

end XCron.Xse
