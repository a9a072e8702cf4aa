import XCron.Platform.Decimal

/-!
# Execution intents

The intents of `xse-protocol/src/schema.rs` and their validation in
`xse-protocol/src/validator.rs`. Every check is about one field or one order; nothing is
asked of the list of orders as a whole.
-/

namespace XCron.Xse

open Platform

/-! ## The schema -/

structure OrderIntent where
  side : Text
  asset : Text
  maxQuoteAmountAtomic : Text
  orderType : Text
  deriving DecidableEq

structure Constraints where
  maxSlippageBps : UInt32
  expiresAt : Text
  allowedAssets : List Text
  allowWithdrawals : Bool
  deriving DecidableEq

structure ExecutionIntent where
  intentType : Text
  venue : Text
  mode : Text
  sourceAsset : Text
  orders : List OrderIntent
  constraints : Constraints
  clientReferenceId : Text
  deriving DecidableEq

def OrderIntent.amount (order : OrderIntent) : U128 := (parseU128 order.maxQuoteAmountAtomic).getD 0

/-! ## Validation -/

inductive ValidationError where
  | withdrawalsEnabled
  | expired
  | assetNotAllowed (asset : Text)
  | excessiveSlippage (bps : UInt32)
  | invalidQuantumSignature
  | invalidVenue (venue : Text)
  deriving DecidableEq

/-- `to_lowercase`. No character but an ASCII letter has an ASCII lower case that one of
the supported venues contains, so the others are left alone. -/
def lowercase (text : Text) : Text :=
  text.map fun byte => if 65 ≤ byte ∧ byte ≤ 90 then byte + 32 else byte

def supportedVenues : List Text :=
  [ascii "binance", ascii "xexchange", ascii "ashswap", ascii "dry_run"]

def refuseIf (condition : Prop) [Decidable condition] (error : ValidationError) :
    Except ValidationError Unit :=
  if condition then .error error else .ok ()

def validateOrder (constraints : Constraints) (order : OrderIntent) :
    Except ValidationError Unit := do
  refuseIf (order.amount = 0) (.assetNotAllowed (ascii "INVALID_AMOUNT_ZERO_OR_NON_NUMERIC"))
  refuseIf (order.asset ∉ constraints.allowedAssets) (.assetNotAllowed order.asset)

def validateSignature : Option Bytes → Except ValidationError Unit
  | some signature => refuseIf (signature = []) .invalidQuantumSignature
  | none => .error .invalidQuantumSignature

/-- The check of the date, where one that cannot be read has passed. -/
def validateExpiry (now : Int) : Option Int → Except ValidationError Unit
  | some expiresAt => refuseIf (expiresAt < now) .expired
  | none => .error .expired

/-- `validate_intent`. `parseDateTime` reads a date with a zone as an instant, and `now` is
the present one. -/
def validateIntent (parseDateTime : Text → Option Int) (now : Int) (intent : ExecutionIntent)
    (quantumSignature : Option Bytes) : Except ValidationError Unit := do
  refuseIf (intent.constraints.allowWithdrawals = true) .withdrawalsEnabled
  refuseIf (lowercase intent.venue ∉ supportedVenues) (.invalidVenue intent.venue)
  refuseIf (100 < intent.constraints.maxSlippageBps)
    (.excessiveSlippage intent.constraints.maxSlippageBps)
  forM intent.orders (validateOrder intent.constraints)
  validateSignature quantumSignature
  validateExpiry now (parseDateTime intent.constraints.expiresAt)

/-! ## What is accepted -/

variable {parseDateTime : Text → Option Int} {now : Int} {intent : ExecutionIntent}
  {quantumSignature : Option Bytes}

theorem refuseIf_eq_ok {condition : Prop} [Decidable condition] {error : ValidationError} :
    refuseIf condition error = .ok () ↔ ¬condition := by
  unfold refuseIf
  split
  next refused => simp [refused]
  next passed => simp [passed]

theorem andThen_eq_ok {first second : Except ValidationError Unit} :
    (first >>= fun _ => second) = .ok () ↔ first = .ok () ∧ second = .ok () := by
  cases first with
  | error fault => simp [Bind.bind, Except.bind]
  | ok _ => simp [Bind.bind, Except.bind]

theorem forM_eq_ok {Item : Type} {check : Item → Except ValidationError Unit} {items : List Item} :
    forM items check = .ok () ↔ ∀ item ∈ items, check item = .ok () := by
  induction items with
  | nil => simp [pure, Except.pure]
  | cons item rest inductionHypothesis =>
      rw [List.forM_cons, List.forall_mem_cons, ← inductionHypothesis]
      exact andThen_eq_ok

theorem validateOrder_eq_ok {constraints : Constraints} {order : OrderIntent} :
    validateOrder constraints order = .ok () ↔
      order.amount ≠ 0 ∧ order.asset ∈ constraints.allowedAssets := by
  unfold validateOrder
  rw [andThen_eq_ok, refuseIf_eq_ok, refuseIf_eq_ok, not_not]

/-- What is known about an intent that was accepted. -/
structure Accepted (parseDateTime : Text → Option Int) (now : Int) (intent : ExecutionIntent)
    (quantumSignature : Option Bytes) : Prop where
  withdrawals : intent.constraints.allowWithdrawals = false
  venue : lowercase intent.venue ∈ supportedVenues
  slippage : intent.constraints.maxSlippageBps ≤ 100
  amounts : ∀ order ∈ intent.orders, order.amount ≠ 0
  assets : ∀ order ∈ intent.orders, order.asset ∈ intent.constraints.allowedAssets
  signature : ∃ signature, quantumSignature = some signature ∧ signature ≠ []
  unexpired : ∃ expiresAt, parseDateTime intent.constraints.expiresAt = some expiresAt ∧
    now ≤ expiresAt

theorem accepted_of_ok
    (valid : validateIntent parseDateTime now intent quantumSignature = .ok ()) :
    Accepted parseDateTime now intent quantumSignature := by
  unfold validateIntent at valid
  rw [andThen_eq_ok, andThen_eq_ok, andThen_eq_ok, andThen_eq_ok, andThen_eq_ok, refuseIf_eq_ok,
    refuseIf_eq_ok, refuseIf_eq_ok, forM_eq_ok] at valid
  obtain ⟨withdrawals, venue, slippage, orders, signed, dated⟩ := valid
  refine ⟨Bool.eq_false_of_not_eq_true withdrawals, not_not.mp venue, UInt32.not_lt.mp slippage,
    ?_, ?_, ?_, ?_⟩
  · exact fun order member => (validateOrder_eq_ok.mp (orders order member)).1
  · exact fun order member => (validateOrder_eq_ok.mp (orders order member)).2
  · cases quantumSignature with
    | none => cases signed
    | some signature => exact ⟨signature, rfl, refuseIf_eq_ok.mp signed⟩
  · cases parsed : parseDateTime intent.constraints.expiresAt with
    | none =>
        rw [parsed] at dated
        cases dated
    | some expiresAt =>
        rw [parsed] at dated
        exact ⟨expiresAt, rfl, not_lt.mp (refuseIf_eq_ok.mp dated)⟩

end XCron.Xse
