import Mathlib.Algebra.Order.BigOperators.Group.List
import XCron.Platform.Call

/-!
# Token holdings

What an account holds of every token and nonce, as payments come in and go out.
-/

namespace Platform

/-- The amount held of each token and nonce. -/
abbrev Holdings := Bytes → Nat → Nat

def received (payments : List EsdtPayment) (token : Bytes) (nonce : Nat) : Nat :=
  ((payments.filter fun payment => payment.token = token ∧ payment.nonce = nonce).map
    EsdtPayment.amount).sum

theorem received_append (payments later : List EsdtPayment) (token : Bytes) (nonce : Nat) :
    received (payments ++ later) token nonce =
      received payments token nonce + received later token nonce := by
  simp only [received, List.filter_append, List.map_append, List.sum_append]

theorem received_single (payment : EsdtPayment) (token : Bytes) (nonce : Nat) :
    received [payment] token nonce =
      if payment.token = token ∧ payment.nonce = nonce then payment.amount else 0 := by
  unfold received
  split
  next same => simp [same]
  next different => simp [different]

theorem amount_le_received {payments : List EsdtPayment} {payment : EsdtPayment}
    (member : payment ∈ payments) :
    payment.amount ≤ received payments payment.token payment.nonce := by
  apply List.le_sum_of_mem
  apply List.mem_map_of_mem
  simpa using member

theorem received_le_of_sublist {some payments : List EsdtPayment} (sublist : some.Sublist payments)
    (token : Bytes) (nonce : Nat) : received some token nonce ≤ received payments token nonce := by
  unfold received
  apply List.Sublist.sum_le_sum
  · exact (sublist.filter _).map _
  · exact fun _ _ => Nat.zero_le _

theorem received_single_le {payments : List EsdtPayment} {payment : EsdtPayment}
    (member : payment ∈ payments) (token : Bytes) (nonce : Nat) :
    received [payment] token nonce ≤ received payments token nonce := by
  rw [received_single]
  split
  next same =>
    obtain ⟨rfl, rfl⟩ := same
    exact amount_le_received member
  next => exact Nat.zero_le _

namespace Holdings

def empty : Holdings := fun _ _ => 0

def credit (payments : List EsdtPayment) (holdings : Holdings) : Holdings :=
  fun token nonce => holdings token nonce + received payments token nonce

def without (payment : EsdtPayment) (holdings : Holdings) : Holdings :=
  fun token nonce => holdings token nonce - received [payment] token nonce

/-- A payment goes out, if the holdings cover it. -/
def debit (payment : EsdtPayment) (holdings : Holdings) : Outcome Holdings :=
  if payment.amount ≤ holdings payment.token payment.nonce then .ok (holdings.without payment)
  else .error .esdtShortage

theorem debit_ok {holdings after : Holdings} {payment : EsdtPayment}
    (paid : holdings.debit payment = .ok after) (token : Bytes) (nonce : Nat) :
    after token nonce + received [payment] token nonce = holdings token nonce := by
  unfold debit at paid
  split at paid
  next covered =>
    obtain rfl := Except.ok.inj paid
    apply Nat.sub_add_cancel
    rw [received_single]
    split
    next same =>
      obtain ⟨rfl, rfl⟩ := same
      exact covered
    next => exact Nat.zero_le _
  next => cases paid

end Holdings

end Platform
