import Mathlib.Algebra.BigOperators.Group.List.Basic
import XCron.Platform.Bytes

/-!
# Words of 128 bits

`u128` as a release build computes with it: sums and differences wrap. A decimal text is
read as `parse::<u128>` reads it.
-/

namespace Platform

abbrev U128 := BitVec 128

namespace U128

theorem toNat_add_eq_iff (first second : U128) :
    (first + second).toNat = first.toNat + second.toNat ↔
      first.toNat + second.toNat < 2 ^ 128 := by
  rw [BitVec.toNat_add]
  constructor
  · intro exact
    rw [← exact]
    exact Nat.mod_lt _ (by decide)
  · exact Nat.mod_eq_of_lt

def sum (words : List U128) : U128 := words.foldl (fun total word => total + word) 0

theorem toNat_foldl (words : List U128) (start : U128) :
    (words.foldl (fun total word => total + word) start).toNat =
      (start.toNat + (words.map BitVec.toNat).sum) % 2 ^ 128 := by
  induction words generalizing start with
  | nil => exact (Nat.mod_eq_of_lt start.isLt).symm
  | cons word words inductionHypothesis =>
      rw [List.foldl_cons, inductionHypothesis, BitVec.toNat_add, Nat.mod_add_mod, List.map_cons,
        List.sum_cons, Nat.add_assoc]

theorem toNat_sum (words : List U128) :
    (sum words).toNat = (words.map BitVec.toNat).sum % 2 ^ 128 := by
  rw [sum, toNat_foldl]
  exact congrArg (· % 2 ^ 128) (Nat.zero_add _)

theorem eq_zero_iff (word : U128) : word = 0 ↔ word.toNat = 0 := by
  constructor
  · rintro rfl
    rfl
  · intro zero
    exact BitVec.eq_of_toNat_eq zero

end U128

def decimalDigit (byte : UInt8) : Option Nat :=
  if 48 ≤ byte ∧ byte ≤ 57 then some (byte.toNat - 48) else none

/-- `parse::<u128>`: digits, at least one of them, after a plus sign or none; what does
not fit is an error. -/
def parseU128 (text : Text) : Option U128 := do
  let digits := if text.head? = some 43 then text.tail else text
  if digits = [] then none
  else
    let value ← digits.foldlM
      (fun value byte => (decimalDigit byte).map fun digit => value * 10 + digit) 0
    if value < 2 ^ 128 then some (.ofNat 128 value) else none

end Platform
