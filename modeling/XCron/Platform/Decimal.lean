import Mathlib.Data.Nat.Digits.Lemmas
import XCron.Platform.U128

/-!
# Decimal numerals

A number is written without leading zeros, and read back as itself.
-/

namespace Platform

def formatDecimal (value : Nat) : Text :=
  if value = 0 then [48] else ((Nat.digits 10 value).map fun digit => UInt8.ofNat (48 + digit)).reverse

theorem decimalDigit_ofNat {digit : Nat} (small : digit < 10) :
    decimalDigit (UInt8.ofNat (48 + digit)) = some digit := by
  interval_cases digit <;> rfl

theorem foldlM_decimal {digits : List Nat} (small : ∀ digit ∈ digits, digit < 10) (start : Nat) :
    (digits.map fun digit => UInt8.ofNat (48 + digit)).reverse.foldlM
        (fun value byte => (decimalDigit byte).map fun digit => value * 10 + digit) start =
      some (start * 10 ^ digits.length + Nat.ofDigits 10 digits) := by
  induction digits with
  | nil => simp [Nat.ofDigits]
  | cons digit rest inductionHypothesis =>
      have tail := inductionHypothesis fun other member => small other (.tail _ member)
      have first := decimalDigit_ofNat (small digit (.head _))
      rw [List.map_cons, List.reverse_cons, List.foldlM_append, tail]
      simp only [Option.bind_eq_bind, Option.bind_some, List.foldlM_cons, List.foldlM_nil, first,
        Option.map_some, Option.pure_def, Nat.ofDigits_cons, List.length_cons, pow_succ,
        Option.some.injEq]
      ring

theorem formatDecimal_digits (value : Nat) :
    ∃ digits, formatDecimal value =
        (digits.map fun digit => UInt8.ofNat (48 + digit)).reverse ∧
      digits ≠ [] ∧ (∀ digit ∈ digits, digit < 10) ∧ Nat.ofDigits 10 digits = value := by
  unfold formatDecimal
  split
  next zero =>
    subst zero
    exact ⟨[0], rfl, List.cons_ne_nil _ _, by simp, rfl⟩
  next positive =>
    refine ⟨Nat.digits 10 value, rfl, ?_, ?_, Nat.ofDigits_digits 10 value⟩
    · exact Nat.digits_ne_nil_iff_ne_zero.mpr positive
    · exact fun digit member => Nat.digits_lt_base (by decide) member

theorem parseU128_formatDecimal (word : U128) : parseU128 (formatDecimal word.toNat) = some word := by
  obtain ⟨digits, written, some, small, value⟩ := formatDecimal_digits word.toNat
  have noPlus : (formatDecimal word.toNat).head? ≠ Option.some 43 := by
    rw [written, List.head?_reverse, List.getLast?_map]
    intro plus
    obtain ⟨digit, last, same⟩ := Option.map_eq_some_iff.mp plus
    have bound := small digit (List.mem_of_getLast? last)
    have code := congrArg UInt8.toNat same
    rw [UInt8.toNat_ofNat', Nat.mod_eq_of_lt (by omega)] at code
    change 48 + digit = 43 at code
    omega
  have nonempty : formatDecimal word.toNat ≠ [] := by
    rw [written]
    simpa using some
  have read := foldlM_decimal small 0
  rw [← written, value, Nat.zero_mul, Nat.zero_add] at read
  unfold parseU128
  rw [if_neg noPlus]
  dsimp only
  rw [if_neg nonempty, read]
  simp only [Option.bind_eq_bind, Option.bind_some]
  rw [if_pos word.isLt, BitVec.ofNat_toNat, BitVec.setWidth_eq]

end Platform
