import XCron.Platform.Codec

/-!
# Canonical numerals

The minimal numeral of a number does not begin with a zero, and every byte string that
does not is the numeral of its value.
-/

namespace Platform

theorem head?_natBytes (value : Nat) : (natBytes value).head? ≠ some 0 := by
  rw [natBytes, List.head?_reverse, List.getLast?_map]
  intro zero
  obtain ⟨digit, last, digitZero⟩ := Option.map_eq_some_iff.mp zero
  have nonempty : Nat.digits 256 value ≠ [] := by
    rintro none
    rw [none] at last
    cases last
  have positive : value ≠ 0 := by
    rintro rfl
    exact nonempty (Nat.digits_zero 256)
  have leading := Nat.getLast_digit_ne_zero 256 positive
  rw [List.getLast?_eq_some_getLast nonempty] at last
  obtain rfl := Option.some.inj last
  have small := Nat.digits_lt_base (by decide : 1 < 256) (List.getLast_mem nonempty)
  have value := congrArg UInt8.toNat digitZero
  rw [UInt8.toNat_ofNat', Nat.mod_eq_of_lt small] at value
  exact leading value

theorem natBytes_beValue {bytes : Bytes} (canonical : bytes.head? ≠ some 0) :
    natBytes (beValue bytes) = bytes := by
  have value := beValue_reverse bytes.reverse
  rw [List.reverse_reverse] at value
  have digits : Nat.digits 256 (beValue bytes) = bytes.reverse.map UInt8.toNat := by
    rw [value]
    apply Nat.digits_ofDigits 256 (by decide)
    · intro digit member
      obtain ⟨byte, _, rfl⟩ := List.mem_map.mp member
      exact byte.toNat_lt
    · intro some
      have nonempty : bytes ≠ [] := by
        rintro rfl
        exact some rfl
      rw [List.getLast_map, List.getLast_reverse]
      intro zero
      apply canonical
      rw [List.head?_eq_some_head nonempty]
      exact congrArg Option.some (UInt8.toNat_inj.mp zero)
  rw [natBytes, digits, List.map_map]
  have same : UInt8.ofNat ∘ UInt8.toNat = id := by
    funext byte
    exact UInt8.ofNat_toNat
  rw [same, List.map_id, List.reverse_reverse]

theorem natBytes_ne_nil {value : Nat} (positive : value ≠ 0) : natBytes value ≠ [] := by
  intro none
  have same := beValue_natBytes value
  rw [none] at same
  exact positive same.symm

theorem natBytes_zero : natBytes 0 = [] := by
  rw [natBytes, Nat.digits_zero]
  rfl

theorem exists_zeros_numeral (bytes : Bytes) :
    ∃ count value, bytes = List.replicate count 0 ++ natBytes value := by
  induction bytes with
  | nil => exact ⟨0, 0, by rw [natBytes_zero]; rfl⟩
  | cons byte rest inductionHypothesis =>
      by_cases zero : byte = 0
      · obtain ⟨count, value, same⟩ := inductionHypothesis
        exact ⟨count + 1, value, by rw [zero, same]; rfl⟩
      · have leading : (byte :: rest).head? ≠ some 0 := fun same => zero (Option.some.inj same)
        exact ⟨0, beValue (byte :: rest), (natBytes_beValue leading).symm⟩

theorem beBytes_mod (width value : Nat) : beBytes width (value % 256 ^ width) = beBytes width value := by
  induction width generalizing value with
  | zero => rfl
  | succ width inductionHypothesis =>
      have low : value % 256 ^ (width + 1) % 256 ^ width = value % 256 ^ width :=
        Nat.mod_mod_of_dvd _ (pow_dvd_pow 256 (Nat.le_succ width))
      have leading : value % 256 ^ (width + 1) / 256 ^ width = value / 256 ^ width % 256 := by
        rw [pow_succ]
        exact Nat.mod_mul_right_div_self value (256 ^ width) 256
      rw [beBytes, beBytes, ← inductionHypothesis (value % 256 ^ (width + 1)), low,
        inductionHypothesis, leading, UInt8.ofNat_mod_size]

theorem beBytes_beValue (bytes : Bytes) : beBytes bytes.length (beValue bytes) = bytes := by
  induction bytes with
  | nil => rfl
  | cons byte rest inductionHypothesis =>
      have small : beValue rest < 256 ^ rest.length := by
        rw [← inductionHypothesis, beValue_beBytes, length_beBytes]
        exact Nat.mod_lt _ (by positivity)
      have leading : beValue (byte :: rest) / 256 ^ rest.length = byte.toNat := by
        rw [beValue_cons, Nat.mul_comm, Nat.mul_add_div (by positivity), Nat.div_eq_of_lt small,
          Nat.add_zero]
      have tail : beBytes rest.length (beValue (byte :: rest)) = rest := by
        rw [← beBytes_mod, beValue_cons, Nat.mul_add_mod_self_right, Nat.mod_eq_of_lt small,
          inductionHypothesis]
      rw [List.length_cons, beBytes, leading, tail, UInt8.ofNat_toNat]

end Platform
