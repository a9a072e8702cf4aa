import XCron.Platform.Bytes

/-!
# Base64 text

The standard alphabet with padding. Three bytes are written as four digits of six
bits; a shorter last group is padded with equality signs.
-/

namespace Platform

def base64Digit (value : Nat) : UInt8 :=
  if value < 26 then UInt8.ofNat (65 + value)
  else if value < 52 then UInt8.ofNat (71 + value)
  else if value < 62 then UInt8.ofNat (value - 4)
  else if value = 62 then 43
  else 47

def base64Value (digit : UInt8) : Option Nat :=
  if 65 ≤ digit ∧ digit ≤ 90 then some (digit.toNat - 65)
  else if 97 ≤ digit ∧ digit ≤ 122 then some (digit.toNat - 71)
  else if 48 ≤ digit ∧ digit ≤ 57 then some (digit.toNat + 4)
  else if digit = 43 then some 62
  else if digit = 47 then some 63
  else none

def base64Pad : UInt8 := 61

def base64Encode : Bytes → Text
  | [] => []
  | [a] =>
      [base64Digit (a.toNat / 4), base64Digit (a.toNat % 4 * 16), base64Pad, base64Pad]
  | [a, b] =>
      [base64Digit (a.toNat / 4), base64Digit (a.toNat % 4 * 16 + b.toNat / 16),
        base64Digit (b.toNat % 16 * 4), base64Pad]
  | a :: b :: c :: rest =>
      base64Digit (a.toNat / 4) :: base64Digit (a.toNat % 4 * 16 + b.toNat / 16) ::
        base64Digit (b.toNat % 16 * 4 + c.toNat / 64) :: base64Digit (c.toNat % 64) ::
          base64Encode rest

/-- The bytes of a last group with padding; the bits that the padding stands for
must be zero. -/
def base64Last (p q r : UInt8) : Option Bytes := do
  let first ← base64Value p
  let second ← base64Value q
  if r = base64Pad then
    if second % 16 = 0 then some [UInt8.ofNat (first * 4 + second / 16)] else none
  else do
    let third ← base64Value r
    if third % 4 = 0 then
      some [UInt8.ofNat (first * 4 + second / 16), UInt8.ofNat (second % 16 * 16 + third / 4)]
    else none

def base64Decode : Text → Option Bytes
  | [] => some []
  | p :: q :: r :: s :: rest =>
      if s = base64Pad then if rest = [] then base64Last p q r else none
      else do
        let first ← base64Value p
        let second ← base64Value q
        let third ← base64Value r
        let fourth ← base64Value s
        let bytes ← base64Decode rest
        pure (UInt8.ofNat (first * 4 + second / 16) :: UInt8.ofNat (second % 16 * 16 + third / 4) ::
          UInt8.ofNat (third % 4 * 64 + fourth) :: bytes)
  | _ => none

theorem base64Value_digit {value : Nat} (small : value < 64) :
    base64Value (base64Digit value) = some value := by
  revert value
  decide

theorem base64Digit_ne_pad {value : Nat} (small : value < 64) : base64Digit value ≠ base64Pad := by
  revert value
  decide

theorem base64Decode_encode (bytes : Bytes) : base64Decode (base64Encode bytes) = some bytes := by
  induction bytes using base64Encode.induct with
  | case1 => rfl
  | case2 a =>
      have bound := a.toNat_lt
      have byte : a.toNat / 4 * 4 + a.toNat % 4 * 16 / 16 = a.toNat := by omega
      rw [base64Encode, base64Decode, if_pos rfl, if_pos rfl, base64Last,
        base64Value_digit (by omega), base64Value_digit (by omega)]
      simp only [Option.bind_eq_bind, Option.bind_some, if_true, Nat.mul_mod_left, byte,
        UInt8.ofNat_toNat]
  | case3 a b =>
      have bound := a.toNat_lt
      have bound' := b.toNat_lt
      have first : a.toNat / 4 * 4 + (a.toNat % 4 * 16 + b.toNat / 16) / 16 = a.toNat := by omega
      have second : (a.toNat % 4 * 16 + b.toNat / 16) % 16 * 16 + b.toNat % 16 * 4 / 4 = b.toNat := by
        omega
      have filled : base64Digit (b.toNat % 16 * 4) ≠ base64Pad := base64Digit_ne_pad (by omega)
      rw [base64Encode, base64Decode, if_pos rfl, if_pos rfl, base64Last,
        base64Value_digit (by omega), base64Value_digit (by omega)]
      simp only [Option.bind_eq_bind, Option.bind_some, if_neg filled,
        base64Value_digit (show b.toNat % 16 * 4 < 64 by omega), Nat.mul_mod_left, if_true, first,
        second, UInt8.ofNat_toNat]
  | case4 a b c rest inductionHypothesis =>
      have bound := a.toNat_lt
      have bound' := b.toNat_lt
      have bound'' := c.toNat_lt
      have first : a.toNat / 4 * 4 + (a.toNat % 4 * 16 + b.toNat / 16) / 16 = a.toNat := by omega
      have second : (a.toNat % 4 * 16 + b.toNat / 16) % 16 * 16 +
          (b.toNat % 16 * 4 + c.toNat / 64) / 4 = b.toNat := by omega
      have third : (b.toNat % 16 * 4 + c.toNat / 64) % 4 * 64 + c.toNat % 64 = c.toNat := by omega
      rw [base64Encode, base64Decode, if_neg (base64Digit_ne_pad (by omega)),
        base64Value_digit (by omega), base64Value_digit (by omega), base64Value_digit (by omega),
        base64Value_digit (by omega), inductionHypothesis]
      simp only [Option.bind_eq_bind, Option.bind_some, Option.pure_def, first, second, third,
        UInt8.ofNat_toNat]

end Platform
