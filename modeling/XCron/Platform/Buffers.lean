import XCron.Platform.Codec

/-!
# Buffers of JavaScript

A parser of bytes keeps an offset and reads what stands there. What it reads of nested
encodings follows from what is ahead of the offset, and what is ahead of the next one is
the rest.
-/

namespace Platform

/-! ## Reading -/

def readUInt32BE (data : Bytes) (offset : Nat) : Option Nat :=
  if offset + 4 ≤ data.length then some (beValue ((data.drop offset).take 4)) else none

def readBigUInt64BE (data : Bytes) (offset : Nat) : Option Nat :=
  if offset + 8 ≤ data.length then some (beValue ((data.drop offset).take 8)) else none

/-- `buffer.subarray(start, stop)` -/
def subarray (data : Bytes) (start stop : Nat) : Bytes := (data.drop start).take (stop - start)

/-- `Number(value)`: the nearest number of fifty-three binary digits, the even one of two. -/
def numberOfBigInt (value : Nat) : Nat :=
  if value < 2 ^ 53 then value
  else
    let unit := 2 ^ (value.log2 - 52)
    let quotient := value / unit
    let rest := value % unit
    if unit < 2 * rest ∨ unit = 2 * rest ∧ quotient % 2 = 1 then (quotient + 1) * unit
    else quotient * unit

/-! ## What is ahead -/

def Ahead (data : Bytes) (offset : Nat) (bytes : Bytes) : Prop := data.drop offset = bytes

variable {data bytes rest : Bytes} {offset value : Nat}

theorem Ahead.start (data : Bytes) : Ahead data 0 data := List.drop_zero

theorem Ahead.past (ahead : Ahead data offset (bytes ++ rest)) {width : Nat}
    (exactWidth : bytes.length = width) : Ahead data (offset + width) rest := by
  rw [Ahead, ← List.drop_drop, ahead, List.drop_left' exactWidth]

theorem Ahead.subarray (ahead : Ahead data offset (bytes ++ rest)) {width : Nat}
    (exactWidth : bytes.length = width) :
    Platform.subarray data offset (offset + width) = bytes := by
  rw [Platform.subarray, ahead, Nat.add_sub_cancel_left, List.take_left' exactWidth]

theorem Ahead.enough (ahead : Ahead data offset (bytes ++ rest)) (some : 0 < bytes.length) :
    offset + bytes.length ≤ data.length := by
  have length := congrArg List.length ahead
  rw [List.length_drop, List.length_append] at length
  omega

theorem Ahead.next {byte : UInt8} (ahead : Ahead data offset (byte :: rest)) :
    offset < data.length ∧ data[offset]? = some byte ∧ Ahead data (offset + 1) rest := by
  have single : Ahead data offset ([byte] ++ rest) := ahead
  refine ⟨single.enough Nat.one_pos, ?_, single.past rfl⟩
  have first := congrArg List.head? ahead
  rwa [List.head?_drop] at first

theorem length_encodeLength (length : Nat) : (encodeLength length).length = 4 := length_beBytes 4 _

theorem length_encodeU64 (value : UInt64) : (encodeU64 value).length = 8 := length_beBytes 8 _

theorem beValue_encodeU64 (value : UInt64) : beValue (encodeU64 value) = value.toNat := by
  rw [encodeU64, beValue_beBytes]
  exact Nat.mod_eq_of_lt value.toNat_lt

theorem Ahead.readUInt32BE (ahead : Ahead data offset (encodeLength value ++ rest))
    (small : value < 2 ^ 32) : Platform.readUInt32BE data offset = some value := by
  have four := length_encodeLength value
  have enough := ahead.enough (four ▸ Nat.succ_pos 3)
  have whole : value % 256 ^ 4 = value := Nat.mod_eq_of_lt small
  rw [four] at enough
  rw [Platform.readUInt32BE, if_pos enough, ahead, List.take_left' four, encodeLength,
    beValue_beBytes, whole]

theorem Ahead.readBigUInt64BE {value : UInt64}
    (ahead : Ahead data offset (encodeU64 value ++ rest)) :
    Platform.readBigUInt64BE data offset = some value.toNat := by
  have eight := length_encodeU64 value
  have enough := ahead.enough (eight ▸ Nat.succ_pos 7)
  rw [eight] at enough
  rw [Platform.readBigUInt64BE, if_pos enough, ahead, List.take_left' eight, beValue_encodeU64]

theorem Ahead.buffer (ahead : Ahead data offset (encodeBuffer bytes ++ rest))
    (fits : bytes.length < 2 ^ 32) :
    Platform.readUInt32BE data offset = some bytes.length ∧
      Platform.subarray data (offset + 4) (offset + 4 + bytes.length) = bytes ∧
      Ahead data (offset + 4 + bytes.length) rest := by
  rw [encodeBuffer, List.append_assoc] at ahead
  have digits := ahead.past (length_encodeLength _)
  exact ⟨ahead.readUInt32BE fits, digits.subarray rfl, digits.past rfl⟩

/-! ## Numbers -/

theorem numberOfBigInt_exact (small : value < 2 ^ 53) : numberOfBigInt value = value := by
  rw [numberOfBigInt, if_pos small]

theorem le_numberOfBigInt (large : 2 ^ 53 ≤ value) : 2 ^ 53 ≤ numberOfBigInt value := by
  have positive : value ≠ 0 := by omega
  have log : 53 ≤ value.log2 := (Nat.le_log2 positive).mpr large
  have low : 2 ^ 53 ≤ value / 2 ^ (value.log2 - 52) * 2 ^ (value.log2 - 52) := by
    have whole : 2 ^ 52 * 2 ^ (value.log2 - 52) = 2 ^ value.log2 := by
      rw [← Nat.pow_add]
      congr 1
      omega
    have digits : 2 ^ 52 ≤ value / 2 ^ (value.log2 - 52) := by
      rw [Nat.le_div_iff_mul_le (Nat.two_pow_pos _), whole]
      exact Nat.log2_self_le positive
    calc 2 ^ 53 ≤ 2 ^ value.log2 := Nat.pow_le_pow_right (Nat.succ_pos 1) log
      _ = 2 ^ 52 * 2 ^ (value.log2 - 52) := whole.symm
      _ ≤ _ := Nat.mul_le_mul_right _ digits
  unfold numberOfBigInt
  rw [if_neg (Nat.not_lt.mpr large)]
  simp only
  split
  · exact Nat.le_trans low (Nat.mul_le_mul_right _ (Nat.le_succ _))
  · exact low

theorem numberOfBigInt_le_iff {now : Nat} (exactNow : now < 2 ^ 53) :
    numberOfBigInt value ≤ now ↔ value ≤ now := by
  by_cases small : value < 2 ^ 53
  · rw [numberOfBigInt_exact small]
  · have large := Nat.le_of_not_lt small
    have rounded := le_numberOfBigInt large
    constructor <;> intro within <;> omega

end Platform
