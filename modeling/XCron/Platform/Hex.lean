import XCron.Platform.Bytes

/-!
# Hexadecimal text

Encoders write lowercase digits; decoders take digits of either case, two to a
byte.
-/

namespace Platform

def hexDigit (value : Nat) : UInt8 :=
  if value < 10 then UInt8.ofNat (48 + value) else UInt8.ofNat (87 + value)

def hexValue (digit : UInt8) : Option Nat :=
  if 48 ≤ digit ∧ digit ≤ 57 then some (digit.toNat - 48)
  else if 97 ≤ digit ∧ digit ≤ 102 then some (digit.toNat - 87)
  else if 65 ≤ digit ∧ digit ≤ 70 then some (digit.toNat - 55)
  else none

def hexEncode (bytes : Bytes) : Text :=
  bytes.flatMap fun byte => [hexDigit (byte.toNat / 16), hexDigit (byte.toNat % 16)]

def hexDecode : Text → Option Bytes
  | [] => some []
  | [_] => none
  | high :: low :: rest => do
      let first ← hexValue high
      let second ← hexValue low
      let bytes ← hexDecode rest
      pure (UInt8.ofNat (16 * first + second) :: bytes)

def hexNumeral (value : Nat) : Text :=
  if value = 0 then [48] else ((Nat.digits 16 value).map hexDigit).reverse

/-- `{:0width x}`: zeros in front up to the width, more digits where they are needed. -/
def formatHex (width value : Nat) : Text :=
  List.replicate (width - (hexNumeral value).length) 48 ++ hexNumeral value

theorem hexValue_hexDigit {value : Nat} (small : value < 16) :
    hexValue (hexDigit value) = some value := by
  revert value
  decide

theorem hexDecode_hexEncode (bytes : Bytes) : hexDecode (hexEncode bytes) = some bytes := by
  induction bytes with
  | nil => rfl
  | cons byte rest inductionHypothesis =>
      have bound := byte.toNat_lt
      have high : hexValue (hexDigit (byte.toNat / 16)) = some (byte.toNat / 16) :=
        hexValue_hexDigit (by omega)
      have low : hexValue (hexDigit (byte.toNat % 16)) = some (byte.toNat % 16) :=
        hexValue_hexDigit (by omega)
      have halves : 16 * (byte.toNat / 16) + byte.toNat % 16 = byte.toNat := Nat.div_add_mod _ _
      change hexDecode (_ :: _ :: hexEncode rest) = _
      rw [hexDecode, high, low, inductionHypothesis]
      change some (UInt8.ofNat (16 * (byte.toNat / 16) + byte.toNat % 16) :: rest) = _
      rw [halves, UInt8.ofNat_toNat]

theorem hexDecode_append {front back : Text} {decoded : Bytes} (read : hexDecode front = some decoded) :
    hexDecode (front ++ back) = (hexDecode back).map (decoded ++ ·) := by
  induction front using hexDecode.induct generalizing decoded with
  | case1 =>
      obtain rfl := Option.some.inj read
      simp
  | case2 digit => cases read
  | case3 high low rest inductionHypothesis =>
      simp only [hexDecode, Option.bind_eq_bind, Option.bind_eq_some_iff, Option.pure_def,
        Option.some.injEq] at read
      obtain ⟨first, highRead, second, lowRead, bytes, restRead, rfl⟩ := read
      simp only [List.cons_append, hexDecode, highRead, lowRead, inductionHypothesis restRead,
        Option.bind_eq_bind, Option.bind_some, Option.pure_def]
      cases hexDecode back <;> rfl

theorem hexDecode_append_some {front back : Text} {first second : Bytes} (read : hexDecode front = some first)
    (read' : hexDecode back = some second) : hexDecode (front ++ back) = some (first ++ second) := by
  rw [hexDecode_append read, read']
  rfl

theorem length_of_hexDecode {text : Text} {bytes : Bytes} (read : hexDecode text = some bytes) :
    text.length = 2 * bytes.length := by
  induction text using hexDecode.induct generalizing bytes with
  | case1 =>
      obtain rfl := Option.some.inj read
      rfl
  | case2 digit => cases read
  | case3 high low rest inductionHypothesis =>
      simp only [hexDecode, Option.bind_eq_bind, Option.bind_eq_some_iff, Option.pure_def,
        Option.some.injEq] at read
      obtain ⟨_, _, _, _, tail, tailRead, rfl⟩ := read
      simp only [List.length_cons, inductionHypothesis tailRead]
      omega

theorem hexValue_of_mem {text : Text} {bytes : Bytes} (read : hexDecode text = some bytes)
    {char : UInt8} (inside : char ∈ text) : hexValue char ≠ none := by
  induction text using hexDecode.induct generalizing bytes with
  | case1 => cases inside
  | case2 digit => cases read
  | case3 high low rest inductionHypothesis =>
      simp only [hexDecode, Option.bind_eq_bind, Option.bind_eq_some_iff] at read
      obtain ⟨first, highRead, second, lowRead, tail, tailRead, _⟩ := read
      rcases List.mem_cons.mp inside with rfl | later
      · simp [highRead]
      · rcases List.mem_cons.mp later with rfl | later
        · simp [lowRead]
        · exact inductionHypothesis tailRead later

/-! ## Numbers of a fixed width -/

def nibbles (bytes : Bytes) : List Nat :=
  bytes.flatMap fun byte => [byte.toNat / 16, byte.toNat % 16]

theorem hexEncode_eq_map (bytes : Bytes) : hexEncode bytes = (nibbles bytes).map hexDigit := by
  simp only [hexEncode, nibbles, List.map_flatMap, List.map_cons, List.map_nil]

theorem length_nibbles (bytes : Bytes) : (nibbles bytes).length = 2 * bytes.length := by
  simp [nibbles, List.length_flatMap, Nat.mul_comm]

theorem nibbles_lt {bytes : Bytes} : ∀ value ∈ nibbles bytes, value < 16 := by
  intro value member
  obtain ⟨byte, _, inside⟩ := List.mem_flatMap.mp member
  have bound := byte.toNat_lt
  simp only [List.mem_cons, List.not_mem_nil, or_false] at inside
  rcases inside with rfl | rfl <;> omega

theorem ofDigits_nibbles (bytes : Bytes) :
    Nat.ofDigits 16 (nibbles bytes).reverse = beValue bytes := by
  induction bytes with
  | nil => rfl
  | cons byte rest inductionHypothesis =>
      have parts : nibbles (byte :: rest) = [byte.toNat / 16, byte.toNat % 16] ++ nibbles rest := rfl
      have halves : byte.toNat % 16 + 16 * (byte.toNat / 16) = byte.toNat := Nat.mod_add_div _ _
      rw [parts, List.reverse_append, Nat.ofDigits_append, inductionHypothesis, beValue_cons,
        List.length_reverse, length_nibbles, pow_mul]
      simp only [List.reverse_cons, List.reverse_nil, List.nil_append, List.cons_append,
        Nat.ofDigits_cons, Nat.ofDigits_nil, Nat.mul_zero, Nat.add_zero, halves]
      norm_num
      ring

theorem formatHex_eq {width value : Nat} (positive : 0 < width) (small : value < 256 ^ width) :
    formatHex (2 * width) value = hexEncode (beBytes width value) := by
  have within : value < 16 ^ (2 * width) := by
    rw [pow_mul]
    exact small
  have padded : formatHex (2 * width) value =
      ((Nat.digitsAppend 16 (2 * width) value).map hexDigit).reverse := by
    have zero : hexDigit 0 = 48 := rfl
    simp only [formatHex, hexNumeral, Nat.digitsAppend, List.map_append, List.map_replicate, zero,
      List.reverse_append, List.reverse_replicate]
    split
    · subst value
      simp only [Nat.digits_zero, List.map_nil, List.reverse_nil, List.append_nil, List.length_nil,
        Nat.sub_zero, List.length_singleton]
      rw [← List.replicate_succ']
      congr 1
      omega
    · simp
  have digits : Nat.digitsAppend 16 (2 * width) value = (nibbles (beBytes width value)).reverse := by
    apply Nat.ofDigits_inj_of_len_eq (b := 16) (by decide)
    · rw [Nat.length_digitsAppend (by decide) _ within, List.length_reverse, length_nibbles,
        length_beBytes]
    · intro digit member
      exact Nat.lt_of_mem_digitsAppend (by decide) _ _ member
    · intro digit member
      exact nibbles_lt digit (List.mem_reverse.mp member)
    · rw [ofDigits_nibbles, beValue_beBytes, Nat.mod_eq_of_lt small, Nat.digitsAppend,
        Nat.ofDigits_append_replicate_zero, Nat.ofDigits_digits]
  rw [padded, digits, hexEncode_eq_map, List.map_reverse, List.reverse_reverse]

theorem hexDecode_formatHex {width value : Nat} (positive : 0 < width)
    (small : value < 256 ^ width) :
    hexDecode (formatHex (2 * width) value) = some (beBytes width value) := by
  rw [formatHex_eq positive small, hexDecode_hexEncode]

end Platform
