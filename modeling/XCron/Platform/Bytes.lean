import Mathlib.Data.Nat.Digits.Lemmas
import Mathlib.Data.List.Basic

/-!
# Byte strings and their big-endian numerals

Managed buffers are lists of bytes. A number is written either with a fixed
width, where higher digits are dropped as a machine cast drops them, or with
its minimal number of digits, where zero is the empty string.
-/

namespace Platform

abbrev Bytes := List UInt8

/-- A text is the list of its UTF-8 bytes. -/
abbrev Text := Bytes

def ascii (text : String) : Text := text.toList.map fun char => UInt8.ofNat char.toNat

instance (name : Bytes) (names : List Bytes) : Decidable (name ∈ names) :=
  List.instDecidableMemOfLawfulBEq name names

/-- The last `width` base-256 digits of a number, most significant first. -/
def beBytes : Nat → Nat → Bytes
  | 0, _ => []
  | width + 1, value => UInt8.ofNat (value / 256 ^ width) :: beBytes width value

@[simp]
theorem length_beBytes (width value : Nat) : (beBytes width value).length = width := by
  induction width with
  | zero => rfl
  | succ width inductionHypothesis => simp [beBytes, inductionHypothesis]

theorem beBytes_inj {width first second : Nat} (same : beBytes width first = beBytes width second) :
    first % 256 ^ width = second % 256 ^ width := by
  induction width with
  | zero => simp [Nat.mod_one]
  | succ width inductionHypothesis =>
      obtain ⟨heads, tails⟩ := List.cons.inj same
      have digits : first / 256 ^ width % 256 = second / 256 ^ width % 256 := by
        have values := congrArg UInt8.toNat heads
        simpa using values
      rw [Nat.mod_pow_succ, Nat.mod_pow_succ, inductionHypothesis tails, digits]

/-- The minimal big-endian numeral; zero has no digits at all. -/
def natBytes (value : Nat) : Bytes :=
  ((Nat.digits 256 value).map UInt8.ofNat).reverse

theorem map_toNat_ofNat_of_lt {digits : List Nat} (small : ∀ d ∈ digits, d < 256) :
    (digits.map UInt8.ofNat).map UInt8.toNat = digits := by
  induction digits with
  | nil => rfl
  | cons d rest inductionHypothesis =>
      have head : d < 256 := small d (by simp)
      have tail := inductionHypothesis (fun e membership => small e (by simp [membership]))
      simp only [List.map_cons, tail, List.cons.injEq, and_true]
      simpa using Nat.mod_eq_of_lt head

theorem natBytes_injective {first second : Nat} (same : natBytes first = natBytes second) :
    first = second := by
  have digitsEqual : (Nat.digits 256 first).map UInt8.ofNat =
      (Nat.digits 256 second).map UInt8.ofNat := List.reverse_injective same
  have values := congrArg (List.map UInt8.toNat) digitsEqual
  rw [map_toNat_ofNat_of_lt (fun _ => Nat.digits_lt_base (by decide)),
    map_toNat_ofNat_of_lt (fun _ => Nat.digits_lt_base (by decide))] at values
  exact Nat.digits_inj_iff.mp values

theorem le_of_length_natBytes {width value : Nat} (long : width < (natBytes value).length) :
    256 ^ width ≤ value := by
  unfold natBytes at long
  rw [List.length_reverse, List.length_map, Nat.lt_digits_length_iff (by decide)] at long
  exact long

def beValue (bytes : Bytes) : Nat := bytes.foldl (fun value byte => value * 256 + byte.toNat) 0

theorem beValue_append (front back : Bytes) :
    beValue (front ++ back) = beValue front * 256 ^ back.length + beValue back := by
  induction back using List.reverseRecOn with
  | nil => simp [beValue]
  | append_singleton back byte inductionHypothesis =>
      simp only [beValue, ← List.append_assoc, List.foldl_append, List.foldl_cons,
        List.foldl_nil, List.length_append, List.length_cons, List.length_nil] at inductionHypothesis ⊢
      rw [inductionHypothesis, pow_succ]
      ring

theorem beValue_cons (byte : UInt8) (rest : Bytes) :
    beValue (byte :: rest) = byte.toNat * 256 ^ rest.length + beValue rest := by
  have parts := beValue_append [byte] rest
  simpa [beValue] using parts

theorem beValue_beBytes (width value : Nat) : beValue (beBytes width value) = value % 256 ^ width := by
  induction width with
  | zero => simp [beBytes, beValue, Nat.mod_one]
  | succ width inductionHypothesis =>
      rw [beBytes, beValue_cons, length_beBytes, inductionHypothesis, Nat.mod_pow_succ]
      simp only [UInt8.toNat_ofNat', Nat.add_comm, Nat.mul_comm]

theorem beValue_reverse (digits : List UInt8) :
    beValue digits.reverse = Nat.ofDigits 256 (digits.map UInt8.toNat) := by
  induction digits with
  | nil => rfl
  | cons digit rest inductionHypothesis =>
      rw [List.reverse_cons, beValue_append, inductionHypothesis, List.map_cons, Nat.ofDigits_cons]
      simp [beValue]
      ring

theorem beValue_natBytes (value : Nat) : beValue (natBytes value) = value := by
  unfold natBytes
  rw [beValue_reverse, map_toNat_ofNat_of_lt (fun _ => Nat.digits_lt_base (by decide)),
    Nat.ofDigits_digits]

/-- Decoding of a Boolean result; anything but the numeral one reads as false. -/
def decodeBool (bytes : Bytes) : Bool := decide (bytes.length ≤ 8 ∧ beValue bytes = 1)

/-- Arrays of exactly thirty-two bytes: digests and addresses. -/
structure Bytes32 where
  val : Bytes
  length_eq : val.length = 32
  deriving DecidableEq

namespace Bytes32

@[ext]
theorem ext {first second : Bytes32} (same : first.val = second.val) : first = second := by
  cases first
  cases second
  simpa using same

def fill (byte : UInt8) : Bytes32 := ⟨List.replicate 32 byte, List.length_replicate⟩

def zero : Bytes32 := fill 0

end Bytes32

/-- Strict lexicographic order, decided at the first byte that differs. -/
def lexLess : Bytes → Bytes → Bool
  | a :: first, b :: second =>
      if a < b then true else if b < a then false else lexLess first second
  | _, _ => false

theorem eq_of_not_lexLess {first second : Bytes} (lengths : first.length = second.length)
    (notLess : lexLess first second = false) (notGreater : lexLess second first = false) :
    first = second := by
  induction first generalizing second with
  | nil => exact (List.length_eq_zero_iff.mp lengths.symm).symm
  | cons a first inductionHypothesis =>
      cases second with
      | nil => cases lengths
      | cons b second =>
          simp only [lexLess] at notLess notGreater
          split at notLess
          · cases notLess
          · split at notGreater
            · cases notGreater
            · rename_i notBelow notAbove
              rw [if_neg notAbove] at notLess
              have heads : a = b :=
                UInt8.le_antisymm (UInt8.not_lt.mp notAbove) (UInt8.not_lt.mp notBelow)
              rw [heads, inductionHypothesis (Nat.succ.inj lengths) notLess notGreater]

theorem lexLess_asymm {first second : Bytes} (less : lexLess first second = true) :
    lexLess second first = false := by
  induction first generalizing second with
  | nil => cases less
  | cons a first inductionHypothesis =>
      cases second with
      | nil => cases less
      | cons b second =>
          simp only [lexLess] at less ⊢
          split at less
          · rename_i below
            rw [if_neg (UInt8.lt_asymm below), if_pos below]
          · split at less
            · cases less
            · rename_i notBelow notAbove
              rw [if_neg notAbove, if_neg notBelow]
              exact inductionHypothesis less

end Platform
