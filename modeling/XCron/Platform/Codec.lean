import XCron.Platform.Bytes

/-!
# Nested encodings

Inside a structure a value is written so that its end can be recognised:
numbers with their width, buffers and lists after a four-byte length, options
after a tag. The encoding of a structure is the concatenation of its fields, and
its fields can be read off it one after the other.
-/

namespace Platform

def encodeU8 (value : UInt8) : Bytes := [value]

def encodeU64 (value : UInt64) : Bytes := beBytes 8 value.toNat

def encodeBool (value : Bool) : Bytes := [if value then 1 else 0]

def encodeLength (length : Nat) : Bytes := beBytes 4 length

def encodeBuffer (bytes : Bytes) : Bytes := encodeLength bytes.length ++ bytes

def encodeBigUint (value : Nat) : Bytes := encodeBuffer (natBytes value)

def encodeOption {Alpha : Type} (encode : Alpha → Bytes) : Option Alpha → Bytes
  | none => [0]
  | some value => 1 :: encode value

def encodeList {Alpha : Type} (encode : Alpha → Bytes) (values : List Alpha) : Bytes :=
  encodeLength values.length ++ values.flatMap encode

/-! ## Reading an encoding -/

variable {Alpha : Type}

/-- What follows an encoded value can be told from it: two values that fit their
encoding, each with a continuation, give the same bytes only if they are the same. -/
def Unambiguous (fits : Alpha → Prop) (encode : Alpha → Bytes) : Prop :=
  ∀ first second, fits first → fits second → ∀ rest rest',
    encode first ++ rest = encode second ++ rest' → first = second ∧ rest = rest'

theorem unambiguous_of_width {encode : Alpha → Bytes} (width : Nat)
    (fixed : ∀ value, (encode value).length = width)
    (injective : ∀ first second, encode first = encode second → first = second) :
    Unambiguous (fun _ => True) encode := by
  intro first second _ _ rest rest' same
  obtain ⟨values, rests⟩ := List.append_inj same ((fixed first).trans (fixed second).symm)
  exact ⟨injective first second values, rests⟩

theorem unambiguous_u8 : Unambiguous (fun _ => True) encodeU8 :=
  unambiguous_of_width 1 (fun _ => rfl) fun _ _ same => (List.cons.inj same).1

theorem unambiguous_bool : Unambiguous (fun _ => True) encodeBool :=
  unambiguous_of_width 1 (fun _ => rfl) (by decide)

theorem unambiguous_bytes32 : Unambiguous (fun _ => True) Bytes32.val :=
  unambiguous_of_width 32 Bytes32.length_eq fun _ _ => Bytes32.ext

theorem unambiguous_u64 : Unambiguous (fun _ => True) encodeU64 := by
  refine unambiguous_of_width 8 (fun _ => length_beBytes _ _) ?_
  intro first second same
  have bound := first.toNat_lt
  have bound' := second.toNat_lt
  have values := beBytes_inj same
  rw [Nat.mod_eq_of_lt (by omega), Nat.mod_eq_of_lt (by omega)] at values
  exact UInt64.toNat_inj.mp values

theorem unambiguous_length : Unambiguous (· < 2 ^ 32) encodeLength := by
  intro first second small small' rest rest' same
  obtain ⟨values, rests⟩ := List.append_inj same
    ((length_beBytes _ _).trans (length_beBytes _ _).symm)
  have lengths := beBytes_inj values
  rw [Nat.mod_eq_of_lt (by omega), Nat.mod_eq_of_lt (by omega)] at lengths
  exact ⟨lengths, rests⟩

theorem unambiguous_buffer :
    Unambiguous (fun bytes : Bytes => bytes.length < 2 ^ 32) encodeBuffer := by
  intro first second small small' rest rest' same
  simp only [encodeBuffer, List.append_assoc] at same
  obtain ⟨lengths, contents⟩ := unambiguous_length _ _ small small' _ _ same
  exact List.append_inj contents lengths

theorem unambiguous_bigUint :
    Unambiguous (fun value => (natBytes value).length < 2 ^ 32) encodeBigUint := by
  intro first second small small' rest rest' same
  obtain ⟨numerals, rests⟩ := unambiguous_buffer _ _ small small' _ _ same
  exact ⟨natBytes_injective numerals, rests⟩

theorem unambiguous_option {fits : Alpha → Prop} {encode : Alpha → Bytes}
    (unambiguous : Unambiguous fits encode) :
    Unambiguous (fun value => ∀ inner ∈ value, fits inner) (encodeOption encode) := by
  intro first second fitted fitted' rest rest' same
  cases first with
  | none =>
      cases second with
      | none => exact ⟨rfl, (List.cons.inj same).2⟩
      | some second => exact absurd (List.cons.inj same).1 (by decide)
  | some first =>
      cases second with
      | none => exact absurd (List.cons.inj same).1 (by decide)
      | some second =>
          obtain ⟨inner, rests⟩ := unambiguous first second (fitted first rfl) (fitted' second rfl)
            rest rest' (List.cons.inj same).2
          exact ⟨congrArg some inner, rests⟩

theorem unambiguous_elements {fits : Alpha → Prop} {encode : Alpha → Bytes}
    (unambiguous : Unambiguous fits encode) {first second : List Alpha}
    (fitted : ∀ value ∈ first, fits value) (fitted' : ∀ value ∈ second, fits value)
    (lengths : first.length = second.length) {rest rest' : Bytes}
    (same : first.flatMap encode ++ rest = second.flatMap encode ++ rest') :
    first = second ∧ rest = rest' := by
  induction first generalizing second with
  | nil =>
      obtain rfl := List.length_eq_zero_iff.mp lengths.symm
      exact ⟨rfl, same⟩
  | cons head tail inductionHypothesis =>
      cases second with
      | nil => cases lengths
      | cons head' tail' =>
          simp only [List.flatMap_cons, List.append_assoc] at same
          obtain ⟨rfl, tails⟩ := unambiguous head head' (fitted head List.mem_cons_self)
            (fitted' head' List.mem_cons_self) _ _ same
          obtain ⟨rfl, rests⟩ := inductionHypothesis
            (fun value member => fitted value (List.mem_cons_of_mem _ member))
            (fun value member => fitted' value (List.mem_cons_of_mem _ member))
            (Nat.succ.inj lengths) tails
          exact ⟨rfl, rests⟩

theorem unambiguous_list {fits : Alpha → Prop} {encode : Alpha → Bytes}
    (unambiguous : Unambiguous fits encode) :
    Unambiguous (fun values : List Alpha => values.length < 2 ^ 32 ∧ ∀ value ∈ values, fits value)
      (encodeList encode) := by
  intro first second fitted fitted' rest rest' same
  simp only [encodeList, List.append_assoc] at same
  obtain ⟨lengths, elements⟩ := unambiguous_length _ _ fitted.1 fitted'.1 _ _ same
  exact unambiguous_elements unambiguous fitted.2 fitted'.2 lengths elements

end Platform
