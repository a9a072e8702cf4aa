import XCron.Platform.Codec

/-!
# Reading nested encodings

A reader takes a value off the front of a byte string and leaves the rest. It
refuses what the framework refuses: missing bytes, unknown tags, and at the top
level bytes left over. It accepts more than the encoder writes: a big number may
have leading zeros.
-/

namespace Platform

abbrev Reader := StateT Bytes Option

namespace Reader

def bytes (count : Nat) : Reader Bytes := .mk fun input =>
  if count ≤ input.length then some (input.take count, input.drop count) else none

def u8 : Reader UInt8 := .mk fun input =>
  match input with
  | [] => none
  | byte :: rest => some (byte, rest)

def u64 : Reader UInt64 := (fun digits => UInt64.ofNat (beValue digits)) <$> bytes 8

def length : Reader Nat := beValue <$> bytes 4

def buffer : Reader Bytes := do
  let count ← length
  bytes count

def bigUint : Reader Nat := beValue <$> buffer

def bytes32 : Reader Bytes32 := .mk fun input =>
  if enough : 32 ≤ input.length then
    some (⟨input.take 32, by rw [List.length_take, Nat.min_eq_left enough]⟩, input.drop 32)
  else none

def bool : Reader Bool := do
  match ← u8 with
  | 0 => pure false
  | 1 => pure true
  | _ => failure

variable {Alpha : Type}

def option (inner : Reader Alpha) : Reader (Option Alpha) := do
  match ← u8 with
  | 0 => pure none
  | 1 => some <$> inner
  | _ => failure

def times : Nat → Reader Alpha → Reader (List Alpha)
  | 0, _ => pure []
  | count + 1, inner => do
      let head ← inner
      let tail ← times count inner
      pure (head :: tail)

def list (inner : Reader Alpha) : Reader (List Alpha) := do
  let count ← length
  times count inner

/-- Top decoding: the value must take up all the bytes. -/
def whole (reader : Reader Alpha) (input : Bytes) : Option Alpha :=
  match reader.run input with
  | some (value, []) => some value
  | _ => none

end Reader

variable {Alpha : Type}

/-- The reader takes back what the encoder wrote, whatever follows it. -/
def Reads (fits : Alpha → Prop) (encode : Alpha → Bytes) (reader : Reader Alpha) : Prop :=
  ∀ value, fits value → ∀ rest, reader.run (encode value ++ rest) = some (value, rest)

theorem Reads.unambiguous {fits : Alpha → Prop} {encode : Alpha → Bytes} {reader : Reader Alpha}
    (reads : Reads fits encode reader) : Unambiguous fits encode := by
  intro first second fitted fitted' rest rest' same
  have read := reads first fitted rest
  rw [same, reads second fitted' rest'] at read
  obtain ⟨values, rests⟩ := Prod.mk.inj (Option.some.inj read)
  exact ⟨values.symm, rests.symm⟩

theorem Reads.whole {fits : Alpha → Prop} {encode : Alpha → Bytes} {reader : Reader Alpha}
    (reads : Reads fits encode reader) {value : Alpha} (fitted : fits value) :
    reader.whole (encode value) = some value := by
  have read := reads value fitted []
  rw [List.append_nil] at read
  simp only [Reader.whole, read]

theorem Reads.run_bind {Beta : Type} {fits : Alpha → Prop} {encode : Alpha → Bytes}
    {reader : Reader Alpha} (reads : Reads fits encode reader) {value : Alpha} (fitted : fits value)
    (next : Alpha → Reader Beta) (rest : Bytes) :
    (reader >>= next).run (encode value ++ rest) = (next value).run rest := by
  rw [StateT.run_bind, reads value fitted rest]
  rfl

theorem Reader.run_u8_bind {Beta : Type} (next : UInt8 → Reader Beta) (tag : UInt8) (rest : Bytes) :
    (Reader.u8 >>= next).run (tag :: rest) = (next tag).run rest := rfl

theorem Reader.run_bytes (front rest : Bytes) :
    (Reader.bytes front.length).run (front ++ rest) = some (front, rest) := by
  simp [Reader.bytes]

theorem reads_u8 : Reads (fun _ => True) encodeU8 Reader.u8 := by
  intro value _ rest
  rfl

theorem reads_bytes32 : Reads (fun _ => True) Bytes32.val Reader.bytes32 := by
  intro value _ rest
  have enough : 32 ≤ (value.val ++ rest).length := by
    rw [List.length_append, value.length_eq]
    omega
  have front : (value.val ++ rest).take 32 = value.val := by
    rw [← value.length_eq, List.take_left]
  have back : (value.val ++ rest).drop 32 = rest := by
    rw [← value.length_eq, List.drop_left]
  simp only [Reader.bytes32, StateT.run_mk, enough, dif_pos, back, Option.some.injEq, Prod.mk.injEq,
    and_true]
  exact Bytes32.ext front

theorem reads_u64 : Reads (fun _ => True) encodeU64 Reader.u64 := by
  intro value _ rest
  have read := Reader.run_bytes (encodeU64 value) rest
  rw [encodeU64, length_beBytes] at read
  have bound := value.toNat_lt
  simp only [Reader.u64, StateT.run_map, encodeU64, read, Option.map_eq_map, Option.map_some,
    beValue_beBytes]
  rw [Nat.mod_eq_of_lt (by omega), UInt64.ofNat_toNat]

theorem reads_length : Reads (· < 2 ^ 32) encodeLength Reader.length := by
  intro value small rest
  have read := Reader.run_bytes (encodeLength value) rest
  rw [encodeLength, length_beBytes] at read
  simp only [Reader.length, StateT.run_map, encodeLength, read, Option.map_eq_map, Option.map_some,
    beValue_beBytes]
  rw [Nat.mod_eq_of_lt (by omega)]

theorem reads_buffer :
    Reads (fun value : Bytes => value.length < 2 ^ 32) encodeBuffer Reader.buffer := by
  intro value small rest
  rw [Reader.buffer, encodeBuffer, List.append_assoc, reads_length.run_bind small]
  exact Reader.run_bytes value rest

theorem reads_bigUint :
    Reads (fun value => (natBytes value).length < 2 ^ 32) encodeBigUint Reader.bigUint := by
  intro value small rest
  simp only [Reader.bigUint, encodeBigUint, StateT.run_map, reads_buffer _ small,
    Option.map_eq_map, Option.map_some, beValue_natBytes]

theorem reads_bool : Reads (fun _ => True) encodeBool Reader.bool := by
  intro value _ rest
  cases value <;> rfl

theorem reads_option {fits : Alpha → Prop} {encode : Alpha → Bytes} {reader : Reader Alpha}
    (reads : Reads fits encode reader) :
    Reads (fun value => ∀ inner ∈ value, fits inner) (encodeOption encode) reader.option := by
  intro value fitted rest
  cases value with
  | none => rfl
  | some inner =>
      rw [Reader.option, encodeOption, List.cons_append, Reader.run_u8_bind]
      change (some <$> reader).run (encode inner ++ rest) = _
      rw [StateT.run_map, reads inner (fitted inner rfl) rest]
      rfl

theorem reads_elements {fits : Alpha → Prop} {encode : Alpha → Bytes} {reader : Reader Alpha}
    (reads : Reads fits encode reader) {values : List Alpha} (fitted : ∀ value ∈ values, fits value)
    (rest : Bytes) :
    (Reader.times values.length reader).run (values.flatMap encode ++ rest) = some (values, rest) := by
  induction values with
  | nil => rfl
  | cons head tail inductionHypothesis =>
      have others := inductionHypothesis fun value member =>
        fitted value (List.mem_cons_of_mem _ member)
      rw [List.length_cons, Reader.times, List.flatMap_cons, List.append_assoc,
        reads.run_bind (fitted head List.mem_cons_self), StateT.run_bind, others]
      rfl

theorem reads_list {fits : Alpha → Prop} {encode : Alpha → Bytes} {reader : Reader Alpha}
    (reads : Reads fits encode reader) :
    Reads (fun values : List Alpha => values.length < 2 ^ 32 ∧ ∀ value ∈ values, fits value)
      (encodeList encode) reader.list := by
  intro values fitted rest
  rw [Reader.list, encodeList, List.append_assoc, reads_length.run_bind fitted.1]
  exact reads_elements reads fitted.2 rest

end Platform
