import XCron.Platform.Hex
import XCron.Platform.Readers

/-!
# Arguments of a call

The data of a transaction is a function name and hexadecimal arguments, each
after an at sign. An endpoint takes one argument for each parameter; only an
optional last one may be absent, and arguments left over are refused.
-/

namespace Platform

def argumentSeparator : UInt8 := 64

def parseCallData (data : Text) : Option (Text × List Bytes) :=
  match data.splitOn argumentSeparator with
  | [] => none
  | function :: arguments => do
      let values ← arguments.mapM hexDecode
      pure (function, values)

theorem parseCallData_pair {function first second : Text} {firstBytes : Bytes}
    (name : argumentSeparator ∉ function) (read : hexDecode first = some firstBytes)
    (plain : argumentSeparator ∉ second) :
    parseCallData (function ++ argumentSeparator :: (first ++ argumentSeparator :: second)) =
      (hexDecode second).map fun bytes => (function, [firstBytes, bytes]) := by
  have digits : argumentSeparator ∉ first := fun inside => hexValue_of_mem read inside (by decide)
  unfold parseCallData
  rw [List.splitOn_append_cons_self_of_not_mem name, List.splitOn_append_cons_self_of_not_mem digits,
    List.splitOn_eq_singleton plain]
  simp only [List.mapM_cons, List.mapM_nil, read]
  cases hexDecode second <;> rfl

theorem parseCallData_arguments {function : Text} (name : argumentSeparator ∉ function)
    {arguments : List Text} (plain : ∀ argument ∈ arguments, argumentSeparator ∉ argument) :
    parseCallData (function ++ arguments.flatMap (argumentSeparator :: ·)) =
      (arguments.mapM hexDecode).map fun values => (function, values) := by
  have pieces : (function ++ arguments.flatMap (argumentSeparator :: ·)).splitOn
      argumentSeparator = function :: arguments := by
    induction arguments generalizing function with
    | nil => rw [List.flatMap_nil, List.append_nil, List.splitOn_eq_singleton name]
    | cons argument rest inductionHypothesis =>
        obtain ⟨first, others⟩ := List.forall_mem_cons.mp plain
        rw [List.flatMap_cons, List.cons_append,
          List.splitOn_append_cons_self_of_not_mem name, inductionHypothesis first others]
  simp only [parseCallData, pieces, Option.bind_eq_bind, Option.pure_def]
  exact Option.map_eq_bind.symm

variable {Alpha Beta : Type}

theorem mapM_cons_some {read : Alpha → Option Beta} {item : Alpha} {items : List Alpha}
    {values : List Beta} (all : (item :: items).mapM read = some values) :
    ∃ value others, read item = some value ∧ items.mapM read = some others ∧
      value :: others = values := by
  simp only [List.mapM_cons, Option.bind_eq_bind, Option.bind_eq_some_iff, Option.pure_def,
    Option.some.injEq] at all
  obtain ⟨value, first, others, tail, same⟩ := all
  exact ⟨value, others, first, tail, same⟩

theorem exists_of_mapM {read : Alpha → Option Beta} {items : List Alpha} {values : List Beta}
    (all : items.mapM read = some values) {item : Alpha} (member : item ∈ items) :
    ∃ value, read item = some value := by
  induction items generalizing values with
  | nil => cases member
  | cons first rest inductionHypothesis =>
      obtain ⟨value, others, here, tail, _⟩ := mapM_cons_some all
      rcases List.mem_cons.mp member with rfl | later
      · exact ⟨value, here⟩
      · exact inductionHypothesis tail later

theorem length_of_mapM {read : Alpha → Option Beta} {items : List Alpha} {values : List Beta}
    (all : items.mapM read = some values) : items.length = values.length := by
  induction items generalizing values with
  | nil =>
      obtain rfl := Option.some.inj all
      rfl
  | cons item items inductionHypothesis =>
      obtain ⟨value, others, _, tail, rfl⟩ := mapM_cons_some all
      rw [List.length_cons, List.length_cons, inductionHypothesis tail]

def loadWithOptional (first : Bytes → Option Alpha) (second : Bytes → Option Beta) :
    List Bytes → Option (Alpha × Option Beta)
  | [value] => do
      let decoded ← first value
      pure (decoded, none)
  | [value, optional] => do
      let decoded ← first value
      let decodedOptional ← second optional
      pure (decoded, some decodedOptional)
  | _ => none

def decodeBytes32 (argument : Bytes) : Option Bytes32 :=
  if exact : argument.length = 32 then some ⟨argument, exact⟩ else none

theorem decodeBytes32_val (bytes : Bytes32) : decodeBytes32 bytes.val = some bytes :=
  dif_pos bytes.length_eq

theorem decodeBytes32_of_length {argument : Bytes} (wrong : argument.length ≠ 32) :
    decodeBytes32 argument = none := by
  unfold decodeBytes32
  rw [dif_neg wrong]

/-- A big number as a whole argument; leading zeros are accepted. -/
def decodeBigUint (argument : Bytes) : Option Nat := some (beValue argument)

theorem loadWithOptional_refused {first : Bytes → Option Alpha} {second : Bytes → Option Beta}
    {value optional : Bytes} (refused : second optional = none) :
    loadWithOptional first second [value, optional] = none := by
  simp only [loadWithOptional, refused, Option.bind_eq_bind, Option.bind_none]
  cases first value <;> rfl

end Platform
