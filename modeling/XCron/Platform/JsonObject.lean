import XCron.Platform.Decimal

/-!
# Flat JSON objects

An object whose members are numbers and texts, written without blanks and without escapes.
As long as no text contains a quote, the members can be told from the writing.
-/

namespace Platform

/-! ## Delimiters -/

theorem append_cons_inj {Alpha : Type} (kind : Alpha → Prop) {first second rest rest' : List Alpha}
    {stop stop' : Alpha} (all : ∀ item ∈ first, kind item) (all' : ∀ item ∈ second, kind item)
    (other : ¬kind stop) (other' : ¬kind stop')
    (same : first ++ stop :: rest = second ++ stop' :: rest') :
    first = second ∧ stop = stop' ∧ rest = rest' := by
  induction first generalizing second with
  | nil =>
      cases second with
      | nil =>
          obtain ⟨stops, rests⟩ := List.cons.inj same
          exact ⟨rfl, stops, rests⟩
      | cons item second =>
          obtain ⟨rfl, _⟩ := List.cons.inj same
          exact absurd (all' stop (.head _)) other
  | cons item first inductionHypothesis =>
      cases second with
      | nil =>
          obtain ⟨rfl, _⟩ := List.cons.inj same
          exact absurd (all item (.head _)) other'
      | cons item' second =>
          obtain ⟨rfl, tails⟩ := List.cons.inj same
          obtain ⟨rfl, stops, rests⟩ := inductionHypothesis
            (fun item member => all item (.tail _ member))
            (fun item member => all' item (.tail _ member)) tails
          exact ⟨rfl, stops, rests⟩

/-! ## Numbers and texts -/

def IsDigit (byte : UInt8) : Prop := (decimalDigit byte).isSome = true

instance (byte : UInt8) : Decidable (IsDigit byte) := inferInstanceAs (Decidable (_ = true))

theorem isDigit_of_mem_formatDecimal {value : Nat} {byte : UInt8}
    (member : byte ∈ formatDecimal value) : IsDigit byte := by
  obtain ⟨digits, written, _, small, _⟩ := formatDecimal_digits value
  rw [written, List.mem_reverse] at member
  obtain ⟨digit, present, rfl⟩ := List.mem_map.mp member
  rw [IsDigit, decimalDigit_ofNat (small digit present)]
  rfl

theorem formatDecimal_ne_nil (value : Nat) : formatDecimal value ≠ [] := by
  obtain ⟨digits, written, some, _, _⟩ := formatDecimal_digits value
  rw [written]
  simpa using some

theorem formatDecimal_injective {first second : Nat}
    (same : formatDecimal first = formatDecimal second) : first = second := by
  obtain ⟨digits, written, _, small, value⟩ := formatDecimal_digits first
  obtain ⟨digits', written', _, small', value'⟩ := formatDecimal_digits second
  have read := foldlM_decimal small 0
  have read' := foldlM_decimal small' 0
  rw [← written, value, same, written', read', value'] at read
  simpa using read.symm

def quoted (text : Text) : Text := 34 :: (text ++ [34])

theorem quoted_append (text rest : Text) : quoted text ++ rest = 34 :: (text ++ 34 :: rest) := by
  simp [quoted]

theorem quoted_inj {first second rest rest' : Text} (plain : 34 ∉ first) (plain' : 34 ∉ second)
    (same : quoted first ++ rest = quoted second ++ rest') : first = second ∧ rest = rest' := by
  rw [quoted_append, quoted_append] at same
  obtain ⟨texts, _, rests⟩ := append_cons_inj (fun byte => byte ≠ 34)
    (fun byte member quote => plain (quote ▸ member))
    (fun byte member quote => plain' (quote ▸ member)) (by simp) (by simp) (List.cons.inj same).2
  exact ⟨texts, rests⟩

/-! ## Members -/

inductive JsonValue where
  | number (value : Nat)
  | text (value : Text)

def JsonValue.write : JsonValue → Text
  | .number value => formatDecimal value
  | .text value => quoted value

structure JsonMember where
  name : Text
  value : JsonValue

def JsonMember.write (member : JsonMember) : Text :=
  quoted member.name ++ 58 :: member.value.write

/-- No quote occurs in the value. -/
def JsonValue.Plain : JsonValue → Prop
  | .number _ => True
  | .text value => 34 ∉ value

structure JsonMember.Plain (member : JsonMember) : Prop where
  name : 34 ∉ member.name
  value : member.value.Plain

theorem JsonMember.Plain.of {name : Text} {value : JsonValue} (unquoted : 34 ∉ name)
    (plain : value.Plain) : (JsonMember.mk name value).Plain :=
  ⟨unquoted, plain⟩

/-- A comma or a brace ends a value. -/
def EndsValue (byte : UInt8) : Prop := byte = 44 ∨ byte = 125

theorem EndsValue.not_isDigit {byte : UInt8} (ends : EndsValue byte) : ¬IsDigit byte := by
  rcases ends with rfl | rfl <;> decide

theorem number_ne_quoted {value : Nat} {text rest rest' : Text} :
    formatDecimal value ++ rest ≠ quoted text ++ rest' := by
  intro same
  cases written : formatDecimal value with
  | nil => exact formatDecimal_ne_nil value written
  | cons digit digits =>
      have member : digit ∈ formatDecimal value := written ▸ .head _
      have isDigit := isDigit_of_mem_formatDecimal member
      rw [written, quoted_append] at same
      obtain ⟨rfl, _⟩ := List.cons.inj same
      exact absurd isDigit (by decide)

theorem JsonValue.write_inj {value value' : JsonValue} {stop stop' : UInt8} {rest rest' : Text}
    (plain : value.Plain) (plain' : value'.Plain) (ends : EndsValue stop) (ends' : EndsValue stop')
    (same : value.write ++ stop :: rest = value'.write ++ stop' :: rest') :
    value = value' ∧ stop = stop' ∧ rest = rest' := by
  cases value with
  | number value =>
      cases value' with
      | number value' =>
          obtain ⟨digits, stops, rests⟩ := append_cons_inj IsDigit
            (fun _ member => isDigit_of_mem_formatDecimal member)
            (fun _ member => isDigit_of_mem_formatDecimal member) ends.not_isDigit
            ends'.not_isDigit same
          exact ⟨congrArg _ (formatDecimal_injective digits), stops, rests⟩
      | text text' => exact absurd same number_ne_quoted
  | text text =>
      cases value' with
      | number value' => exact absurd same.symm number_ne_quoted
      | text text' =>
          obtain ⟨texts, rests⟩ := quoted_inj plain plain' same
          obtain ⟨stops, rests⟩ := List.cons.inj rests
          exact ⟨congrArg _ texts, stops, rests⟩

theorem JsonMember.write_inj {member member' : JsonMember} {stop stop' : UInt8} {rest rest' : Text}
    (plain : member.Plain) (plain' : member'.Plain) (ends : EndsValue stop)
    (ends' : EndsValue stop') (same : member.write ++ stop :: rest = member'.write ++ stop' :: rest') :
    member = member' ∧ stop = stop' ∧ rest = rest' := by
  simp only [JsonMember.write, List.append_assoc, List.cons_append] at same
  obtain ⟨names, values⟩ := quoted_inj plain.name plain'.name same
  obtain ⟨values, stops, rests⟩ := JsonValue.write_inj plain.value plain'.value ends ends'
    (List.cons.inj values).2
  cases member
  cases member'
  simp only at names values
  exact ⟨by rw [names, values], stops, rests⟩

/-! ## Objects -/

def writeObject (members : List JsonMember) : Text :=
  123 :: (List.intercalate [44] (members.map JsonMember.write) ++ [125])

def writeRest : List JsonMember → Text
  | [] => [125]
  | member :: members => 44 :: (member.write ++ writeRest members)

theorem writeObject_cons (member : JsonMember) (members : List JsonMember) :
    writeObject (member :: members) = 123 :: (member.write ++ writeRest members) := by
  induction members generalizing member with
  | nil => simp [writeObject, writeRest, List.intercalate]
  | cons next members inductionHypothesis =>
      have later := (List.cons.inj (inductionHypothesis next)).2
      rw [writeRest, ← later, writeObject]
      simp [List.intercalate]

theorem writeRest_append (members others : List JsonMember) :
    writeRest (members ++ others) =
      (members.flatMap fun member => 44 :: member.write) ++ writeRest others := by
  induction members with
  | nil => rfl
  | cons member members inductionHypothesis =>
      rw [List.cons_append, writeRest, inductionHypothesis, List.flatMap_cons]
      simp

theorem writeRest_eq_cons (members : List JsonMember) :
    ∃ stop rest, EndsValue stop ∧ writeRest members = stop :: rest := by
  cases members with
  | nil => exact ⟨125, [], .inr rfl, rfl⟩
  | cons member members => exact ⟨44, _, .inl rfl, rfl⟩

theorem writeRest_inj {members members' : List JsonMember} (plain : ∀ member ∈ members, member.Plain)
    (plain' : ∀ member ∈ members', member.Plain) (same : writeRest members = writeRest members') :
    members = members' := by
  induction members generalizing members' with
  | nil =>
      cases members' with
      | nil => rfl
      | cons member' members' => cases (List.cons.inj same).1
  | cons member members inductionHypothesis =>
      cases members' with
      | nil => cases (List.cons.inj same).1
      | cons member' members' =>
          have tails := (List.cons.inj same).2
          obtain ⟨stop, rest, ends, rests⟩ := writeRest_eq_cons members
          obtain ⟨stop', rest', ends', rests'⟩ := writeRest_eq_cons members'
          rw [rests, rests'] at tails
          obtain ⟨rfl, rfl, rfl⟩ := JsonMember.write_inj (plain member (.head _))
            (plain' member' (.head _)) ends ends' tails
          rw [inductionHypothesis (fun other present => plain other (.tail _ present))
            (fun other present => plain' other (.tail _ present)) (rests.trans rests'.symm)]

/-- Objects without quotes in their texts are told apart by how they are written. -/
theorem writeObject_injective {members members' : List JsonMember}
    (plain : ∀ member ∈ members, member.Plain) (plain' : ∀ member ∈ members', member.Plain)
    (same : writeObject members = writeObject members') : members = members' := by
  cases members with
  | nil =>
      cases members' with
      | nil => rfl
      | cons member' members' =>
          rw [writeObject_cons] at same
          cases (List.cons.inj (List.cons.inj same).2).1
  | cons member members =>
      cases members' with
      | nil =>
          rw [writeObject_cons] at same
          cases (List.cons.inj (List.cons.inj same).2).1
      | cons member' members' =>
          rw [writeObject_cons, writeObject_cons] at same
          refine writeRest_inj plain plain' ?_
          rw [writeRest, writeRest, (List.cons.inj same).2]

end Platform
