import XCron.Platform.Hex
import XCron.Platform.JsonObject

/-!
# JSON with escapes

What is written can be told apart if every part of it shows where it ends: a text by a quote
that is no escape, a number by what follows it, an array by its bracket.
-/

namespace Platform

/-! ## Writings that show where they end -/

section SelfDelimiting

variable {Item Other Symbol : Type} {write : Item → List Symbol} {writeOther : Other → List Symbol}

/-- An item and what follows it can be told from the two together. -/
def SelfDelimiting (write : Item → List Symbol) : Prop :=
  ∀ ⦃first second : Item⦄ ⦃rest rest' : List Symbol⦄,
    write first ++ rest = write second ++ rest' → first = second ∧ rest = rest'

namespace SelfDelimiting

theorem injective (delimits : SelfDelimiting write) : Function.Injective write := by
  intro first second same
  have ended : write first ++ [] = write second ++ [] := by rw [same]
  exact (delimits ended).1

theorem of_read (read : List Symbol → Option (Item × List Symbol))
    (reads : ∀ item rest, read (write item ++ rest) = some (item, rest)) :
    SelfDelimiting write := by
  intro first second rest rest' same
  have agree := reads first rest
  rw [same, reads second rest', Option.some.injEq, Prod.mk.injEq] at agree
  exact ⟨agree.1.symm, agree.2.symm⟩

theorem behind (delimits : SelfDelimiting write) (front : List Symbol) :
    SelfDelimiting fun item => front ++ write item := by
  intro first second rest rest' same
  rw [List.append_assoc, List.append_assoc, List.append_cancel_left_eq] at same
  exact delimits same

theorem pair (delimits : SelfDelimiting write) (delimits' : SelfDelimiting writeOther) :
    SelfDelimiting fun both : Item × Other => write both.1 ++ writeOther both.2 := by
  rintro ⟨first, other⟩ ⟨second, other'⟩ rest rest' same
  rw [List.append_assoc, List.append_assoc] at same
  obtain ⟨rfl, others⟩ := delimits same
  obtain ⟨rfl, rests⟩ := delimits' others
  exact ⟨rfl, rests⟩

theorem append_ne_cons {item : Item} {stop : Symbol} {rest rest' : List Symbol}
    (starts : ∃ symbol rest, write item = symbol :: rest ∧ symbol ≠ stop) :
    write item ++ rest ≠ stop :: rest' := by
  obtain ⟨symbol, tail, written, other⟩ := starts
  intro same
  rw [written, List.cons_append] at same
  exact other (List.cons.inj same).1

theorem stopped (delimits : SelfDelimiting write) {stop : Symbol}
    (starts : ∀ item, ∃ symbol rest, write item = symbol :: rest ∧ symbol ≠ stop) :
    SelfDelimiting fun items : List Item => items.flatMap write ++ [stop] := by
  intro first second rest rest' same
  induction first generalizing second with
  | nil =>
      cases second with
      | nil => exact ⟨rfl, (List.cons.inj same).2⟩
      | cons item items =>
          simp only [List.flatMap_cons, List.append_assoc] at same
          exact absurd same.symm (append_ne_cons (starts item))
  | cons item items inductionHypothesis =>
      cases second with
      | nil =>
          simp only [List.flatMap_cons, List.append_assoc] at same
          exact absurd same (append_ne_cons (starts item))
      | cons item' items' =>
          simp only [List.flatMap_cons, List.append_assoc] at same
          obtain ⟨rfl, others⟩ := delimits same
          obtain ⟨rfl, rests⟩ := inductionHypothesis (by simpa using others)
          exact ⟨rfl, rests⟩

end SelfDelimiting

end SelfDelimiting

/-! ## Texts -/

def escapeByte (byte : UInt8) : Text :=
  if byte = 34 then [92, 34]
  else if byte = 92 then [92, 92]
  else if byte = 8 then [92, 98]
  else if byte = 9 then [92, 116]
  else if byte = 10 then [92, 110]
  else if byte = 12 then [92, 102]
  else if byte = 13 then [92, 114]
  else if byte < 32 then ascii "\\u00" ++ hexEncode [byte]
  else [byte]

def jsonText (text : Text) : Text := 34 :: (text.flatMap escapeByte ++ [34])

/-- The byte behind a backslash. -/
def unescape (byte : UInt8) : UInt8 :=
  if byte = 98 then 8
  else if byte = 116 then 9
  else if byte = 110 then 10
  else if byte = 102 then 12
  else if byte = 114 then 13
  else byte

def readByte : Text → Option (UInt8 × Text)
  | [] => none
  | 92 :: 117 :: _ :: _ :: high :: low :: rest => do
      let bytes ← hexDecode [high, low]
      let byte ← bytes.head?
      pure (byte, rest)
  | 92 :: byte :: rest => some (unescape byte, rest)
  | byte :: rest => some (byte, rest)

theorem readByte_escapeByte (byte : UInt8) (rest : Text) :
    readByte (escapeByte byte ++ rest) = some (byte, rest) := by
  unfold escapeByte
  split_ifs with quote backslash backspace tab newline feed carriage control
  · rw [quote]; rfl
  · rw [backslash]; rfl
  · rw [backspace]; rfl
  · rw [tab]; rfl
  · rw [newline]; rfl
  · rw [feed]; rfl
  · rw [carriage]; rfl
  · have decoded := hexDecode_hexEncode [byte]
    change (do
      let bytes ← hexDecode (hexEncode [byte])
      let byte ← bytes.head?
      pure (byte, rest)) = _
    rw [decoded]
    rfl
  · rw [List.singleton_append, readByte]
    · simp [backslash]
    · simp [backslash]

theorem escapeByte_starts (byte : UInt8) :
    ∃ symbol rest, escapeByte byte = symbol :: rest ∧ symbol ≠ 34 := by
  unfold escapeByte
  split_ifs with quote
  all_goals first
    | exact ⟨92, _, rfl, by decide⟩
    | exact ⟨byte, [], rfl, quote⟩

theorem jsonText_delimits : SelfDelimiting jsonText :=
  ((SelfDelimiting.of_read readByte readByte_escapeByte).stopped escapeByte_starts).behind [34]

/-! ## Members and arrays -/

def nextMember (member : Text × Text) : Text :=
  44 :: (jsonText member.1 ++ 58 :: jsonText member.2)

theorem nextMember_delimits : SelfDelimiting nextMember :=
  ((jsonText_delimits.pair (jsonText_delimits.behind [58])).behind [44])

def jsonArray {Item : Type} (write : Item → Text) (items : List Item) : Text :=
  91 :: (List.intercalate [44] (items.map write) ++ [93])

theorem jsonArray_cons {Item : Type} (write : Item → Text) (item : Item) (items : List Item) :
    jsonArray write (item :: items) =
      91 :: (write item ++ (items.flatMap (fun item => 44 :: write item) ++ [93])) := by
  induction items generalizing item with
  | nil => simp [jsonArray, List.intercalate]
  | cons next items inductionHypothesis =>
      have later := (List.cons.inj (inductionHypothesis next)).2
      rw [List.flatMap_cons, List.cons_append, List.cons_append, List.append_assoc, ← later,
        jsonArray]
      simp [List.intercalate]

theorem jsonArray_delimits {Item : Type} {write : Item → Text} (delimits : SelfDelimiting write)
    (starts : ∀ item, ∃ symbol rest, write item = symbol :: rest ∧ symbol ≠ 93) :
    SelfDelimiting (jsonArray write) := by
  have others : SelfDelimiting fun items : List Item =>
      items.flatMap (fun item => 44 :: write item) ++ [93] :=
    (delimits.behind [44]).stopped fun item => ⟨44, write item, rfl, by decide⟩
  intro first second rest rest' same
  cases first with
  | nil =>
      cases second with
      | nil => exact ⟨rfl, by simpa [jsonArray] using same⟩
      | cons item items =>
          rw [jsonArray_cons, List.cons_append, List.append_assoc] at same
          exact absurd (List.cons.inj same).2.symm (SelfDelimiting.append_ne_cons (starts item))
  | cons item items =>
      cases second with
      | nil =>
          rw [jsonArray_cons, List.cons_append, List.append_assoc] at same
          exact absurd (List.cons.inj same).2 (SelfDelimiting.append_ne_cons (starts item))
      | cons item' items' =>
          rw [jsonArray_cons, jsonArray_cons, List.cons_append, List.cons_append] at same
          have written := (List.cons.inj same).2
          rw [List.append_assoc (write item), List.append_assoc (write item')] at written
          obtain ⟨rfl, tails⟩ := delimits written
          obtain ⟨rfl, rests⟩ := others tails
          exact ⟨rfl, rests⟩

end Platform
