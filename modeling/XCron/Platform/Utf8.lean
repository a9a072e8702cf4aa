import XCron.Platform.Bytes

/-!
# Texts as bytes

The bytes of a text are those of its characters, one after the other.
-/

namespace Platform

theorem toList_loop (bytes : ByteArray) (index : Nat) (collected : List UInt8) :
    ByteArray.toList.loop bytes index collected =
      collected.reverse ++ bytes.data.toList.drop index := by
  induction remaining : bytes.size - index generalizing index collected with
  | zero =>
      have finished : ¬index < bytes.size := by omega
      have past : bytes.data.toList.length ≤ index := Nat.le_of_not_lt finished
      rw [ByteArray.toList.loop, if_neg finished, List.drop_eq_nil_of_le past, List.append_nil]
  | succ remaining' inductionHypothesis =>
      have within : index < bytes.size := by omega
      have within' : index < bytes.data.toList.length := within
      have byte : bytes.get! index = bytes.data.toList[index] := by
        rw [ByteArray.get!, getElem!_pos bytes.data index within]
        rfl
      rw [ByteArray.toList.loop, if_pos within, inductionHypothesis _ _ (by omega),
        List.drop_eq_getElem_cons within', byte]
      simp

theorem byteArray_toList (bytes : ByteArray) : bytes.toList = bytes.data.toList :=
  toList_loop bytes 0 []

theorem utf8_ofList (chars : List Char) :
    (String.ofList chars).toUTF8.toList = chars.flatMap String.utf8EncodeChar := by
  rw [byteArray_toList, String.toUTF8_eq_toByteArray, String.toByteArray_ofList, List.utf8Encode,
    List.toList_data_toByteArray]

theorem utf8_eq (text : String) :
    text.toUTF8.toList = text.toList.flatMap String.utf8EncodeChar := by
  rw [← utf8_ofList, String.ofList_toList]

theorem utf8_empty : "".toUTF8.toList = [] := by
  rw [utf8_eq, String.toList_empty, List.flatMap_nil]

theorem utf8_zeros (count : Nat) :
    (String.ofList (List.replicate count (Char.ofNat 0))).toUTF8.toList =
      List.replicate count 0 := by
  rw [utf8_ofList]
  induction count with
  | zero => rfl
  | succ count inductionHypothesis =>
      rw [List.replicate_succ, List.flatMap_cons, inductionHypothesis]
      rfl

theorem utf8_prefix {text : String} (some : text ≠ "") :
    ∃ char, String.utf8EncodeChar char <+: text.toUTF8.toList := by
  rw [utf8_eq]
  cases chars : text.toList with
  | nil => exact absurd (String.toList_eq_nil_iff.mp chars) some
  | cons char rest => exact ⟨char, List.prefix_append _ _⟩

end Platform
