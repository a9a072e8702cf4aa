import XCron.Keeper.Pcit
import XCron.Platform.Numerals
import XCron.Platform.Utf8

/-!
# Where the fields of a leaf end

Only the arguments of a leaf are encoded with their lengths. The endpoint, the token and
the minimal return have no length and no mark between them, and the number of arguments
is not written either.
-/

namespace XCron.Keeper

open Platform

/-- An argument with its length in front, which is cut to thirty-two bits. -/
def encodeArg (arg : Bytes) : Bytes := beBytes 4 arg.length ++ arg

def PcitLeaf.fields (leaf : PcitLeaf) : Bytes :=
  leaf.targetEndpoint.toUTF8.toList ++ (leaf.targetArgs.flatMap encodeArg ++
    (leaf.expectedTokenOut.toUTF8.toList ++ natBytes leaf.minReturn))

theorem foldl_encodeArg (args : List Bytes) (buf : Bytes) :
    args.foldl (fun buf arg => buf ++ beBytes 4 arg.length ++ arg) buf =
      buf ++ args.flatMap encodeArg := by
  induction args generalizing buf with
  | nil => rw [List.foldl_nil, List.flatMap_nil, List.append_nil]
  | cons arg rest inductionHypothesis =>
      rw [List.foldl_cons, inductionHypothesis, List.flatMap_cons, encodeArg]
      simp only [List.append_assoc]

namespace PcitLeaf

theorem topEncode_eq (leaf : PcitLeaf) :
    leaf.topEncode = leaf.targetContract.val ++ leaf.fields := by
  have last : (if 0 < leaf.minReturn then
      leaf.targetContract.val ++ leaf.targetEndpoint.toUTF8.toList ++
        leaf.targetArgs.flatMap encodeArg ++ leaf.expectedTokenOut.toUTF8.toList ++
        natBytes leaf.minReturn
      else leaf.targetContract.val ++ leaf.targetEndpoint.toUTF8.toList ++
        leaf.targetArgs.flatMap encodeArg ++ leaf.expectedTokenOut.toUTF8.toList) =
      leaf.targetContract.val ++ leaf.targetEndpoint.toUTF8.toList ++
        leaf.targetArgs.flatMap encodeArg ++ leaf.expectedTokenOut.toUTF8.toList ++
        natBytes leaf.minReturn := by
    split
    next => rfl
    next none =>
      obtain zero : leaf.minReturn = 0 := Nat.eq_zero_of_not_pos none
      rw [zero, natBytes_zero, List.append_nil]
  unfold topEncode
  simp only [foldl_encodeArg, List.nil_append, last]
  simp only [fields, List.append_assoc]

theorem topEncode_inj {leaf other : PcitLeaf} :
    other.topEncode = leaf.topEncode ↔
      other.targetContract = leaf.targetContract ∧ other.fields = leaf.fields := by
  rw [topEncode_eq, topEncode_eq]
  constructor
  · intro same
    exact unambiguous_bytes32 _ _ trivial trivial _ _ same
  · rintro ⟨targets, fields⟩
    rw [targets, fields]

/-! ## Leaves with an encoding of their own -/

/-- Nothing but a minimal return, and one whose numeral begins neither with a character nor
with an argument. -/
structure Unsplittable (leaf : PcitLeaf) : Prop where
  endpoint : leaf.targetEndpoint = ""
  args : leaf.targetArgs = []
  token : leaf.expectedTokenOut = ""
  text : ∀ char, ¬String.utf8EncodeChar char <+: natBytes leaf.minReturn
  short : (natBytes leaf.minReturn).length < 4 + beValue ((natBytes leaf.minReturn).take 4)

theorem Unsplittable.fields_eq {leaf : PcitLeaf} (unsplittable : leaf.Unsplittable) :
    leaf.fields = natBytes leaf.minReturn := by
  rw [fields, unsplittable.endpoint, unsplittable.args, unsplittable.token, utf8_empty]
  rfl

/-- No other leaf is encoded as one that cannot be split. -/
theorem Unsplittable.eq {leaf other : PcitLeaf} (unsplittable : leaf.Unsplittable)
    (same : other.topEncode = leaf.topEncode) : other = leaf := by
  obtain ⟨targets, tails⟩ := topEncode_inj.mp same
  rw [unsplittable.fields_eq, fields] at tails
  have endpoint : other.targetEndpoint = "" := by
    by_contra some
    obtain ⟨char, begins⟩ := utf8_prefix some
    apply unsplittable.text char
    rw [← tails]
    exact begins.trans (List.prefix_append _ _)
  rw [endpoint, utf8_empty, List.nil_append] at tails
  have args : other.targetArgs = [] := by
    cases args : other.targetArgs with
    | nil => rfl
    | cons arg rest =>
        rw [args, List.flatMap_cons, encodeArg, List.append_assoc, List.append_assoc] at tails
        have short := unsplittable.short
        have length : beValue ((natBytes leaf.minReturn).take 4) ≤ arg.length := by
          rw [← tails, List.take_left' (length_beBytes 4 arg.length), beValue_beBytes]
          exact Nat.mod_le _ _
        have lengths := congrArg List.length tails
        rw [List.length_append, List.length_append, length_beBytes] at lengths
        omega
  rw [args, List.flatMap_nil, List.nil_append] at tails
  have token : other.expectedTokenOut = "" := by
    by_contra some
    obtain ⟨char, begins⟩ := utf8_prefix some
    apply unsplittable.text char
    rw [← tails]
    exact begins.trans (List.prefix_append _ _)
  rw [token, utf8_empty, List.nil_append] at tails
  cases leaf
  cases other
  obtain ⟨endpoint', args', token', _, _⟩ := unsplittable
  congr
  · exact endpoint.trans endpoint'.symm
  · exact args.trans args'.symm
  · exact token.trans token'.symm
  · exact natBytes_injective tails

/-! ## Leaves with the encoding of another -/

section Unique

variable {leaf : PcitLeaf} (unique : ∀ other : PcitLeaf, other.topEncode = leaf.topEncode → other = leaf)

include unique

theorem eq_of_fields (endpoint : String) (args : List Bytes) (token : String) (minReturn : Nat)
    (same : PcitLeaf.fields ⟨leaf.targetContract, endpoint, args, token, minReturn⟩ = leaf.fields) :
    endpoint = leaf.targetEndpoint ∧ args = leaf.targetArgs ∧ token = leaf.expectedTokenOut := by
  have other := unique ⟨leaf.targetContract, endpoint, args, token, minReturn⟩
    (topEncode_inj.mpr ⟨rfl, same⟩)
  exact ⟨congrArg targetEndpoint other, congrArg targetArgs other,
    congrArg expectedTokenOut other⟩

/-- A text, then zeros and a numeral can stand for any bytes that begin with the text. -/
theorem of_text_prefix (chars : List Char) (rest : Bytes)
    (begins : leaf.fields = chars.flatMap String.utf8EncodeChar ++ rest) :
    (∃ more, leaf.targetEndpoint = String.ofList (chars ++ more)) ∧ leaf.targetArgs = [] ∧
      leaf.expectedTokenOut = "" := by
  obtain ⟨count, value, numeral⟩ := exists_zeros_numeral rest
  have zeros := utf8_zeros count
  rw [utf8_ofList] at zeros
  obtain ⟨endpoint, args, token⟩ := eq_of_fields unique
    (String.ofList (chars ++ List.replicate count (Char.ofNat 0))) [] "" value (by
      rw [begins, numeral, fields, utf8_ofList, utf8_empty, List.flatMap_append, zeros,
        List.flatMap_nil, List.nil_append, List.nil_append, List.append_assoc])
  exact ⟨⟨_, endpoint.symm⟩, args.symm, token.symm⟩

theorem unsplittable_of_unique : leaf.Unsplittable := by
  obtain ⟨_, args, token⟩ := of_text_prefix unique leaf.targetEndpoint.toList _
    (by rw [fields, utf8_eq leaf.targetEndpoint])
  have endpoint : leaf.targetEndpoint = "" := by
    refine (eq_of_fields unique "" [] leaf.targetEndpoint leaf.minReturn ?_).1.symm
    rw [fields, fields, args, token, utf8_empty]
    rfl
  have numeral : leaf.fields = natBytes leaf.minReturn := by
    rw [fields, args, token, endpoint, utf8_empty]
    rfl
  refine ⟨endpoint, args, token, ?_, ?_⟩
  · rintro char ⟨rest, begins⟩
    obtain ⟨⟨more, text⟩, _⟩ := of_text_prefix unique [char] rest
      (by rw [numeral, ← begins, List.flatMap_singleton])
    rw [endpoint] at text
    have chars := String.toList_eq_nil_iff.mpr text.symm
    rw [String.toList_ofList] at chars
    cases chars
  · by_contra long
    have long : 4 + beValue ((natBytes leaf.minReturn).take 4) ≤
        (natBytes leaf.minReturn).length := Nat.le_of_not_lt long
    generalize natBytes leaf.minReturn = bytes at numeral long
    obtain ⟨count, value, rest⟩ := exists_zeros_numeral (bytes.drop (4 + beValue (bytes.take 4)))
    have arg : encodeArg ((bytes.drop 4).take (beValue (bytes.take 4))) =
        bytes.take (4 + beValue (bytes.take 4)) := by
      have front : (bytes.take 4).length = 4 := by
        rw [List.length_take]
        omega
      have length : ((bytes.drop 4).take (beValue (bytes.take 4))).length =
          beValue (bytes.take 4) := by
        rw [List.length_take, List.length_drop]
        omega
      have prefixed := beBytes_beValue (bytes.take 4)
      rw [front] at prefixed
      rw [encodeArg, length, prefixed, List.take_add]
    obtain ⟨_, some, _⟩ := eq_of_fields unique "" [(bytes.drop 4).take (beValue (bytes.take 4))]
      (String.ofList (List.replicate count (Char.ofNat 0))) value (by
        rw [numeral, fields, utf8_empty, utf8_zeros, ← rest, List.flatMap_singleton, arg,
          List.nil_append, List.take_append_drop])
    rw [args] at some
    cases some

end Unique

/-- A leaf is told from every other leaf by its encoding exactly if it is unsplittable. -/
theorem topEncode_unique_iff (leaf : PcitLeaf) :
    (∀ other : PcitLeaf, other.topEncode = leaf.topEncode → other = leaf) ↔ leaf.Unsplittable := by
  constructor
  · exact unsplittable_of_unique
  · intro unsplittable other same
    exact unsplittable.eq same

end PcitLeaf

/-- The last letter of an endpoint may as well be the first one of the token. -/
theorem leaf_boundary_collision :
    ∃ leaf other : PcitLeaf, leaf.topEncode = other.topEncode ∧ leaf.targetEndpoint = "ab" ∧
      leaf.expectedTokenOut = "" ∧ other.targetEndpoint = "a" ∧ other.expectedTokenOut = "b" := by
  refine ⟨⟨.fill 9, "ab", [], "", 5⟩, ⟨.fill 9, "a", [], "b", 5⟩, ?_, rfl, rfl, rfl, rfl⟩
  decide +kernel

end XCron.Keeper
