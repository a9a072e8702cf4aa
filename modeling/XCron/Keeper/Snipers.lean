import XCron.Platform.Base64
import XCron.Platform.Hex
import XCron.Platform.RollingSet
import XCron.Xse.Secrets

/-!
# The mempool sniper

`xcron-keeper-rs/src/mempool_sniper.rs`: the keeper polls an observer for large swaps on one
exchange among the transactions that wait for a block. It remembers hashes in three
generations, so that a transaction that stays in the pool is looked at once.
-/

namespace XCron.Keeper

open Platform
open XCron.Xse (utf8Step fromUtf8)

/-! ## Texts -/

def hexNumber (text : Text) : Option Nat :=
  text.foldlM (fun value digit => (hexValue digit).map (16 * value + ·)) 0

structure HexReader where
  parseBytes : Text → Option Nat
  reads : ∀ {text : Text} {value : Nat}, text ≠ [] → hexNumber text = some value →
    parseBytes text = some value

def separator : UInt8 := 64

def swapFixedInput : Text := ascii "73776170546f6b656e734669786564496e707574"

/-! ## The sniper -/

structure MempoolTransaction where
  hash : Text
  sender : Text
  receiver : Text
  data : Text
  gasPrice : UInt64

structure MempoolTxWrapper where
  txFields : Option MempoolTransaction

structure TxPoolData where
  regularTransactions : Option (List MempoolTxWrapper)

structure PoolResponseData where
  txPool : Option TxPoolData

structure ObserverPoolResponse where
  data : Option PoolResponseData

structure VictimDetected where
  victimHash : Text
  gasPrice : UInt64
  pairAddress : Text
  deriving DecidableEq

inductive PoolAnswer where
  | unreachable
  | refused (status : Nat)
  | unreadable
  | pool (response : ObserverPoolResponse)

/-- The least amount that is worth a signal. -/
def swapThreshold (reader : HexReader) : Nat :=
  (reader.parseBytes (ascii "4563918244F40000")).getD 0

def analyzeTarget (reader : HexReader) (targetDex : Text) (txData : MempoolTransaction) :
    Option VictimDetected := do
  if txData.receiver ≠ targetDex ∨ txData.data = [] then none
  let decodedBytes ← base64Decode txData.data
  let decodedStr ← fromUtf8 decodedBytes
  if ¬(ascii "ESDTTransfer@" <+: decodedStr ∧ swapFixedInput <:+: decodedStr) then none
  let amountHex ← (decodedStr.splitOn separator)[2]?
  if 64 < amountHex.length then none
  let amountWei ← reader.parseBytes amountHex
  if swapThreshold reader ≤ amountWei then
    some ⟨txData.hash, txData.gasPrice, targetDex⟩
  else none

/-- What has been analysed, the latest first, is bookkeeping. -/
structure MempoolSniper where
  targetDex : Text
  hashSets : RollingSet Text
  sent : List VictimDetected
  analysed : List MempoolTransaction

namespace MempoolSniper

def start (targetDex : Text) : MempoolSniper := ⟨targetDex, .empty, [], []⟩

def present (reader : HexReader) (sniper : MempoolSniper) (wrapper : MempoolTxWrapper) :
    MempoolSniper :=
  let rawTx := wrapper.txFields.getD ⟨[], [], [], [], 0⟩
  if rawTx.hash = [] then sniper
  else if sniper.hashSets.contains rawTx.hash then sniper
  else
    { sniper with
      hashSets := sniper.hashSets.insert 10000 rawTx.hash
      sent := sniper.sent ++ (analyzeTarget reader sniper.targetDex rawTx).toList
      analysed := rawTx :: sniper.analysed }

def poll (reader : HexReader) (sniper : MempoolSniper) : PoolAnswer → MempoolSniper
  | .pool response =>
      match response.data.bind fun data => data.txPool.bind (·.regularTransactions) with
      | some txs => txs.foldl (present reader) sniper
      | none => sniper
  | _ => sniper

def watch (reader : HexReader) (targetDex : Text) (answers : List PoolAnswer) : MempoolSniper :=
  answers.foldl (poll reader) (start targetDex)

end MempoolSniper

/-! ## What a swap looks like -/

/-- The data of a call that swaps a fixed amount of a token. -/
def swapData (token amount : Bytes) (arguments : List Bytes) : Text :=
  ascii "ESDTTransfer" ++ separator :: (hexEncode token ++ separator :: (hexEncode amount ++
    separator :: (swapFixedInput ++ arguments.flatMap fun argument =>
      separator :: hexEncode argument)))

theorem hexDigit_plain {value : Nat} (small : value < 16) :
    hexDigit value < 128 ∧ hexDigit value ≠ separator := by
  revert value
  decide

theorem plain_of_mem_hexEncode {bytes : Bytes} {char : UInt8} (member : char ∈ hexEncode bytes) :
    char < 128 ∧ char ≠ separator := by
  obtain ⟨byte, _, digit⟩ := List.mem_flatMap.mp member
  have bound := byte.toNat_lt
  rcases List.mem_pair.mp digit with rfl | rfl
  · exact hexDigit_plain (by omega)
  · exact hexDigit_plain (by omega)

theorem fromUtf8_of_ascii {text : Text} (plain : ∀ char ∈ text, char < 128) :
    fromUtf8 text = some text := by
  have stays : text.foldl utf8Step (some ⟨0, 128, 191⟩) = some ⟨0, 128, 191⟩ := by
    induction text with
    | nil => rfl
    | cons char rest inductionHypothesis =>
        have first : utf8Step (some ⟨0, 128, 191⟩) char = some ⟨0, 128, 191⟩ := by
          simp [utf8Step, plain char (.head _)]
        rw [List.foldl_cons, first]
        exact inductionHypothesis fun other member => plain other (.tail _ member)
  unfold fromUtf8
  rw [stays]
  rfl

theorem hexNumber_hexEncode (bytes : Bytes) : hexNumber (hexEncode bytes) = some (beValue bytes) := by
  have continues (start : Nat) : (hexEncode bytes).foldlM
      (fun value digit => (hexValue digit).map (16 * value + ·)) start =
        some (bytes.foldl (fun value byte => value * 256 + byte.toNat) start) := by
    induction bytes generalizing start with
    | nil => rfl
    | cons byte rest inductionHypothesis =>
        have bound := byte.toNat_lt
        have joined : 16 * (16 * start + byte.toNat / 16) + byte.toNat % 16 =
            start * 256 + byte.toNat := by omega
        rw [hexEncode, List.flatMap_cons, List.foldlM_append, List.foldl_cons, ← joined,
          ← inductionHypothesis]
        simp only [List.foldlM_cons, List.foldlM_nil, hexValue_hexDigit (show byte.toNat / 16 < 16 by omega),
          hexValue_hexDigit (show byte.toNat % 16 < 16 by omega), Option.map_some, Option.bind_eq_bind,
          Option.bind_some, Option.pure_def]
        rfl
  exact continues 0

theorem swapThreshold_eq (reader : HexReader) : swapThreshold reader = 5 * 10 ^ 18 := by
  have number : hexNumber (ascii "4563918244F40000") = some (5 * 10 ^ 18) := by decide
  rw [swapThreshold, reader.reads (by decide) number]
  rfl

section Swap

variable {token amount : Bytes} {arguments : List Bytes}

theorem swapData_plain {char : UInt8} (member : char ∈ swapData token amount arguments) :
    char < 128 := by
  have name : (ascii "ESDTTransfer").all (fun char => char < 128) := by decide
  have function : swapFixedInput.all (fun char => char < 128) := by decide
  have mark : separator < 128 := by decide
  simp only [swapData, List.mem_append, List.mem_cons, List.mem_flatMap] at member
  rcases member with inside | rfl | inside | rfl | inside | rfl | inside | ⟨argument, _, rfl | inside⟩
  · exact of_decide_eq_true (List.all_eq_true.mp name char inside)
  · exact mark
  · exact (plain_of_mem_hexEncode inside).1
  · exact mark
  · exact (plain_of_mem_hexEncode inside).1
  · exact mark
  · exact of_decide_eq_true (List.all_eq_true.mp function char inside)
  · exact mark
  · exact (plain_of_mem_hexEncode inside).1

theorem swapData_amount :
    ((swapData token amount arguments).splitOn separator)[2]? = some (hexEncode amount) := by
  have name : separator ∉ ascii "ESDTTransfer" := by decide
  have digits (bytes : Bytes) : separator ∉ hexEncode bytes :=
    fun member => (plain_of_mem_hexEncode member).2 rfl
  rw [swapData, List.splitOn_append_cons_self_of_not_mem name,
    List.splitOn_append_cons_self_of_not_mem (digits token),
    List.splitOn_append_cons_self_of_not_mem (digits amount)]
  rfl

/-- A swap is worth a signal when its amount is, and not too long to be read. -/
theorem analyzeTarget_swap {reader : HexReader} {targetDex : Text} {tx : MempoolTransaction}
    (receiver : tx.receiver = targetDex)
    (data : tx.data = base64Encode (swapData token amount arguments)) (some : amount ≠ []) :
    analyzeTarget reader targetDex tx =
      if amount.length ≤ 32 ∧ 5 * 10 ^ 18 ≤ beValue amount then
        .some ⟨tx.hash, tx.gasPrice, targetDex⟩
      else none := by
  have begins : ascii "ESDTTransfer@" <+: swapData token amount arguments :=
    ⟨_, List.append_assoc (ascii "ESDTTransfer") [separator] _⟩
  have names : swapFixedInput <:+: swapData token amount arguments := by
    refine ⟨ascii "ESDTTransfer" ++ separator :: (hexEncode token ++ separator ::
      (hexEncode amount ++ [separator])), arguments.flatMap fun argument =>
        separator :: hexEncode argument, ?_⟩
    simp [swapData]
  have present : base64Encode (swapData token amount arguments) ≠ [] := by
    intro empty
    have decoded := base64Decode_encode (swapData token amount arguments)
    rw [empty] at decoded
    have nothing := Option.some.inj decoded
    exact absurd (congrArg List.length nothing) (by simp [swapData])
  have written : hexEncode amount ≠ [] := by
    intro empty
    have length := congrArg List.length (hexEncode_eq_map amount)
    rw [empty, List.length_map, length_nibbles] at length
    exact some (List.length_eq_zero_iff.mp (by simpa using length.symm))
  have size : (hexEncode amount).length = 2 * amount.length := by
    rw [hexEncode_eq_map, List.length_map, length_nibbles]
  unfold analyzeTarget
  rw [data, base64Decode_encode, if_neg (not_or.mpr ⟨not_not.mpr receiver, present⟩)]
  simp only [Option.bind_eq_bind, Option.bind_some,
    fromUtf8_of_ascii fun char => swapData_plain, not_not.mpr (And.intro begins names), if_false,
    swapData_amount, size, swapThreshold_eq]
  by_cases short : amount.length ≤ 32
  · rw [if_neg (by omega), reader.reads written (hexNumber_hexEncode amount),
      Option.bind_some]
    simp only [short, true_and]
  · rw [if_pos (by omega)]
    simp [short]

end Swap

/-! ## Polling -/

namespace MempoolSniper

variable {reader : HexReader} {targetDex : Text} {sniper : MempoolSniper}

/-- What the sniper has sent comes from what it has analysed, and its sets know the hashes
of that. -/
structure Watching (reader : HexReader) (targetDex : Text) (sniper : MempoolSniper) : Prop where
  target : sniper.targetDex = targetDex
  holds : sniper.hashSets.Holds 10000 (sniper.analysed.map (·.hash))
  letIn : RollingSet.LetIn 10000 (sniper.analysed.map (·.hash))
  sent : sniper.sent = sniper.analysed.reverse.filterMap (analyzeTarget reader targetDex)

theorem watching_start : Watching reader targetDex (start targetDex) :=
  ⟨rfl, RollingSet.holds_empty 10000, .nil, rfl⟩

theorem Watching.present (watching : Watching reader targetDex sniper) (wrapper : MempoolTxWrapper) :
    Watching reader targetDex (sniper.present reader wrapper) := by
  unfold MempoolSniper.present
  dsimp only
  split
  · exact watching
  · split
    next known => exact watching
    next unknown =>
      have fresh := Bool.eq_false_iff.mpr unknown
      refine ⟨watching.target, watching.holds.insert fresh, ?_, ?_⟩
      · apply RollingSet.LetIn.cons
        · rw [← watching.holds.contains_iff]
          exact unknown
        · exact watching.letIn
      · rw [List.reverse_cons, List.filterMap_append, ← watching.sent, watching.target,
          List.filterMap_cons]
        cases analyzeTarget reader targetDex (wrapper.txFields.getD ⟨[], [], [], [], 0⟩) <;> rfl

theorem Watching.poll (watching : Watching reader targetDex sniper) (answer : PoolAnswer) :
    Watching reader targetDex (sniper.poll reader answer) := by
  cases answer with
  | pool response =>
      unfold MempoolSniper.poll
      dsimp only
      split
      next txs pool =>
        clear pool
        induction txs generalizing sniper with
        | nil => exact watching
        | cons wrapper rest inductionHypothesis =>
            rw [List.foldl_cons]
            exact inductionHypothesis (watching.present wrapper)
      next => exact watching
  | unreachable | refused status | unreadable => exact watching

theorem watching_watch (reader : HexReader) (targetDex : Text) (answers : List PoolAnswer) :
    Watching reader targetDex (watch reader targetDex answers) := by
  unfold watch
  have onwards {sniper : MempoolSniper} (watching : Watching reader targetDex sniper) :
      Watching reader targetDex (answers.foldl (MempoolSniper.poll reader) sniper) := by
    induction answers generalizing sniper with
    | nil => exact watching
    | cons answer rest inductionHypothesis =>
        rw [List.foldl_cons]
        exact inductionHypothesis (watching.poll answer)
  exact onwards watching_start

/-- A transaction whose hash was analysed in one of the last three generations. -/
def Recent (sniper : MempoolSniper) (tx : MempoolTransaction) : Prop :=
  ∃ later earlier before, sniper.analysed = later ++ earlier :: before ∧ earlier.hash = tx.hash ∧
    sniper.analysed.length / 10001 < before.length / 10001 + 3

theorem Watching.contains_iff (watching : Watching reader targetDex sniper)
    (tx : MempoolTransaction) :
    sniper.hashSets.contains tx.hash = true ↔ sniper.Recent tx := by
  rw [watching.holds.contains_iff, RollingSet.mem_take_reach_iff, Recent, List.length_map]
  constructor
  · rintro ⟨gap, before, parts, near⟩
    obtain ⟨later, others, analysed, rfl, onwards⟩ := List.map_eq_append_iff.mp parts
    obtain ⟨earlier, before, rfl, same, rfl⟩ := List.map_eq_cons_iff.mp onwards
    rw [List.length_map] at near
    exact ⟨later, earlier, before, analysed, same, near⟩
  · rintro ⟨later, earlier, before, analysed, same, near⟩
    refine ⟨later.map (·.hash), before.map (·.hash), ?_, ?_⟩
    · rw [analysed, List.map_append, List.map_cons, same]
    · rw [List.length_map]
      exact near

end MempoolSniper

/-- A swap that is in the pool is signalled when it is large enough, unless its hash was
analysed in one of the last three generations. -/
theorem swap_signalled_iff (reader : HexReader) (targetDex : Text) (answers : List PoolAnswer)
    (tx : MempoolTransaction) (token amount : Bytes) (arguments : List Bytes)
    (named : tx.hash ≠ []) (receiver : tx.receiver = targetDex)
    (data : tx.data = base64Encode (swapData token amount arguments)) (nonempty : amount ≠ []) :
    let sniper := MempoolSniper.watch reader targetDex answers
    (sniper.present reader ⟨tx⟩).sent = sniper.sent ++ [⟨tx.hash, tx.gasPrice, targetDex⟩] ↔
      ¬sniper.Recent tx ∧ amount.length ≤ 32 ∧ 5 * 10 ^ 18 ≤ beValue amount := by
  intro sniper
  have watching := MempoolSniper.watching_watch reader targetDex answers
  rw [← watching.contains_iff tx]
  unfold MempoolSniper.present
  rw [Option.getD_some, if_neg named]
  by_cases known : sniper.hashSets.contains tx.hash = true
  · rw [if_pos known]
    constructor
    · intro same
      exact absurd (congrArg List.length same) (by simp)
    · rintro ⟨unknown, _⟩
      exact absurd known unknown
  · rw [if_neg known]
    dsimp only
    rw [analyzeTarget_swap (receiver.trans watching.target.symm) data nonempty, watching.target]
    constructor
    · intro same
      refine ⟨known, ?_⟩
      by_contra small
      rw [if_neg small] at same
      exact absurd (congrArg List.length same) (by simp)
    · rintro ⟨_, large⟩
      rw [if_pos large]
      rfl

namespace MempoolSniper

def sampleReader : HexReader := ⟨hexNumber, fun _ read => read⟩

def sampleAmount : Bytes := [69, 99, 145, 130, 68, 244, 0, 0]

def sampleSwap : MempoolTransaction where
  hash := ascii "a1b2"
  sender := ascii "erd1user"
  receiver := ascii "erd1pair"
  data := base64Encode (swapData (ascii "WEGLD-bd4d79") sampleAmount [ascii "USDC-c76f1f"])
  gasPrice := 1500000000

end MempoolSniper

theorem swap_signalled_sample :
    ((MempoolSniper.watch MempoolSniper.sampleReader (ascii "erd1pair") [.refused 429]).present
      MempoolSniper.sampleReader ⟨MempoolSniper.sampleSwap⟩).sent =
        [⟨ascii "a1b2", 1500000000, ascii "erd1pair"⟩] := by
  refine (swap_signalled_iff MempoolSniper.sampleReader (ascii "erd1pair") [.refused 429]
    MempoolSniper.sampleSwap (ascii "WEGLD-bd4d79") MempoolSniper.sampleAmount
    [ascii "USDC-c76f1f"] (by decide) rfl rfl (by decide)).mpr ⟨?_, by decide, by decide⟩
  rintro ⟨later, earlier, before, analysed, _⟩
  exact absurd (congrArg List.length analysed) (by simp [MempoolSniper.watch, MempoolSniper.poll,
    MempoolSniper.start])

end XCron.Keeper
