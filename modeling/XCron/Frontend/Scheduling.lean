import XCron.Common.Decoding
import XCron.Platform.Arguments
import XCron.Platform.JavaScript

/-!
# Scheduling from the web pages

`frontend-next/src/utils/quantumAbi.ts` writes a task field by field in hexadecimal, for the
schedule page (`app/schedule/page.tsx`) and for the chat (`components/AiChat.tsx`). The
contract decodes what arrives. What the serializer is given in the contract's own terms is
decoded to the same; the chat writes the text of an address where the address should be.
-/

namespace XCron.Frontend

open Platform
open Platform.JsString

/-! ## Numbers in hexadecimal -/

def hexUnits (value : Nat) : JsString :=
  (hexNumeral value).map fun char => UInt16.ofNat char.toNat

def toString16 : Option Int → JsString
  | none => jsAscii "NaN"
  | some number => if number < 0 then 45 :: hexUnits number.natAbs else hexUnits number.toNat

def padStart (pad : Nat) (text : JsString) : JsString :=
  List.replicate (pad - text.length) 48 ++ text

def numToHex (number : Option Int) (pad : Nat) : JsString := padStart pad (toString16 number)

/-- `numToHex(text.length / 2, 8)`; half a byte has a fraction. -/
def halfLengthToHex (text : JsString) : JsString :=
  padStart 8 (hexUnits (text.length / 2) ++ if text.length % 2 = 0 then [] else jsAscii ".8")

/-! ## The serializer -/

structure QuantumTaskHex where
  taskId : Option Int
  ownerHex : JsString
  targetContractHex : JsString
  endpointHex : JsString
  argsHex : List JsString
  triggerType : Option Int
  triggerDataHex : JsString
  maxGas : Option Int
  depositHex : JsString := jsAscii "00000000"
  maxRetries : Option Int := some 3
  ttlSeconds : Option Int := some 604800
  requireXwapSafe : Bool := false
  confidential : Bool := false

def boolToHex (value : Bool) : JsString := if value then jsAscii "01" else jsAscii "00"

def serializeQuantumTaskHex (task : QuantumTaskHex) : JsString :=
  numToHex task.taskId 16 ++ task.ownerHex ++ task.targetContractHex ++
    (halfLengthToHex task.endpointHex ++ task.endpointHex) ++
    numToHex (some task.argsHex.length) 8 ++
    (task.argsHex.flatMap fun arg => halfLengthToHex arg ++ arg) ++
    (numToHex task.triggerType 2 ++ task.triggerDataHex) ++
    numToHex task.maxGas 16 ++ task.depositHex ++ numToHex task.maxRetries 2 ++ jsAscii "00" ++
    numToHex task.ttlSeconds 16 ++ jsAscii "0000000000000000" ++ jsAscii "00" ++ jsAscii "00" ++
    jsAscii "0000000000000000" ++ jsAscii "00" ++ boolToHex task.requireXwapSafe ++
    boolToHex task.confidential

/-! ## The pages -/

/-- `Address.newFromBech32`, which throws where it returns nothing. -/
structure Core where
  newFromBech32 : JsString → Option Bytes32

def addressToHex (core : Core) (address : JsString) : Option JsString :=
  (core.newFromBech32 address).map fun bytes => hexString bytes.val

def hex64 (number : Option Int) : JsString := numToHex number 16

/-- The form of the schedule page, with the numbers that `parseInt` reads from its texts or from
their defaults. -/
structure ScheduleForm where
  targetContract : JsString
  targetEndpoint : JsString
  recurring : Bool
  interval : Option Int
  maxGas : Option Int
  deriving DecidableEq

def callData (taskHex : JsString) : JsString := jsAscii "scheduleQuantumTask@" ++ taskHex

structure ContractAction where
  address : JsString
  endpoint : JsString

def protocols : List (JsString × List (JsString × ContractAction)) :=
  let hatom := jsAscii "erd1qqqqqqqqqqqqqpgqfzydqmdw7m2vazsp6u5p95yxz76t2p9rd8ss0zg9ts"
  let xexchange := jsAscii "erd1qqqqqqqqqqqqqpgqa0fsfshnff4n76jhcye6k7uvd7qacsq42jpsp6shh2"
  let ashswap := jsAscii "erd1qqqqqqqqqqqqqpgq5774jcntdqkzv62tlvvhfn2y7eevnph0mvtsm73yxz"
  [(jsAscii "hatom",
      [(jsAscii "liquid-stake", ⟨hatom, jsAscii "delegate"⟩),
        (jsAscii "claim-rewards", ⟨hatom, jsAscii "claimRewards"⟩)]),
    (jsAscii "xexchange",
      [(jsAscii "auto-compound", ⟨xexchange, jsAscii "claimRewardsAndCompound"⟩),
        (jsAscii "claim-rewards", ⟨xexchange, jsAscii "claimRewards"⟩)]),
    (jsAscii "ashswap",
      [(jsAscii "claim-rewards", ⟨ashswap, jsAscii "claimRewards"⟩)])]

def encodedHex (text : JsString) : JsString :=
  (textEncode text).flatMap fun byte => numToHex (some byte.toNat) 2

structure ConversationState where
  protocol : JsString
  action : JsString
  interval : Option UInt64

/-- `executeSchedule`, for a connected wallet: the data of the transaction. -/
def executeSchedule (core : Core) (wallet : JsString) (currentTimestamp taskId : Nat)
    (state : ConversationState) : Option JsString := do
  let contracts ← protocols.lookup state.protocol
  let actionData ← contracts.lookup state.action
  let seconds := state.interval.getD 604800
  let endpointHex := encodedHex actionData.endpoint
  let targetHex := encodedHex actionData.address
  let ownerHex ← addressToHex core wallet
  let triggerDataHex := hex64 (some currentTimestamp) ++ hex64 (some seconds.toNat)
  pure (callData (serializeQuantumTaskHex
    { taskId := some taskId
      ownerHex := ownerHex
      targetContractHex := targetHex
      endpointHex := endpointHex
      argsHex := []
      triggerType := some 1
      triggerDataHex := triggerDataHex
      maxGas := some 15000000 }))

/-! ## The contract -/

/-- The arguments with which the endpoint `scheduleQuantumTask` runs. -/
def received (data : JsString) : Option (Task × Option Nat) := do
  let (function, arguments) ← parseCallData (textEncode data)
  if function = ascii "scheduleQuantumTask" then
    loadWithOptional Task.decode decodeBigUint arguments
  else none

/-! ## Well-formed hexadecimal -/

theorem hexString_append (first second : Bytes) :
    hexString (first ++ second) = hexString first ++ hexString second := by
  simp only [hexString, hexEncode, List.flatMap_append, List.map_append]

theorem hexString_flatMap {Alpha : Type} (items : List Alpha) (write : Alpha → Bytes) :
    hexString (items.flatMap write) = items.flatMap fun item => hexString (write item) := by
  induction items with
  | nil => rfl
  | cons item rest inductionHypothesis =>
      rw [List.flatMap_cons, hexString_append, inductionHypothesis, List.flatMap_cons]

theorem length_hexString (bytes : Bytes) : (hexString bytes).length = 2 * bytes.length := by
  rw [hexString, List.length_map, hexEncode_eq_map, List.length_map, length_nibbles]

theorem padStart_hexUnits {width value : Nat} (positive : 0 < width) (small : value < 256 ^ width) :
    padStart (2 * width) (hexUnits value) = hexString (beBytes width value) := by
  rw [hexString, ← formatHex_eq positive small, formatHex, List.map_append, List.map_replicate,
    padStart, hexUnits, List.length_map]
  rfl

theorem numToHex_ofNat {width value : Nat} (positive : 0 < width) (small : value < 256 ^ width) :
    numToHex (some (value : Int)) (2 * width) = hexString (beBytes width value) := by
  have natural : ¬(value : Int) < 0 := Int.not_lt.mpr (Int.natCast_nonneg value)
  rw [numToHex, toString16, if_neg natural, Int.toNat_natCast]
  exact padStart_hexUnits positive small

theorem numToHex_u64 (value : UInt64) :
    numToHex (some (value.toNat : Int)) 16 = hexString (encodeU64 value) :=
  numToHex_ofNat (Nat.succ_pos 7) value.toNat_lt

theorem numToHex_u8 (value : UInt8) :
    numToHex (some (value.toNat : Int)) 2 = hexString (encodeU8 value) := by
  have byte : beBytes 1 value.toNat = encodeU8 value := by
    simp [beBytes, encodeU8]
  rw [← byte]
  exact numToHex_ofNat Nat.one_pos value.toNat_lt

theorem numToHex_length {length : Nat} (small : length < 2 ^ 32) :
    numToHex (some (length : Int)) 8 = hexString (encodeLength length) :=
  numToHex_ofNat (Nat.succ_pos 3) small

theorem halfLengthToHex_hexString {bytes : Bytes} (fits : FitsBuffer bytes) :
    halfLengthToHex (hexString bytes) ++ hexString bytes = hexString (encodeBuffer bytes) := by
  have even : 2 * bytes.length % 2 = 0 := Nat.mul_mod_right 2 _
  have half : 2 * bytes.length / 2 = bytes.length := Nat.mul_div_cancel_left _ (by decide)
  rw [halfLengthToHex, length_hexString, even, if_pos rfl, List.append_nil, half, encodeBuffer,
    hexString_append]
  congr 1
  exact padStart_hexUnits (Nat.succ_pos 3) fits

/-! ## What the serializer writes -/

def hexRequest (task : Task) (target : Bytes) (tag : UInt8) (fields : Bytes) : QuantumTaskHex where
  taskId := some task.id.toNat
  ownerHex := hexString task.owner.val
  targetContractHex := hexString target
  endpointHex := hexString task.targetEndpoint
  argsHex := task.targetArgs.map hexString
  triggerType := some tag.toNat
  triggerDataHex := hexString fields
  maxGas := some task.maxGas.toNat
  depositHex := hexString (encodeBigUint task.deposit)
  maxRetries := some task.maxRetries.toNat
  ttlSeconds := some task.ttlSeconds.toNat
  requireXwapSafe := task.requireXwapSafe
  confidential := task.confidential

def afterTrigger (task : Task) : Bytes :=
  encodeU64 task.maxGas ++ encodeBigUint task.deposit ++ encodeU8 task.maxRetries ++ encodeU8 0 ++
    encodeU64 task.ttlSeconds ++ encodeU64 0 ++ [0] ++ [0] ++ encodeU64 0 ++ [0] ++
    encodeBool task.requireXwapSafe ++ encodeBool task.confidential

theorem serialize_hexRequest {task : Task} (endpoint : FitsBuffer task.targetEndpoint)
    (args : FitsBuffers task.targetArgs) (target : Bytes) (tag : UInt8) (fields : Bytes) :
    serializeQuantumTaskHex (hexRequest task target tag fields) =
      hexString (encodeU64 task.id ++ task.owner.val ++ target ++
        encodeBuffer task.targetEndpoint ++ encodeList encodeBuffer task.targetArgs ++
        (tag :: fields) ++ afterTrigger task) := by
  have count : numToHex (some (task.targetArgs.length : Int)) 8 =
      hexString (encodeLength task.targetArgs.length) := numToHex_length args.1
  have written : (task.targetArgs.map hexString).flatMap (fun arg => halfLengthToHex arg ++ arg) =
      hexString (task.targetArgs.flatMap encodeBuffer) := by
    rw [List.flatMap_map, hexString_flatMap]
    apply List.flatMap_congr
    intro arg member
    exact halfLengthToHex_hexString (args.2 arg member)
  have flag (value : Bool) : boolToHex value = hexString (encodeBool value) := by
    cases value <;> rfl
  have zeros : jsAscii "0000000000000000" = hexString (encodeU64 0) := by decide
  have zero : jsAscii "00" = hexString [0] := by decide
  have trigger : hexString (tag :: fields) = hexString (encodeU8 tag) ++ hexString fields :=
    hexString_append [tag] fields
  simp only [serializeQuantumTaskHex, hexRequest, numToHex_u64, numToHex_u8,
    halfLengthToHex_hexString endpoint, count, written, flag, zeros, zero,
    hexString_append, trigger, afterTrigger, encodeList, List.length_map, List.append_assoc]
  rfl

/-! ## What the contract receives -/

theorem textEncode_ascii {text : JsString} (plain : ∀ unit ∈ text, unit.toNat < 128) :
    textEncode text = text.map fun unit => UInt8.ofNat unit.toNat := by
  have points : codePoints text = text.map UInt16.toNat := by
    induction text using codePoints.induct with
    | case1 => rfl
    | case2 unit => rfl
    | case3 high low rest paired _ =>
        have small := plain high (.head _)
        simp only [isHighSurrogate, Bool.and_eq_true, decide_eq_true_eq] at paired
        have large := paired.1.1
        rw [UInt16.le_iff_toNat_le] at large
        exact absurd (Nat.le_trans large (Nat.le_of_lt small)) (by decide)
    | case4 high low rest unpaired inductionHypothesis =>
        rw [codePoints, if_neg unpaired,
          inductionHypothesis fun unit member => plain unit (.tail _ member)]
        rfl
  unfold textEncode
  rw [points, List.flatMap_map, List.map_eq_flatMap]
  apply List.flatMap_congr
  intro unit member
  have low := plain unit member
  have single : isSurrogate unit.toNat = false := by
    simp only [isSurrogate, decide_eq_false_iff_not]
    omega
  rw [single, if_neg Bool.false_ne_true, utf8, if_pos low]

theorem hexDigit_lt {value : Nat} (small : value < 16) : (hexDigit value).toNat < 128 := by
  revert value
  decide

theorem lt_of_mem_hexEncode {bytes : Bytes} {char : UInt8} (member : char ∈ hexEncode bytes) :
    char.toNat < 128 := by
  rw [hexEncode_eq_map] at member
  obtain ⟨value, digit, rfl⟩ := List.mem_map.mp member
  exact hexDigit_lt (nibbles_lt value digit)

/-- The name of a function as a page writes it, with the at sign of its argument. -/
structure Named (name : JsString) (function : Text) : Prop where
  plain : name.all (fun unit => unit.toNat < 128)
  read : name.map (fun unit => UInt8.ofNat unit.toNat) = function ++ [argumentSeparator]
  separated : argumentSeparator ∉ function

theorem textEncode_hexString {name : JsString} {function : Text} (named : Named name function)
    (bytes : Bytes) :
    textEncode (name ++ hexString bytes) = function ++ argumentSeparator :: hexEncode bytes := by
  rw [textEncode_ascii]
  · rw [List.map_append, hexString, List.map_map]
    have back : (hexEncode bytes).map ((fun unit : UInt16 => UInt8.ofNat unit.toNat) ∘
        fun char : UInt8 => UInt16.ofNat char.toNat) = hexEncode bytes := by
      rw [List.map_congr_left, List.map_id]
      intro char _
      have bound : char.toNat < UInt16.size := Nat.lt_trans char.toNat_lt (by decide)
      simp only [Function.comp_apply, id_eq]
      rw [UInt16.toNat_ofNat_of_lt' bound, UInt8.ofNat_toNat]
    rw [named.read, back, List.append_assoc]
    rfl
  · intro unit member
    rcases List.mem_append.mp member with front | digit
    · exact of_decide_eq_true (List.all_eq_true.mp named.plain unit front)
    · obtain ⟨char, inside, rfl⟩ := List.mem_map.mp digit
      have small := lt_of_mem_hexEncode inside
      have bound : char.toNat < UInt16.size := Nat.lt_trans char.toNat_lt (by decide)
      rw [UInt16.toNat_ofNat_of_lt' bound]
      exact small

theorem parseCallData_hexString {name : JsString} {function : Text} (named : Named name function)
    (bytes : Bytes) :
    parseCallData (textEncode (name ++ hexString bytes)) = some (function, [bytes]) := by
  have plain : argumentSeparator ∉ hexEncode bytes :=
    fun inside => hexValue_of_mem (hexDecode_hexEncode bytes) inside (by decide)
  rw [textEncode_hexString named]
  unfold parseCallData
  rw [List.splitOn_append_cons_self_of_not_mem named.separated, List.splitOn_eq_singleton plain]
  simp only [List.mapM_cons, List.mapM_nil, hexDecode_hexEncode]
  rfl

theorem named_schedule : Named (jsAscii "scheduleQuantumTask@") (ascii "scheduleQuantumTask") where
  plain := by decide
  read := by decide
  separated := by decide

/-- The contract decodes the bytes that the hexadecimal stands for. -/
theorem received_callData (bytes : Bytes) :
    received (callData (hexString bytes)) = (Task.decode bytes).map fun task => (task, none) := by
  rw [received, callData, parseCallData_hexString named_schedule]
  simp only [Option.bind_eq_bind, Option.bind_some, if_true, loadWithOptional, Option.pure_def]
  cases Task.decode bytes <;> rfl

def Sample.task : Task where
  id := 7
  owner := .fill 1
  targetContract := .fill 2
  targetEndpoint := ascii "claimRewards"
  targetArgs := [[1, 2], []]
  trigger := .timeRecurring 1700000000 86400 52
  maxGas := 10000000
  deposit := 100000000000000000
  maxRetries := 3
  retryCount := 0
  ttlSeconds := 604800
  createdAt := 0
  status := .pending
  assignedKeeper := none
  completedAt := 0
  postTaskId := none
  requireXwapSafe := true
  confidential := false

/-- The task that a page asks for, up to its trigger. -/
def asked (taskId : UInt64) (owner target : Bytes32) (endpoint : JsString) (maxGas : UInt64)
    (trigger : Trigger) : Task where
  id := taskId
  owner := owner
  targetContract := target
  targetEndpoint := textEncode endpoint
  targetArgs := []
  trigger := trigger
  maxGas := maxGas
  deposit := 0
  maxRetries := 3
  retryCount := 0
  ttlSeconds := 604800
  createdAt := 0
  status := .pending
  assignedKeeper := none
  completedAt := 0
  postTaskId := none
  requireXwapSafe := false
  confidential := false

theorem fits_noArgs : FitsBuffers [] := by decide

namespace Sample

def wallet : JsString := jsAscii "erd1qqqqqqqqqqqqqqqqqqqqqqqqqqqqqqqqqqqqqqqqqqqqqqqqqqqq6gq4hu"

def contract : JsString :=
  jsAscii "erd1qqqqqqqqqqqqqpgqfzydqmdw7m2vazsp6u5p95yxz76t2p9rd8ss0zg9ts"

def target : Bytes32 :=
  ⟨[0, 0, 0, 0, 0, 0, 0, 0, 5, 0, 72, 136, 208, 109, 174, 246, 212, 206, 138, 1, 215, 40, 18, 208,
    134, 23, 180, 181, 4, 163, 105, 225], rfl⟩

/-- Two addresses are known. -/
def core : Core where
  newFromBech32 text :=
    if text = wallet then some (.fill 0) else if text = contract then some target else none

def state : ConversationState where
  protocol := jsAscii "hatom"
  action := jsAscii "claim-rewards"
  interval := some 86400

end Sample

/-! ## The chat -/

theorem length_afterTrigger (task : Task) :
    (afterTrigger task).length = (encodeBigUint task.deposit).length + 39 := by
  simp only [afterTrigger, encodeU64, encodeU8, encodeBool, List.length_append, length_beBytes,
    List.length_cons, List.length_nil]
  omega

theorem length_behind {task : Task} {fields : Bytes}
    (endpoint : task.targetEndpoint.length < 2 ^ 16) (args : task.targetArgs = [])
    (deposit : task.deposit = 0) (two : fields.length = 16) :
    (encodeBuffer task.targetEndpoint ++ (encodeList encodeBuffer task.targetArgs ++
      ((1 :: fields) ++ afterTrigger task))).length < 2 ^ 20 := by
  have noArgs : (encodeList encodeBuffer []).length = 4 := rfl
  have free : (encodeBigUint 0).length = 4 := rfl
  rw [args]
  simp only [List.length_append, List.length_cons, length_afterTrigger, deposit, two, noArgs, free,
    encodeBuffer, encodeLength, length_beBytes]
  omega

theorem run_buffer_short {front rest : Bytes} (four : front.length = 4)
    (short : rest.length < beValue front) : Reader.buffer.run (front ++ rest) = none := by
  have read := Reader.run_bytes front rest
  rw [four] at read
  have counted : Reader.length.run (front ++ rest) = some (beValue front, rest) := by
    rw [Reader.length, StateT.run_map, read]
    rfl
  rw [Reader.buffer, StateT.run_bind, counted]
  exact if_neg (Nat.not_le.mpr short)

theorem encodedHex_eq (text : JsString) : encodedHex text = hexString (textEncode text) := by
  have bytes : (textEncode text).flatMap encodeU8 = textEncode text := List.flatMap_singleton' _
  rw [← bytes, hexString_flatMap, encodedHex]
  apply List.flatMap_congr
  intro byte _
  exact numToHex_u8 byte

/-- An action whose address, as a text, cannot stand for an address and a short endpoint. -/
def ContractAction.Misread (action : ContractAction) : Prop :=
  (textEncode action.address).length = 62 ∧
    2 ^ 24 ≤ beValue (((textEncode action.address).drop 32).take 4) ∧
    (textEncode action.endpoint).length < 2 ^ 16

instance (action : ContractAction) : Decidable action.Misread :=
  inferInstanceAs (Decidable (_ ∧ _ ∧ _))

theorem protocols_misread : ∀ protocol ∈ protocols, ∀ entry ∈ protocol.2, entry.2.Misread := by
  decide +kernel

theorem lookup_misread {state : ConversationState}
    {contracts : List (JsString × ContractAction)} {action : ContractAction}
    (known : protocols.lookup state.protocol = some contracts)
    (offered : contracts.lookup state.action = some action) : action.Misread := by
  obtain ⟨before, behind, table, _⟩ := List.lookup_eq_some_iff.mp known
  obtain ⟨before', behind', actions, _⟩ := List.lookup_eq_some_iff.mp offered
  have protocol : (state.protocol, contracts) ∈ protocols := by
    rw [table]
    exact List.mem_append_right before List.mem_cons_self
  apply protocols_misread (state.protocol, contracts) protocol (state.action, action)
  rw [actions]
  exact List.mem_append_right before' List.mem_cons_self

theorem decode_misread {action : ContractAction} (misread : action.Misread) (task : Task)
    (behind : Bytes) (short : behind.length < 2 ^ 20) :
    Task.decode (encodeU64 task.id ++ task.owner.val ++ textEncode action.address ++ behind) =
      none := by
  obtain ⟨length, large, _⟩ := misread
  have wide : ((textEncode action.address).take 32).length = 32 := by
    rw [List.length_take, length]
    rfl
  have four : (((textEncode action.address).drop 32).take 4).length = 4 := by
    rw [List.length_take, List.length_drop, length]
    rfl
  have pieces : textEncode action.address = (textEncode action.address).take 32 ++
      (((textEncode action.address).drop 32).take 4 ++
        ((textEncode action.address).drop 32).drop 4) := by
    rw [List.take_append_drop, List.take_append_drop]
  have left : (((textEncode action.address).drop 32).drop 4 ++ behind).length <
      beValue (((textEncode action.address).drop 32).take 4) := by
    rw [List.length_append, List.length_drop, List.length_drop, length]
    omega
  obtain ⟨target, front⟩ : ∃ target : Bytes32, target.val = (textEncode action.address).take 32 :=
    ⟨⟨_, wide⟩, rfl⟩
  rw [pieces, ← front]
  simp only [List.append_assoc]
  rw [Task.decode, Reader.whole, Task.read, reads_u64.run_bind trivial,
    reads_bytes32.run_bind trivial, reads_bytes32.run_bind trivial, StateT.run_bind,
    run_buffer_short four left]
  rfl

theorem received_misread {action : ContractAction} (misread : action.Misread) (task : Task)
    (behind : Bytes) (short : behind.length < 2 ^ 20) :
    received (callData (hexString (encodeU64 task.id ++ task.owner.val ++
      textEncode action.address ++ behind))) = none := by
  rw [received_callData, decode_misread misread task behind short]
  rfl

/-- The chat writes the text of the address in the place of the address. -/
theorem executeSchedule_eq {core : Core} {wallet : JsString} {now taskId : UInt64}
    {state : ConversationState} {data : JsString}
    (sent : executeSchedule core wallet now.toNat taskId.toNat state = some data) :
    ∃ action : ContractAction,
      (protocols.lookup state.protocol).bind (·.lookup state.action) = some action ∧
      action.Misread ∧ ∃ owner, core.newFromBech32 wallet = some owner ∧ data =
      callData (serializeQuantumTaskHex (hexRequest
        (asked taskId owner owner action.endpoint 15000000 (.timeOnce now))
        (textEncode action.address) 1
        (encodeU64 now ++ encodeU64 (state.interval.getD 604800)))) := by
  have nothing : jsAscii "00000000" = hexString (encodeBigUint 0) := by decide
  unfold executeSchedule at sent
  simp only [Option.bind_eq_bind, Option.bind_eq_some_iff, Option.pure_def, Option.some.injEq]
    at sent
  obtain ⟨contracts, known, action, offered, ownerHex, signed, rfl⟩ := sent
  obtain ⟨owner, decoded, rfl⟩ := Option.map_eq_some_iff.mp signed
  refine ⟨action, Option.bind_eq_some_iff.mpr ⟨contracts, known, offered⟩,
    lookup_misread known offered, owner, decoded, ?_⟩
  simp only [hexRequest, asked, hex64, numToHex_u64, encodedHex_eq, hexString_append, nothing]
  rfl

/-- No request of the chat is decoded: it names its target by the letters of the address, and
whatever could follow these, they are not read as an address and an endpoint. -/
theorem chat_request_refused (core : Core) (wallet : JsString) (now taskId : UInt64)
    (state : ConversationState) {data : JsString}
    (sent : executeSchedule core wallet now.toNat taskId.toNat state = some data) :
    received data = none ∧
      ∃ action owner behind,
        (protocols.lookup state.protocol).bind (·.lookup state.action) = some action ∧
        core.newFromBech32 wallet = some owner ∧
        (textEncode action.address).length = 62 ∧
        data = callData (hexString (encodeU64 taskId ++ owner.val ++
          textEncode action.address ++ behind)) ∧
        ∀ other : Bytes, other.length < 2 ^ 20 →
          received (callData (hexString (encodeU64 taskId ++ owner.val ++
            textEncode action.address ++ other))) = none := by
  obtain ⟨action, chosen, misread, owner, decoded, written⟩ := executeSchedule_eq sent
  have endpoint : FitsBuffer (textEncode action.endpoint) :=
    Nat.lt_trans misread.2.2 (by decide)
  rw [serialize_hexRequest endpoint fits_noArgs] at written
  simp only [List.append_assoc] at written
  rw [← List.append_assoc, ← List.append_assoc] at written
  have refused := received_misread misread
    (asked taskId owner owner action.endpoint 15000000 (.timeOnce now))
  refine ⟨?_, action, owner, _, chosen, decoded, misread.1, written, refused⟩
  rw [written]
  exact refused _ (length_behind misread.2.2 rfl rfl rfl)

theorem chat_request_refused_sample :
    ∃ data, executeSchedule Sample.core Sample.wallet 1700000000 7 Sample.state = some data ∧
      received data = none :=
  ⟨_, rfl, (chat_request_refused Sample.core Sample.wallet 1700000000 7 Sample.state rfl).1⟩

end XCron.Frontend
