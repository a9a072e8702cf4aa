import XCron.Common.Decoding
import XCron.Platform.Arguments
import XCron.Platform.JavaScript

/-!
# The client of the SDK

`sdk/src/client.ts`: triggers are encoded by hand, and a schedule call passes
the fields of a task as separate arguments. Numbers are JavaScript numbers that
denote naturals. Addresses are parsed by the library under the SDK, so the
parsers are parameters.
-/

namespace XCron.Sdk

open Platform
open Platform.JsString

/-- The address parsers of the library: `new Address` and `Address.fromBech32`,
which throw where they return nothing. -/
structure Core where
  newAddress : JsString → Option Bytes32
  fromBech32 : JsString → Option Bytes32

/-- `Trigger` of `sdk/src/types.ts`. -/
inductive ClientTrigger where
  | timeOnce (targetTime : Nat)
  | timeRecurring (startTime interval remainingExecs : Nat)
  | conditionOnChain (oracleContract queryEndpoint : JsString) (queryArgs : List JsString)
      (comparator : Comparator) (threshold : JsString)

structure ScheduleTaskParams where
  targetContract : JsString
  targetEndpoint : JsString
  targetArgs : Option (List JsString)
  trigger : ClientTrigger
  maxGas : Option Nat
  maxRetries : Option Nat
  ttlSeconds : Option Nat
  depositEgld : JsString

/-! ## Encoding a trigger -/

/-- `pushU64`: eight bytes, higher ones are dropped. -/
def pushU64 (buf : Bytes) (value : Nat) : Bytes := buf ++ beBytes 8 value

def pushU32 (buf : Bytes) (value : Nat) : Bytes := buf ++ beBytes 4 value

/-- `hexToBytes`: one byte for every two characters, a last one alone if it comes to that. -/
def hexToBytes : JsString → Bytes
  | [] => []
  | [last] => [toByte (parseIntHex [last])]
  | high :: low :: rest => toByte (parseIntHex [high, low]) :: hexToBytes rest

/-- The loop of `bigIntToBytes`: the lowest byte goes in front of the result. The
number falls with every turn, so its value bounds the turns. -/
def unshiftBytes : Nat → Nat → Bytes → Bytes
  | 0, _, result => result
  | turns + 1, bi, result =>
      if 0 < bi then unshiftBytes turns (bi / 256) (UInt8.ofNat (bi % 256) :: result) else result

/-- `bigIntToBytes`. Zero is one byte; a negative number never enters the loop. -/
def bigIntToBytes (value : JsString) : Option Bytes := do
  let bi ← bigInt value
  if bi = 0 then pure [0] else pure (unshiftBytes bi.toNat bi.toNat [])

def comparatorIndex : Comparator → UInt8
  | .gt => 0
  | .lt => 1
  | .eq => 2
  | .gte => 3
  | .lte => 4

def pushArg (buf : Bytes) (arg : JsString) : Bytes :=
  let argBytes := hexToBytes arg
  pushU32 buf argBytes.length ++ argBytes

/-- `encodeTrigger`, up to the detour of the bytes through hexadecimal. -/
def triggerBuffer (core : Core) : ClientTrigger → Option Bytes
  | .timeOnce targetTime => pure (pushU64 [0] targetTime)
  | .timeRecurring startTime interval remainingExecs =>
      pure (pushU64 (pushU64 (pushU64 [1] startTime) interval) remainingExecs)
  | .conditionOnChain oracleContract queryEndpoint queryArgs comparator threshold => do
      let buf : Bytes := [2]
      let addrBytes ← core.fromBech32 oracleContract
      let buf := buf ++ addrBytes.val
      let endpointBytes := textEncode queryEndpoint
      let buf := pushU32 buf endpointBytes.length ++ endpointBytes
      let buf := pushU32 buf queryArgs.length
      let buf := queryArgs.foldl pushArg buf
      let buf := buf ++ [comparatorIndex comparator]
      let thresholdBytes ← bigIntToBytes threshold
      pure (pushU32 buf thresholdBytes.length ++ thresholdBytes)

/-- `encodeTrigger`: the content of the `BytesValue`. -/
def encodeTrigger (core : Core) (trigger : ClientTrigger) : Option Bytes := do
  let buf ← triggerBuffer core trigger
  pure (bufferFromHex (hexString buf))

/-- The trigger of the contract that a client asks for: its numbers are words, its
arguments hexadecimal, its threshold is not negative. -/
def ClientTrigger.requested (core : Core) : ClientTrigger → Option Trigger
  | .timeOnce targetTime =>
      if targetTime < 2 ^ 64 then some (.timeOnce (UInt64.ofNat targetTime)) else none
  | .timeRecurring startTime interval remainingExecs =>
      if startTime < 2 ^ 64 ∧ interval < 2 ^ 64 ∧ remainingExecs < 2 ^ 64 then
        some (.timeRecurring (UInt64.ofNat startTime) (UInt64.ofNat interval)
          (UInt64.ofNat remainingExecs))
      else none
  | .conditionOnChain oracleContract queryEndpoint queryArgs comparator threshold => do
      let oracle ← core.fromBech32 oracleContract
      let args ← queryArgs.mapM hexBytes
      let value ← bigInt threshold
      if 0 ≤ value then
        some (.stateDriven oracle (textEncode queryEndpoint) args comparator value.toNat)
      else none

/-- A condition whose threshold denotes zero. -/
def ClientTrigger.ZeroThreshold : ClientTrigger → Prop
  | .conditionOnChain _ _ _ _ threshold => bigInt threshold = some 0
  | _ => False

instance (trigger : ClientTrigger) : Decidable trigger.ZeroThreshold := by
  cases trigger <;> unfold ClientTrigger.ZeroThreshold <;> infer_instance

theorem encodeTrigger_eq (core : Core) (trigger : ClientTrigger) :
    encodeTrigger core trigger = triggerBuffer core trigger := by
  simp only [encodeTrigger, bufferFromHex_hexString]
  cases triggerBuffer core trigger <;> rfl

theorem hexToBytes_of_hexBytes {arg : JsString} {bytes : Bytes} (read : hexBytes arg = some bytes) :
    hexToBytes arg = bytes := by
  induction arg using hexBytes.induct generalizing bytes with
  | case1 => exact Option.some.inj read
  | case2 unit => cases read
  | case3 high low rest inductionHypothesis =>
      obtain ⟨first, second, tail, highDigit, lowDigit, tailRead, rfl⟩ := hexBytes_eq_some_cons read
      rw [hexToBytes, parseIntHex_pair highDigit lowDigit, inductionHypothesis tailRead]
      congr 1
      exact toByte_natCast (16 * first + second)

theorem unshiftBytes_eq {turns bi : Nat} (enough : bi ≤ turns) (result : Bytes) :
    unshiftBytes turns bi result = natBytes bi ++ result := by
  induction turns generalizing bi result with
  | zero =>
      obtain rfl := Nat.le_zero.mp enough
      simp [unshiftBytes, natBytes]
  | succ turns inductionHypothesis =>
      by_cases positive : 0 < bi
      · have smaller : bi / 256 ≤ turns := by omega
        have digits : natBytes bi = natBytes (bi / 256) ++ [UInt8.ofNat (bi % 256)] := by
          simp only [natBytes, Nat.digits_def' (by decide : 1 < 256) positive, List.map_cons,
            List.reverse_cons]
        rw [unshiftBytes, if_pos positive, inductionHypothesis smaller, digits, List.append_assoc]
        rfl
      · obtain rfl : bi = 0 := by omega
        simp [unshiftBytes, natBytes]

theorem encodeU64_ofNat {value : Nat} (small : value < 2 ^ 64) :
    encodeU64 (UInt64.ofNat value) = beBytes 8 value := by
  rw [encodeU64, UInt64.toNat_ofNat_of_lt' small]

theorem comparatorIndex_eq (comparator : Comparator) :
    [comparatorIndex comparator] = comparator.encode := by
  cases comparator <;> rfl

theorem foldl_pushArg {args : List JsString} {values : List Bytes}
    (read : args.mapM hexBytes = some values) (buf : Bytes) :
    args.foldl pushArg buf = buf ++ values.flatMap encodeBuffer := by
  induction args generalizing values buf with
  | nil =>
      obtain rfl := Option.some.inj read
      simp
  | cons arg rest inductionHypothesis =>
      obtain ⟨value, others, first, tail, rfl⟩ := mapM_cons_some read
      rw [List.foldl_cons, inductionHypothesis tail]
      simp only [pushArg, pushU32, hexToBytes_of_hexBytes first, List.flatMap_cons, encodeBuffer,
        encodeLength, List.append_assoc]

def conditionFront (oracle : Bytes32) (endpoint : Bytes) (args : List Bytes)
    (comparator : Comparator) : Bytes :=
  2 :: (oracle.val ++ encodeBuffer endpoint ++ encodeList encodeBuffer args ++ comparator.encode)

theorem triggerBuffer_condition {core : Core} {oracleContract queryEndpoint threshold : JsString}
    {queryArgs : List JsString} {comparator : Comparator} {oracle : Bytes32} {args : List Bytes}
    {value : Nat} (address : core.fromBech32 oracleContract = some oracle)
    (read : queryArgs.mapM hexBytes = some args) (number : bigInt threshold = some (value : Int)) :
    triggerBuffer core (.conditionOnChain oracleContract queryEndpoint queryArgs comparator threshold) =
      some (conditionFront oracle (textEncode queryEndpoint) args comparator ++
        encodeBuffer (if value = 0 then [0] else natBytes value)) := by
  have digits : bigIntToBytes threshold = some (if value = 0 then [0] else natBytes value) := by
    simp only [bigIntToBytes, number, Option.bind_eq_bind, Option.bind_some, Int.natCast_eq_zero,
      Int.toNat_natCast, unshiftBytes_eq (Nat.le_refl value), List.append_nil]
    split <;> rfl
  have lengths := length_of_mapM read
  simp only [triggerBuffer, address, digits, Option.bind_eq_bind, Option.bind_some, Option.pure_def,
    foldl_pushArg read, comparatorIndex_eq, pushU32, lengths, conditionFront, encodeBuffer,
    encodeList, encodeLength, List.append_assoc, List.cons_append, List.nil_append]

theorem stateDriven_encode (oracle : Bytes32) (endpoint : Bytes) (args : List Bytes)
    (comparator : Comparator) (value : Nat) :
    (Trigger.stateDriven oracle endpoint args comparator value).encode =
      conditionFront oracle endpoint args comparator ++ encodeBigUint value := by
  simp only [Trigger.encode, conditionFront, List.cons_append, List.append_assoc]

theorem encodeBuffer_digits_iff (value : Nat) :
    encodeBuffer (if value = 0 then [0] else natBytes value) = encodeBigUint value ↔ value ≠ 0 := by
  constructor
  · rintro same rfl
    have lengths := congrArg List.length same
    simp [encodeBuffer, encodeBigUint, encodeLength, natBytes] at lengths
  · intro nonzero
    rw [if_neg nonzero, encodeBigUint]

theorem ClientTrigger.requested_condition {core : Core}
    {oracleContract queryEndpoint threshold : JsString} {queryArgs : List JsString}
    {comparator : Comparator} {contract : Trigger}
    (asked : (conditionOnChain oracleContract queryEndpoint queryArgs comparator threshold).requested
      core = some contract) :
    ∃ oracle args, ∃ value : Nat, core.fromBech32 oracleContract = some oracle ∧
      queryArgs.mapM hexBytes = some args ∧ bigInt threshold = some (value : Int) ∧
      contract = .stateDriven oracle (textEncode queryEndpoint) args comparator value := by
  simp only [requested, Option.bind_eq_bind, Option.bind_eq_some_iff,
    Option.ite_none_right_eq_some, Option.some.injEq] at asked
  obtain ⟨oracle, address, args, read, number, parsed, nonnegative, rfl⟩ := asked
  obtain ⟨value, rfl⟩ := Int.eq_ofNat_of_zero_le nonnegative
  exact ⟨oracle, args, value, address, read, parsed, rfl⟩

/-- The client's bytes are the contract's own encoding of the trigger exactly if the
trigger is not a condition with threshold zero. -/
theorem encodeTrigger_canonical_iff {core : Core} {trigger : ClientTrigger} {contract : Trigger}
    (asked : trigger.requested core = some contract) :
    encodeTrigger core trigger = some contract.encode ↔ ¬trigger.ZeroThreshold := by
  rw [encodeTrigger_eq]
  cases trigger with
  | timeOnce targetTime =>
      simp only [ClientTrigger.requested, Option.ite_none_right_eq_some, Option.some.injEq] at asked
      obtain ⟨small, rfl⟩ := asked
      simp only [triggerBuffer, Trigger.encode, encodeU64_ofNat small, ClientTrigger.ZeroThreshold,
        not_false_eq_true, iff_true]
      rfl
  | timeRecurring startTime interval remainingExecs =>
      simp only [ClientTrigger.requested, Option.ite_none_right_eq_some, Option.some.injEq] at asked
      obtain ⟨⟨small, small', small''⟩, rfl⟩ := asked
      simp only [triggerBuffer, Trigger.encode, encodeU64_ofNat small, encodeU64_ofNat small',
        encodeU64_ofNat small'', ClientTrigger.ZeroThreshold, not_false_eq_true, iff_true]
      rfl
  | conditionOnChain oracleContract queryEndpoint queryArgs comparator threshold =>
      obtain ⟨oracle, args, value, address, read, number, rfl⟩ :=
        ClientTrigger.requested_condition asked
      have zero : ClientTrigger.ZeroThreshold
          (.conditionOnChain oracleContract queryEndpoint queryArgs comparator threshold) ↔
            value = 0 := by
        simp only [ClientTrigger.ZeroThreshold, number, Option.some.injEq, Int.natCast_eq_zero]
      rw [triggerBuffer_condition address read number, stateDriven_encode, Option.some.injEq,
        List.append_cancel_left_eq, encodeBuffer_digits_iff, zero]

namespace Sample

/-- Address parsers that know two addresses. -/
def core : Core :=
  { newAddress := fun text => if text = jsAscii "erd1target" then some (.fill 4) else none
    fromBech32 := fun text => if text = jsAscii "erd1oracle" then some (.fill 8) else none }

def condition (threshold : JsString) : ClientTrigger :=
  .conditionOnChain (jsAscii "erd1oracle") (jsAscii "getPrice") [jsAscii "0aFF", jsAscii ""] .gte
    threshold

end Sample

theorem sample_condition_encoded :
    (Sample.condition (jsAscii "256")).requested Sample.core =
        some (.stateDriven (.fill 8) (ascii "getPrice") [[10, 255], []] .gte 256) ∧
      (encodeTrigger Sample.core (Sample.condition (jsAscii "256")) =
          some (Trigger.stateDriven (.fill 8) (ascii "getPrice") [[10, 255], []] .gte 256).encode ↔
        ¬(Sample.condition (jsAscii "256")).ZeroThreshold) :=
  ⟨by decide, encodeTrigger_canonical_iff (by decide)⟩

/-- With threshold zero the client writes a byte that the contract does not. -/
theorem zero_threshold_not_canonical :
    (Sample.condition (jsAscii "0")).requested Sample.core =
        some (.stateDriven (.fill 8) (ascii "getPrice") [[10, 255], []] .gte 0) ∧
      encodeTrigger Sample.core (Sample.condition (jsAscii "0")) ≠
        some (Trigger.stateDriven (.fill 8) (ascii "getPrice") [[10, 255], []] .gte 0).encode := by
  have address : Sample.core.fromBech32 (jsAscii "erd1oracle") = some (.fill 8) := by decide
  have read : [jsAscii "0aFF", jsAscii ""].mapM hexBytes = some [[10, 255], []] := by decide
  have number : bigInt (jsAscii "0") = some ((0 : Nat) : Int) := by decide
  refine ⟨by decide, ?_⟩
  rw [encodeTrigger_eq, Sample.condition, triggerBuffer_condition address read number,
    stateDriven_encode, Ne, Option.some.injEq]
  intro same
  have buffers := List.append_cancel_left same
  exact (encodeBuffer_digits_iff 0).mp buffers rfl

/-- The client's bytes decode on the chain to what was asked for, canonical or not. -/
theorem decode_encodeTrigger {core : Core} {trigger : ClientTrigger} {contract : Trigger}
    (asked : trigger.requested core = some contract) (fits : contract.Fits) :
    (encodeTrigger core trigger).bind Trigger.decode = some contract := by
  by_cases zero : trigger.ZeroThreshold
  · cases trigger with
    | timeOnce targetTime => cases zero
    | timeRecurring startTime interval remainingExecs => cases zero
    | conditionOnChain oracleContract queryEndpoint queryArgs comparator threshold =>
        obtain ⟨oracle, args, value, address, read, number, rfl⟩ :=
          ClientTrigger.requested_condition asked
        obtain ⟨fitsEndpoint, fitsArgs, _⟩ := fits
        have parsed : bigInt threshold = some 0 := zero
        obtain rfl : value = 0 := by
          rw [number] at parsed
          exact Int.natCast_eq_zero.mp (Option.some.inj parsed)
        rw [encodeTrigger_eq, triggerBuffer_condition address read number, if_pos rfl,
          Option.bind_some, Trigger.decode, Reader.whole]
        have digit : Reader.bigUint.run (encodeBuffer [0]) = some (0, []) := by
          have byte := reads_buffer [0] (by decide) []
          rw [List.append_nil] at byte
          rw [Reader.bigUint, StateT.run_map, byte]
          rfl
        have front : Trigger.read.run (conditionFront oracle (textEncode queryEndpoint) args
            comparator ++ encodeBuffer [0]) =
              some (.stateDriven oracle (textEncode queryEndpoint) args comparator 0, []) := by
          simp only [conditionFront, List.cons_append, List.append_assoc]
          rw [Trigger.read, Reader.run_u8_bind, Trigger.readFields, reads_bytes32.run_bind trivial,
            reads_buffer.run_bind fitsEndpoint, reads_buffers.run_bind fitsArgs,
            reads_comparator.run_bind trivial, StateT.run_bind, digit]
          rfl
        rw [front]
  · rw [(encodeTrigger_canonical_iff asked).mpr zero, Option.bind_some]
    exact reads_trigger.whole fits

theorem decode_encodeTrigger_sample :
    (encodeTrigger Sample.core (Sample.condition (jsAscii "0"))).bind Trigger.decode =
      some (.stateDriven (.fill 8) (ascii "getPrice") [[10, 255], []] .gte 0) :=
  decode_encodeTrigger (by decide) (by decide +kernel)

/-! ## Scheduling -/

inductive TypedValue where
  | address (value : Bytes32)
  | bytes (value : Bytes)
  | bytesList (values : List Bytes)
  | u64 (value : Nat)
  | u8 (value : Nat)

/-- The top encoding of a typed value: numbers without leading zeros, a list as its
nested elements. -/
def TypedValue.topEncode : TypedValue → Bytes
  | .address value => value.val
  | .bytes value => value
  | .bytesList values => values.flatMap encodeBuffer
  | .u64 value => natBytes value
  | .u8 value => natBytes value

/-- `value || fallback`, where zero counts as absent. -/
def orDefault (value : Option Nat) (fallback : Nat) : Nat :=
  match value with
  | none => fallback
  | some number => if number = 0 then fallback else number

def defaultGasLimit : Nat := 30000000

def defaultMaxGas : Nat := 5000000

def defaultMaxRetries : Nat := 3

def defaultTtlSeconds : Nat := 86400

def buildScheduleArgs (core : Core) (params : ScheduleTaskParams) : Option (List TypedValue) := do
  let targetContract ← core.newAddress params.targetContract
  let targetEndpoint := textEncode params.targetEndpoint
  let targetArgs := (params.targetArgs.getD []).map bufferFromHex
  let trigger ← encodeTrigger core params.trigger
  let maxGas := orDefault params.maxGas defaultMaxGas
  let maxRetries := orDefault params.maxRetries defaultMaxRetries
  let ttl := orDefault params.ttlSeconds defaultTtlSeconds
  pure [.address targetContract, .bytes targetEndpoint, .bytesList targetArgs, .bytes trigger,
    .u64 maxGas, .u8 maxRetries, .u64 ttl]

structure SchedulerCall where
  func : JsString
  args : List TypedValue
  gasLimit : Nat
  value : JsString

def scheduleQuantumTask (core : Core) (params : ScheduleTaskParams) : Option SchedulerCall := do
  let args ← buildScheduleArgs core params
  pure
    { func := jsAscii "scheduleQuantumTask"
      args := args
      gasLimit := defaultGasLimit
      value := params.depositEgld }

/-- The arguments with which the endpoint `scheduleQuantumTask` runs. -/
def scheduleArguments (call : SchedulerCall) : Option (Task × Option Nat) :=
  loadWithOptional Task.decode decodeBigUint (call.args.map TypedValue.topEncode)

/-- The task has the fields that the parameters ask for. -/
structure ScheduleTaskParams.Asks (core : Core) (params : ScheduleTaskParams) (task : Task) :
    Prop where
  targetContract : core.newAddress params.targetContract = some task.targetContract
  targetEndpoint : task.targetEndpoint = textEncode params.targetEndpoint
  targetArgs : (params.targetArgs.getD []).mapM hexBytes = some task.targetArgs
  trigger : params.trigger.requested core = some task.trigger
  maxGas : task.maxGas.toNat = orDefault params.maxGas defaultMaxGas
  maxRetries : task.maxRetries.toNat = orDefault params.maxRetries defaultMaxRetries
  ttlSeconds : task.ttlSeconds.toNat = orDefault params.ttlSeconds defaultTtlSeconds

/-- The call of the client reaches the endpoint with the requested task. -/
def DecodesAsAsked (core : Core) (params : ScheduleTaskParams) : Prop :=
  ∃ call task deposit, scheduleQuantumTask core params = some call ∧
    scheduleArguments call = some (task, deposit) ∧ params.Asks core task

/-- The client passes seven arguments where the endpoint takes two at most. -/
theorem scheduleArguments_refused {core : Core} {params : ScheduleTaskParams} {call : SchedulerCall}
    (built : scheduleQuantumTask core params = some call) : scheduleArguments call = none := by
  simp only [scheduleQuantumTask, buildScheduleArgs, Option.bind_eq_bind, Option.bind_eq_some_iff,
    Option.pure_def, Option.some.injEq] at built
  obtain ⟨args, ⟨target, _, trigger, _, rfl⟩, rfl⟩ := built
  rfl

/-- No request is understood. -/
theorem schedule_call_never_decodes (core : Core) (params : ScheduleTaskParams) :
    ¬DecodesAsAsked core params := by
  rintro ⟨call, task, deposit, built, loaded, _⟩
  rw [scheduleArguments_refused built] at loaded
  cases loaded

namespace Sample

def params : ScheduleTaskParams :=
  { targetContract := jsAscii "erd1target"
    targetEndpoint := jsAscii "claimRewards"
    targetArgs := some [jsAscii "0aff"]
    trigger := .timeOnce 1700000000
    maxGas := none
    maxRetries := some 2
    ttlSeconds := some 3600
    depositEgld := jsAscii "50000000000000000" }

def asked : Task :=
  { id := 0
    owner := .fill 1
    targetContract := .fill 4
    targetEndpoint := ascii "claimRewards"
    targetArgs := [[10, 255]]
    trigger := .timeOnce 1700000000
    maxGas := 5000000
    deposit := 0
    maxRetries := 2
    retryCount := 0
    ttlSeconds := 3600
    createdAt := 0
    status := .pending
    assignedKeeper := none
    completedAt := 0
    postTaskId := none
    requireXwapSafe := false
    confidential := false }

end Sample

/-- A well-formed request for a task that exists is refused. -/
theorem sample_request_refused :
    Sample.params.Asks Sample.core Sample.asked ∧
      (scheduleQuantumTask Sample.core Sample.params).isSome ∧
      ¬DecodesAsAsked Sample.core Sample.params := by
  refine ⟨⟨by decide, by decide, by decide, by decide, by decide, by decide, by decide⟩,
    by decide, ?_⟩
  rintro ⟨call, task, deposit, built, loaded, _⟩
  rw [scheduleArguments_refused built] at loaded
  cases loaded

end XCron.Sdk
