import XCron.Common.Decoding
import XCron.Platform.Arguments
import XCron.Platform.Base64

/-!
# The keeper's transactions

`xcron-keeper-rs/src/transaction.rs`: the call of `executeQuantumTask` and the
task it carries, both written out by hand. The task agrees with the contract's
encoding byte for byte. The optional secret does not: the keeper puts a tag in
front of it or in its place, and the contract expects none.
-/

namespace XCron.Keeper

open Platform

structure Transaction where
  nonce : UInt64
  value : Text
  receiver : Text
  sender : Text
  gasPrice : UInt64
  gasLimit : UInt64
  data : Option Text
  chainId : Text
  version : UInt32
  options : Option UInt32
  relayer : Option Text
  signature : Option Text
  relayerSignature : Option Text

def Transaction.new (nonce : UInt64) (value receiver sender : Text) (gasPrice gasLimit : UInt64)
    (data : Option Bytes) (chainId : Text) (version : UInt32) : Transaction :=
  { nonce := nonce
    value := value
    receiver := receiver
    sender := sender
    gasPrice := gasPrice
    gasLimit := gasLimit
    data := data.map base64Encode
    chainId := chainId
    version := version
    options := none
    relayer := none
    signature := none
    relayerSignature := none }

/-! ## The encoding of a task -/

structure TaskHex where
  taskId : UInt64
  ownerHex : Text
  targetContractHex : Text
  endpointHex : Text
  argsHex : List Text
  triggerType : UInt8
  triggerDataHex : Text
  maxGas : UInt64
  deriving DecidableEq

def serializeQuantumTaskHex (text : TaskHex) : Text :=
  let hex : Text := []
  let hex := hex ++ formatHex 16 text.taskId.toNat
  let hex := hex ++ text.ownerHex
  let hex := hex ++ text.targetContractHex
  let endpointBytesLen := text.endpointHex.length / 2
  let hex := hex ++ (formatHex 8 endpointBytesLen ++ text.endpointHex)
  let hex := hex ++ formatHex 8 text.argsHex.length
  let hex := text.argsHex.foldl (fun hex arg => hex ++ (formatHex 8 (arg.length / 2) ++ arg)) hex
  let hex := hex ++ (formatHex 2 text.triggerType.toNat ++ text.triggerDataHex)
  let hex := hex ++ formatHex 16 text.maxGas.toNat
  let hex := hex ++ ascii "00000000"
  let hex := hex ++ ascii "00"
  let hex := hex ++ ascii "00"
  let hex := hex ++ ascii "0000000000000000"
  let hex := hex ++ ascii "0000000000000000"
  let hex := hex ++ ascii "00"
  let hex := hex ++ ascii "00"
  let hex := hex ++ ascii "0000000000000000"
  let hex := hex ++ ascii "00"
  let hex := hex ++ ascii "00"
  hex ++ ascii "00"

def triggerFields (trigger : Trigger) : Bytes := trigger.encode.tail

theorem encode_eq_tag_cons (trigger : Trigger) :
    trigger.encode = trigger.tag :: triggerFields trigger := by
  cases trigger <;> rfl

/-- The arguments name the fields of a task, and the fields without an argument
have their initial values. -/
structure TaskHex.Describes (text : TaskHex) (task : Task) : Prop where
  id : task.id = text.taskId
  owner : hexDecode text.ownerHex = some task.owner.val
  targetContract : hexDecode text.targetContractHex = some task.targetContract.val
  targetEndpoint : hexDecode text.endpointHex = some task.targetEndpoint
  targetArgs : text.argsHex.mapM hexDecode = some task.targetArgs
  triggerType : task.trigger.tag = text.triggerType
  triggerData : hexDecode text.triggerDataHex = some (triggerFields task.trigger)
  maxGas : task.maxGas = text.maxGas
  deposit : task.deposit = 0
  maxRetries : task.maxRetries = 0
  retryCount : task.retryCount = 0
  ttlSeconds : task.ttlSeconds = 0
  createdAt : task.createdAt = 0
  status : task.status = .pending
  assignedKeeper : task.assignedKeeper = none
  completedAt : task.completedAt = 0
  postTaskId : task.postTaskId = none
  requireXwapSafe : task.requireXwapSafe = false
  confidential : task.confidential = false

def initialTask (id : UInt64) (owner targetContract : Address) (targetEndpoint : Bytes)
    (targetArgs : List Bytes) (trigger : Trigger) (maxGas : UInt64) : Task :=
  { id := id
    owner := owner
    targetContract := targetContract
    targetEndpoint := targetEndpoint
    targetArgs := targetArgs
    trigger := trigger
    maxGas := maxGas
    deposit := 0
    maxRetries := 0
    retryCount := 0
    ttlSeconds := 0
    createdAt := 0
    status := .pending
    assignedKeeper := none
    completedAt := 0
    postTaskId := none
    requireXwapSafe := false
    confidential := false }

theorem describes_initialTask {text : TaskHex} {owner targetContract : Address}
    {targetEndpoint : Bytes} {targetArgs : List Bytes} {trigger : Trigger}
    (ownerRead : hexDecode text.ownerHex = some owner.val)
    (targetRead : hexDecode text.targetContractHex = some targetContract.val)
    (endpointRead : hexDecode text.endpointHex = some targetEndpoint)
    (argsRead : text.argsHex.mapM hexDecode = some targetArgs)
    (tagged : trigger.tag = text.triggerType)
    (fieldsRead : hexDecode text.triggerDataHex = some (triggerFields trigger)) :
    text.Describes (initialTask text.taskId owner targetContract targetEndpoint targetArgs trigger
      text.maxGas) :=
  ⟨rfl, ownerRead, targetRead, endpointRead, argsRead, tagged, fieldsRead, rfl, rfl, rfl, rfl, rfl,
    rfl, rfl, rfl, rfl, rfl, rfl, rfl⟩

theorem hexDecode_u64 (value : UInt64) :
    hexDecode (formatHex 16 value.toNat) = some (encodeU64 value) := by
  have bound := value.toNat_lt
  exact hexDecode_formatHex (show 0 < 8 by decide) (by omega)

theorem hexDecode_length {length : Nat} (small : length < 2 ^ 32) :
    hexDecode (formatHex 8 length) = some (encodeLength length) :=
  hexDecode_formatHex (show 0 < 4 by decide) (by omega)

theorem hexDecode_u8 (value : UInt8) :
    hexDecode (formatHex 2 value.toNat) = some [value] := by
  have bound := value.toNat_lt
  have byte : beBytes 1 value.toNat = [value] := by simp [beBytes]
  rw [← byte]
  exact hexDecode_formatHex (show 0 < 1 by decide) (by omega)

theorem hexDecode_buffer {text : Text} {bytes : Bytes} (read : hexDecode text = some bytes)
    (small : bytes.length < 2 ^ 32) :
    hexDecode (formatHex 8 (text.length / 2) ++ text) = some (encodeBuffer bytes) := by
  have length : text.length / 2 = bytes.length := by
    rw [length_of_hexDecode read]
    omega
  rw [length]
  exact hexDecode_append_some (hexDecode_length small) read

theorem hexDecode_args {args : List Text} {values : List Bytes} {hex : Text} {decoded : Bytes}
    (start : hexDecode hex = some decoded) (read : args.mapM hexDecode = some values)
    (small : ∀ value ∈ values, value.length < 2 ^ 32) :
    hexDecode (args.foldl (fun hex arg => hex ++ (formatHex 8 (arg.length / 2) ++ arg)) hex) =
      some (decoded ++ values.flatMap encodeBuffer) := by
  induction args generalizing values hex decoded with
  | nil =>
      obtain rfl := Option.some.inj read
      simpa using start
  | cons arg rest inductionHypothesis =>
      obtain ⟨value, others, first, tail, rfl⟩ := mapM_cons_some read
      have appended := hexDecode_append_some start (hexDecode_buffer first (small value (.head _)))
      rw [List.foldl_cons, inductionHypothesis appended tail fun other member =>
        small other (.tail _ member), List.flatMap_cons, List.append_assoc]

/-- The text decodes to the contract's encoding of the task. -/
theorem TaskHex.Describes.hexDecode_serialize {text : TaskHex} {task : Task}
    (describes : text.Describes task) (fits : task.Fits) :
    hexDecode (serializeQuantumTaskHex text) = some task.encode := by
  have word : hexDecode (ascii "0000000000000000") = some (encodeU64 0) := by decide
  have zero : hexDecode (ascii "00") = some [0] := by decide
  have number : hexDecode (ascii "00000000") = some (encodeBigUint 0) := by
    rw [encodeBigUint, natBytes, Nat.digits_zero]
    decide
  have count : text.argsHex.length < 2 ^ 32 := by
    rw [length_of_mapM describes.targetArgs]
    exact fits.targetArgs.1
  have start : hexDecode [] = some [] := rfl
  have id := hexDecode_append_some start (hexDecode_u64 text.taskId)
  have owner := hexDecode_append_some id describes.owner
  have target := hexDecode_append_some owner describes.targetContract
  have endpoint := hexDecode_append_some target
    (hexDecode_buffer describes.targetEndpoint fits.targetEndpoint)
  have length := hexDecode_append_some endpoint (hexDecode_length count)
  have args := hexDecode_args length describes.targetArgs fits.targetArgs.2
  have trigger := hexDecode_append_some args
    (hexDecode_append_some (hexDecode_u8 text.triggerType) describes.triggerData)
  have gas := hexDecode_append_some trigger (hexDecode_u64 text.maxGas)
  have deposit := hexDecode_append_some gas number
  have retries := hexDecode_append_some (hexDecode_append_some deposit zero) zero
  have times := hexDecode_append_some (hexDecode_append_some retries word) word
  have status := hexDecode_append_some times zero
  have keeper := hexDecode_append_some status zero
  have completed := hexDecode_append_some keeper word
  have post := hexDecode_append_some completed zero
  have flags := hexDecode_append_some (hexDecode_append_some post zero) zero
  have fields : task.trigger.encode = [text.triggerType] ++ triggerFields task.trigger := by
    rw [encode_eq_tag_cons, describes.triggerType]
    rfl
  rw [serializeQuantumTaskHex, flags]
  simp only [Task.encode, fields, describes.id, describes.maxGas, describes.deposit,
    describes.maxRetries, describes.retryCount, describes.ttlSeconds, describes.createdAt,
    describes.status, describes.assignedKeeper, describes.completedAt, describes.postTaskId,
    describes.requireXwapSafe, describes.confidential, encodeList,
    length_of_mapM describes.targetArgs, List.append_assoc, List.nil_append]
  rfl

/-! ## Different arguments, different texts -/

def argText (arg : Text) : Text := formatHex 8 (arg.length / 2) ++ arg

def serializedTail (text : TaskHex) : Text :=
  formatHex 2 text.triggerType.toNat ++ (text.triggerDataHex ++ (formatHex 16 text.maxGas.toNat ++
    (ascii "00000000" ++ (ascii "00" ++ (ascii "00" ++ (ascii "0000000000000000" ++
      (ascii "0000000000000000" ++ (ascii "00" ++ (ascii "00" ++ (ascii "0000000000000000" ++
        (ascii "00" ++ (ascii "00" ++ ascii "00"))))))))))))

theorem serialize_eq (text : TaskHex) :
    serializeQuantumTaskHex text =
      formatHex 16 text.taskId.toNat ++ (text.ownerHex ++ (text.targetContractHex ++
        (argText text.endpointHex ++ (formatHex 8 text.argsHex.length ++
          (text.argsHex.flatMap argText ++ serializedTail text))))) := by
  have loop (start : Text) :
      text.argsHex.foldl (fun hex arg => hex ++ (formatHex 8 (arg.length / 2) ++ arg)) start =
        start ++ text.argsHex.flatMap argText := by
    rw [List.foldl_append_eq_append, List.flatMap_def]
    rfl
  simp only [serializeQuantumTaskHex, loop, serializedTail, argText, List.append_assoc,
    List.nil_append]

theorem length_of_hexDecode_eq {first second : Text} {bytes : Bytes}
    (read : hexDecode first = some bytes) (read' : hexDecode second = some bytes) :
    first.length = second.length :=
  (length_of_hexDecode read).trans (length_of_hexDecode read').symm

theorem args_eq_of_append_eq {first second : List Text} {values : List Bytes}
    (read : first.mapM hexDecode = some values) (read' : second.mapM hexDecode = some values)
    {rest rest' : Text}
    (same : first.flatMap argText ++ rest = second.flatMap argText ++ rest') :
    first = second ∧ rest = rest' := by
  induction first generalizing second values with
  | nil =>
      have lengths := (length_of_mapM read).trans (length_of_mapM read').symm
      obtain rfl := List.length_eq_zero_iff.mp lengths.symm
      exact ⟨rfl, same⟩
  | cons arg args inductionHypothesis =>
      cases second with
      | nil => cases (length_of_mapM read).trans (length_of_mapM read').symm
      | cons arg' args' =>
          obtain ⟨value, tail, headRead, tailRead, rfl⟩ := mapM_cons_some read
          obtain ⟨value', tail', headRead', tailRead', values⟩ := mapM_cons_some read'
          obtain ⟨rfl, rfl⟩ := List.cons.inj values
          have lengths := length_of_hexDecode_eq headRead headRead'
          simp only [List.flatMap_cons, argText, lengths, List.append_assoc,
            List.append_cancel_left_eq] at same
          obtain ⟨rfl, tails⟩ := List.append_inj same lengths
          obtain ⟨rfl, rests⟩ := inductionHypothesis tailRead tailRead' tails
          exact ⟨rfl, rests⟩

/-- Two texts of one task are equal piece by piece. -/
theorem TaskHex.Describes.eq_of_serialize_eq {first second : TaskHex} {task : Task}
    (describes : first.Describes task) (describes' : second.Describes task)
    (same : serializeQuantumTaskHex first = serializeQuantumTaskHex second) : first = second := by
  have ids : first.taskId = second.taskId := describes.id.symm.trans describes'.id
  have types : first.triggerType = second.triggerType :=
    describes.triggerType.symm.trans describes'.triggerType
  have gas : first.maxGas = second.maxGas := describes.maxGas.symm.trans describes'.maxGas
  have counts : first.argsHex.length = second.argsHex.length :=
    (length_of_mapM describes.targetArgs).trans (length_of_mapM describes'.targetArgs).symm
  have lengths := length_of_hexDecode_eq describes.targetEndpoint describes'.targetEndpoint
  rw [serialize_eq, serialize_eq, ids, List.append_cancel_left_eq] at same
  obtain ⟨owners, same⟩ := List.append_inj same
    (length_of_hexDecode_eq describes.owner describes'.owner)
  obtain ⟨targets, same⟩ := List.append_inj same
    (length_of_hexDecode_eq describes.targetContract describes'.targetContract)
  simp only [argText, lengths, List.append_assoc, List.append_cancel_left_eq] at same
  obtain ⟨endpoints, same⟩ := List.append_inj same lengths
  rw [counts, List.append_cancel_left_eq] at same
  obtain ⟨args, same⟩ := args_eq_of_append_eq describes.targetArgs describes'.targetArgs same
  simp only [serializedTail, types, List.append_cancel_left_eq] at same
  obtain ⟨fields, _⟩ := List.append_inj same
    (length_of_hexDecode_eq describes.triggerData describes'.triggerData)
  rcases first with ⟨_, _, _, _, _, _, _, _⟩
  rcases second with ⟨_, _, _, _, _, _, _, _⟩
  simp only at ids owners targets endpoints args types fields gas
  subst_vars
  rfl

/-- The keeper's text is the contract's encoding of the task that its arguments
describe, which is the message of the task's hash, and no other arguments have it. -/
theorem serialize_is_contract_encoding {text : TaskHex} {task : Task}
    (describes : text.Describes task) (fits : task.Fits) :
    hexDecode (serializeQuantumTaskHex text) = some task.encode ∧
      Task.decode task.encode = some task ∧
      ∀ (other : TaskHex) (task' : Task), other.Describes task' → task'.Fits →
        serializeQuantumTaskHex other = serializeQuantumTaskHex text → other = text := by
  refine ⟨describes.hexDecode_serialize fits, Task.decode_encode fits, ?_⟩
  intro other task' describes' fits' same
  have read := describes'.hexDecode_serialize fits'
  rw [same, describes.hexDecode_serialize fits] at read
  obtain rfl := Task.encode_injective fits' fits (Option.some.inj read).symm
  exact describes'.eq_of_serialize_eq describes same

namespace Sample

def taskHex : TaskHex :=
  { taskId := 7
    ownerHex := hexEncode (Bytes32.fill 1).val
    targetContractHex := hexEncode (Bytes32.fill 171).val
    endpointHex := ascii "636C61696d"
    argsHex := [ascii "", ascii "0aFf"]
    triggerType := 4
    triggerDataHex := hexEncode (Bytes32.fill 5).val
    maxGas := 5000000 }

def task : Task :=
  initialTask 7 (.fill 1) (.fill 171) [99, 108, 97, 105, 109] [[], [10, 255]]
    (.quantumSealedHash (.fill 5)) 5000000

theorem describes : taskHex.Describes task :=
  describes_initialTask (by decide) (by decide) (by decide) (by decide) rfl
    (by decide)

theorem fits : task.Fits := by
  refine ⟨by decide, by decide, trivial, ?_⟩
  rw [FitsBuffer, natBytes, show task.deposit = 0 from rfl, Nat.digits_zero]
  decide

end Sample

theorem sample_task_serialized :
    hexDecode (serializeQuantumTaskHex Sample.taskHex) = some Sample.task.encode ∧
      Task.decode Sample.task.encode = some Sample.task ∧
      ∀ (other : TaskHex) (task' : Task), other.Describes task' → task'.Fits →
        serializeQuantumTaskHex other = serializeQuantumTaskHex Sample.taskHex →
          other = Sample.taskHex :=
  serialize_is_contract_encoding Sample.describes Sample.fits

/-! ## The call -/

def quantumExecutionData (serializedTaskHex : Text) (quantumSecretHex : Option Text) : Text :=
  let data := ascii "executeQuantumTask@" ++ serializedTaskHex
  match quantumSecretHex with
  | some secret => data ++ (ascii "@01" ++ secret)
  | none => data ++ ascii "@00"

def buildQuantumExecutionTx (nonce : UInt64) (sender schedulerAddress serializedTaskHex : Text)
    (quantumSecretHex : Option Text) (chainId : Text) : Transaction :=
  Transaction.new nonce (ascii "0") schedulerAddress sender 1000000000 30000000
    (some (quantumExecutionData serializedTaskHex quantumSecretHex)) chainId 1

/-- The arguments with which `executeQuantumTask` runs when a transaction calls it. -/
def executionArguments (transaction : Transaction) : Option (Task × Option Bytes32) := do
  let encoded ← transaction.data
  let data ← base64Decode encoded
  let (function, arguments) ← parseCallData data
  if function = ascii "executeQuantumTask" then
    loadWithOptional Task.decode decodeBytes32 arguments
  else none

def taggedSecret (quantumSecretHex : Option Text) : Text :=
  match quantumSecretHex with
  | some secret => ascii "01" ++ secret
  | none => ascii "00"

theorem quantumExecutionData_eq (serializedTaskHex : Text) (quantumSecretHex : Option Text) :
    quantumExecutionData serializedTaskHex quantumSecretHex =
      ascii "executeQuantumTask" ++
        argumentSeparator :: (serializedTaskHex ++ argumentSeparator :: taggedSecret quantumSecretHex) := by
  have function : ascii "executeQuantumTask@" = ascii "executeQuantumTask" ++ [argumentSeparator] := by
    decide
  cases quantumSecretHex with
  | none =>
      have tag : ascii "@00" = argumentSeparator :: ascii "00" := by decide
      simp only [quantumExecutionData, taggedSecret, function, tag, List.append_assoc,
        List.cons_append, List.nil_append]
  | some secret =>
      have tag : ascii "@01" = argumentSeparator :: ascii "01" := by decide
      simp only [quantumExecutionData, taggedSecret, function, tag, List.append_assoc,
        List.cons_append, List.nil_append]

/-- Hexadecimal texts of an optional secret. -/
def SecretHex (quantumSecretHex : Option Text) (secret : Option Bytes32) : Prop :=
  quantumSecretHex.map hexDecode = secret.map fun bytes => some bytes.val

theorem hexDecode_taggedSecret {quantumSecretHex : Option Text} {secret : Option Bytes32}
    (written : SecretHex quantumSecretHex secret) :
    ∃ bytes, hexDecode (taggedSecret quantumSecretHex) = some bytes ∧ bytes.length ≠ 32 := by
  cases quantumSecretHex with
  | none => exact ⟨[0], by decide, by decide⟩
  | some text =>
      cases secret with
      | none => cases written
      | some bytes =>
          have read : hexDecode text = some bytes.val := Option.some.inj written
          have tag : hexDecode (ascii "01") = some [1] := by decide
          refine ⟨[1] ++ bytes.val, hexDecode_append_some tag read, ?_⟩
          rw [List.length_append, bytes.length_eq]
          decide

theorem executionArguments_refused (nonce : UInt64) (sender schedulerAddress chainId : Text)
    {serializedTaskHex : Text} {quantumSecretHex : Option Text} {payload : Bytes}
    {secret : Option Bytes32} (read : hexDecode serializedTaskHex = some payload)
    (written : SecretHex quantumSecretHex secret) :
    executionArguments (buildQuantumExecutionTx nonce sender schedulerAddress serializedTaskHex
      quantumSecretHex chainId) = none := by
  obtain ⟨bytes, secretRead, wrong⟩ := hexDecode_taggedSecret written
  have plain : argumentSeparator ∉ taggedSecret quantumSecretHex :=
    fun inside => hexValue_of_mem secretRead inside (by decide)
  have parsed : parseCallData (quantumExecutionData serializedTaskHex quantumSecretHex) =
      some (ascii "executeQuantumTask", [payload, bytes]) := by
    rw [quantumExecutionData_eq, parseCallData_pair (by decide) read plain, secretRead]
    rfl
  simp only [executionArguments, buildQuantumExecutionTx, Transaction.new, Option.map_some,
    Option.bind_eq_bind, Option.bind_some, base64Decode_encode, parsed, if_true]
  exact loadWithOptional_refused (decodeBytes32_of_length wrong)

/-- The call never decodes to the task and the secret that it was built for. -/
theorem execution_call_never_decodes (nonce : UInt64) (sender schedulerAddress chainId : Text)
    {serializedTaskHex : Text} {quantumSecretHex : Option Text} {task : Task}
    {secret : Option Bytes32} (read : hexDecode serializedTaskHex = some task.encode)
    (written : SecretHex quantumSecretHex secret) :
    executionArguments (buildQuantumExecutionTx nonce sender schedulerAddress serializedTaskHex
      quantumSecretHex chainId) ≠ some (task, secret) := by
  rw [executionArguments_refused nonce sender schedulerAddress chainId read written]
  simp

theorem sample_call_with_secret :
    executionArguments (buildQuantumExecutionTx 1 (ascii "erd1keeper") (ascii "erd1scheduler")
      (hexEncode Sample.task.encode) (some (hexEncode (Bytes32.fill 9).val)) (ascii "T")) ≠
        some (Sample.task, some (.fill 9)) :=
  execution_call_never_decodes 1 _ _ _ (hexDecode_hexEncode _)
    (by rw [SecretHex, Option.map_some, hexDecode_hexEncode]; rfl)

/-- Without a secret the keeper still sends a second argument. -/
theorem call_without_secret_refused :
    hexDecode (serializeQuantumTaskHex Sample.taskHex) = some Sample.task.encode ∧
      executionArguments (buildQuantumExecutionTx 1 (ascii "erd1keeper") (ascii "erd1scheduler")
        (serializeQuantumTaskHex Sample.taskHex) none (ascii "T")) ≠ some (Sample.task, none) := by
  have read := Sample.describes.hexDecode_serialize Sample.fits
  refine ⟨read, ?_⟩
  have secret : SecretHex none none := rfl
  rw [executionArguments_refused 1 _ _ _ read secret]
  simp

end XCron.Keeper
