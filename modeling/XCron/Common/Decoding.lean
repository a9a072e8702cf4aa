import XCron.Common.Encoding
import XCron.Platform.Readers

/-!
# Decoding tasks

The decoders that the contract derives for the types of `common/src/types.rs`.
What the contract encodes it decodes again, to the same value.
-/

namespace XCron

open Platform

def TaskStatus.read : Reader TaskStatus := do
  match ← Reader.u8 with
  | 0 => pure .pending
  | 1 => pure .committed
  | 2 => pure .executing
  | 3 => pure .completed
  | 4 => pure .failed
  | 5 => pure .cancelled
  | 6 => pure .expired
  | _ => failure

def Comparator.read : Reader Comparator := do
  match ← Reader.u8 with
  | 0 => pure .gt
  | 1 => pure .lt
  | 2 => pure .eq
  | 3 => pure .gte
  | 4 => pure .lte
  | _ => failure

def Trigger.readFields (tag : UInt8) : Reader Trigger :=
  match tag with
  | 0 => do
      let targetTime ← Reader.u64
      pure (.timeOnce targetTime)
  | 1 => do
      let startTime ← Reader.u64
      let interval ← Reader.u64
      let remainingExecs ← Reader.u64
      pure (.timeRecurring startTime interval remainingExecs)
  | 2 => do
      let oracleContract ← Reader.bytes32
      let queryEndpoint ← Reader.buffer
      let queryArgs ← Reader.list Reader.buffer
      let comparator ← Comparator.read
      let threshold ← Reader.bigUint
      pure (.stateDriven oracleContract queryEndpoint queryArgs comparator threshold)
  | 3 => do
      let emitterContract ← Reader.bytes32
      let eventTopic ← Reader.buffer
      pure (.eventDriven emitterContract eventTopic)
  | 4 => do
      let expectedHash ← Reader.bytes32
      pure (.quantumSealedHash expectedHash)
  | _ => failure

def Trigger.read : Reader Trigger := do
  let tag ← Reader.u8
  readFields tag

def Task.read : Reader Task := do
  let id ← Reader.u64
  let owner ← Reader.bytes32
  let targetContract ← Reader.bytes32
  let targetEndpoint ← Reader.buffer
  let targetArgs ← Reader.list Reader.buffer
  let trigger ← Trigger.read
  let maxGas ← Reader.u64
  let deposit ← Reader.bigUint
  let maxRetries ← Reader.u8
  let retryCount ← Reader.u8
  let ttlSeconds ← Reader.u64
  let createdAt ← Reader.u64
  let status ← TaskStatus.read
  let assignedKeeper ← Reader.option Reader.bytes32
  let completedAt ← Reader.u64
  let postTaskId ← Reader.option Reader.u64
  let requireXwapSafe ← Reader.bool
  let confidential ← Reader.bool
  pure ⟨id, owner, targetContract, targetEndpoint, targetArgs, trigger, maxGas, deposit, maxRetries,
    retryCount, ttlSeconds, createdAt, status, assignedKeeper, completedAt, postTaskId,
    requireXwapSafe, confidential⟩

def Trigger.decode (bytes : Bytes) : Option Trigger := Trigger.read.whole bytes

def Task.decode (bytes : Bytes) : Option Task := Task.read.whole bytes

theorem reads_status : Reads (fun _ => True) TaskStatus.encode TaskStatus.read := by
  intro status _ rest
  cases status <;> rfl

theorem reads_comparator : Reads (fun _ => True) Comparator.encode Comparator.read := by
  intro comparator _ rest
  cases comparator <;> rfl

theorem reads_buffers : Reads FitsBuffers (encodeList encodeBuffer) (Reader.list Reader.buffer) :=
  reads_list reads_buffer

theorem reads_trigger : Reads Trigger.Fits Trigger.encode Trigger.read := by
  intro trigger fits rest
  cases trigger with
  | timeOnce targetTime =>
      rw [Trigger.read, Trigger.encode, List.cons_append, Reader.run_u8_bind, Trigger.readFields,
        reads_u64.run_bind trivial]
      rfl
  | timeRecurring startTime interval remainingExecs =>
      simp only [Trigger.encode, List.cons_append, List.append_assoc]
      rw [Trigger.read, Reader.run_u8_bind, Trigger.readFields, reads_u64.run_bind trivial,
        reads_u64.run_bind trivial, reads_u64.run_bind trivial]
      rfl
  | stateDriven oracleContract queryEndpoint queryArgs comparator threshold =>
      obtain ⟨fitsEndpoint, fitsArgs, fitsThreshold⟩ := fits
      simp only [Trigger.encode, List.cons_append, List.append_assoc]
      rw [Trigger.read, Reader.run_u8_bind, Trigger.readFields, reads_bytes32.run_bind trivial,
        reads_buffer.run_bind fitsEndpoint, reads_buffers.run_bind fitsArgs,
        reads_comparator.run_bind trivial, reads_bigUint.run_bind fitsThreshold]
      rfl
  | eventDriven emitterContract eventTopic =>
      simp only [Trigger.encode, List.cons_append, List.append_assoc]
      rw [Trigger.read, Reader.run_u8_bind, Trigger.readFields, reads_bytes32.run_bind trivial,
        reads_buffer.run_bind fits]
      rfl
  | quantumSealedHash expectedHash =>
      rw [Trigger.read, Trigger.encode, List.cons_append, Reader.run_u8_bind, Trigger.readFields,
        reads_bytes32.run_bind trivial]
      rfl

theorem reads_task : Reads Task.Fits Task.encode Task.read := by
  intro task fits rest
  simp only [Task.encode, List.append_assoc]
  rw [Task.read, reads_u64.run_bind trivial, reads_bytes32.run_bind trivial,
    reads_bytes32.run_bind trivial, reads_buffer.run_bind fits.targetEndpoint,
    reads_buffers.run_bind fits.targetArgs, reads_trigger.run_bind fits.trigger,
    reads_u64.run_bind trivial, reads_bigUint.run_bind fits.deposit, reads_u8.run_bind trivial,
    reads_u8.run_bind trivial, reads_u64.run_bind trivial, reads_u64.run_bind trivial,
    reads_status.run_bind trivial, (reads_option reads_bytes32).run_bind fun _ _ => trivial,
    reads_u64.run_bind trivial, (reads_option reads_u64).run_bind fun _ _ => trivial,
    reads_bool.run_bind trivial, reads_bool.run_bind trivial]
  rfl

/-- A task on the chain is what its encoding decodes to. -/
theorem Task.decode_encode {task : Task} (fits : task.Fits) : Task.decode task.encode = some task :=
  reads_task.whole fits

end XCron
