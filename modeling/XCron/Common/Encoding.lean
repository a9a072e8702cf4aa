import XCron.Common.Types

/-!
# A task can be read off its encoding

The digest of its encoding identifies a task, so two tasks must not share one. On
the chain every length is a 32-bit word; here that is a condition on the task.
-/

namespace XCron

open Platform

def FitsBuffer (bytes : Bytes) : Prop := bytes.length < 2 ^ 32

def FitsBuffers (buffers : List Bytes) : Prop :=
  buffers.length < 2 ^ 32 ∧ ∀ bytes ∈ buffers, bytes.length < 2 ^ 32

instance (bytes : Bytes) : Decidable (FitsBuffer bytes) := inferInstanceAs (Decidable (_ < _))

instance (buffers : List Bytes) : Decidable (FitsBuffers buffers) :=
  inferInstanceAs (Decidable (_ ∧ ∀ bytes ∈ buffers, _))

namespace Trigger

def Fits : Trigger → Prop
  | .stateDriven _ queryEndpoint queryArgs _ threshold =>
      FitsBuffer queryEndpoint ∧ FitsBuffers queryArgs ∧ FitsBuffer (natBytes threshold)
  | .eventDriven _ eventTopic => FitsBuffer eventTopic
  | _ => True

instance (trigger : Trigger) : Decidable trigger.Fits := by
  cases trigger <;> unfold Fits <;> infer_instance

end Trigger

theorem unambiguous_buffers : Unambiguous FitsBuffers (encodeList encodeBuffer) :=
  unambiguous_list unambiguous_buffer

theorem unambiguous_status : Unambiguous (fun _ => True) TaskStatus.encode := by
  refine unambiguous_of_width 1 (fun status => by cases status <;> rfl) ?_
  intro first second same
  cases first <;> cases second <;> first | rfl | exact absurd same (by decide)

theorem unambiguous_comparator : Unambiguous (fun _ => True) Comparator.encode := by
  refine unambiguous_of_width 1 (fun comparator => by cases comparator <;> rfl) ?_
  intro first second same
  cases first <;> cases second <;> first | rfl | exact absurd same (by decide)

def Trigger.tag : Trigger → UInt8
  | .timeOnce _ => 0
  | .timeRecurring _ _ _ => 1
  | .stateDriven _ _ _ _ _ => 2
  | .eventDriven _ _ => 3
  | .quantumSealedHash _ => 4

theorem Trigger.head_encode (trigger : Trigger) : ∃ fields, trigger.encode = trigger.tag :: fields := by
  cases trigger <;> exact ⟨_, rfl⟩

theorem unambiguous_trigger : Unambiguous Trigger.Fits Trigger.encode := by
  intro first second fits fits' rest rest' same
  have tags : first.tag = second.tag := by
    obtain ⟨fields, encoded⟩ := first.head_encode
    obtain ⟨fields', encoded'⟩ := second.head_encode
    rw [encoded, encoded'] at same
    exact (List.cons.inj same).1
  cases first with
  | timeOnce targetTime =>
      cases second with
      | timeOnce targetTime' =>
          obtain ⟨rfl, rests⟩ := unambiguous_u64 _ _ trivial trivial _ _ (List.cons.inj same).2
          exact ⟨rfl, rests⟩
      | _ => simp [Trigger.tag] at tags
  | timeRecurring startTime interval remainingExecs =>
      cases second with
      | timeRecurring startTime' interval' remainingExecs' =>
          simp only [Trigger.encode, List.cons_append, List.append_assoc, List.cons.injEq,
            true_and] at same
          obtain ⟨startTimes, same⟩ := unambiguous_u64 _ _ trivial trivial _ _ same
          obtain ⟨intervals, same⟩ := unambiguous_u64 _ _ trivial trivial _ _ same
          obtain ⟨counts, rests⟩ := unambiguous_u64 _ _ trivial trivial _ _ same
          exact ⟨by rw [startTimes, intervals, counts], rests⟩
      | _ => simp [Trigger.tag] at tags
  | stateDriven oracleContract queryEndpoint queryArgs comparator threshold =>
      cases second with
      | stateDriven oracleContract' queryEndpoint' queryArgs' comparator' threshold' =>
          obtain ⟨fitsEndpoint, fitsArgs, fitsThreshold⟩ := fits
          obtain ⟨fitsEndpoint', fitsArgs', fitsThreshold'⟩ := fits'
          simp only [Trigger.encode, List.cons_append, List.append_assoc, List.cons.injEq,
            true_and] at same
          obtain ⟨oracles, same⟩ := unambiguous_bytes32 _ _ trivial trivial _ _ same
          obtain ⟨endpoints, same⟩ := unambiguous_buffer _ _ fitsEndpoint fitsEndpoint' _ _ same
          obtain ⟨args, same⟩ := unambiguous_buffers _ _ fitsArgs fitsArgs' _ _ same
          obtain ⟨comparators, same⟩ := unambiguous_comparator _ _ trivial trivial _ _ same
          obtain ⟨thresholds, rests⟩ :=
            unambiguous_bigUint _ _ fitsThreshold fitsThreshold' _ _ same
          exact ⟨by rw [oracles, endpoints, args, comparators, thresholds], rests⟩
      | _ => simp [Trigger.tag] at tags
  | eventDriven emitterContract eventTopic =>
      cases second with
      | eventDriven emitterContract' eventTopic' =>
          simp only [Trigger.encode, List.cons_append, List.append_assoc, List.cons.injEq,
            true_and] at same
          obtain ⟨emitters, same⟩ := unambiguous_bytes32 _ _ trivial trivial _ _ same
          obtain ⟨topics, rests⟩ := unambiguous_buffer _ _ fits fits' _ _ same
          exact ⟨by rw [emitters, topics], rests⟩
      | _ => simp [Trigger.tag] at tags
  | quantumSealedHash expectedHash =>
      cases second with
      | quantumSealedHash expectedHash' =>
          obtain ⟨rfl, rests⟩ := unambiguous_bytes32 _ _ trivial trivial _ _ (List.cons.inj same).2
          exact ⟨rfl, rests⟩
      | _ => simp [Trigger.tag] at tags

namespace Task

/-- Every buffer of a task has a 32-bit length, as all buffers on the chain do. -/
structure Fits (task : Task) : Prop where
  targetEndpoint : FitsBuffer task.targetEndpoint
  targetArgs : FitsBuffers task.targetArgs
  trigger : task.trigger.Fits
  deposit : FitsBuffer (natBytes task.deposit)

instance (task : Task) : Decidable task.Fits :=
  decidable_of_iff
    (FitsBuffer task.targetEndpoint ∧ FitsBuffers task.targetArgs ∧ task.trigger.Fits ∧
      FitsBuffer (natBytes task.deposit))
    ⟨fun ⟨endpoint, args, trigger, deposit⟩ => ⟨endpoint, args, trigger, deposit⟩,
      fun fits => ⟨fits.targetEndpoint, fits.targetArgs, fits.trigger, fits.deposit⟩⟩

theorem encode_injective {first second : Task} (fits : first.Fits) (fits' : second.Fits)
    (same : first.encode = second.encode) : first = second := by
  rcases first with ⟨id, owner, targetContract, targetEndpoint, targetArgs, trigger, maxGas, deposit,
    maxRetries, retryCount, ttlSeconds, createdAt, status, assignedKeeper, completedAt, postTaskId,
    requireXwapSafe, confidential⟩
  rcases second with ⟨id', owner', targetContract', targetEndpoint', targetArgs', trigger', maxGas',
    deposit', maxRetries', retryCount', ttlSeconds', createdAt', status', assignedKeeper',
    completedAt', postTaskId', requireXwapSafe', confidential'⟩
  obtain ⟨fitsEndpoint, fitsArgs, fitsTrigger, fitsDeposit⟩ := fits
  obtain ⟨fitsEndpoint', fitsArgs', fitsTrigger', fitsDeposit'⟩ := fits'
  simp only [encode, List.append_assoc] at same
  obtain ⟨ids, same⟩ := unambiguous_u64 _ _ trivial trivial _ _ same
  obtain ⟨owners, same⟩ := unambiguous_bytes32 _ _ trivial trivial _ _ same
  obtain ⟨targets, same⟩ := unambiguous_bytes32 _ _ trivial trivial _ _ same
  obtain ⟨endpoints, same⟩ := unambiguous_buffer _ _ fitsEndpoint fitsEndpoint' _ _ same
  obtain ⟨args, same⟩ := unambiguous_buffers _ _ fitsArgs fitsArgs' _ _ same
  obtain ⟨triggers, same⟩ := unambiguous_trigger _ _ fitsTrigger fitsTrigger' _ _ same
  obtain ⟨gas, same⟩ := unambiguous_u64 _ _ trivial trivial _ _ same
  obtain ⟨deposits, same⟩ := unambiguous_bigUint _ _ fitsDeposit fitsDeposit' _ _ same
  obtain ⟨retries, same⟩ := unambiguous_u8 _ _ trivial trivial _ _ same
  obtain ⟨counts, same⟩ := unambiguous_u8 _ _ trivial trivial _ _ same
  obtain ⟨ttls, same⟩ := unambiguous_u64 _ _ trivial trivial _ _ same
  obtain ⟨creations, same⟩ := unambiguous_u64 _ _ trivial trivial _ _ same
  obtain ⟨statuses, same⟩ := unambiguous_status _ _ trivial trivial _ _ same
  obtain ⟨keepers, same⟩ := unambiguous_option unambiguous_bytes32 _ _ (fun _ _ => trivial)
    (fun _ _ => trivial) _ _ same
  obtain ⟨completions, same⟩ := unambiguous_u64 _ _ trivial trivial _ _ same
  obtain ⟨posts, same⟩ := unambiguous_option unambiguous_u64 _ _ (fun _ _ => trivial)
    (fun _ _ => trivial) _ _ same
  obtain ⟨guards, same⟩ := unambiguous_bool _ _ trivial trivial _ _ same
  rw [← List.append_nil (encodeBool confidential),
    ← List.append_nil (encodeBool confidential')] at same
  obtain ⟨confidentials, _⟩ := unambiguous_bool _ _ trivial trivial _ _ same
  subst_vars
  rfl

theorem length_encode_ge (task : Task) : 72 ≤ task.encode.length := by
  simp only [encode, List.length_append, encodeU64, length_beBytes, task.owner.length_eq,
    task.targetContract.length_eq]
  omega

end Task

end XCron
