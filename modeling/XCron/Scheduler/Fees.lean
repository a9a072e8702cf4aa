import XCron.Scheduler.Soundness

/-!
# The scheduler's account of fees

A task that is executed or cancelled pays a protocol fee, which accrues until
`flushProtocolFees` sends it off. Whatever else the scheduler does, what was charged is
accrued or on its way.
-/

namespace XCron.Scheduler

open Platform

variable {chain : Chain} {w next : World} {move : Step}

def Step.delivers : Step → Bool
  | .deliverMessage _ _ => true
  | _ => false

def JournalEntry.chargedFee : JournalEntry → Nat
  | .closed _ _ _ _ _ fee => fee
  | _ => 0

def World.chargedFees (w : World) : Nat := (w.journal.map JournalEntry.chargedFee).sum

/-- The fees on their way to the rewards contract; no other message carries value. -/
def World.feesInFlight (w : World) : Nat := (w.outbox.map Message.value).sum

/-- No fee message is sent. -/
structure SendsNoFee (w next : World) : Prop where
  inFlight : next.feesInFlight = w.feesInFlight
  fees : ∀ receiver keeper amount, .receiveExecutionFee receiver keeper amount ∈ next.outbox →
    .receiveExecutionFee receiver keeper amount ∈ w.outbox

/-- Whatever fee a step charges is accrued or on its way, and no empty fee is sent. -/
structure KeepsFees (w next : World) : Prop where
  account : ∃ fee, next.chargedFees = w.chargedFees + fee ∧
    next.accruedProtocolFees + next.feesInFlight = w.accruedProtocolFees + w.feesInFlight + fee
  fees : ∀ receiver keeper amount, .receiveExecutionFee receiver keeper amount ∈ next.outbox →
    .receiveExecutionFee receiver keeper amount ∈ w.outbox ∨ 0 < amount

theorem sendsNoFee_of_same (outbox : next.outbox = w.outbox) : SendsNoFee w next := by
  constructor
  · unfold World.feesInFlight
    rw [outbox]
  · intro receiver keeper amount member
    rwa [outbox] at member

theorem keepsFees_of_same (journal : next.journal = w.journal)
    (accrued : next.accruedProtocolFees = w.accruedProtocolFees) (outbox : SendsNoFee w next) :
    KeepsFees w next := by
  refine ⟨⟨0, ?_, ?_⟩, fun receiver keeper amount member =>
    .inl (outbox.fees receiver keeper amount member)⟩
  · unfold World.chargedFees
    rw [journal]
    rfl
  · rw [accrued, outbox.inFlight]
    rfl

theorem keepsFees_of_entry {entry : JournalEntry} (journal : next.journal = w.journal ++ [entry])
    (accrued : next.accruedProtocolFees = w.accruedProtocolFees + entry.chargedFee)
    (outbox : SendsNoFee w next) : KeepsFees w next := by
  refine ⟨⟨entry.chargedFee, ?_, ?_⟩, fun receiver keeper amount member =>
    .inl (outbox.fees receiver keeper amount member)⟩
  · unfold World.chargedFees
    rw [journal, List.map_append, List.sum_append]
    rfl
  · rw [accrued, outbox.inFlight]
    exact Nat.add_right_comm _ _ _

theorem forwardKeeperResult_sendsNoFee (keeper : Address) (success : Bool) (w : World) :
    SendsNoFee w (w.forwardKeeperResult keeper success) := by
  cases registry : w.config.keeperRegistryAddr with
  | none =>
      refine sendsNoFee_of_same ?_
      unfold World.forwardKeeperResult
      rw [registry]
  | some address =>
      have outbox : (w.forwardKeeperResult keeper success).outbox =
          w.outbox ++ [.recordExecution address keeper success] := by
        unfold World.forwardKeeperResult
        rw [registry]
      constructor
      · unfold World.feesInFlight
        rw [outbox, List.map_append, List.sum_append]
        rfl
      · intro receiver keeper' amount member
        rw [outbox, List.mem_append] at member
        rcases member with before | new
        · exact before
        · simp at new

theorem reportStuck_sendsNoFee (keeper : Address) (w : World) :
    SendsNoFee w (w.reportStuck keeper) := by
  by_cases nobody : keeper = Bytes32.zero
  · exact sendsNoFee_of_same (if_pos nobody)
  · obtain ⟨inFlight, fees⟩ := forwardKeeperResult_sendsNoFee keeper false w
    have outbox : (w.reportStuck keeper).outbox = (w.forwardKeeperResult keeper false).outbox :=
      if_neg nobody
    constructor
    · unfold World.feesInFlight at inFlight ⊢
      rw [outbox, inFlight]
    · rw [outbox]
      exact fees

theorem KeepsFees.of_same (before : World) (journal : before.journal = w.journal)
    (accrued : before.accruedProtocolFees = w.accruedProtocolFees)
    (outbox : before.outbox = w.outbox) (keeps : KeepsFees before next) : KeepsFees w next := by
  obtain ⟨⟨fee, charged, account⟩, fees⟩ := keeps
  unfold World.chargedFees World.feesInFlight at *
  rw [journal] at charged
  rw [accrued, outbox] at account
  rw [outbox] at fees
  exact ⟨⟨fee, charged, account⟩, fees⟩

theorem succeeded_keepsFees {hash : TaskHash} {targetContract keeper owner : Address}
    {deposit : Nat} {path : Option DispatchPath} :
    KeepsFees w (w.succeeded chain hash targetContract keeper deposit owner path) := by
  obtain ⟨inFlight, fees⟩ := forwardKeeperResult_sendsNoFee keeper true w
  exact keepsFees_of_entry rfl (forwardProtocolFee_accrued _ _) ⟨inFlight, fees⟩

theorem failed_keepsFees {hash : TaskHash} {targetContract keeper owner : Address}
    {deposit : Nat} {path : Option DispatchPath} :
    KeepsFees w (w.failed chain hash targetContract keeper deposit owner path) := by
  obtain ⟨inFlight, fees⟩ := forwardKeeperResult_sendsNoFee keeper false w
  exact keepsFees_of_entry rfl (forwardProtocolFee_accrued _ _) ⟨inFlight, fees⟩

theorem flushed_keepsFees (rewards caller : Address) (positive : 0 < w.accruedProtocolFees) :
    KeepsFees w (w.flushed rewards caller) := by
  refine ⟨⟨0, rfl, ?_⟩, ?_⟩
  · unfold World.flushed World.feesInFlight
    rw [List.map_append, List.sum_append, Nat.zero_add, Nat.add_comm]
    rfl
  · intro receiver keeper amount member
    rcases List.mem_append.mp member with before | new
    · exact .inl before
    · cases List.mem_singleton.mp new
      exact .inr positive

theorem Dispatched.keepsFees {d : Dispatch} (dispatched : Dispatched chain d w next) :
    KeepsFees w next := by
  rcases dispatched with ⟨_, _, rfl⟩ | ⟨_, rfl⟩ | rfl
  · exact keepsFees_of_same rfl rfl (sendsNoFee_of_same rfl)
  · exact keepsFees_of_same rfl rfl (sendsNoFee_of_same rfl)
  · exact keepsFees_of_entry rfl rfl (sendsNoFee_of_same rfl)

/-- Only deliveries take fees out of the scheduler's account. -/
theorem step_keepsFees (own : move.delivers = false) (stepped : step chain w move = .ok next) :
    KeepsFees w next := by
  cases step_effect stepped with
  | @scheduleQuantumTask call payload _ deposit _ _ _ taken _ =>
      rcases takeDeposit_cases taken with ⟨_, rfl⟩ | ⟨_, _, _, rfl⟩ <;>
        exact keepsFees_of_entry rfl rfl (sendsNoFee_of_same rfl)
  | scheduleSovereignTask _ _ taken _ =>
      rcases takeDeposit_cases taken with ⟨_, rfl⟩ | ⟨_, _, _, rfl⟩ <;>
        exact keepsFees_of_entry rfl rfl (sendsNoFee_of_same rfl)
  | cancelQuantumTask =>
      exact keepsFees_of_entry rfl (forwardProtocolFee_accrued _ _) (sendsNoFee_of_same rfl)
  | @executeQuantumTask call payload _ _ _ _ _ _ _ dispatched =>
      exact .of_same (w.assignEnclave (taskHash chain payload) payload call.caller) rfl rfl rfl
        dispatched.keepsFees
  | settleXseTask _ _ _ _ _ closed =>
      obtain ⟨_, _, rfl⟩ := finalizeSuccessfulExecution_eq_ok.mp closed
      exact succeeded_keepsFees
  | @rescueStuckXseTask _ _ _ keeper =>
      obtain ⟨inFlight, fees⟩ := reportStuck_sendsNoFee keeper w
      exact keepsFees_of_entry rfl rfl ⟨inFlight, fees⟩
  | @syncReturn _ frame rest _ _ resumed =>
      refine .of_same { w with frames := rest } rfl rfl rfl ?_
      rcases resume_ok resumed with ⟨_, _, dispatched⟩ | ⟨_, _, _, _, dispatched⟩ |
        ⟨_, _, _, _, closed⟩
      · exact dispatched.keepsFees
      · exact dispatched.keepsFees
      · obtain ⟨_, _, rfl⟩ := finalizeSuccessfulExecution_eq_ok.mp closed
        exact succeeded_keepsFees
  | @executionCallback index _ _ _ _ called =>
      refine .of_same { w with promises := w.promises.eraseIdx index } rfl rfl rfl ?_
      obtain ⟨_, _, ⟨_, _, rfl⟩ | ⟨_, rfl⟩⟩ := executionCallback_ok called
      · exact succeeded_keepsFees
      · exact failed_keepsFees
  | solveIntent | solveMultiIntent | executePreCognitiveLeaf =>
      rw [World.delivered_eq]
      exact keepsFees_of_same rfl rfl (sendsNoFee_of_same rfl)
  | @flushProtocolFees call =>
      simp only [step, Step.call?, body, flushProtocolFees, Outcome.bind_eq_ok,
        Outcome.require_eq_ok] at stepped
      obtain ⟨_, _, _, _, _, _, _, positive, _⟩ := stepped
      exact flushed_keepsFees _ _ positive
  | deliverMessage => cases own
  | _ => exact keepsFees_of_same rfl rfl (sendsNoFee_of_same rfl)

def World.unqueued (index : Nat) (accepted : Bool) (message : Message) (w : World) : World :=
  { w with
    outbox := w.outbox.eraseIdx index
    egld := if accepted then w.egld else w.egld + message.value }

theorem unqueued_feesInFlight {index : Nat} {message : Message} (accepted : Bool)
    (queued : w.outbox[index]? = some message) :
    (w.unqueued index accepted message).feesInFlight + message.value = w.feesInFlight := by
  obtain ⟨within, rfl⟩ := List.getElem?_eq_some_iff.mp queued
  have permuted := (List.getElem_cons_eraseIdx_perm within).map Message.value
  unfold World.feesInFlight
  rw [← permuted.sum_eq, List.map_cons, List.sum_cons, Nat.add_comm]
  rfl

end XCron.Scheduler
