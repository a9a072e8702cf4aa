import XCron.Scheduler.Soundness

/-!
# Who a stored task belongs to

A task is stored under its owner, and listed by its owner, in two maps that no step
reads together. What a step can do to the two is said once here. The owner is written
when a task is scheduled, and again whenever an execution starts: from the stored task
where the keeper goes straight through, but from the memory of a waiting endpoint, or
from the payload of a compressed task, where a synchronous call comes in between.
-/

namespace XCron.Scheduler

open Platform

variable {chain : Chain} {w next : World} {move : Step}

def Frame.owner : Frame → Address
  | .oracle d | .xwap d => d.state.owner
  | .proof _ _ payload => payload.owner
  | .zkVerifier _ _ state => state.owner

def Frame.starts : Frame → Bool
  | .oracle _ | .xwap _ | .proof _ _ _ => true
  | .zkVerifier _ _ _ => false

def Returns (w : World) (move : Step) (frame : Frame) : Prop :=
  (∃ results, move = .syncReturn results) ∧ w.frames.head? = some frame

/-- What a step does to the stored tasks and the lists of their owners. -/
inductive Handled (w next : World) (move : Step) : Prop where
  | scheduled (call : CallContext) (hash : TaskHash) (deposit : Nat)
      (schedules : move.scheduling? = some call) (free : w.quantumTasks.get? hash = none)
      (stored : next.quantumTasks = w.quantumTasks.set hash
        { owner := (resolveCaller call w).1, deposit := deposit, status := .pending,
          executingAt := 0 })
      (listed : next.ownerTasks = Function.update w.ownerTasks (resolveCaller call w).1
        (insert hash (w.ownerTasks (resolveCaller call w).1)))
  | started (hash : TaskHash) (state : QuantumTaskState)
      (origin : (∃ before, w.quantumTasks.get? hash = some before ∧ before.owner = state.owner) ∨
        ∃ frame, Returns w move frame ∧ frame.starts = true ∧ frame.taskHash = hash ∧
          frame.owner = state.owner)
      (stored : next.quantumTasks = w.quantumTasks.set hash state)
      (listed : next.ownerTasks = w.ownerTasks)
  | closed (hash : TaskHash) (owner : Address) (reward : Option (Address × Nat))
      (refunds : List Nat)
      (origin : (∃ state, w.quantumTasks.get? hash = some state ∧ state.owner = owner) ∨
        ∃ frame, Returns w move frame ∧ frame.taskHash = hash ∧ frame.owner = owner)
      (stored : next.quantumTasks = w.quantumTasks.clear hash)
      (listed : next.ownerTasks = Function.update w.ownerTasks owner
        ((w.ownerTasks owner).erase hash))
      (sent : next.sent = w.sent ++ ((reward.map fun paid => .egld paid.1 paid.2).toList ++
        refunds.map (.egld owner)))
      (logged : ∃ how path fee, next.journal = w.journal ++
        [.closed hash how path ((reward.map Prod.snd).getD 0) refunds.sum fee])
  | untouched (stored : next.quantumTasks = w.quantumTasks) (listed : next.ownerTasks = w.ownerTasks)

def refundList (refund : Nat) : List Nat := if 0 < refund then [refund] else []

theorem refundList_sum (refund : Nat) : (refundList refund).sum = refund := by
  unfold refundList
  split
  · exact List.sum_singleton
  · exact (Nat.eq_zero_of_not_pos ‹_›).symm

theorem payIfPositive_refund (chain : Chain) (owner : Address) (refund : Nat) (w : World) :
    (w.payIfPositive chain owner refund).sent = w.sent ++ (refundList refund).map (.egld owner) := by
  rw [payIfPositive_sent, refundList]
  split <;> rfl

theorem Dispatched.handled {d : Dispatch} {before : World}
    (dispatched : Dispatched chain d before next) (stored : before.quantumTasks = w.quantumTasks)
    (listed : before.ownerTasks = w.ownerTasks)
    (origin : (∃ state, w.quantumTasks.get? d.taskHash = some state ∧
        state.owner = d.state.owner) ∨
      ∃ frame, Returns w move frame ∧ frame.starts = true ∧ frame.taskHash = d.taskHash ∧
        frame.owner = d.state.owner) :
    Handled w next move := by
  rcases dispatched with ⟨_, _, rfl⟩ | ⟨_, rfl⟩ | rfl
  · exact .untouched stored listed
  · exact .untouched stored listed
  · refine .started d.taskHash d.executingState origin ?_ listed
    rw [← stored]
    rfl

section Closing

variable {hash : TaskHash} {owner : Address} (before : World)
  (origin : (∃ state, w.quantumTasks.get? hash = some state ∧ state.owner = owner) ∨
    ∃ frame, Returns w move frame ∧ frame.taskHash = hash ∧ frame.owner = owner)
  (stored : before.quantumTasks = w.quantumTasks)
  (listed : before.ownerTasks = w.ownerTasks) (sent : before.sent = w.sent)
  (journal : before.journal = w.journal)

include origin stored listed sent journal

theorem succeeded_handled {targetContract keeper : Address} {deposit : Nat}
    {path : Option DispatchPath} :
    Handled w (before.succeeded chain hash targetContract keeper deposit owner path) move := by
  refine .closed hash owner (some (keeper, calculateReward before deposit))
    (refundList (remainder deposit (calculateReward before deposit + protocolFee before deposit)))
    origin ?_ ?_ ?_ ⟨.executed true, path, protocolFee before deposit, ?_⟩
  · rw [← stored]
    rfl
  · rw [← listed]
    rfl
  · rw [← sent, ← List.append_assoc]
    exact payIfPositive_refund chain owner _
      (before.pay chain keeper (calculateReward before deposit))
  · rw [← journal, refundList_sum]
    rfl

theorem failed_handled {targetContract keeper : Address} {deposit : Nat}
    {path : Option DispatchPath} :
    Handled w (before.failed chain hash targetContract keeper deposit owner path) move := by
  refine .closed hash owner none (refundList (remainder deposit (protocolFee before deposit))) origin
    ?_ ?_ ?_ ⟨.executed false, path, protocolFee before deposit, ?_⟩
  · rw [← stored]
    rfl
  · rw [← listed]
    rfl
  · rw [← sent]
    exact payIfPositive_refund chain owner _ before
  · rw [← journal, refundList_sum]
    rfl

end Closing

theorem storeTask_handled {call : CallContext} {requested : Option Nat} {deposit : Nat}
    {paid : World} {hash : TaskHash} (schedules : move.scheduling? = some call)
    (taken : takeDeposit call requested (w.credit call) = .ok (deposit, paid))
    (free : paid.quantumTasks.get? hash = none)
    (stored : next.quantumTasks = paid.quantumTasks.set hash
      { owner := (resolveCaller call w).1, deposit := deposit, status := .pending, executingAt := 0 })
    (listed : next.ownerTasks = Function.update paid.ownerTasks (resolveCaller call w).1
      (insert hash (paid.ownerTasks (resolveCaller call w).1))) : Handled w next move := by
  rcases takeDeposit_cases taken with ⟨_, rfl⟩ | ⟨_, _, _, rfl⟩
  · exact .scheduled call hash deposit schedules free stored listed
  · exact .scheduled call hash deposit schedules free stored listed

theorem step_handled (stepped : step chain w move = .ok next) : Handled w next move := by
  cases step_effect stepped with
  | scheduleQuantumTask _ _ taken free => exact storeTask_handled rfl taken free rfl rfl
  | scheduleSovereignTask _ _ taken free => exact storeTask_handled rfl taken free rfl rfl
  | @cancelQuantumTask _ hash state _ found _ _ _ =>
      refine .closed hash state.owner none (refundList (cancellationRefund w state.deposit))
        (.inl ⟨state, found, rfl⟩) rfl rfl (payIfPositive_refund chain state.owner _ w)
        ⟨.cancelled, none, protocolFee w state.deposit, ?_⟩
      rw [refundList_sum]
      rfl
  | executeQuantumTask _ found _ _ dispatched =>
      exact dispatched.handled rfl rfl (.inl ⟨_, found, rfl⟩)
  | settleXseTask _ found _ _ _ closed =>
      obtain ⟨_, _, rfl⟩ := finalizeSuccessfulExecution_eq_ok.mp closed
      exact succeeded_handled w (.inl ⟨_, found, rfl⟩) rfl rfl rfl rfl
  | @rescueStuckXseTask _ hash state _ _ found _ _ _ _ =>
      exact .closed hash state.owner none [state.deposit] (.inl ⟨state, found, rfl⟩) rfl rfl rfl
        ⟨.rescued, _, 0, rfl⟩
  | @syncReturn results frame rest _ waiting resumed =>
      have returns : Returns w (.syncReturn results) frame := by
        refine ⟨⟨results, rfl⟩, ?_⟩
        rw [waiting]
        rfl
      rcases resume_ok resumed with ⟨d, rfl | rfl, dispatched⟩ | ⟨_, _, _, rfl, dispatched⟩ |
        ⟨_, _, _, rfl, closed⟩
      · exact dispatched.handled rfl rfl (.inr ⟨_, returns, rfl, rfl, rfl⟩)
      · exact dispatched.handled rfl rfl (.inr ⟨_, returns, rfl, rfl, rfl⟩)
      · exact dispatched.handled rfl rfl (.inr ⟨_, returns, rfl, rfl, rfl⟩)
      · obtain ⟨_, _, rfl⟩ := finalizeSuccessfulExecution_eq_ok.mp closed
        exact succeeded_handled { w with frames := rest } (.inr ⟨_, returns, rfl, rfl⟩) rfl rfl rfl
          rfl
  | @executionCallback index _ promise _ _ called =>
      obtain ⟨state, found, closed⟩ := executionCallback_ok called
      have stored : w.quantumTasks.get? promise.taskHash = some state := found
      rcases closed with ⟨_, _, rfl⟩ | ⟨_, rfl⟩
      · exact succeeded_handled { w with promises := w.promises.eraseIdx index }
          (.inl ⟨state, stored, rfl⟩) rfl rfl rfl rfl
      · exact failed_handled { w with promises := w.promises.eraseIdx index }
          (.inl ⟨state, stored, rfl⟩) rfl rfl rfl rfl
  | solveIntent | solveMultiIntent | executePreCognitiveLeaf =>
      rw [World.delivered_eq]
      exact .untouched rfl rfl
  | _ => exact .untouched rfl rfl

end XCron.Scheduler
