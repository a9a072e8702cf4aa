import XCron.Scheduler.Soundness

/-!
# Compressed tasks

`executeCompressedTask` takes owner and deposit from the payload a keeper
presents. What its executions pay is bounded by what was deposited for the hash
exactly as long as payloads are presented once and covered by a stored task.
-/

namespace XCron.Scheduler

open Platform

variable {chain : Chain} {w next : World} {move : Step}

/-! ## The journal and the money -/

/-- What an entry of the journal says about the step that wrote it. -/
def Audited (w next : World) : JournalEntry → Prop
  | .funded _ amount =>
      next.egld = w.egld + amount ∨ cloneBudgets next + amount = cloneBudgets w
  | .dispatched _ _ => True
  | .closed _ _ _ reward refund fee =>
      next.accruedProtocolFees = w.accruedProtocolFees + fee ∧
        ∃ transfers, next.sent = w.sent ++ transfers ∧
          (transfers.map Transfer.egldAmount).sum = reward + refund

/-- A step writes at most one entry, and the entry says what the step moved. -/
def Journaled (w next : World) : Prop :=
  next.journal = w.journal ∨ ∃ entry, next.journal = w.journal ++ [entry] ∧ Audited w next entry

theorem refund_total (receiver : Address) (amount : Nat) :
    ((if 0 < amount then [Transfer.egld receiver amount] else []).map Transfer.egldAmount).sum =
      amount := by
  split
  · simp [Transfer.egldAmount]
  · simp
    omega

theorem Dispatched.journaled {d : Dispatch} {before : World}
    (dispatched : Dispatched chain d w next) (journal : w.journal = before.journal) :
    Journaled before next := by
  rcases dispatched with ⟨_, _, rfl⟩ | ⟨_, rfl⟩ | rfl
  · exact .inl journal
  · exact .inl journal
  · refine .inr ⟨.dispatched d.taskHash d.path, ?_, trivial⟩
    rw [← journal]
    rfl

theorem cancelled_journaled {hash : TaskHash} {state : QuantumTaskState} :
    Journaled w (w.cancelled chain hash state) := by
  refine .inr ⟨_, rfl, forwardProtocolFee_accrued _ _, _,
    payIfPositive_sent chain state.owner (cancellationRefund w state.deposit) w, ?_⟩
  rw [refund_total, Nat.zero_add]

theorem succeeded_journaled {hash : TaskHash} {targetContract keeper owner : Address}
    {deposit : Nat} {path : Option DispatchPath} :
    Journaled w (w.succeeded chain hash targetContract keeper deposit owner path) := by
  have refunded := payIfPositive_sent chain owner
    (remainder deposit (calculateReward w deposit + protocolFee w deposit))
    (w.pay chain keeper (calculateReward w deposit))
  refine .inr ⟨_, rfl, forwardProtocolFee_accrued _ _,
    closingTransfers (some keeper) owner (calculateReward w deposit)
      (remainder deposit (calculateReward w deposit + protocolFee w deposit)), ?_, ?_⟩
  · exact refunded.trans (List.append_assoc _ _ _)
  · rw [closingTransfers, List.map_append, List.sum_append, refund_total]
    rfl

theorem failed_journaled {hash : TaskHash} {targetContract keeper owner : Address}
    {deposit : Nat} {path : Option DispatchPath} :
    Journaled w (w.failed chain hash targetContract keeper deposit owner path) := by
  refine .inr ⟨_, rfl, forwardProtocolFee_accrued _ _, _,
    payIfPositive_sent chain owner (remainder deposit (protocolFee w deposit)) w, ?_⟩
  rw [refund_total, Nat.zero_add]

theorem rescued_journaled {hash : TaskHash} {state : QuantumTaskState} {keeper : Address} :
    Journaled w (w.rescued chain hash state keeper) := by
  refine .inr ⟨_, rfl, rfl, [.egld state.owner state.deposit], rfl, ?_⟩
  simp [Transfer.egldAmount]

theorem storeTask_journaled {call : CallContext} {requested : Option Nat} {deposit : Nat}
    {paid : World} (hash : TaskHash) (owner : Address)
    (taken : takeDeposit call requested (w.credit call) = .ok (deposit, paid)) :
    Journaled w (storeTask hash owner deposit paid) := by
  rcases takeDeposit_cases taken with ⟨rfl, rfl⟩ | ⟨props, found, within, rfl⟩
  · exact .inr ⟨.funded hash call.egldValue, rfl, .inl rfl⟩
  · exact .inr ⟨.funded hash deposit, rfl, .inr (cloneBudgets_charged found within)⟩

theorem Journaled.of_same (before : World) (journal : before.journal = w.journal)
    (accrued : before.accruedProtocolFees = w.accruedProtocolFees) (sent : before.sent = w.sent)
    (egld : before.egld = w.egld) (budgets : before.cloneKeyProps = w.cloneKeyProps)
    (journaled : Journaled before next) : Journaled w next := by
  rcases journaled with same | ⟨entry, added, audited⟩
  · exact .inl (same.trans journal)
  · refine .inr ⟨entry, journal ▸ added, ?_⟩
    cases entry with
    | funded _ amount =>
        rcases audited with balance | spent
        · exact .inl (egld ▸ balance)
        · right
          unfold cloneBudgets at spent ⊢
          rw [← budgets]
          exact spent
    | dispatched _ _ => trivial
    | closed _ _ _ reward refund fee =>
        obtain ⟨charged, transfers, paid, total⟩ := audited
        exact ⟨accrued ▸ charged, transfers, sent ▸ paid, total⟩

/-- Every step of the scheduler is journaled faithfully. -/
theorem step_journaled (stepped : step chain w move = .ok next) : Journaled w next := by
  cases step_effect stepped with
  | @scheduleQuantumTask call payload _ _ _ _ _ taken _ =>
      have journaled := storeTask_journaled (taskHash chain payload) (resolveCaller call w).1
        taken
      exact journaled
  | @scheduleSovereignTask call _ _ _ _ hash _ _ taken _ =>
      have journaled := storeTask_journaled hash (resolveCaller call w).1 taken
      exact journaled
  | cancelQuantumTask _ _ _ _ _ => exact cancelled_journaled
  | executeQuantumTask _ _ _ _ dispatched => exact dispatched.journaled rfl
  | settleXseTask _ _ _ _ _ closed =>
      obtain ⟨_, _, rfl⟩ := finalizeSuccessfulExecution_eq_ok.mp closed
      exact succeeded_journaled
  | rescueStuckXseTask _ _ _ _ _ _ => exact rescued_journaled
  | @syncReturn _ frame rest _ waiting resumed =>
      rcases resume_ok resumed with ⟨_, _, dispatched⟩ | ⟨_, _, _, _, dispatched⟩ |
        ⟨_, _, _, _, closed⟩
      · exact dispatched.journaled rfl
      · exact dispatched.journaled rfl
      · obtain ⟨_, _, rfl⟩ := finalizeSuccessfulExecution_eq_ok.mp closed
        exact .of_same { w with frames := rest } rfl rfl rfl rfl rfl succeeded_journaled
  | @executionCallback index _ _ _ _ called =>
      obtain ⟨_, _, ⟨_, _, rfl⟩ | ⟨_, rfl⟩⟩ := executionCallback_ok called
      · exact .of_same { w with promises := w.promises.eraseIdx index } rfl rfl rfl rfl
          rfl succeeded_journaled
      · exact .of_same { w with promises := w.promises.eraseIdx index } rfl rfl rfl rfl
          rfl failed_journaled
  | solveIntent | solveMultiIntent | executePreCognitiveLeaf =>
      rw [World.delivered_eq]
      exact .inl rfl
  | _ => exact .inl rfl

/-! ## What compressed tasks pay -/

def JournalEntry.executionAmount : JournalEntry → Nat
  | .closed _ .cancelled _ _ _ _ => 0
  | entry => entry.closedAmount

def TaskView.executionValue (v : TaskView) : Nat := (v.journal.map JournalEntry.executionAmount).sum

theorem executionAmount_le (entry : JournalEntry) : entry.executionAmount ≤ entry.closedAmount := by
  unfold JournalEntry.executionAmount
  split
  · exact Nat.zero_le _
  · exact Nat.le_refl _

theorem executionValue_le (v : TaskView) : v.executionValue ≤ v.closedValue := by
  apply List.sum_le_sum
  intro entry _
  exact executionAmount_le entry

theorem Orderly.run {w₀ : World} {steps : List Step} (orderly : Orderly True True w₀)
    (trace : Trace (step chain) (Disciplined chain) w₀ steps w) : Orderly True True w :=
  trace.preserves (Orderly True True) (fun _ _ _ disciplined orderly stepped =>
    step_orderly disciplined (fun _ => trivial) (fun _ _ _ _ _ _ _ => trivial) orderly stepped)
    orderly

/-- In every disciplined run, finalisations and rescues of a hash pay at most
what was deposited for it, and at most one of them follows from
`executeCompressedTask`. The journal these totals are read from says what each
step moved. -/
theorem compressed_pay_once {w₀ : World} {steps : List Step} (started : Deployed w₀)
    (trace : Trace (step chain) (Disciplined chain) w₀ steps w) (hash : TaskHash) :
    (w.view hash).executionValue ≤ (w.view hash).fundedValue ∧
      (w.view hash).journal.countP JournalEntry.closesCompressed ≤ 1 ∧
      ∀ move next, step chain w move = .ok next → Journaled w next := by
  have orderly : Orderly True True w := started.orderly.run trace
  have balanced := orderly.balanced hash
  refine ⟨?_, ?_, fun move next stepped => step_journaled stepped⟩
  · have executions := executionValue_le (w.view hash)
    have value := balanced.value
    omega
  · have once := balanced.once
    have single := balanced.single
    omega

namespace Sample

def configureXsc : Step := .configure (call (.fill 2) 0 1000) (.setXscAddress (.fill 8))

def compressedTask : Task := { timedTask with deposit := 700 }

def presentCompressed : List Step :=
  [.executeCompressedTask (call keeper 0 1000) compressedTask [], .syncReturn [[1]]]

def coveredRun : List Step :=
  [admitKeeper, configureXsc, .scheduleQuantumTask (call bob 700 1000) compressedTask none] ++
    presentCompressed ++ [.executionCallback 0 true]

def unfundedRun : List Step :=
  [admitKeeper, configureXsc, .scheduleQuantumTask (call alice 5000 1000) oracleTask none] ++
    presentCompressed ++ [.executionCallback 0 false] ++ presentCompressed ++
    [.executionCallback 0 false]

end Sample

theorem compressed_pay_once_sample :
    ∃ w, Trace (step sampleChain) (Disciplined sampleChain) Sample.world Sample.coveredRun w ∧
      (w.view (taskHash sampleChain Sample.compressedTask)).executionValue = 700 ∧
      (w.view (taskHash sampleChain Sample.compressedTask)).executionValue ≤
        (w.view (taskHash sampleChain Sample.compressedTask)).fundedValue := by
  obtain ⟨w, trace, paid⟩ := Trace.of_runChecked (step sampleChain)
    (Disciplined sampleChain) Sample.world Sample.coveredRun
    (fun w =>
      (w.view (taskHash sampleChain Sample.compressedTask)).executionValue = 700)
    (by decide +kernel)
  exact ⟨w, trace, paid, (compressed_pay_once Sample.world_deployed trace _).1⟩

/-- A task nobody paid for is refunded twice, out of other users' deposits. -/
theorem compressed_pay_unfunded :
    Deployed Sample.world ∧
      ∃ w, Trace (step sampleChain) (fun _ _ => True) Sample.world Sample.unfundedRun w ∧
        w.frames.length = 0 ∧
        (w.view (taskHash sampleChain Sample.compressedTask)).fundedValue = 0 ∧
        (w.view (taskHash sampleChain Sample.compressedTask)).executionValue = 1400 ∧
        (w.view (taskHash sampleChain Sample.compressedTask)).journal.countP
          JournalEntry.closesCompressed = 2 :=
  ⟨Sample.world_deployed, Trace.of_runChecked _ _ _ _ _ (by decide +kernel)⟩

end XCron.Scheduler
