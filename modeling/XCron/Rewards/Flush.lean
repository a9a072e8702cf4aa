import XCron.Rewards.Contract
import XCron.Scheduler.Fees

/-!
# Protocol fees between the two contracts

The scheduler accrues the fees of the tasks it closes. `flushProtocolFees` clears what
has accrued and sends it to the rewards contract, in a message whose outcome it never
learns: where the rewards contract refuses, the EGLD comes back to the balance of the
scheduler, but not to its account of fees.
-/

namespace XCron.Rewards

open Platform

/-! ## The two contracts -/

structure System where
  scheduler : Scheduler.World
  rewards : World

/-- A message of the scheduler carries its fee, in whatever block it is delivered. -/
def feeCall (chain : Chain) (block : CallContext) (amount : Nat) : CallContext :=
  { block with caller := chain.scAddress, egldValue := amount, esdtTransfers := [] }

/-- What can happen to the two. A message may be lost on the way for reasons of the chain
(`arrives`), and one to another contract is taken or refused there. -/
inductive Move where
  | scheduler (move : Scheduler.Step)
  | rewards (move : Step)
  | deliver (index : Nat) (block : CallContext) (arrives : Bool)

/-- The scheduler attaches no value to a call of the rewards contract other than its
fee messages. -/
def Step.Foreign (scheduler : Address) (move : Step) : Prop :=
  ∀ call ∈ move.call?, call.caller = scheduler → call.egldValue = 0

instance (scheduler : Address) (move : Step) : Decidable (move.Foreign scheduler) :=
  inferInstanceAs (Decidable (∀ call ∈ move.call?, call.caller = scheduler → call.egldValue = 0))

theorem feeFrom_of_foreign {scheduler : Address} {move : Step} (foreign : move.Foreign scheduler) :
    move.feeFrom scheduler = 0 := by
  cases move with
  | receiveExecutionFee call keeper taskId =>
      by_cases same : call.caller = scheduler
      · exact (if_pos same).trans (foreign call rfl same)
      · exact if_neg same
  | _ => rfl

def System.settle (chain : Chain) (index : Nat) (accepted : Bool) (s : System) : Outcome System := do
  let scheduler ← Scheduler.step chain s.scheduler (.deliverMessage index accepted)
  pure { s with scheduler := scheduler }

/-- The rewards contract gets a fee message of the scheduler, and what it decides is what
becomes of the EGLD. -/
def System.receive (chain rewardsChain : Chain) (index : Nat) (block : CallContext)
    (keeper : Address) (amount : Nat) (s : System) : Outcome System :=
  match body rewardsChain (.receiveExecutionFee (feeCall chain block amount) keeper 0)
      (s.rewards.credit (feeCall chain block amount)) with
  | .ok rewards => { s with rewards := rewards }.settle chain index true
  | .error _ => s.settle chain index false

def System.step (chain rewardsChain : Chain) (s : System) : Move → Outcome System
  | .scheduler move => do
      ensure (move.delivers = false)
      let scheduler ← Scheduler.step chain s.scheduler move
      pure { s with scheduler := scheduler }
  | .rewards move => do
      ensure (move.Foreign chain.scAddress)
      let rewards ← Rewards.step rewardsChain s.rewards move
      pure { s with rewards := rewards }
  | .deliver index block arrives =>
      match s.scheduler.outbox[index]? with
      | some (.receiveExecutionFee receiver keeper amount) =>
          if arrives = true ∧ receiver = rewardsChain.scAddress then
            s.receive chain rewardsChain index block keeper amount
          else s.settle chain index arrives
      | _ => s.settle chain index arrives

/-! ## Conservation -/

variable {chain rewardsChain : Chain} {s next : System} {move : Move}

/-- The fees ever charged are accrued, on their way, or credited. -/
def System.Conserved (chain : Chain) (s : System) : Prop :=
  s.scheduler.chargedFees = s.scheduler.accruedProtocolFees + s.scheduler.feesInFlight +
    s.rewards.creditedTo chain.scAddress

/-- A fee message that is delivered arrives at the rewards contract, which takes it. -/
def FeeTaken (chain rewardsChain : Chain) (s : System) : Move → Prop
  | .deliver index block arrives => ∀ receiver keeper amount,
      s.scheduler.outbox[index]? = some (.receiveExecutionFee receiver keeper amount) →
      arrives = true ∧ receiver = rewardsChain.scAddress ∧
        Accepts rewardsChain s.rewards (feeCall chain block amount)
  | _ => True

instance (chain rewardsChain : Chain) (s : System) :
    (move : Move) → Decidable (FeeTaken chain rewardsChain s move)
  | .scheduler _ | .rewards _ => .isTrue trivial
  | .deliver index block arrives =>
      match queued : s.scheduler.outbox[index]? with
      | some (.receiveExecutionFee receiver keeper amount) =>
          decidable_of_iff (arrives = true ∧ receiver = rewardsChain.scAddress ∧
              Accepts rewardsChain s.rewards (feeCall chain block amount))
            ⟨fun taken _ _ _ queued' => by cases queued.symm.trans queued'; exact taken,
              fun taken => taken _ _ _ queued⟩
      | some (.recordExecution _ _ _) =>
          .isTrue fun _ _ _ queued' => nomatch queued.symm.trans queued'
      | none => .isTrue fun _ _ _ queued' => nomatch queued.symm.trans queued'

/-- No fee message is empty. -/
def System.FeesPositive (s : System) : Prop :=
  ∀ receiver keeper amount,
    .receiveExecutionFee receiver keeper amount ∈ s.scheduler.outbox → 0 < amount

theorem settle_eq_ok {index : Nat} {accepted : Bool} {message : Scheduler.Message}
    (queued : s.scheduler.outbox[index]? = some message) :
    s.settle chain index accepted = .ok next ↔
      { s with scheduler := s.scheduler.unqueued index accepted message } = next := by
  simp only [System.settle, Scheduler.step, Scheduler.Step.call?, Scheduler.body, queued,
    Outcome.bind_eq_ok, Outcome.pure_eq_ok, exists_eq_left', Scheduler.World.unqueued]

theorem not_settled {index : Nat} {accepted : Bool} (missing : s.scheduler.outbox[index]? = none) :
    s.settle chain index accepted ≠ .ok next := by
  simp [System.settle, Scheduler.step, Scheduler.Step.call?, Scheduler.body, missing, Bind.bind,
    Except.bind]

theorem settle_conserved_iff {index : Nat} {accepted : Bool} {message : Scheduler.Message}
    {rewards : World} (queued : s.scheduler.outbox[index]? = some message)
    (settled : System.settle chain index accepted { s with rewards := rewards } = .ok next)
    (conserved : s.Conserved chain) :
    next.Conserved chain ↔ rewards.creditedTo chain.scAddress =
      s.rewards.creditedTo chain.scAddress + message.value := by
  have queued' : { s with rewards := rewards }.scheduler.outbox[index]? = some message := queued
  obtain rfl := (settle_eq_ok queued').mp settled
  have inFlight := Scheduler.unqueued_feesInFlight accepted queued
  have charged : (s.scheduler.unqueued index accepted message).chargedFees =
    s.scheduler.chargedFees := rfl
  have accrued : (s.scheduler.unqueued index accepted message).accruedProtocolFees =
    s.scheduler.accruedProtocolFees := rfl
  unfold System.Conserved at conserved ⊢
  dsimp only
  omega

theorem receive_body_eq_ok {block : CallContext} {keeper : Address} {amount : Nat}
    {rewards after : World} :
    body rewardsChain (.receiveExecutionFee (feeCall chain block amount) keeper 0)
        (rewards.credit (feeCall chain block amount)) = .ok after ↔
      Accepts rewardsChain rewards (feeCall chain block amount) ∧
        (rewards.credit (feeCall chain block amount)).received (feeCall chain block amount) keeper 0 =
          after := by
  simp only [body, CallContext.payableEgld, Outcome.bind_eq_ok, Outcome.ensure_eq_ok,
    receiveExecutionFee_eq_ok]
  constructor
  · rintro ⟨_, _, accepts, rfl⟩
    exact ⟨⟨accepts.scheduler, accepts.split⟩, rfl⟩
  · rintro ⟨accepts, rfl⟩
    exact ⟨(), rfl, ⟨accepts.scheduler, accepts.split⟩, rfl⟩

theorem receive_conserved_iff {index : Nat} {block : CallContext} {receiver keeper : Address}
    {amount : Nat} (positive : 0 < amount)
    (queued : s.scheduler.outbox[index]? = some (.receiveExecutionFee receiver keeper amount))
    (stepped : s.receive chain rewardsChain index block keeper amount = .ok next)
    (conserved : s.Conserved chain) :
    next.Conserved chain ↔ Accepts rewardsChain s.rewards (feeCall chain block amount) := by
  unfold System.receive at stepped
  split at stepped
  next rewards received =>
    obtain ⟨accepts, rfl⟩ := receive_body_eq_ok.mp received
    rw [settle_conserved_iff queued stepped conserved, iff_true_right accepts]
    have accepts' : Accepts rewardsChain (s.rewards.credit (feeCall chain block amount))
        (feeCall chain block amount) := ⟨accepts.scheduler, accepts.split⟩
    have own : (feeCall chain block amount).caller = chain.scAddress := rfl
    rw [received_creditedTo keeper 0 accepts', if_pos own]
    rfl
  next fault refused =>
    rw [settle_conserved_iff queued stepped conserved]
    constructor
    · intro same
      have empty : amount = 0 := Nat.left_eq_add.mp same
      exact absurd empty (Nat.ne_of_gt positive)
    · intro accepts
      cases refused.symm.trans (receive_body_eq_ok.mpr ⟨accepts, rfl⟩)

theorem deliver_conserved_iff {index : Nat} {block : CallContext} {arrives : Bool}
    (positive : s.FeesPositive) (conserved : s.Conserved chain)
    (stepped : s.step chain rewardsChain (.deliver index block arrives) = .ok next) :
    next.Conserved chain ↔ FeeTaken chain rewardsChain s (.deliver index block arrives) := by
  simp only [System.step] at stepped
  split at stepped
  next receiver keeper amount queued =>
    have positive' : 0 < amount := positive _ _ _ (List.mem_of_getElem? queued)
    split at stepped
    next here =>
      rw [receive_conserved_iff positive' queued stepped conserved]
      constructor
      · intro accepts _ _ _ queued'
        cases queued.symm.trans queued'
        exact ⟨here.1, here.2, accepts⟩
      · intro taken
        exact (taken _ _ _ queued).2.2
    next elsewhere =>
      rw [settle_conserved_iff queued stepped conserved]
      constructor
      · intro same
        have empty : amount = 0 := Nat.left_eq_add.mp same
        exact absurd empty (Nat.ne_of_gt positive')
      · intro taken
        obtain ⟨arrived, addressed, _⟩ := taken _ _ _ queued
        exact absurd ⟨arrived, addressed⟩ elsewhere
  next other =>
    cases queued : s.scheduler.outbox[index]? with
    | none => exact absurd stepped (not_settled queued)
    | some message =>
        cases message with
        | receiveExecutionFee receiver keeper amount =>
            exact absurd queued (other receiver keeper amount)
        | recordExecution registry keeper success =>
            rw [settle_conserved_iff queued stepped conserved]
            refine iff_of_true rfl ?_
            intro receiver keeper amount queued'
            cases queued.symm.trans queued'

/-- A step keeps the account straight exactly if it does not lose a fee. -/
theorem step_conserved_iff (positive : s.FeesPositive) (conserved : s.Conserved chain)
    (stepped : s.step chain rewardsChain move = .ok next) :
    next.Conserved chain ↔ FeeTaken chain rewardsChain s move := by
  cases move with
  | scheduler move =>
      simp only [System.step, Outcome.bind_eq_ok, Outcome.ensure_eq_ok, Outcome.pure_eq_ok] at stepped
      obtain ⟨_, own, scheduler, stepped, rfl⟩ := stepped
      refine iff_of_true ?_ trivial
      obtain ⟨fee, charged, account⟩ := (Scheduler.step_keepsFees own stepped).account
      unfold System.Conserved at conserved ⊢
      dsimp only
      omega
  | rewards move =>
      simp only [System.step, Outcome.bind_eq_ok, Outcome.ensure_eq_ok, Outcome.pure_eq_ok] at stepped
      obtain ⟨_, foreign, rewards, stepped, rfl⟩ := stepped
      refine iff_of_true ?_ trivial
      have credited := step_creditedTo chain.scAddress stepped
      rw [feeFrom_of_foreign foreign] at credited
      unfold System.Conserved at conserved ⊢
      rw [credited]
      exact conserved
  | deliver index block arrives => exact deliver_conserved_iff positive conserved stepped

theorem settle_feesPositive {index : Nat} {accepted : Bool} (positive : s.FeesPositive)
    (settled : s.settle chain index accepted = .ok next) : next.FeesPositive := by
  cases queued : s.scheduler.outbox[index]? with
  | none => exact absurd settled (not_settled queued)
  | some message =>
      obtain rfl := (settle_eq_ok queued).mp settled
      intro receiver keeper amount member
      exact positive receiver keeper amount (List.mem_of_mem_eraseIdx member)

theorem step_feesPositive (positive : s.FeesPositive)
    (stepped : s.step chain rewardsChain move = .ok next) : next.FeesPositive := by
  cases move with
  | scheduler move =>
      simp only [System.step, Outcome.bind_eq_ok, Outcome.ensure_eq_ok, Outcome.pure_eq_ok] at stepped
      obtain ⟨_, own, scheduler, stepped, rfl⟩ := stepped
      intro receiver keeper amount member
      rcases (Scheduler.step_keepsFees own stepped).fees _ _ _ member with before | new
      · exact positive receiver keeper amount before
      · exact new
  | rewards move =>
      simp only [System.step, Outcome.bind_eq_ok, Outcome.pure_eq_ok] at stepped
      obtain ⟨_, _, rewards, _, rfl⟩ := stepped
      exact positive
  | deliver index block arrives =>
      simp only [System.step, System.receive] at stepped
      split at stepped
      · split at stepped
        · split at stepped
          next rewards _ =>
            have positive' : { s with rewards := rewards }.FeesPositive := positive
            exact settle_feesPositive positive' stepped
          next => exact settle_feesPositive positive stepped
        · exact settle_feesPositive positive stepped
      · exact settle_feesPositive positive stepped

structure System.Deployed (s : System) : Prop where
  scheduler : Scheduler.Deployed s.scheduler
  rewards : Rewards.Deployed s.rewards

theorem System.Deployed.feesPositive (started : s.Deployed) : s.FeesPositive := by
  obtain ⟨_, _, _, _, _, _, scheduler⟩ := started.scheduler.eq
  intro receiver keeper amount member
  rw [scheduler] at member
  cases member

theorem System.Deployed.conserved (started : s.Deployed) : s.Conserved chain := by
  obtain ⟨_, _, _, _, _, _, scheduler⟩ := started.scheduler.eq
  obtain ⟨_, _, rewards⟩ := started.rewards
  unfold System.Conserved
  rw [scheduler, ← rewards]
  rfl

/-- The protocol fees ever charged are accrued, on their way or credited in every state
of a run exactly if every fee message that is delivered in it is taken by the rewards
contract. -/
theorem fees_conserved_iff {start : System} {moves : List Move} (started : start.Deployed)
    (trace : Trace (System.step chain rewardsChain) (fun _ _ => True) start moves s) :
    Throughout (System.step chain rewardsChain) (System.Conserved chain) start moves ↔
      Trace (System.step chain rewardsChain) (FeeTaken chain rewardsChain) start moves s := by
  exact trace.throughout_iff System.FeesPositive
    (fun _ _ _ positive stepped => step_feesPositive positive stepped)
    (fun _ _ _ positive conserved stepped => step_conserved_iff positive conserved stepped)
    started.feesPositive started.conserved

namespace Sample

def feesChain : Chain := { sampleChain with scAddress := .fill 4, ownerAddress := .fill 11 }

def system (treasurySplitBps : UInt64) : System :=
  { scheduler := Scheduler.Sample.world, rewards := init (.fill 3) treasurySplitBps }

theorem system_deployed (treasurySplitBps : UInt64) : (system treasurySplitBps).Deployed :=
  ⟨Scheduler.Sample.world_deployed, .fill 3, treasurySplitBps, rfl⟩

def flushRun : List Move :=
  [.rewards (.configure (Scheduler.Sample.call (.fill 11) 0 1000)
      (.addAuthorizedScheduler sampleChain.scAddress))] ++
    (Scheduler.Sample.timedRun ++ [Scheduler.Step.executionCallback 0 true,
      .flushProtocolFees (Scheduler.Sample.call Scheduler.Sample.keeper 0 1000)]).map .scheduler ++
    [.deliver 1 (Scheduler.Sample.call Scheduler.Sample.keeper 0 1000) true]

end Sample

theorem fees_conserved_sample :
    ∃ s, Trace (System.step sampleChain Sample.feesChain)
        (FeeTaken sampleChain Sample.feesChain) (Sample.system 3000) Sample.flushRun s ∧
      s.scheduler.chargedFees = 35 ∧ s.rewards.creditedTo sampleChain.scAddress = 35 ∧
      Throughout (System.step sampleChain Sample.feesChain) (System.Conserved sampleChain)
        (Sample.system 3000) Sample.flushRun := by
  obtain ⟨s, trace, charged, credited⟩ := Trace.of_runChecked
    (System.step sampleChain Sample.feesChain) (FeeTaken sampleChain Sample.feesChain)
    (Sample.system 3000) Sample.flushRun
    (fun s => s.scheduler.chargedFees = 35 ∧ s.rewards.creditedTo sampleChain.scAddress = 35)
    (by decide +kernel)
  exact ⟨s, trace, charged, credited, (fees_conserved_iff (Sample.system_deployed 3000)
    (trace.weaken (fun _ _ _ => trivial))).mpr trace⟩

/-- With twice the fee for the treasury, which `init` accepts, the fee is lost. -/
theorem fees_lost :
    (Sample.system 20000).Deployed ∧
      ∃ s, Trace (System.step sampleChain Sample.feesChain) (fun _ _ => True)
          (Sample.system 20000) Sample.flushRun s ∧
        s.scheduler.chargedFees = 35 ∧ s.scheduler.accruedProtocolFees = 0 ∧
        s.scheduler.feesInFlight = 0 ∧ s.rewards.creditedTo sampleChain.scAddress = 0 :=
  ⟨Sample.system_deployed 20000, Trace.of_runChecked _ _ _ _ _ (by decide +kernel)⟩

end XCron.Rewards
