import XCron.Scheduler.Fees
import XCron.Scheduler.Sovereign

/-!
# What the scheduler says of its keepers

Closing a task that was put into execution is a verdict on its keeper. The scheduler
announces it in an event and tells the keeper registry in a message, each time once.
-/

namespace XCron.Scheduler

open Platform

variable {chain : Chain} {w next : World} {move : Step}

/-- How a keeper's execution of a task ended. -/
structure Verdict where
  keeper : Address
  success : Bool
  deriving DecidableEq

def Event.verdict? : Event → Option Verdict
  | .taskExecutedQuantum _ keeper success => some ⟨keeper, success⟩
  | _ => none

def Message.verdict? : Message → Option Verdict
  | .recordExecution _ keeper success => some ⟨keeper, success⟩
  | .receiveExecutionFee _ _ _ => none

def World.verdicts (w : World) : List Verdict := w.events.filterMap Event.verdict?

def World.reportsInFlight (w : World) : List Verdict := w.outbox.filterMap Message.verdict?

/-- The registry is known, and no enclave is assigned to the zero address, which stands
for no keeper at all. -/
structure World.Reporting (w : World) : Prop where
  registry : w.config.keeperRegistryAddr ≠ none
  enclaves : ∀ hash, w.assignedEnclaveKeeper hash ≠ some Bytes32.zero

/-- Whatever verdict a step announces it also sends. -/
def Announces (w next : World) : Prop :=
  ∃ verdicts : List Verdict, next.verdicts = w.verdicts ++ verdicts ∧
    next.reportsInFlight = w.reportsInFlight ++ verdicts

theorem announces_of_same (events : next.events = w.events) (outbox : next.outbox = w.outbox) :
    Announces w next := by
  refine ⟨[], ?_, ?_⟩
  · rw [World.verdicts, events, List.append_nil]
    rfl
  · rw [World.reportsInFlight, outbox, List.append_nil]
    rfl

theorem announces_of_event {event : Event} (events : next.events = w.events ++ [event])
    (other : event.verdict? = none) (outbox : next.outbox = w.outbox) : Announces w next := by
  refine ⟨[], ?_, ?_⟩
  · rw [World.verdicts, events, List.filterMap_append, List.filterMap_cons_none other]
    rfl
  · rw [World.reportsInFlight, outbox, List.append_nil]
    rfl

theorem Announces.of_same {before : World} (announces : Announces before next)
    (events : before.events = w.events) (outbox : before.outbox = w.outbox) :
    Announces w next := by
  unfold Announces World.verdicts World.reportsInFlight at announces ⊢
  rwa [events, outbox] at announces

theorem announces_of_verdict {hash : TaskHash} {keeper : Address} {success : Bool}
    (known : w.config.keeperRegistryAddr ≠ none)
    (events : next.events = w.events ++ [.taskExecutedQuantum hash keeper success])
    (outbox : next.outbox = (w.forwardKeeperResult keeper success).outbox) :
    Announces w next := by
  refine ⟨[⟨keeper, success⟩], ?_, ?_⟩
  · rw [World.verdicts, events, List.filterMap_append]
    rfl
  · cases registry : w.config.keeperRegistryAddr with
    | none => exact absurd registry known
    | some address =>
        rw [World.reportsInFlight, outbox]
        unfold World.forwardKeeperResult
        rw [registry]
        exact List.filterMap_append

theorem Dispatched.announces {d : Dispatch} (dispatched : Dispatched chain d w next) :
    Announces w next := by
  rcases dispatched with ⟨_, _, rfl⟩ | ⟨_, rfl⟩ | rfl
  · exact announces_of_event rfl rfl rfl
  · exact announces_of_event rfl rfl rfl
  · by_cases sealed : d.payload.confidential = true
    · exact announces_of_event (if_pos sealed) rfl rfl
    · exact announces_of_same (if_neg sealed) rfl

theorem succeeded_announces {hash : TaskHash} {targetContract keeper owner : Address}
    {deposit : Nat} {path : Option DispatchPath} (known : w.config.keeperRegistryAddr ≠ none) :
    Announces w (w.succeeded chain hash targetContract keeper deposit owner path) :=
  announces_of_verdict known rfl rfl

theorem failed_announces {hash : TaskHash} {targetContract keeper owner : Address}
    {deposit : Nat} {path : Option DispatchPath} (known : w.config.keeperRegistryAddr ≠ none) :
    Announces w (w.failed chain hash targetContract keeper deposit owner path) :=
  announces_of_verdict known rfl rfl

theorem rescued_announces {hash : TaskHash} {state : QuantumTaskState} {keeper : Address}
    (known : w.config.keeperRegistryAddr ≠ none) (someone : keeper ≠ Bytes32.zero) :
    Announces w (w.rescued chain hash state keeper) :=
  announces_of_verdict known rfl (if_neg someone)

/-- Every verdict that a step announces is sent to the registry, in the same order. -/
theorem step_announces (reporting : w.Reporting) (own : move.delivers = false)
    (stepped : step chain w move = .ok next) : Announces w next := by
  have known := reporting.registry
  cases step_effect stepped with
  | scheduleQuantumTask _ _ taken _ | scheduleSovereignTask _ _ taken _ =>
      rcases takeDeposit_cases taken with ⟨_, rfl⟩ | ⟨_, _, _, rfl⟩ <;>
        exact announces_of_event rfl rfl rfl
  | executeQuantumTask _ _ _ _ dispatched => exact dispatched.announces.of_same rfl rfl
  | settleXseTask _ _ _ _ _ closed =>
      obtain ⟨_, _, rfl⟩ := finalizeSuccessfulExecution_eq_ok.mp closed
      exact succeeded_announces known
  | @rescueStuckXseTask _ hash _ keeper _ _ _ _ enclave _ =>
      refine rescued_announces known ?_
      rintro rfl
      exact reporting.enclaves hash enclave
  | @syncReturn _ _ rest _ _ resumed =>
      have known' : { w with frames := rest }.config.keeperRegistryAddr ≠ none := known
      rcases resume_ok resumed with ⟨_, _, dispatched⟩ | ⟨_, _, _, _, dispatched⟩ |
        ⟨_, _, _, _, closed⟩
      · exact dispatched.announces.of_same rfl rfl
      · exact dispatched.announces.of_same rfl rfl
      · obtain ⟨_, _, rfl⟩ := finalizeSuccessfulExecution_eq_ok.mp closed
        exact (succeeded_announces known').of_same rfl rfl
  | @executionCallback index _ _ _ _ called =>
      have known' : { w with promises := w.promises.eraseIdx index }.config.keeperRegistryAddr ≠
        none := known
      obtain ⟨_, _, ⟨_, _, rfl⟩ | ⟨_, rfl⟩⟩ := executionCallback_ok called
      · exact (succeeded_announces known').of_same rfl rfl
      · exact (failed_announces known').of_same rfl rfl
  | solveIntent | executePreCognitiveLeaf =>
      rw [World.delivered_eq]
      exact announces_of_same rfl rfl
  | solveMultiIntent =>
      rw [World.delivered_eq]
      exact announces_of_event rfl rfl rfl
  | cancelQuantumTask | executeCompressedTask | awaitSettlement | triggerXseEnclave
  | authorizeCloneKey | revokeCloneKey | fundCloneKey =>
      exact announces_of_event rfl rfl rfl
  | flushProtocolFees =>
      refine ⟨[], (List.append_nil _).symm, ?_⟩
      unfold World.flushed World.reportsInFlight
      rw [List.filterMap_append]
      rfl
  | deliverMessage => cases own
  | _ => exact announces_of_same rfl rfl

/-! ## The registry and the enclaves -/

theorem step_enclave {hash : TaskHash} {keeper : Address} (stepped : step chain w move = .ok next)
    (assigned : next.assignedEnclaveKeeper hash = some keeper) :
    w.assignedEnclaveKeeper hash = some keeper ∨
      ∃ call, move.call? = some call ∧ call.Delivered chain ∧ call.caller = keeper := by
  rcases enclave_origin stepped assigned with before | ⟨payload, ⟨call, secret, member⟩, rfl⟩
  · exact .inl before
  · obtain rfl := List.mem_singleton.mp member
    cases step_effect stepped with
    | executeQuantumTask delivered _ _ _ dispatched =>
        rw [dispatched.assignedEnclaveKeeper] at assigned
        simp only [World.assignEnclave] at assigned
        split at assigned
        · rw [Function.update_self] at assigned
          exact .inr ⟨call, rfl, delivered, Option.some.inj assigned⟩
        · exact .inl assigned

theorem Config.apply_registry {c c' : Config} {change : ConfigCall}
    (applied : c.apply change = .ok c') (known : c.keeperRegistryAddr ≠ none) :
    c'.keeperRegistryAddr ≠ none := by
  cases change with
  | setKeeperRegistryAddr addr =>
      obtain rfl := (Outcome.pure_eq_ok _ _).mp applied
      rintro ⟨⟩
  | setProtocolFeeBps value =>
      simp only [Config.apply, Outcome.bind_eq_ok, Outcome.pure_eq_ok] at applied
      obtain ⟨_, _, rfl⟩ := applied
      exact known
  | removeWhitelistedKeeper keeper =>
      simp only [Config.apply, Outcome.bind_eq_ok, Outcome.pure_eq_ok] at applied
      obtain ⟨_, _, _, _, rfl⟩ := applied
      exact known
  | _ =>
      obtain rfl := (Outcome.pure_eq_ok _ _).mp applied
      exact known

theorem World.Reporting.step (reporting : w.Reporting) (stepped : step chain w move = .ok next) :
    next.Reporting := by
  constructor
  · rcases step_config stepped with ⟨_, _, _, _, applied⟩ | same
    · exact Config.apply_registry applied reporting.registry
    · rw [same]
      exact reporting.registry
  · intro hash assigned
    rcases step_enclave stepped assigned with before | ⟨call, _, delivered, nobody⟩
    · exact reporting.enclaves hash before
    · exact delivered.1 nobody

theorem Deployed.reporting (started : Deployed w) : w.Reporting := by
  obtain ⟨_, _, _, _, _, _, rfl⟩ := started.eq
  constructor
  · rintro ⟨⟩
  · rintro _ ⟨⟩

/-! ## Deliveries -/

theorem unqueued_reportsInFlight {index : Nat} {message : Message} (accepted : Bool)
    (queued : w.outbox[index]? = some message) :
    w.reportsInFlight.Perm
      (message.verdict?.toList ++ (w.unqueued index accepted message).reportsInFlight) := by
  obtain ⟨within, rfl⟩ := List.getElem?_eq_some_iff.mp queued
  have permuted := (List.getElem_cons_eraseIdx_perm within).filterMap Message.verdict?
  refine permuted.symm.trans (List.Perm.of_eq ?_)
  cases reported : (w.outbox[index]).verdict? with
  | none => exact List.filterMap_cons_none reported
  | some verdict => exact List.filterMap_cons_some reported

end XCron.Scheduler
