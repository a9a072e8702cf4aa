import XCron.Common.Encoding
import XCron.Platform.Merkle
import XCron.Scheduler.Compressed

/-!
# The gates in front of a dispatch

`executeQuantumTask` and `executeCompressedTask` end in the same dispatcher. The
first one checks the seal, the keeper lock and the round-robin turn, and the bounds
on gas and times were checked when its task was scheduled. The second one checks
none of it: whoever presents a compressed payload is bound only by what the payload
happens to ask for.
-/

namespace XCron.Scheduler

open Platform

variable {chain : Chain} {w next : World} {move : Step}

/-! ## Reaching the dispatcher -/

def quantumGate (chain : Chain) (call : CallContext) (payload : Task)
    (quantumSecret : Option Bytes32) (w : World) : Outcome QuantumTaskState := do
  w.requireNotPaused
  w.requireRegisteredKeeper call.caller
  let hash := taskHash chain payload
  require (w.quantumTasks.get? hash ≠ none) "Q-1: Invalid Quantum Seal."
  let state ← load (w.quantumTasks.get? hash)
  require (state.status = .pending) "Task not Pending"
  requireQuantumSeal chain payload.trigger quantumSecret
  require (∀ assigned ∈ payload.assignedKeeper, call.caller = assigned)
    "MEV Protection: Locked task"
  performRoundRobinCheck chain call payload hash call.caller w
  pure state

def quantumDispatch (chain : Chain) (call : CallContext) (payload : Task)
    (state : QuantumTaskState) : Dispatch :=
  ⟨call, taskHash chain payload, payload, call.caller, state, .quantum⟩

theorem executeQuantumTask_eq (call : CallContext) (payload : Task) (secret : Option Bytes32)
    (w : World) :
    executeQuantumTask chain call payload secret w =
      quantumGate chain call payload secret w >>= fun state =>
        dispatchTaskExecution chain (quantumDispatch chain call payload state)
          (w.assignEnclave (taskHash chain payload) payload call.caller) := by
  simp only [executeQuantumTask, quantumGate, quantumDispatch, bind_assoc, pure_bind]

/-- The step calls `dispatch_task_execution` with these arguments. The second argument
is the secret that came with the call, which only one of the two endpoints takes. -/
inductive Reaches (chain : Chain) (w : World) : Step → Option Bytes32 → Dispatch → Prop where
  | quantum {call : CallContext} {payload : Task} {secret : Option Bytes32}
      {state : QuantumTaskState} (delivered : call.Delivered chain)
      (unpaid : call.notPayable = .ok ()) (gate : quantumGate chain call payload secret w = .ok state) :
      Reaches chain w (.executeQuantumTask call payload secret) secret
        (quantumDispatch chain call payload state)
  | compressed {call : CallContext} {hash : TaskHash} {payload : Task} {results : List Bytes}
      {rest : List Frame} (waiting : w.frames = .proof call hash payload :: rest)
      (proved : firstBool results = true) :
      Reaches chain w (.syncReturn results) none (compressedDispatch call hash payload)

/-- The dispatcher runs in the state as it was, up to the frame that has been taken off and
the enclave that has been assigned. -/
structure Prepared (w before : World) : Prop where
  keeperShard : before.keeperShard = w.keeperShard
  journal : before.journal = w.journal
  frames : before.frames ⊆ w.frames

theorem Reaches.step_prepared {secret : Option Bytes32} {d : Dispatch}
    (reaches : Reaches chain w move secret d) :
    ∃ before, Prepared w before ∧ step chain w move = dispatchTaskExecution chain d before := by
  cases reaches with
  | @quantum call payload secret state delivered unpaid gate =>
      obtain ⟨noEgld, noEsdt⟩ := notPayable_eq_ok.mp unpaid
      refine ⟨w.assignEnclave (taskHash chain payload) payload call.caller,
        ⟨rfl, rfl, List.Subset.refl _⟩, ?_⟩
      simp only [step, Step.call?, body, ensure, delivered, if_true, unpaid]
      rw [credit_of_noValue w noEgld noEsdt, executeQuantumTask_eq, gate]
      rfl
  | @compressed call hash payload results rest waiting proved =>
      have fewer : rest ⊆ w.frames := waiting ▸ List.subset_cons_self _ _
      refine ⟨{ w with frames := rest }, ⟨rfl, rfl, fewer⟩, ?_⟩
      simp only [step, Step.call?, body, waiting, resume, resumeCompressedTask, require, proved,
        if_true]
      rfl

theorem Reaches.step_eq {secret : Option Bytes32} {d : Dispatch}
    (reaches : Reaches chain w move secret d) :
    ∃ before, step chain w move = dispatchTaskExecution chain d before := by
  obtain ⟨before, _, same⟩ := reaches.step_prepared
  exact ⟨before, same⟩

/-- Every execution that succeeds has reached the dispatcher. -/
theorem reaches_of_step {call : CallContext} {payload : Task} {secret : Option Bytes32}
    (stepped : step chain w (.executeQuantumTask call payload secret) = .ok next) :
    ∃ d, Reaches chain w (.executeQuantumTask call payload secret) secret d := by
  simp only [step, Step.call?, body, Outcome.bind_eq_ok, Outcome.ensure_eq_ok] at stepped
  obtain ⟨_, delivered, _, unpaid, executed⟩ := stepped
  obtain ⟨noEgld, noEsdt⟩ := notPayable_eq_ok.mp unpaid
  rw [credit_of_noValue w noEgld noEsdt, executeQuantumTask_eq, Outcome.bind_eq_ok] at executed
  obtain ⟨state, gate, _⟩ := executed
  exact ⟨_, .quantum delivered unpaid gate⟩

/-! ## The gates -/

/-- The bounds of `validate_task_parameters` on a trigger. -/
def TriggerBounded : Trigger → Prop
  | .timeOnce targetTime => targetTime ≤ 200000000000000
  | .timeRecurring startTime _ _ => startTime ≤ 200000000000000
  | _ => True

/-- The bounds of `validate_task_parameters` on a payload. -/
structure WithinBounds (payload : Task) : Prop where
  maxGas : payload.maxGas ≤ 400000000
  enoughGas : 5000000 ≤ payload.maxGas
  ttlSeconds : payload.ttlSeconds ≤ 157680000
  createdAt : payload.createdAt ≤ 200000000000000
  trigger : TriggerBounded payload.trigger

/-- Everything a dispatch should have been checked for. -/
structure Gated (chain : Chain) (w : World) (secret : Option Bytes32) (d : Dispatch) : Prop where
  sealOpened : ∀ expectedHash, d.payload.trigger = .quantumSealedHash expectedHash →
    ∃ preimage, secret = some preimage ∧ chain.sha256 preimage.val = expectedHash
  unlocked : ∀ assigned ∈ d.payload.assignedKeeper, d.keeper = assigned
  inTurn : performRoundRobinCheck chain d.call d.payload d.taskHash d.keeper w = .ok ()
  bounded : WithinBounds d.payload

/-- It is the keeper's turn: there is no list to take turns in, the drawn slot is
the keeper's own, or its owner has let the grace period pass. -/
def KeepersTurn (chain : Chain) (w : World) (d : Dispatch) : Prop :=
  w.config.keeperList.length ≤ 1 ∨
    ∃ assigned, w.config.keeperList[roundRobinIndex chain d.call d.payload d.taskHash
        w.config.keeperList.length - 1]? = some (some assigned) ∧
      (d.keeper = assigned ∨ ripeTimeMs d.call d.payload.trigger +
        Constants.roundRobinGraceSeconds * 1000 ≤ d.call.blockTimestamp * 1000)

/-- The payload asks for nothing that the keeper would have to show. -/
structure Undemanding (chain : Chain) (w : World) (d : Dispatch) : Prop where
  unsealed : ∀ expectedHash, d.payload.trigger ≠ .quantumSealedHash expectedHash
  unlocked : d.payload.assignedKeeper = none ∨ d.payload.assignedKeeper = some d.keeper
  inTurn : KeepersTurn chain w d
  bounded : WithinBounds d.payload

theorem vecGet_eq_ok {slots : List (Option Address)} {index : Nat} {address : Address} :
    vecGet slots index = .ok address ↔ slots[index - 1]? = some (some address) := by
  unfold vecGet
  cases slots[index - 1]? <;> simp

theorem performRoundRobinCheck_eq_ok {d : Dispatch} :
    performRoundRobinCheck chain d.call d.payload d.taskHash d.keeper w = .ok () ↔
      KeepersTurn chain w d := by
  unfold performRoundRobinCheck KeepersTurn
  by_cases many : 1 < w.config.keeperList.length
  · have notFew : ¬w.config.keeperList.length ≤ 1 := by omega
    simp only [many, if_true, notFew, false_or, Outcome.bind_eq_ok, Outcome.require_eq_ok,
      vecGet_eq_ok]
    constructor
    · rintro ⟨assigned, drawn, patient⟩
      exact ⟨assigned, drawn, Decidable.or_iff_not_imp_left.mpr patient⟩
    · rintro ⟨assigned, drawn, mine⟩
      exact ⟨assigned, drawn, Decidable.or_iff_not_imp_left.mp mine⟩
  · simp only [many, if_false, Outcome.pure_eq_ok, true_iff]
    exact .inl (Nat.le_of_not_lt many)

/-- The compressed path passes the gates exactly with undemanding payloads: no secret
comes with it. -/
theorem gated_compressed_iff {call : CallContext} {hash : TaskHash} {payload : Task} :
    Gated chain w none (compressedDispatch call hash payload) ↔
      Undemanding chain w (compressedDispatch call hash payload) := by
  constructor
  · rintro ⟨sealOpened, unlocked, inTurn, bounded⟩
    refine ⟨?_, ?_, performRoundRobinCheck_eq_ok.mp inTurn, bounded⟩
    · intro expectedHash sealed
      obtain ⟨_, missing, _⟩ := sealOpened expectedHash sealed
      cases missing
    · cases assigned : (compressedDispatch call hash payload).payload.assignedKeeper with
      | none => exact .inl rfl
      | some keeper => exact .inr (congrArg some (unlocked keeper assigned).symm)
  · rintro ⟨unsealed, unlocked, inTurn, bounded⟩
    refine ⟨?_, ?_, performRoundRobinCheck_eq_ok.mpr inTurn, bounded⟩
    · intro expectedHash sealed
      exact absurd sealed (unsealed expectedHash)
    · intro assigned locked
      rcases unlocked with open' | mine
      · rw [open'] at locked
        cases locked
      · rw [mine] at locked
        exact Option.some.inj locked

theorem quantumGate_ok {call : CallContext} {payload : Task} {secret : Option Bytes32}
    {state : QuantumTaskState} (gate : quantumGate chain call payload secret w = .ok state) :
    w.quantumTasks.get? (taskHash chain payload) = some state ∧ state.status = .pending ∧
      requireQuantumSeal chain payload.trigger secret = .ok () ∧
      (∀ assigned ∈ payload.assignedKeeper, call.caller = assigned) ∧
      performRoundRobinCheck chain call payload (taskHash chain payload) call.caller w = .ok () := by
  simp only [quantumGate, Outcome.bind_eq_ok, Outcome.require_eq_ok, Outcome.load_eq_ok,
    Outcome.pure_eq_ok] at gate
  obtain ⟨_, _, _, _, _, _, state, found, _, pending, _, opened, _, unlocked, _, inTurn, rfl⟩ := gate
  exact ⟨found, pending, opened, unlocked, inTurn⟩

theorem requireQuantumSeal_ok {expectedHash : Bytes32} {secret : Option Bytes32}
    (opened : requireQuantumSeal chain (.quantumSealedHash expectedHash) secret = .ok ()) :
    ∃ preimage, secret = some preimage ∧ chain.sha256 preimage.val = expectedHash := by
  cases secret with
  | none => cases opened
  | some preimage =>
      simp only [requireQuantumSeal, Outcome.bind_eq_ok, Outcome.require_eq_ok] at opened
      obtain ⟨_, _, digest⟩ := opened
      exact ⟨preimage, rfl, digest⟩

theorem gated_quantum_iff {call : CallContext} {payload : Task} {secret : Option Bytes32}
    {state : QuantumTaskState} (gate : quantumGate chain call payload secret w = .ok state) :
    Gated chain w secret (quantumDispatch chain call payload state) ↔ WithinBounds payload := by
  obtain ⟨_, _, opened, unlocked, inTurn⟩ := quantumGate_ok gate
  constructor
  · exact Gated.bounded
  · intro bounded
    refine ⟨?_, unlocked, inTurn, bounded⟩
    intro expectedHash sealed
    rw [show payload.trigger = _ from sealed] at opened
    exact requireQuantumSeal_ok opened

/-! ## Where a pending task comes from -/

theorem validateTrigger_ok {trigger : Trigger} (valid : validateTrigger trigger = .ok ()) :
    TriggerBounded trigger := by
  cases trigger with
  | timeOnce targetTime => simpa only [validateTrigger, Outcome.require_eq_ok, TriggerBounded] using valid
  | timeRecurring startTime _ _ => simpa only [validateTrigger, Outcome.require_eq_ok, TriggerBounded] using valid
  | _ => trivial

theorem validateTaskParameters_ok {payload : Task} {deposit : Nat}
    (valid : validateTaskParameters w payload deposit = .ok ()) : WithinBounds payload := by
  simp only [validateTaskParameters, Outcome.bind_eq_ok, Outcome.require_eq_ok] at valid
  obtain ⟨_, _, _, _, _, maxGas, _, enoughGas, _, ttlSeconds, _, createdAt, trigger⟩ := valid
  exact ⟨maxGas, enoughGas, ttlSeconds, createdAt, validateTrigger_ok trigger⟩

/-- The deposit is what the call brings or what it asks for. -/
def Offers (call : CallContext) (requested : Option Nat) (deposit : Nat) : Prop :=
  deposit = call.egldValue ∨ requested = some deposit

theorem takeDeposit_offers {call : CallContext} {requested : Option Nat} {deposit : Nat}
    (taken : takeDeposit call requested w = .ok (deposit, next)) :
    Offers call requested deposit := by
  unfold takeDeposit at taken
  split at taken
  · cases requested with
    | none => simp at taken
    | some amount =>
        simp only [Outcome.bind_eq_ok, Outcome.pure_eq_ok, Prod.mk.injEq] at taken
        obtain ⟨_, _, _, _, rfl, _⟩ := taken
        exact .inr rfl
  · simp only [Outcome.pure_eq_ok, Prod.mk.injEq] at taken
    exact .inl taken.1.symm

/-- Some step of the past has scheduled a task under the hash: a payload within
bounds, or a sovereign task, of which only the deposit is hashed. -/
def Scheduled (chain : Chain) (past : List Step) (hash : TaskHash) : Prop :=
  (∃ call payload requested, .scheduleQuantumTask call payload requested ∈ past ∧
      WithinBounds payload ∧ chain.sha256 payload.encode = hash) ∨
    ∃ call encryptedPayload requested deposit,
      .scheduleSovereignTask call encryptedPayload requested ∈ past ∧
      Offers call requested deposit ∧ chain.sha256 (natBytes deposit) = hash

theorem Scheduled.mono {past longer : List Step} {hash : TaskHash}
    (scheduled : Scheduled chain past hash) (included : past ⊆ longer) :
    Scheduled chain longer hash := by
  rcases scheduled with ⟨call, payload, requested, member, rest⟩ |
    ⟨call, encryptedPayload, requested, deposit, member, rest⟩
  · exact .inl ⟨call, payload, requested, included member, rest⟩
  · exact .inr ⟨call, encryptedPayload, requested, deposit, included member, rest⟩

theorem scheduled_quantum {call : CallContext} {payload : Task} {requested : Option Nat}
    {hash : TaskHash} {state : QuantumTaskState}
    (stepped : step chain w (.scheduleQuantumTask call payload requested) = .ok next)
    (found : next.quantumTasks.get? hash = some state) :
    w.quantumTasks.get? hash = some state ∨
      Scheduled chain [.scheduleQuantumTask call payload requested] hash := by
  simp only [step, Step.call?, body, Outcome.bind_eq_ok] at stepped
  obtain ⟨_, _, _, _, scheduled⟩ := stepped
  have valid : WithinBounds payload := by
    simp only [scheduleQuantumTask, Outcome.bind_eq_ok] at scheduled
    obtain ⟨_, _, _, _, _, valid, _⟩ := scheduled
    exact validateTaskParameters_ok valid
  obtain ⟨deposit, paid, taken, _, _, _, rfl⟩ := scheduleQuantumTask_ok scheduled
  have kept := congrArg TaskView.stored (takeDeposit_view taken hash)
  by_cases same : hash = taskHash chain payload
  · exact .inr (.inl ⟨call, payload, requested, List.mem_singleton.mpr rfl, valid, same.symm⟩)
  · refine .inl (kept.symm.trans ?_)
    exact (Cells.get?_set_ne _ _ same).symm.trans found

theorem scheduled_sovereign {call : CallContext} {encryptedPayload : Bytes}
    {requested : Option Nat} {hash : TaskHash} {state : QuantumTaskState}
    (stepped : step chain w (.scheduleSovereignTask call encryptedPayload requested) = .ok next)
    (found : next.quantumTasks.get? hash = some state) :
    w.quantumTasks.get? hash = some state ∨
      Scheduled chain [.scheduleSovereignTask call encryptedPayload requested] hash := by
  simp only [step, Step.call?, body, Outcome.bind_eq_ok] at stepped
  obtain ⟨_, _, _, _, scheduled⟩ := stepped
  obtain ⟨deposit, paid, stored, taken, _, rfl, _, rfl⟩ := scheduleSovereignTask_ok scheduled
  have kept := congrArg TaskView.stored (takeDeposit_view taken hash)
  by_cases same : hash = chain.sha256
      (sovereignPreimage encryptedPayload (resolveCaller call (w.credit call)).1 deposit)
  · exact .inr (.inr ⟨call, encryptedPayload, requested, deposit, List.mem_singleton.mpr rfl,
      takeDeposit_offers taken, same.symm⟩)
  · refine .inl (kept.symm.trans ?_)
    exact (Cells.get?_set_ne _ _ same).symm.trans found

theorem Dispatched.pending_kept {d : Dispatch} {hash : TaskHash} {state : QuantumTaskState}
    (dispatched : Dispatched chain d w next) (found : next.quantumTasks.get? hash = some state)
    (pending : state.status = .pending) : w.quantumTasks.get? hash = some state := by
  rcases dispatched with ⟨_, _, rfl⟩ | ⟨_, rfl⟩ | rfl
  · exact found
  · exact found
  · change (w.quantumTasks.set d.taskHash d.executingState).get? hash = some state at found
    rcases Cells.of_get?_set found with ⟨_, rfl⟩ | ⟨_, found⟩
    · cases pending
    · exact found

theorem pending_origin {hash : TaskHash} {state : QuantumTaskState}
    (stepped : step chain w move = .ok next) (found : next.quantumTasks.get? hash = some state)
    (pending : state.status = .pending) :
    w.quantumTasks.get? hash = some state ∨ Scheduled chain [move] hash := by
  cases step_effect stepped with
  | scheduleQuantumTask => exact scheduled_quantum stepped found
  | scheduleSovereignTask => exact scheduled_sovereign stepped found
  | cancelQuantumTask => exact .inl (Cells.get?_of_clear found)
  | executeQuantumTask _ _ _ _ dispatched => exact .inl (dispatched.pending_kept found pending)
  | settleXseTask _ _ _ _ _ closed =>
      obtain ⟨_, _, rfl⟩ := finalizeSuccessfulExecution_eq_ok.mp closed
      exact .inl (Cells.get?_of_clear found)
  | rescueStuckXseTask => exact .inl (Cells.get?_of_clear found)
  | syncReturn waiting resumed =>
      left
      rcases resume_ok resumed with ⟨d, _, dispatched⟩ | ⟨_, _, _, _, dispatched⟩ |
        ⟨_, _, _, rfl, closed⟩
      · exact dispatched.pending_kept found pending
      · exact dispatched.pending_kept found pending
      · obtain ⟨_, _, rfl⟩ := finalizeSuccessfulExecution_eq_ok.mp closed
        exact Cells.get?_of_clear found
  | executionCallback _ called =>
      obtain ⟨_, _, ⟨_, _, rfl⟩ | ⟨_, rfl⟩⟩ := executionCallback_ok called
      · exact .inl (Cells.get?_of_clear found)
      · exact .inl (Cells.get?_of_clear found)
  | solveIntent | solveMultiIntent | executePreCognitiveLeaf =>
      rw [World.delivered_eq] at found
      exact .inl found
  | _ => exact .inl found

theorem pending_scheduled {start : World} {past : List Step} {allowed : World → Step → Prop}
    (started : Deployed start) (trace : Trace (step chain) allowed start past w) {hash : TaskHash}
    {state : QuantumTaskState} (found : w.quantumTasks.get? hash = some state)
    (pending : state.status = .pending) : Scheduled chain past hash := by
  have every : ∀ hash state, w.quantumTasks.get? hash = some state → state.status = .pending →
      Scheduled chain ([] ++ past) hash := by
    refine trace.history (fun past w => ∀ hash state, w.quantumTasks.get? hash = some state →
      state.status = .pending → Scheduled chain past hash) ?_ ?_
    · intro past w move next known stepped hash state found pending
      rcases pending_origin stepped found pending with before | scheduled
      · exact (known hash state before pending).mono (List.subset_append_left _ _)
      · exact scheduled.mono (List.subset_append_right _ _)
    · obtain ⟨_, _, _, _, _, _, rfl⟩ := started.eq
      intro hash state found
      simp [deployed] at found
  exact every hash state found pending

/-! ## Both paths -/

/-- The buffers of a payload that is scheduled or executed have 32-bit lengths. -/
def Step.Fits : Step → Prop
  | .scheduleQuantumTask _ payload _ | .executeQuantumTask _ payload _ => payload.Fits
  | _ => True

instance (move : Step) : Decidable move.Fits := by
  unfold Step.Fits
  split <;> infer_instance

/-- The messages whose digests a step may store a task under. -/
def Step.messages : Step → List Bytes
  | .scheduleQuantumTask _ payload _ => [payload.encode]
  | .scheduleSovereignTask call _ requested =>
      natBytes call.egldValue :: (requested.map natBytes).toList
  | _ => []

/-- A payload is taken for something else that was scheduled: their messages collide,
or its encoding is the numeral of a deposit of at least `256 ^ 71`. -/
def Mistaken (chain : Chain) (past : List Step) (payload : Task) : Prop :=
  (∃ message ∈ past.flatMap Step.messages, Collide chain.sha256 payload.encode message) ∨
    ∃ call encryptedPayload requested deposit,
      .scheduleSovereignTask call encryptedPayload requested ∈ past ∧
      Offers call requested deposit ∧ payload.encode = natBytes deposit ∧ 256 ^ 71 ≤ deposit

theorem Offers.mem_messages {call : CallContext} {encryptedPayload : Bytes} {requested : Option Nat}
    {deposit : Nat} (offers : Offers call requested deposit) :
    natBytes deposit ∈
      (Step.scheduleSovereignTask call encryptedPayload requested).messages := by
  rcases offers with rfl | rfl
  · exact List.mem_cons_self
  · simp [Step.messages]

/-- A payload that was scheduled under its digest is within bounds, unless it is
mistaken for another one. -/
theorem Scheduled.bounded {past : List Step} {payload : Task} (fits : payload.Fits)
    (fitted : ∀ move ∈ past, move.Fits)
    (scheduled : Scheduled chain past (taskHash chain payload)) :
    WithinBounds payload ∨ Mistaken chain past payload := by
  rcases scheduled with ⟨call, other, requested, member, bounded, same⟩ |
    ⟨call, encryptedPayload, requested, deposit, member, offers, same⟩
  · by_cases encodings : payload.encode = other.encode
    · have equal := Task.encode_injective fits (fitted _ member) encodings
      exact .inl (equal ▸ bounded)
    · exact .inr (.inl ⟨other.encode, List.mem_flatMap.mpr ⟨_, member, List.mem_singleton.mpr rfl⟩,
        encodings, same.symm⟩)
  · right
    by_cases numeral : payload.encode = natBytes deposit
    · have long := payload.length_encode_ge
      rw [numeral] at long
      exact .inr ⟨call, encryptedPayload, requested, deposit, member, offers, numeral,
        le_of_length_natBytes long⟩
    · exact .inl ⟨natBytes deposit, List.mem_flatMap.mpr ⟨_, member, offers.mem_messages⟩, numeral,
        same.symm⟩

/-- In every run, a step that reaches the dispatcher has passed all gates exactly if
it came through `executeQuantumTask`, or with an undemanding payload; short of a
payload that is mistaken for another message hashed in the run. -/
theorem gates_passed_iff {start : World} {past : List Step} {secret : Option Bytes32} {d : Dispatch}
    (started : Deployed start)
    (trace : Trace (step chain) (fun _ move => move.Fits) start past w) (fits : move.Fits)
    (reaches : Reaches chain w move secret d) :
    (Gated chain w secret d ↔ d.path = .quantum ∨ Undemanding chain w d) ∨
      Mistaken chain past d.payload := by
  cases reaches with
  | @quantum call payload secret state delivered unpaid gate =>
      obtain ⟨found, pending, _⟩ := quantumGate_ok gate
      have scheduled := pending_scheduled started trace found pending
      rcases scheduled.bounded fits trace.all_allowed with bounded | mistaken
      · exact .inl (iff_of_true ((gated_quantum_iff gate).mpr bounded) (.inl rfl))
      · exact .inr mistaken
  | @compressed call hash payload results rest waiting proved =>
      left
      rw [gated_compressed_iff]
      constructor
      · exact .inr
      · rintro (quantum | undemanding)
        · cases quantum
        · exact undemanding

theorem ok_of_endsIn {property : World → Prop} [DecidablePred property] {outcome : Outcome World}
    (ends : endsIn property outcome = true) : ∃ next, outcome = .ok next ∧ property next := by
  cases outcome with
  | error fault => cases ends
  | ok next => exact ⟨next, rfl, of_decide_eq_true ends⟩

namespace Sample

def executeTimed : Step := .executeQuantumTask (call keeper 0 1000) timedTask none

def guardedTask : Task :=
  { task bob (.quantumSealedHash (.fill 1)) false with
    maxGas := 1
    assignedKeeper := some alice }

def guardedRun : List Step :=
  [admitKeeper, configureXsc, .executeCompressedTask (call keeper 0 1000) guardedTask []]

end Sample

/-- The proof query that is waited for, if one is. -/
def World.proving? (w : World) : Option (CallContext × TaskHash × Task) :=
  match w.frames with
  | .proof call hash payload :: _ => some (call, hash, payload)
  | _ => none

theorem gates_passed_iff_sample :
    ∃ w d, Trace (step sampleChain) (fun _ move => move.Fits) Sample.world
        [Sample.admitKeeper, .scheduleQuantumTask (Sample.call Sample.bob 700 1000) Sample.timedTask
          none] w ∧
      Reaches sampleChain w Sample.executeTimed none d ∧
      ((Gated sampleChain w none d ↔ d.path = .quantum ∨ Undemanding sampleChain w d) ∨
        Mistaken sampleChain [Sample.admitKeeper, .scheduleQuantumTask
          (Sample.call Sample.bob 700 1000) Sample.timedTask none] d.payload) := by
  obtain ⟨w, trace, executed⟩ := Trace.of_runChecked (step sampleChain) (fun _ move => move.Fits)
    Sample.world [Sample.admitKeeper, .scheduleQuantumTask (Sample.call Sample.bob 700 1000)
      Sample.timedTask none]
    (fun w => endsIn (fun next => next.promises.length = 1)
      (step sampleChain w Sample.executeTimed) = true) (by decide +kernel)
  obtain ⟨next, stepped, _⟩ := ok_of_endsIn executed
  obtain ⟨d, reaches⟩ := reaches_of_step stepped
  exact ⟨w, d, trace, reaches,
    gates_passed_iff Sample.world_deployed trace (by decide +kernel) reaches⟩

/-- The sealed and locked task is dispatched without its secret and by another keeper. -/
theorem gates_bypassed :
    Deployed Sample.world ∧
      ∃ w d next, Trace (step sampleChain) (fun _ _ => True) Sample.world Sample.guardedRun w ∧
        Reaches sampleChain w (.syncReturn [[1]]) none d ∧
        step sampleChain w (.syncReturn [[1]]) = .ok next ∧ next.promises.length = 1 ∧
        d.payload.trigger = .quantumSealedHash (.fill 1) ∧
        d.payload.assignedKeeper = some Sample.alice ∧ d.keeper = Sample.keeper ∧
        d.payload.maxGas = 1 ∧ ¬Gated sampleChain w none d := by
  obtain ⟨w, trace, waiting, executed⟩ := Trace.of_runChecked (step sampleChain) (fun _ _ => True)
    Sample.world Sample.guardedRun
    (fun w => w.proving?.map (fun proof => (proof.1.caller, proof.2.2)) =
        some (Sample.keeper, Sample.guardedTask) ∧
      endsIn (fun next => next.promises.length = 1)
        (step sampleChain w (.syncReturn [[1]])) = true) (by decide +kernel)
  obtain ⟨next, stepped, called⟩ := ok_of_endsIn executed
  unfold World.proving? at waiting
  split at waiting
  · rename_i caller hash payload rest frames
    simp only [Option.map_some, Option.some.injEq, Prod.mk.injEq] at waiting
    obtain ⟨keeper, rfl⟩ := waiting
    refine ⟨Sample.world_deployed, w, _, next, trace, .compressed frames (by decide), stepped, called,
      rfl, rfl, keeper, rfl, ?_⟩
    intro gated
    obtain ⟨_, missing, _⟩ := gated.sealOpened _ rfl
    cases missing
  · cases waiting

end XCron.Scheduler
