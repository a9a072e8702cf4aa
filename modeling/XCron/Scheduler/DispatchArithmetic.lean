import XCron.Scheduler.Lockout
import XCron.Scheduler.Window

/-!
# The arithmetic of a dispatch

The scheduler is built without overflow checks: its 64-bit sums and products wrap. The
bounds of `validate_task_parameters` keep the deadlines and `min_gas_needed` of a
scheduled task far below `2 ^ 64`, but a compressed payload is never validated. The
results below say which payloads are dispatched as over the unbounded integers.
-/

namespace XCron.Scheduler

open Platform

variable {chain : Chain} {w before next : World} {move : Step} {d : Dispatch}

/-! ## Unbounded values -/

/-- The last millisecond at which a task with a TTL may be executed. -/
def ttlDeadline (payload : Task) : Nat :=
  payload.createdAt.toNat + payload.ttlSeconds.toNat * 1000

def overheadPercent (chain : Chain) (d : Dispatch) (w : World) : Nat :=
  if crossShard chain d.payload.targetContract = false then 0
  else if w.keeperShard d.keeper = chain.shardOf d.payload.targetContract then 15
  else 30

def gasOverhead (chain : Chain) (d : Dispatch) (w : World) : Nat :=
  d.payload.maxGas.toNat * overheadPercent chain d w / 100

def callbackReserve (chain : Chain) (d : Dispatch) : Nat :=
  if crossShard chain d.payload.targetContract then Constants.callbackGasReserve.toNat
  else Constants.callbackGasReserve.toNat * 80 / 100

def gasDemand (chain : Chain) (d : Dispatch) (w : World) : Nat :=
  d.payload.maxGas.toNat + gasOverhead chain d w + callbackReserve chain d + 10000000

/-- The end of the exclusive window as the round-robin check takes it. -/
def roundRobinDeadline (d : Dispatch) : Nat :=
  ripeAt (scaledTime d.call) d.payload.trigger + windowMs

/-- The machine computes what the integers would. Only the quantum path takes turns. -/
structure DispatchExact (chain : Chain) (w : World) (d : Dispatch) : Prop where
  ttl : (d.payload.createdAt + d.payload.ttlSeconds * 1000).toNat = ttlDeadline d.payload
  overhead : (crossShardOverhead chain d w).toNat = gasOverhead chain d w
  callback : (callbackGas chain d).toNat = callbackReserve chain d
  minGas : (minGasNeeded chain d w).toNat = gasDemand chain d w
  blockTime : (d.call.blockTimestamp * 1000).toNat = scaledTime d.call
  roundRobin : d.path = .quantum →
    (ripeTimeMs d.call d.payload.trigger + Constants.roundRobinGraceSeconds * 1000).toNat =
      roundRobinDeadline d

/-- A dispatched task had its gas and was within its TTL. -/
structure DispatchHonoured (chain : Chain) (w : World) (d : Dispatch) : Prop where
  funded : gasDemand chain d w ≤ d.call.gasLeft.toNat
  unexpired : 0 < d.payload.ttlSeconds → blockTimeMs d.call ≤ ttlDeadline d.payload

/-- The numbers of the payload leave room for the sums and products of its dispatch. -/
structure Representable (chain : Chain) (w : World) (d : Dispatch) : Prop where
  ttl : d.payload.createdAt.toNat + d.payload.ttlSeconds.toNat * 1000 < 2 ^ 64
  gas : d.payload.maxGas.toNat < 2 ^ 64 - 30000000
  overhead : d.payload.maxGas.toNat * overheadPercent chain d w < 2 ^ 64

/-- The clock of the chain is far from its end. -/
def CallTimely (call : CallContext) : Prop := call.blockTimestamp.toNat < 10 ^ 14

/-! ## Machine values -/

theorem callbackGas_toNat : (callbackGas chain d).toNat = callbackReserve chain d := by
  unfold callbackGas callbackReserve
  split <;> rfl

theorem crossShardOverhead_toNat : (crossShardOverhead chain d w).toNat =
    d.payload.maxGas.toNat * overheadPercent chain d w % 2 ^ 64 / 100 := by
  unfold crossShardOverhead overheadPercent
  split
  · rw [Nat.mul_zero]
    rfl
  · split
    · rw [UInt64.toNat_div, UInt64.toNat_mul]
      rfl
    · rw [UInt64.toNat_div, UInt64.toNat_mul]
      rfl

theorem minGasNeeded_toNat : (minGasNeeded chain d w).toNat =
    (d.payload.maxGas.toNat + (crossShardOverhead chain d w).toNat + callbackReserve chain d +
      10000000) % 2 ^ 64 := by
  have surcharge : UInt64.toNat 10000000 = 10000000 := rfl
  rw [minGasNeeded, UInt64.toNat_add, UInt64.toNat_add, UInt64.toNat_add, callbackGas_toNat, surcharge]
  omega

theorem ttl_toNat (payload : Task) : (payload.createdAt + payload.ttlSeconds * 1000).toNat =
    ttlDeadline payload % 2 ^ 64 := by
  have scale : UInt64.toNat 1000 = 1000 := rfl
  rw [ttlDeadline, UInt64.toNat_add, UInt64.toNat_mul, scale, Nat.add_mod_mod]

theorem callbackReserve_cases (chain : Chain) (d : Dispatch) :
    (crossShard chain d.payload.targetContract = false ∧ callbackReserve chain d = 20000000) ∨
      (crossShard chain d.payload.targetContract = true ∧ callbackReserve chain d = 25000000) := by
  unfold callbackReserve
  cases crossing : crossShard chain d.payload.targetContract with
  | false => exact .inl ⟨rfl, rfl⟩
  | true => exact .inr ⟨rfl, rfl⟩

theorem overheadPercent_cases (chain : Chain) (d : Dispatch) (w : World) :
    (crossShard chain d.payload.targetContract = false ∧ overheadPercent chain d w = 0) ∨
      (crossShard chain d.payload.targetContract = true ∧
        (overheadPercent chain d w = 15 ∨ overheadPercent chain d w = 30)) := by
  unfold overheadPercent
  cases crossing : crossShard chain d.payload.targetContract with
  | false => exact .inl ⟨rfl, rfl⟩
  | true =>
      right
      by_cases near : w.keeperShard d.keeper = chain.shardOf d.payload.targetContract
      · exact ⟨rfl, .inl (by simp [near])⟩
      · exact ⟨rfl, .inr (by simp [near])⟩

theorem overhead_exact_iff : (crossShardOverhead chain d w).toNat = gasOverhead chain d w ↔
    d.payload.maxGas.toNat * overheadPercent chain d w < 2 ^ 64 := by
  rw [crossShardOverhead_toNat, gasOverhead]
  generalize d.payload.maxGas.toNat * overheadPercent chain d w = product
  constructor
  · intro same
    omega
  · intro small
    rw [Nat.mod_eq_of_lt small]

theorem minGas_exact_iff
    (overhead : d.payload.maxGas.toNat * overheadPercent chain d w < 2 ^ 64) :
    (minGasNeeded chain d w).toNat = gasDemand chain d w ↔
      d.payload.maxGas.toNat < 2 ^ 64 - 30000000 := by
  have exactOverhead := overhead_exact_iff.mpr overhead
  rw [minGasNeeded_toNat, exactOverhead, gasDemand]
  unfold gasOverhead
  rcases callbackReserve_cases chain d with ⟨near, reserve⟩ | ⟨far, reserve⟩
  · rcases overheadPercent_cases chain d w with ⟨_, percent⟩ | ⟨far, _⟩
    · rw [reserve, percent]
      omega
    · cases near.symm.trans far
  · rcases overheadPercent_cases chain d w with ⟨near, _⟩ | ⟨_, percent | percent⟩
    · cases near.symm.trans far
    · rw [percent] at overhead
      rw [reserve, percent]
      omega
    · rw [percent] at overhead
      rw [reserve, percent]
      omega

theorem ttl_exact_iff (payload : Task) :
    (payload.createdAt + payload.ttlSeconds * 1000).toNat = ttlDeadline payload ↔
      payload.createdAt.toNat + payload.ttlSeconds.toNat * 1000 < 2 ^ 64 := by
  rw [ttl_toNat, ttlDeadline]
  omega

theorem CallTimely.blockTime {call : CallContext} (timely : CallTimely call) :
    (call.blockTimestamp * 1000).toNat = scaledTime call := by
  have scale : UInt64.toNat 1000 = 1000 := rfl
  have early : call.blockTimestamp.toNat < 10 ^ 14 := timely
  rw [UInt64.toNat_mul, scale, scaledTime]
  omega

theorem exact_compressed_iff (timely : CallTimely d.call) (path : d.path = .compressed) :
    DispatchExact chain w d ↔ Representable chain w d := by
  constructor
  · rintro ⟨ttl, overhead, _, minGas, _, _⟩
    have small := overhead_exact_iff.mp overhead
    exact ⟨(ttl_exact_iff d.payload).mp ttl, (minGas_exact_iff small).mp minGas, small⟩
  · rintro ⟨ttl, gas, overhead⟩
    refine ⟨(ttl_exact_iff d.payload).mpr ttl, overhead_exact_iff.mpr overhead, callbackGas_toNat,
      (minGas_exact_iff overhead).mpr gas, timely.blockTime, ?_⟩
    intro quantum
    cases path.symm.trans quantum

theorem WithinBounds.representable (bounded : WithinBounds d.payload) :
    Representable chain w d := by
  have maxGas : d.payload.maxGas.toNat ≤ 400000000 := UInt64.le_iff_toNat_le.mp bounded.maxGas
  have ttlSeconds : d.payload.ttlSeconds.toNat ≤ 157680000 :=
    UInt64.le_iff_toNat_le.mp bounded.ttlSeconds
  have createdAt : d.payload.createdAt.toNat ≤ 200000000000000 :=
    UInt64.le_iff_toNat_le.mp bounded.createdAt
  refine ⟨by omega, by omega, ?_⟩
  rcases overheadPercent_cases chain d w with ⟨_, percent⟩ | ⟨_, percent | percent⟩
  · rw [percent]
    omega
  · rw [percent]
    omega
  · rw [percent]
    omega

theorem roundRobin_exact (timely : CallTimely d.call) (bounded : TriggerBounded d.payload.trigger) :
    (ripeTimeMs d.call d.payload.trigger + Constants.roundRobinGraceSeconds * 1000).toNat =
      roundRobinDeadline d := by
  have blockTime := timely.blockTime
  have early : d.call.blockTimestamp.toNat < 10 ^ 14 := timely
  rw [UInt64.toNat_add, grace_toNat, roundRobinDeadline]
  unfold windowMs
  cases trigger : d.payload.trigger with
  | timeOnce targetTime =>
      rw [trigger] at bounded
      have small : targetTime.toNat ≤ 200000000000000 := UInt64.le_iff_toNat_le.mp bounded
      simp only [ripeTimeMs, ripeAt, triggerTime]
      omega
  | timeRecurring startTime =>
      rw [trigger] at bounded
      have small : startTime.toNat ≤ 200000000000000 := UInt64.le_iff_toNat_le.mp bounded
      simp only [ripeTimeMs, ripeAt, triggerTime]
      omega
  | stateDriven | eventDriven | quantumSealedHash =>
      simp only [ripeTimeMs, ripeAt, triggerTime, blockTime]
      unfold scaledTime
      omega

theorem exact_of_bounded (timely : CallTimely d.call) (bounded : WithinBounds d.payload) :
    DispatchExact chain w d := by
  obtain ⟨ttl, gas, overhead⟩ : Representable chain w d := bounded.representable
  exact ⟨(ttl_exact_iff d.payload).mpr ttl, overhead_exact_iff.mpr overhead, callbackGas_toNat,
    (minGas_exact_iff overhead).mpr gas, timely.blockTime,
    fun _ => roundRobin_exact timely bounded.trigger⟩

/-- The TTL check of `require_task_ripe_quantum`. -/
def TtlChecked (d : Dispatch) : Prop :=
  0 < d.payload.ttlSeconds →
    getTimestampMs d.call ≤ d.payload.createdAt + d.payload.ttlSeconds * 1000

theorem DispatchExact.honoured (arithmetic : DispatchExact chain w d)
    (funded : minGasNeeded chain d w ≤ d.call.gasLeft) (checked : TtlChecked d) :
    DispatchHonoured chain w d := by
  refine ⟨?_, ?_⟩
  · rw [← arithmetic.minGas]
    exact UInt64.le_iff_toNat_le.mp funded
  · intro limited
    rw [← arithmetic.ttl]
    exact UInt64.le_iff_toNat_le.mp (checked limited)

/-! ## The steps of the dispatcher -/

/-- The step works on the dispatch: it enters `dispatch_task_execution` or goes on with it. -/
inductive Handles (chain : Chain) (w : World) : Step → Dispatch → Prop where
  | entered {move : Step} {secret : Option Bytes32} {d : Dispatch}
      (reaches : Reaches chain w move secret d) : Handles chain w move d
  | resumed {results : List Bytes} {frame : Frame} {rest : List Frame} {d : Dispatch}
      (waiting : w.frames = frame :: rest) (kind : frame = .oracle d ∨ frame = .xwap d) :
      Handles chain w (.syncReturn results) d

/-- Dispatch arithmetic never wraps: it is exact for every task that the step works on, and
a task that the step starts really had its gas and its time. -/
structure NeverWraps (chain : Chain) (w : World) (move : Step) : Prop where
  arithmetic : ∀ d, Handles chain w move d → DispatchExact chain w d
  honoured : ∀ next hash path, step chain w move = .ok next →
    next.journal = w.journal ++ [.dispatched hash path] →
    ∃ d, Handles chain w move d ∧ d.taskHash = hash ∧ d.path = path ∧ DispatchHonoured chain w d

/-- What a successful dispatch does to the journal and to the waiting endpoints. -/
structure Advanced (chain : Chain) (d : Dispatch) (before next : World) : Prop where
  journal : next.journal = before.journal ∨
    next.journal = before.journal ++ [.dispatched d.taskHash d.path] ∧
      minGasNeeded chain d before ≤ d.call.gasLeft
  frames : ∀ frame ∈ next.frames, frame ∈ before.frames ∨ frame = .oracle d ∨ frame = .xwap d

theorem suspend_advanced {frame : Frame} {receiver : Address} {endpoint : Bytes}
    (kind : frame = .oracle d ∨ frame = .xwap d) :
    Advanced chain d before (before.suspend frame receiver endpoint []) := by
  refine ⟨.inl rfl, ?_⟩
  intro waiting member
  rcases List.mem_cons.mp member with rfl | old
  · exact .inr kind
  · exact .inl old

theorem dispatchFunded_advanced (dispatched : dispatchFunded chain d before = .ok next) :
    Advanced chain d before next := by
  simp only [dispatchFunded, Outcome.bind_eq_ok, Outcome.require_eq_ok,
    Outcome.pure_eq_ok] at dispatched
  obtain ⟨_, funded, rfl⟩ := dispatched
  exact ⟨.inr ⟨rfl, funded⟩, fun _ member => .inl member⟩

theorem dispatchRipe_advanced (dispatched : dispatchRipe chain d before = .ok next) :
    Advanced chain d before next := by
  simp only [dispatchRipe, Outcome.bind_eq_ok] at dispatched
  obtain ⟨_, _, rest⟩ := dispatched
  split at rest
  · simp only [Outcome.bind_eq_ok] at rest
    obtain ⟨xwap, _, rest⟩ := rest
    split at rest
    · obtain rfl := (Outcome.pure_eq_ok _ _).mp rest
      exact suspend_advanced (.inr rfl)
    · exact dispatchFunded_advanced rest
  · exact dispatchFunded_advanced rest

theorem requireTaskRipeQuantum_ttl {query : Option (Address × Bytes)}
    (ripe : requireTaskRipeQuantum d.call d.payload = .ok query) : TtlChecked d := by
  simp only [requireTaskRipeQuantum, Outcome.bind_eq_ok, Outcome.require_eq_ok] at ripe
  obtain ⟨_, unexpired, _⟩ := ripe
  exact unexpired

theorem dispatchTaskExecution_advanced (dispatched : dispatchTaskExecution chain d before = .ok next) :
    TtlChecked d ∧ Advanced chain d before next := by
  simp only [dispatchTaskExecution, Outcome.bind_eq_ok] at dispatched
  obtain ⟨query, ripe, rest⟩ := dispatched
  refine ⟨requireTaskRipeQuantum_ttl ripe, ?_⟩
  cases query with
  | none => exact dispatchRipe_advanced rest
  | some query =>
      obtain rfl := (Outcome.pure_eq_ok _ _).mp rest
      exact suspend_advanced (.inl rfl)

theorem Prepared.minGasNeeded (prepared : Prepared w before) :
    minGasNeeded chain d before = minGasNeeded chain d w := by
  simp only [XCron.Scheduler.minGasNeeded, crossShardOverhead, prepared.keeperShard]

theorem Handles.advanced (handles : Handles chain w move d) (stepped : step chain w move = .ok next) :
    ∃ before, Prepared w before ∧ Advanced chain d before next := by
  cases handles with
  | entered reaches =>
      obtain ⟨before, prepared, same⟩ := reaches.step_prepared
      exact ⟨before, prepared, (dispatchTaskExecution_advanced (same ▸ stepped)).2⟩
  | @resumed results frame rest d waiting kind =>
      have fewer : rest ⊆ w.frames := waiting ▸ List.subset_cons_self _ _
      refine ⟨{ w with frames := rest }, ⟨rfl, rfl, fewer⟩, ?_⟩
      simp only [step, Step.call?, body, waiting] at stepped
      rcases kind with rfl | rfl
      · simp only [resume, Outcome.bind_eq_ok] at stepped
        obtain ⟨_, _, rest⟩ := stepped
        exact dispatchRipe_advanced rest
      · simp only [resume, Outcome.bind_eq_ok] at stepped
        obtain ⟨_, _, rest⟩ := stepped
        exact dispatchFunded_advanced rest

/-- A step that works on no dispatch starts no task, and only a compressed task or a
settlement can be left waiting by it. -/
structure Idle (w : World) (move : Step) (next : World) : Prop where
  journal : ∀ hash path, next.journal ≠ w.journal ++ [.dispatched hash path]
  frames : ∀ frame ∈ next.frames, frame ∈ w.frames ∨
    (∃ call hash payload, move.call? = some call ∧ frame = .proof call hash payload) ∨
    ∃ hash enforcer state, frame = .zkVerifier hash enforcer state

theorem undispatched (journal : next.journal = w.journal) (hash : TaskHash) (path : DispatchPath) :
    next.journal ≠ w.journal ++ [.dispatched hash path] := by
  intro longer
  have lengths := congrArg List.length (journal.symm.trans longer)
  rw [List.length_append] at lengths
  exact absurd lengths (Nat.ne_of_lt (Nat.lt_succ_self _))

theorem Idle.of_unjournaled (journal : next.journal = w.journal) (frames : next.frames ⊆ w.frames) :
    Idle w move next :=
  ⟨undispatched journal, fun _ member => .inl (frames member)⟩

theorem Idle.of_entry {entry : JournalEntry} (journal : next.journal = w.journal ++ [entry])
    (other : ∀ hash path, entry ≠ .dispatched hash path) (frames : next.frames ⊆ w.frames) :
    Idle w move next := by
  refine ⟨?_, fun frame member => .inl (frames member)⟩
  intro hash path longer
  have same := List.append_cancel_left (journal.symm.trans longer)
  exact other hash path (List.singleton_inj.mp same)

theorem takeDeposit_journal {call : CallContext} {requested : Option Nat} {deposit : Nat}
    {paid : World} (taken : takeDeposit call requested (w.credit call) = .ok (deposit, paid)) :
    paid.journal = w.journal := by
  rcases takeDeposit_cases taken with ⟨_, rfl⟩ | ⟨_, _, _, rfl⟩ <;> rfl

theorem handles_or_idle (stepped : step chain w move = .ok next) :
    (∃ d, Handles chain w move d) ∨ Idle w move next := by
  cases step_effect stepped with
  | executeQuantumTask =>
      obtain ⟨d, reaches⟩ := reaches_of_step stepped
      exact .inl ⟨d, .entered reaches⟩
  | @syncReturn results frame rest _ waiting resumed =>
      have fewer : rest ⊆ w.frames := waiting ▸ List.subset_cons_self _ _
      cases frame with
      | oracle d => exact .inl ⟨d, .resumed waiting (.inl rfl)⟩
      | xwap d => exact .inl ⟨d, .resumed waiting (.inr rfl)⟩
      | proof call hash payload =>
          simp only [resume, resumeCompressedTask, Outcome.bind_eq_ok,
            Outcome.require_eq_ok] at resumed
          obtain ⟨_, proved, _⟩ := resumed
          exact .inl ⟨_, .entered (.compressed waiting proved)⟩
      | zkVerifier hash enforcer state =>
          simp only [resume, Outcome.bind_eq_ok] at resumed
          obtain ⟨_, _, settled⟩ := resumed
          obtain ⟨_, _, rfl⟩ := finalizeSuccessfulExecution_eq_ok.mp settled
          exact .inr (.of_entry rfl (by rintro _ _ ⟨⟩) fewer)
  | @scheduleQuantumTask _ payload _ deposit _ _ _ taken _ =>
      have frames := takeDeposit_frames taken
      have journal := congrArg (· ++ [JournalEntry.funded (taskHash chain payload) deposit])
        (takeDeposit_journal taken)
      exact .inr (.of_entry journal (by rintro _ _ ⟨⟩) (fun _ member => frames ▸ member))
  | @scheduleSovereignTask _ _ _ deposit _ hash _ _ taken _ =>
      have frames := takeDeposit_frames taken
      have journal := congrArg (· ++ [JournalEntry.funded hash deposit]) (takeDeposit_journal taken)
      exact .inr (.of_entry journal (by rintro _ _ ⟨⟩) (fun _ member => frames ▸ member))
  | cancelQuantumTask => exact .inr (.of_entry rfl (by rintro _ _ ⟨⟩) (List.Subset.refl _))
  | rescueStuckXseTask => exact .inr (.of_entry rfl (by rintro _ _ ⟨⟩) (List.Subset.refl _))
  | settleXseTask _ _ _ _ _ closed =>
      obtain ⟨_, _, rfl⟩ := finalizeSuccessfulExecution_eq_ok.mp closed
      exact .inr (.of_entry rfl (by rintro _ _ ⟨⟩) (List.Subset.refl _))
  | executionCallback _ called =>
      obtain ⟨_, _, ⟨_, _, rfl⟩ | ⟨_, rfl⟩⟩ := executionCallback_ok called
      · exact .inr (.of_entry rfl (by rintro _ _ ⟨⟩) (List.Subset.refl _))
      · exact .inr (.of_entry rfl (by rintro _ _ ⟨⟩) (List.Subset.refl _))
  | @executeCompressedTask call payload =>
      refine .inr ⟨undispatched rfl, ?_⟩
      intro frame member
      rcases List.mem_cons.mp member with rfl | old
      · exact .inr (.inl ⟨call, _, payload, rfl, rfl⟩)
      · exact .inl old
  | awaitSettlement =>
      refine .inr ⟨undispatched rfl, ?_⟩
      intro frame member
      rcases List.mem_cons.mp member with rfl | old
      · exact .inr (.inr ⟨_, _, _, rfl⟩)
      · exact .inl old
  | solveIntent | solveMultiIntent | executePreCognitiveLeaf =>
      rw [World.delivered_eq]
      exact .inr (.of_unjournaled rfl (List.Subset.refl _))
  | _ => exact .inr (.of_unjournaled rfl (List.Subset.refl _))

/-! ## Runs -/

def Step.Timely (move : Step) : Prop := ∀ call ∈ move.call?, CallTimely call

instance (call : CallContext) : Decidable (CallTimely call) :=
  inferInstanceAs (Decidable (_ < _))

instance (move : Step) : Decidable move.Timely := by
  unfold Step.Timely
  infer_instance

/-- A payload that a keeper presents is mistaken for something else that was scheduled. -/
def Confused (chain : Chain) (moves : List Step) : Prop :=
  ∃ call payload secret, .executeQuantumTask call payload secret ∈ moves ∧
    Mistaken chain moves payload

theorem Mistaken.mono {past longer : List Step} {payload : Task}
    (mistaken : Mistaken chain past payload) (included : past ⊆ longer) :
    Mistaken chain longer payload := by
  rcases mistaken with ⟨message, member, collide⟩ |
    ⟨call, encryptedPayload, requested, deposit, member, rest⟩
  · obtain ⟨move, earlier, hashed⟩ := List.mem_flatMap.mp member
    exact .inl ⟨message, List.mem_flatMap.mpr ⟨move, included earlier, hashed⟩, collide⟩
  · exact .inr ⟨call, encryptedPayload, requested, deposit, included member, rest⟩

theorem Confused.mono {moves longer : List Step} (confused : Confused chain moves)
    (included : moves ⊆ longer) : Confused chain longer := by
  obtain ⟨call, payload, secret, member, mistaken⟩ := confused
  exact ⟨call, payload, secret, included member, mistaken.mono included⟩

/-- What is known of a dispatch before its TTL is checked. -/
structure Vetted (chain : Chain) (moves : List Step) (d : Dispatch) : Prop where
  timely : CallTimely d.call
  bounded : d.path = .quantum → WithinBounds d.payload ∨ Confused chain moves

/-- What is known of an endpoint that waits. -/
def Frame.Vetted (chain : Chain) (moves : List Step) : Frame → Prop
  | .oracle d | .xwap d => XCron.Scheduler.Vetted chain moves d ∧ TtlChecked d
  | .proof call _ _ => CallTimely call
  | .zkVerifier _ _ _ => True

theorem Vetted.mono {moves longer : List Step} (vetted : Vetted chain moves d)
    (included : moves ⊆ longer) : Vetted chain longer d :=
  ⟨vetted.timely, fun quantum => (vetted.bounded quantum).imp_right (·.mono included)⟩

theorem Frame.Vetted.mono {moves longer : List Step} {frame : Frame}
    (vetted : frame.Vetted chain moves) (included : moves ⊆ longer) :
    frame.Vetted chain longer := by
  cases frame with
  | oracle d => exact ⟨vetted.1.mono included, vetted.2⟩
  | xwap d => exact ⟨vetted.1.mono included, vetted.2⟩
  | proof call hash payload => exact vetted
  | zkVerifier hash enforcer state => trivial

section Run

variable {start : World} {past : List Step} (started : Deployed start)
  (trace : Trace (step chain) (fun _ move => move.Fits ∧ move.Timely) start past w)
  (frames : ∀ frame ∈ w.frames, frame.Vetted chain past) (fits : move.Fits) (timely : move.Timely)

include started trace frames fits timely

theorem Handles.vetted (handles : Handles chain w move d) : Vetted chain (past ++ [move]) d := by
  have included : past ⊆ past ++ [move] := List.subset_append_left _ _
  cases handles with
  | entered reaches =>
      cases reaches with
      | @quantum call payload secret state _ _ gate =>
          obtain ⟨found, pending, _⟩ := quantumGate_ok gate
          have scheduled := pending_scheduled started trace found pending
          have fitted : ∀ earlier ∈ past, earlier.Fits :=
            fun earlier member => (trace.all_allowed earlier member).1
          refine ⟨timely call rfl, fun _ => ?_⟩
          rcases scheduled.bounded fits fitted with bounded | mistaken
          · exact .inl bounded
          · exact .inr ⟨call, payload, _, List.mem_append_right _ (List.mem_singleton.mpr rfl),
              mistaken.mono included⟩
      | @compressed call hash payload results rest waiting _ =>
          have vetted : CallTimely call := frames (.proof call hash payload) (waiting ▸ .head _)
          exact ⟨vetted, nofun⟩
  | @resumed results frame rest d waiting kind =>
      have vetted := frames frame (waiting ▸ .head _)
      rcases kind with rfl | rfl
      · exact vetted.1.mono included
      · exact vetted.1.mono included

omit started trace fits timely in
theorem Handles.ttlChecked (handles : Handles chain w move d)
    (stepped : step chain w move = .ok next) : TtlChecked d := by
  cases handles with
  | entered reaches =>
      obtain ⟨before, _, same⟩ := reaches.step_prepared
      exact (dispatchTaskExecution_advanced (same ▸ stepped)).1
  | @resumed results frame rest d waiting kind =>
      have vetted := frames frame (waiting ▸ .head _)
      rcases kind with rfl | rfl
      · exact vetted.2
      · exact vetted.2

theorem step_vetted (stepped : step chain w move = .ok next) :
    ∀ frame ∈ next.frames, frame.Vetted chain (past ++ [move]) := by
  have included : past ⊆ past ++ [move] := List.subset_append_left _ _
  intro frame member
  rcases handles_or_idle stepped with ⟨d, handles⟩ | idle
  · have vetted := handles.vetted started trace frames fits timely
    have checked := handles.ttlChecked frames stepped
    obtain ⟨before, prepared, advanced⟩ := handles.advanced stepped
    rcases advanced.frames frame member with old | rfl | rfl
    · exact (frames frame (prepared.frames old)).mono included
    · exact ⟨vetted, checked⟩
    · exact ⟨vetted, checked⟩
  · rcases idle.frames frame member with old | ⟨call, hash, payload, called, rfl⟩ | ⟨_, _, _, rfl⟩
    · exact (frames frame old).mono included
    · exact timely call called
    · trivial

/-- Vetted dispatches are exact on the quantum path, and on the other one exactly if their
payload leaves room. -/
theorem neverWraps_iff :
    (NeverWraps chain w move ↔
      ∀ d, Handles chain w move d → d.path = .quantum ∨ Representable chain w d) ∨
      Confused chain (past ++ [move]) := by
  by_cases confused : Confused chain (past ++ [move])
  · exact .inr confused
  have exact_iff : ∀ d, Handles chain w move d →
      (DispatchExact chain w d ↔ d.path = .quantum ∨ Representable chain w d) := by
    intro d handles
    have vetted := handles.vetted started trace frames fits timely
    cases path : d.path with
    | quantum =>
        have bounded := (vetted.bounded path).resolve_right confused
        exact iff_of_true (exact_of_bounded vetted.timely bounded) (.inl rfl)
    | compressed =>
        rw [exact_compressed_iff vetted.timely path]
        exact ⟨.inr, fun either => either.resolve_left nofun⟩
  left
  constructor
  · intro never d handles
    exact (exact_iff d handles).mp (never.arithmetic d handles)
  · intro room
    have arithmetic : ∀ d, Handles chain w move d → DispatchExact chain w d :=
      fun d handles => (exact_iff d handles).mpr (room d handles)
    refine ⟨arithmetic, ?_⟩
    intro next hash path stepped journal
    rcases handles_or_idle stepped with ⟨d, handles⟩ | idle
    · obtain ⟨before, prepared, advanced⟩ := handles.advanced stepped
      rcases advanced.journal with same | ⟨entered, funded⟩
      · exact absurd journal (undispatched (same.trans prepared.journal) hash path)
      · rw [prepared.journal] at entered
        rw [prepared.minGasNeeded] at funded
        have entry := List.singleton_inj.mp (List.append_cancel_left (entered.symm.trans journal))
        obtain ⟨rfl, rfl⟩ := JournalEntry.dispatched.inj entry
        have checked := handles.ttlChecked frames stepped
        exact ⟨d, handles, rfl, rfl, (arithmetic d handles).honoured funded checked⟩
    · exact absurd journal (idle.journal hash path)

end Run

/-- The steps of the run lead to a state whose waiting endpoints are vetted. -/
structure Traced (chain : Chain) (start : World) (past : List Step) (w : World) : Prop where
  trace : Trace (step chain) (fun _ move => move.Fits ∧ move.Timely) start past w
  frames : ∀ frame ∈ w.frames, frame.Vetted chain past

theorem traced {start : World} {past : List Step} (started : Deployed start)
    (trace : Trace (step chain) (fun _ move => move.Fits ∧ move.Timely) start past w) :
    Traced chain start past w := by
  have always : Traced chain start ([] ++ past) w := by
    refine trace.history_allowed (Traced chain start) ?_ ⟨.nil start, ?_⟩
    · rintro past w move next ⟨fits, timely⟩ ⟨earlier, frames⟩ stepped
      exact ⟨earlier.concat ⟨fits, timely⟩ stepped,
        step_vetted started earlier frames fits timely stepped⟩
    · obtain ⟨_, _, _, _, _, _, rfl⟩ := started.eq
      intro frame member
      cases member
  exact always

/-- After every run, the next step wraps nothing exactly if every compressed payload that it
works on leaves room; short of a payload that is mistaken for another message hashed in the
run. -/
theorem dispatch_never_wraps_iff {start : World} {past : List Step} (started : Deployed start)
    (trace : Trace (step chain) (fun _ move => move.Fits ∧ move.Timely) start past w)
    (fits : move.Fits) (timely : move.Timely) :
    (NeverWraps chain w move ↔
      ∀ d, Handles chain w move d → d.path = .quantum ∨ Representable chain w d) ∨
      Confused chain (past ++ [move]) :=
  neverWraps_iff started trace (traced started trace).frames fits timely

namespace Sample

def greedyTask : Task := { compressedTask with maxGas := 18446744073689551616 }

def greedyRun : List Step :=
  [admitKeeper, configureXsc, .executeCompressedTask (call keeper 0 1000) greedyTask []]

end Sample

theorem dispatch_never_wraps_iff_sample :
    ∃ w d, Trace (step sampleChain) (fun _ move => move.Fits ∧ move.Timely) Sample.world
        [Sample.admitKeeper, .scheduleQuantumTask (Sample.call Sample.bob 700 1000) Sample.timedTask
          none] w ∧
      Handles sampleChain w Sample.executeTimed d ∧
      ((NeverWraps sampleChain w Sample.executeTimed ↔ ∀ d, Handles sampleChain w Sample.executeTimed d →
          d.path = .quantum ∨ Representable sampleChain w d) ∨
        Confused sampleChain ([Sample.admitKeeper, .scheduleQuantumTask
          (Sample.call Sample.bob 700 1000) Sample.timedTask none] ++ [Sample.executeTimed])) := by
  obtain ⟨w, trace, executed⟩ := Trace.of_runChecked (step sampleChain)
    (fun _ move => move.Fits ∧ move.Timely) Sample.world [Sample.admitKeeper,
      .scheduleQuantumTask (Sample.call Sample.bob 700 1000) Sample.timedTask none]
    (fun w => endsIn (fun next => next.promises.length = 1)
      (step sampleChain w Sample.executeTimed) = true) (by decide +kernel)
  obtain ⟨next, stepped, _⟩ := ok_of_endsIn executed
  obtain ⟨d, reaches⟩ := reaches_of_step stepped
  exact ⟨w, d, trace, .entered reaches, dispatch_never_wraps_iff Sample.world_deployed trace
    (by decide +kernel) (by decide +kernel)⟩

/-- A task that needs more gas than there is anywhere is dispatched for ten million. -/
theorem min_gas_wraps :
    Deployed Sample.world ∧
      ∃ w d next, Trace (step sampleChain) (fun _ move => move.Fits ∧ move.Timely) Sample.world
          Sample.greedyRun w ∧
        Handles sampleChain w (.syncReturn [[1]]) d ∧
        step sampleChain w (.syncReturn [[1]]) = .ok next ∧
        next.promises.map Promise.gas = [18446744073689551616] ∧
        d.payload = Sample.greedyTask ∧ d.call.gasLeft = 500000000 ∧
        minGasNeeded sampleChain d w = 10000000 ∧ gasDemand sampleChain d w = 2 ^ 64 + 10000000 ∧
        ¬NeverWraps sampleChain w (.syncReturn [[1]]) := by
  obtain ⟨w, trace, waiting, executed⟩ := Trace.of_runChecked (step sampleChain)
    (fun _ move => move.Fits ∧ move.Timely) Sample.world Sample.greedyRun
    (fun w => w.proving?.map (fun proof => (proof.1.gasLeft, proof.2.2)) =
        some (500000000, Sample.greedyTask) ∧
      endsIn (fun next => next.promises.map Promise.gas = [18446744073689551616])
        (step sampleChain w (.syncReturn [[1]])) = true) (by decide +kernel)
  obtain ⟨next, stepped, called⟩ := ok_of_endsIn executed
  unfold World.proving? at waiting
  split at waiting
  · rename_i call hash payload rest frames
    simp only [Option.map_some, Option.some.injEq, Prod.mk.injEq] at waiting
    obtain ⟨gasLeft, rfl⟩ := waiting
    have handles : Handles sampleChain w (.syncReturn [[1]])
        (compressedDispatch call hash Sample.greedyTask) :=
      .entered (.compressed frames (by decide))
    have near : crossShard sampleChain Sample.greedyTask.targetContract = false := rfl
    have wrapped : minGasNeeded sampleChain (compressedDispatch call hash Sample.greedyTask) w =
        10000000 := by
      simp only [minGasNeeded, crossShardOverhead, callbackGas, compressedDispatch, near, if_true]
      decide
    have demanded : gasDemand sampleChain (compressedDispatch call hash Sample.greedyTask) w =
        2 ^ 64 + 10000000 := by
      simp only [gasDemand, gasOverhead, overheadPercent, callbackReserve, compressedDispatch, near,
        if_true]
      decide
    refine ⟨Sample.world_deployed, w, _, next, trace, handles, stepped, called, rfl, gasLeft, wrapped,
      demanded, ?_⟩
    intro never
    have same := (never.arithmetic _ handles).minGas
    rw [wrapped, demanded] at same
    exact absurd same (by decide)
  · cases waiting

end XCron.Scheduler
