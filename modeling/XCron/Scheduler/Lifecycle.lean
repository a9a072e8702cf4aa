import XCron.Scheduler.TaskView

/-!
# Phases of a task

The invariant behind the unchecked callback: at any time a task is in one of
seven phases, and each phase fixes what all of its storage cells, promises and
waiting endpoints hold. In particular a promise in flight belongs to the task's
present execution, so the callback finds the very entry that registered it.
-/

namespace XCron.Scheduler

open Platform

variable {chain : Chain} {loss compressed : Prop} {hash : TaskHash} {v next : TaskView}

structure Absent (v : TaskView) : Prop where
  stored : v.stored = none
  frames : v.frames = []
  promises : v.promises = []
  enclave : v.enclave = none

structure Waiting (v : TaskView) (state : QuantumTaskState) : Prop where
  stored : v.stored = some state
  status : state.status = .pending
  fresh : state.executingAt = 0
  frames : v.frames = []
  promises : v.promises = []
  enclave : v.enclave = none

/-- A keeper's dispatch waits for the oracle or the market query. -/
structure Opening (hash : TaskHash) (v : TaskView) (d : Dispatch) (frame : Frame) : Prop where
  kind : frame = .oracle d ∨ frame = .xwap d
  frames : v.frames = [frame]
  about : d.taskHash = hash
  path : d.path = .quantum
  stored : v.stored = some d.state
  status : d.state.status = .pending
  fresh : d.state.executingAt = 0
  promises : v.promises = []
  enclave : v.enclave = if d.payload.confidential then some d.keeper else none

/-- A compressed task waits for its proof, the oracle or the market query. -/
structure Presenting (hash : TaskHash) (v : TaskView) (call : CallContext) (payload : Task)
    (frame : Frame) : Prop where
  kind : frame = .proof call hash payload ∨ frame = .oracle (compressedDispatch call hash payload) ∨
    frame = .xwap (compressedDispatch call hash payload)
  frames : v.frames = [frame]
  presentable : Presentable hash payload v
  promises : v.promises = []
  enclave : v.enclave = none

def Promise.Registered (promise : Promise) (record : DispatchRecord) : Prop :=
  promise.targetContract = record.payload.targetContract ∧
    promise.targetEndpoint = record.payload.targetEndpoint ∧
    promise.targetArgs = record.payload.targetArgs ∧ promise.keeper = record.keeper ∧
    promise.path = record.path

/-- The target has been called and its callback is due. -/
structure Running (loss : Prop) (v : TaskView) (state : QuantumTaskState)
    (record : DispatchRecord) : Prop where
  stored : v.stored = some state
  status : state.status = .executing
  frames : v.frames = []
  dispatch : v.dispatch = some record
  since : state.executingAt = record.dispatchedAt
  open_ : record.payload.confidential = false
  promises : (∃ promise, v.promises = [promise] ∧ promise.Registered record) ∨
    (loss ∧ v.promises = [])
  enclave : v.enclave = none

/-- The task is left to an enclave; no callback is due. -/
structure Sealed (v : TaskView) (state : QuantumTaskState) (record : DispatchRecord) : Prop where
  stored : v.stored = some state
  status : state.status = .executing
  dispatch : v.dispatch = some record
  since : state.executingAt = record.dispatchedAt
  confidential : record.payload.confidential = true
  promises : v.promises = []

inductive Phase (loss compressed : Prop) (hash : TaskHash) (v : TaskView) : Prop where
  | absent (absent : Absent v)
  | waiting (state : QuantumTaskState) (waiting : Waiting v state)
  | opening (d : Dispatch) (frame : Frame) (opening : Opening hash v d frame)
  | presenting (call : CallContext) (payload : Task) (frame : Frame) (allowed : compressed)
      (presenting : Presenting hash v call payload frame)
  | running (state : QuantumTaskState) (record : DispatchRecord)
      (running : Running loss v state record)
  | inEnclave (state : QuantumTaskState) (record : DispatchRecord)
      (sealed : Sealed v state record) (frames : v.frames = [])
      (enclave : (∃ keeper, v.enclave = some keeper) ∨ (compressed ∧ v.enclave = none))
  | settling (state : QuantumTaskState) (record : DispatchRecord) (enforcer : Address)
      (sealed : Sealed v state record) (frames : v.frames = [.zkVerifier hash enforcer state])
      (enclave : v.enclave = some enforcer)

theorem Opening.dispatch_eq {other d : Dispatch} {frame : Frame}
    (opening : Opening hash v other frame) (kind : frame = .oracle d ∨ frame = .xwap d) :
    other = d := by
  rcases opening.kind with rfl | rfl <;> rcases kind with same | same <;> simp_all

theorem Presenting.dispatch_eq {call : CallContext} {payload : Task} {d : Dispatch} {frame : Frame}
    (presenting : Presenting hash v call payload frame)
    (kind : frame = .oracle d ∨ frame = .xwap d) : compressedDispatch call hash payload = d := by
  rcases presenting.kind with rfl | rfl | rfl <;> rcases kind with same | same <;> simp_all

theorem Presenting.proof_eq {call call' : CallContext} {payload payload' : Task}
    (presenting : Presenting hash v call payload (.proof call' hash payload')) :
    call = call' ∧ payload = payload' := by
  rcases presenting.kind with same | same | same
  · simp only [Frame.proof.injEq] at same
    exact ⟨same.1.symm, same.2.2.symm⟩
  · simp at same
  · simp at same

namespace Phase

theorem of_pending {state : QuantumTaskState} (phase : Phase loss compressed hash v)
    (quiet : v.frames = []) (found : v.stored = some state) (pending : state.status = .pending) :
    Waiting v state := by
  cases phase with
  | absent absent => simp [absent.stored] at found
  | waiting other waiting =>
      have same : other = state := by simpa [waiting.stored] using found
      exact same ▸ waiting
  | opening d frame opening => simp [opening.frames] at quiet
  | presenting call payload frame _ presenting => simp [presenting.frames] at quiet
  | running other record running =>
      have same : other = state := by simpa [running.stored] using found
      have clash := running.status
      simp [same, pending] at clash
  | inEnclave other record sealed _ _ =>
      have same : other = state := by simpa [sealed.stored] using found
      have clash := sealed.status
      simp [same, pending] at clash
  | settling other record enforcer sealed frames _ => simp [frames] at quiet

theorem of_free (phase : Phase loss compressed hash v) (quiet : v.frames = [])
    (free : v.stored = none) : Absent v := by
  cases phase with
  | absent absent => exact absent
  | waiting other waiting => simp [waiting.stored] at free
  | opening d frame opening => simp [opening.stored] at free
  | presenting call payload frame _ presenting => simp [presenting.frames] at quiet
  | running other record running => simp [running.stored] at free
  | inEnclave other record sealed _ _ => simp [sealed.stored] at free
  | settling other record enforcer sealed _ _ => simp [sealed.stored] at free

theorem of_enclave {state : QuantumTaskState} {keeper : Address}
    (phase : Phase loss compressed hash v) (quiet : v.frames = []) (found : v.stored = some state)
    (enclave : v.enclave = some keeper) : ∃ record, Sealed v state record := by
  cases phase with
  | absent absent => simp [absent.stored] at found
  | waiting other waiting => simp [waiting.enclave] at enclave
  | opening d frame opening => simp [opening.frames] at quiet
  | presenting call payload frame _ presenting => simp [presenting.frames] at quiet
  | running other record running => simp [running.enclave] at enclave
  | inEnclave other record sealed _ _ =>
      have same : other = state := by simpa [sealed.stored] using found
      exact ⟨record, same ▸ sealed⟩
  | settling other record enforcer sealed frames _ => simp [frames] at quiet

theorem of_promise {before after : List Promise} {promise : Promise}
    (phase : Phase loss compressed hash v) (inFlight : v.promises = before ++ promise :: after) :
    before = [] ∧ after = [] ∧
      ∃ state record, Running loss v state record ∧ promise.Registered record := by
  cases phase with
  | absent absent => simp [absent.promises] at inFlight
  | waiting other waiting => simp [waiting.promises] at inFlight
  | opening d frame opening => simp [opening.promises] at inFlight
  | presenting call payload frame _ presenting => simp [presenting.promises] at inFlight
  | running state record running =>
      rcases running.promises with ⟨only, single, registered⟩ | ⟨_, none⟩
      · rw [single, eq_comm, List.append_eq_singleton_iff] at inFlight
        rcases inFlight with ⟨rfl, rest⟩ | ⟨_, impossible⟩
        · rw [List.cons.injEq] at rest
          exact ⟨rfl, rest.2, state, record, running, rest.1 ▸ registered⟩
        · simp at impossible
      · simp [none] at inFlight
  | inEnclave other record sealed _ _ => simp [sealed.promises] at inFlight
  | settling other record enforcer sealed frames _ => simp [sealed.promises] at inFlight

theorem of_frame {frame : Frame} {rest : List Frame} (phase : Phase loss compressed hash v)
    (waiting : v.frames = frame :: rest) :
    rest = [] ∧ ((∃ d, Opening hash v d frame) ∨
      (compressed ∧ ∃ call payload, Presenting hash v call payload frame) ∨
      ∃ state record enforcer, Sealed v state record ∧ frame = .zkVerifier hash enforcer state ∧
        v.enclave = some enforcer) := by
  cases phase with
  | absent absent => simp [absent.frames] at waiting
  | waiting other pending => simp [pending.frames] at waiting
  | opening d top opening =>
      have same := opening.frames.symm.trans waiting
      rw [List.cons.injEq] at same
      exact ⟨same.2.symm, .inl ⟨d, same.1 ▸ opening⟩⟩
  | presenting call payload top allowed presenting =>
      have same := presenting.frames.symm.trans waiting
      rw [List.cons.injEq] at same
      exact ⟨same.2.symm, .inr (.inl ⟨allowed, call, payload, same.1 ▸ presenting⟩)⟩
  | running other record running => simp [running.frames] at waiting
  | inEnclave other record sealed quiet _ => simp [quiet] at waiting
  | settling state record enforcer sealed frames enclave =>
      have same := frames.symm.trans waiting
      rw [List.cons.injEq] at same
      exact ⟨same.2.symm, .inr (.inr ⟨state, record, enforcer, sealed, same.1.symm, enclave⟩)⟩

theorem of_query {frame : Frame} {rest : List Frame} {d : Dispatch}
    (phase : Phase loss compressed hash v) (waiting : v.frames = frame :: rest)
    (kind : frame = .oracle d ∨ frame = .xwap d) :
    rest = [] ∧ (Opening hash v d frame ∨ compressed ∧ ∃ call payload,
      compressedDispatch call hash payload = d ∧ Presenting hash v call payload frame) := by
  obtain ⟨empty, ⟨other, opening⟩ | ⟨allowed, call, payload, presenting⟩ |
    ⟨_, _, _, _, zk, _⟩⟩ := phase.of_frame waiting
  · obtain rfl := opening.dispatch_eq kind
    exact ⟨empty, .inl opening⟩
  · exact ⟨empty, .inr ⟨allowed, call, payload, presenting.dispatch_eq kind, presenting⟩⟩
  · rcases kind with rfl | rfl <;> simp at zk

theorem of_proof {call : CallContext} {payload : Task} {rest : List Frame}
    (phase : Phase loss compressed hash v) (waiting : v.frames = .proof call hash payload :: rest) :
    rest = [] ∧ compressed ∧ Presenting hash v call payload (.proof call hash payload) := by
  obtain ⟨empty, ⟨other, opening⟩ | ⟨allowed, call', payload', presenting⟩ |
    ⟨_, _, _, _, zk, _⟩⟩ := phase.of_frame waiting
  · have clash := opening.kind
    simp at clash
  · obtain ⟨rfl, rfl⟩ := presenting.proof_eq
    exact ⟨empty, allowed, presenting⟩
  · simp at zk

theorem of_ready {state : QuantumTaskState} {enforcer : Address} {rest : List Frame}
    (phase : Phase loss compressed hash v)
    (ready : (v.frames = [] ∧ rest = [] ∧ v.stored = some state ∧ state.status = .executing ∧
      v.enclave = some enforcer) ∨ v.frames = .zkVerifier hash enforcer state :: rest) :
    ∃ record, Sealed v state record := by
  rcases ready with ⟨quiet, _, found, _, enclave⟩ | waiting
  · exact phase.of_enclave quiet found enclave
  · obtain ⟨_, ⟨other, opening⟩ | ⟨_, call, payload, presenting⟩ |
      ⟨settled, record, _, sealed, same, _⟩⟩ := phase.of_frame waiting
    · have clash := opening.kind
      simp at clash
    · have clash := presenting.kind
      simp at clash
    · simp only [Frame.zkVerifier.injEq] at same
      exact ⟨record, same.2.2 ▸ sealed⟩

theorem of_quantum_advance {d : Dispatch} (advances : Advances chain d v next)
    (about : d.taskHash = hash) (path : d.path = .quantum) (stored : v.stored = some d.state)
    (status : d.state.status = .pending) (fresh : d.state.executingAt = 0) (frames : v.frames = [])
    (promises : v.promises = [])
    (enclave : v.enclave = if d.payload.confidential then some d.keeper else none) :
    Phase loss compressed hash next := by
  cases advances with
  | oracle =>
      refine .opening d (.oracle d) ⟨.inl rfl, ?_, about, path, stored, status, fresh, promises,
        enclave⟩
      simp [TaskView.push, frames]
  | xwap =>
      refine .opening d (.xwap d) ⟨.inr rfl, ?_, about, path, stored, status, fresh, promises,
        enclave⟩
      simp [TaskView.push, frames]
  | start =>
      by_cases sealed : d.payload.confidential = true
      · refine .inEnclave d.executingState d.toRecord ⟨rfl, rfl, rfl, rfl, sealed, ?_⟩ frames
          (.inl ⟨d.keeper, ?_⟩)
        · simp [TaskView.start, sealed, promises]
        · simpa [TaskView.start, sealed] using enclave
      · refine .running d.executingState d.toRecord ⟨rfl, rfl, frames, rfl, rfl, ?_,
          .inl ⟨d.promise chain, ?_, rfl, rfl, rfl, rfl, rfl⟩, ?_⟩
        · simpa [Dispatch.toRecord] using sealed
        · simp [TaskView.start, sealed, promises]
        · simpa [TaskView.start, sealed] using enclave

theorem of_compressed_advance {call : CallContext} {payload : Task} (allowed : compressed)
    (advances : Advances chain (compressedDispatch call hash payload) v next)
    (presentable : Presentable hash payload v) (frames : v.frames = []) (promises : v.promises = [])
    (enclave : v.enclave = none) : Phase loss compressed hash next := by
  cases advances with
  | oracle =>
      refine .presenting call payload _ allowed ⟨.inr (.inl rfl), ?_, presentable, promises, enclave⟩
      simp [TaskView.push, frames]
  | xwap =>
      refine .presenting call payload _ allowed ⟨.inr (.inr rfl), ?_, presentable, promises, enclave⟩
      simp [TaskView.push, frames]
  | start =>
      by_cases sealed : payload.confidential = true
      · refine .inEnclave _ _ ⟨rfl, rfl, rfl, rfl, sealed, ?_⟩ frames (.inr ⟨allowed, enclave⟩)
        simp [TaskView.start, compressedDispatch, sealed, promises]
      · refine .running _ _ ⟨rfl, rfl, frames, rfl, rfl, ?_,
          .inl ⟨(compressedDispatch call hash payload).promise chain, ?_, rfl, rfl, rfl, rfl, rfl⟩,
          enclave⟩
        · simpa [Dispatch.toRecord, compressedDispatch] using sealed
        · simp [TaskView.start, compressedDispatch, sealed, promises]

theorem of_close {owner : Address} {entry : JournalEntry} (frames : v.frames = [])
    (promises : v.promises = []) : Phase loss compressed hash (v.close owner entry) :=
  .absent ⟨rfl, frames, promises, rfl⟩

end Phase

theorem TaskMove.phase (move : TaskMove chain loss compressed hash v next)
    (phase : Phase loss compressed hash v) : Phase loss compressed hash next := by
  cases move with
  | scheduled owner deposit free =>
      cases phase with
      | absent absent =>
          exact .waiting _ ⟨rfl, rfl, rfl, absent.frames, absent.promises, absent.enclave⟩
      | presenting call payload frame allowed presenting =>
          refine .presenting call payload frame allowed ⟨presenting.kind, presenting.frames, ?_,
            presenting.promises, presenting.enclave⟩
          obtain ⟨unused, nothing⟩ := presenting.presentable
          simp only [free] at nothing
          refine ⟨?_, rfl, ?_⟩
          · simpa [TaskView.schedule] using unused
          · rw [nothing]
            exact Nat.zero_le _
      | waiting other waiting => simp [waiting.stored] at free
      | opening d frame opening => simp [opening.stored] at free
      | running other record running => simp [running.stored] at free
      | inEnclave other record sealed _ _ => simp [sealed.stored] at free
      | settling other record enforcer sealed _ _ => simp [sealed.stored] at free
  | cancelled state refund fee quiet found pending split =>
      have waiting := phase.of_pending quiet found pending
      exact .absent ⟨rfl, waiting.frames, waiting.promises, waiting.enclave⟩
  | dispatched d quiet same path found pending advances =>
      have waiting := phase.of_pending quiet found pending
      refine .of_quantum_advance advances same path found pending waiting.fresh quiet
        waiting.promises ?_
      simp [TaskView.assign, waiting.enclave]
  | presented call payload allowed quiet presentable =>
      have unmoved : v.promises = [] ∧ v.enclave = none := by
        cases stored : v.stored with
        | none =>
            have absent := phase.of_free quiet stored
            exact ⟨absent.promises, absent.enclave⟩
        | some state =>
            have pending : state.status = .pending := by
              have covered := presentable.2
              simp only [stored] at covered
              exact covered.1
            have waiting := phase.of_pending quiet stored pending
            exact ⟨waiting.promises, waiting.enclave⟩
      refine .presenting call payload _ allowed ⟨.inl rfl, ?_, presentable, unmoved.1, unmoved.2⟩
      simp [TaskView.push, quiet]
  | resumed frame rest d waiting kind advances =>
      obtain ⟨rfl, opening | ⟨allowed, call, payload, rfl, presenting⟩⟩ :=
        phase.of_query waiting kind
      · exact .of_quantum_advance advances opening.about opening.path opening.stored opening.status
          opening.fresh rfl opening.promises opening.enclave
      · exact .of_compressed_advance allowed advances presenting.presentable rfl
          presenting.promises presenting.enclave
  | proved call payload rest waiting advances =>
      obtain ⟨rfl, allowed, presenting⟩ := phase.of_proof waiting
      exact .of_compressed_advance allowed advances presenting.presentable rfl
        presenting.promises presenting.enclave
  | settling enforcer state quiet found executing enclave =>
      obtain ⟨record, sealed⟩ := phase.of_enclave quiet found enclave
      refine .settling state record enforcer ⟨sealed.stored, sealed.status, sealed.dispatch,
        sealed.since, sealed.confidential, sealed.promises⟩ ?_ enclave
      simp [TaskView.push, quiet]
  | settled state enforcer reward refund fee rest ready split =>
      obtain ⟨record, sealed⟩ := phase.of_ready ready
      have emptied : rest = [] := by
        rcases ready with ⟨_, empty, _⟩ | waiting
        · exact empty
        · exact (phase.of_frame waiting).1
      exact .of_close emptied sealed.promises
  | rescued state enforcer quiet found executing enclave =>
      obtain ⟨record, sealed⟩ := phase.of_enclave quiet found enclave
      exact .of_close quiet sealed.promises
  | calledBack before after promise success state reward refund fee inFlight found split =>
      obtain ⟨rfl, rfl, other, record, running, _⟩ := phase.of_promise inFlight
      exact .of_close running.frames rfl
  | lost before after promise allowed inFlight =>
      obtain ⟨rfl, rfl, state, record, running, _⟩ := phase.of_promise inFlight
      exact .running state record ⟨running.stored, running.status, running.frames, running.dispatch,
        running.since, running.open_, .inr ⟨allowed, rfl⟩, running.enclave⟩

/-! ## Bookkeeping -/

def JournalEntry.fundedAmount : JournalEntry → Nat
  | .funded _ amount => amount
  | _ => 0

def JournalEntry.closedAmount : JournalEntry → Nat
  | .closed _ _ _ reward refund fee => reward + refund + fee
  | _ => 0

def JournalEntry.isFunding : JournalEntry → Bool
  | .funded _ _ => true
  | _ => false

def JournalEntry.isClosing : JournalEntry → Bool
  | .closed _ _ _ _ _ _ => true
  | _ => false

def JournalEntry.closesCompressed : JournalEntry → Bool
  | .closed _ _ (some .compressed) _ _ _ => true
  | _ => false

namespace TaskView

def fundedValue (v : TaskView) : Nat := (v.journal.map JournalEntry.fundedAmount).sum

def closedValue (v : TaskView) : Nat := (v.journal.map JournalEntry.closedAmount).sum

def deposit (v : TaskView) : Nat :=
  match v.stored with
  | none => 0
  | some state => state.deposit

/-- One while an execution that `executeCompressedTask` started is open. -/
def openCompressed (v : TaskView) : Nat :=
  match v.stored, v.dispatch with
  | some state, some record =>
      if state.status = .executing ∧ record.path = .compressed then 1 else 0
  | _, _ => 0

end TaskView

theorem Presentable.deposit_le {payload : Task} (presentable : Presentable hash payload v) :
    payload.deposit ≤ v.deposit := by
  have covered := presentable.2
  unfold TaskView.deposit
  cases stored : v.stored with
  | none =>
      simp only [stored] at covered
      exact Nat.le_of_eq covered
  | some state =>
      simp only [stored] at covered
      exact covered.2

/-- The journal of a hash agrees with what is stored for it. -/
structure Balanced (compressed : Prop) (hash : TaskHash) (v : TaskView) : Prop where
  value : v.closedValue + v.deposit ≤ v.fundedValue
  listed : ¬compressed → ∀ owner, v.listedBy owner ↔
    ∃ state, v.stored = some state ∧ state.owner = owner
  counted : ¬compressed → v.journal.countP JournalEntry.isClosing +
    (if v.stored.isSome then 1 else 0) = v.journal.countP JournalEntry.isFunding
  once : v.journal.countP JournalEntry.closesCompressed + v.openCompressed ≤
    v.journal.count (.dispatched hash .compressed)
  single : v.journal.count (.dispatched hash .compressed) ≤ 1

namespace Balanced

theorem congr (balanced : Balanced compressed hash v) (stored : next.stored = v.stored)
    (listedBy : next.listedBy = v.listedBy) (dispatch : next.dispatch = v.dispatch)
    (journal : next.journal = v.journal) : Balanced compressed hash next := by
  obtain ⟨stored', listedBy', _, dispatch', _, _, journal'⟩ := next
  simp only at stored listedBy dispatch journal
  subst stored listedBy dispatch journal
  exact ⟨balanced.value, balanced.listed, balanced.counted, balanced.once, balanced.single⟩

theorem of_quantum_advance {d : Dispatch} (advances : Advances chain d v next)
    (path : d.path = .quantum) (stored : v.stored = some d.state)
    (balanced : Balanced compressed hash v) : Balanced compressed hash next := by
  cases advances with
  | oracle => exact balanced.congr rfl rfl rfl rfl
  | xwap => exact balanced.congr rfl rfl rfl rfl
  | start =>
      obtain ⟨value, listed, counted, once, single⟩ := balanced
      refine ⟨?_, ?_, ?_, ?_, ?_⟩
      · simpa [TaskView.start, TaskView.closedValue, TaskView.fundedValue, TaskView.deposit, stored,
          JournalEntry.closedAmount, JournalEntry.fundedAmount, Dispatch.executingState] using value
      · simpa [TaskView.start, stored, Dispatch.executingState] using listed
      · simpa [TaskView.start, stored, JournalEntry.isClosing, JournalEntry.isFunding] using counted
      · have closings := Nat.le_of_add_right_le once
        simpa [TaskView.start, TaskView.openCompressed, JournalEntry.closesCompressed, path,
          Dispatch.toRecord] using closings
      · simpa [TaskView.start, path] using single

theorem of_compressed_advance {call : CallContext} {payload : Task} (allowed : compressed)
    (advances : Advances chain (compressedDispatch call hash payload) v next)
    (presentable : Presentable hash payload v) (balanced : Balanced compressed hash v) :
    Balanced compressed hash next := by
  cases advances with
  | oracle => exact balanced.congr rfl rfl rfl rfl
  | xwap => exact balanced.congr rfl rfl rfl rfl
  | start =>
      obtain ⟨value, _, _, once, _⟩ := balanced
      have enough := presentable.deposit_le
      have unused := presentable.1
      rw [← List.count_eq_zero] at unused
      refine ⟨?_, fun denied => absurd allowed denied, fun denied => absurd allowed denied, ?_, ?_⟩
      · have kept : v.closedValue + payload.deposit ≤ v.fundedValue := by omega
        simpa [TaskView.start, TaskView.closedValue, TaskView.fundedValue, TaskView.deposit,
          JournalEntry.closedAmount, JournalEntry.fundedAmount, Dispatch.executingState,
          compressedDispatch] using kept
      · have closings : v.journal.countP JournalEntry.closesCompressed = 0 := by omega
        simp [TaskView.start, TaskView.openCompressed, JournalEntry.closesCompressed, closings,
          Dispatch.toRecord, Dispatch.executingState, compressedDispatch]
      · simp [TaskView.start, compressedDispatch, unused]

theorem of_unlist {state : QuantumTaskState} (how : Closing) {path : Option DispatchPath}
    {reward refund fee : Nat} (stored : v.stored = some state)
    (split : reward + refund + fee = state.deposit)
    (open_ : path = some .compressed → v.openCompressed = 1)
    (balanced : Balanced compressed hash v) :
    Balanced compressed hash (v.unlist state.owner (.closed hash how path reward refund fee)) := by
  obtain ⟨value, listed, counted, once, single⟩ := balanced
  refine ⟨?_, ?_, ?_, ?_, ?_⟩
  · simp only [TaskView.deposit, stored] at value
    have kept : v.closedValue + (reward + refund + fee) ≤ v.fundedValue := by omega
    simpa [TaskView.unlist, TaskView.closedValue, TaskView.fundedValue, TaskView.deposit,
      JournalEntry.closedAmount, JournalEntry.fundedAmount] using kept
  · intro denied owner
    have mine := listed denied owner
    simp only [stored, Option.some.injEq, exists_eq_left'] at mine
    simp only [TaskView.unlist, mine, reduceCtorEq, false_and, exists_false, iff_false]
    rintro ⟨different, rfl⟩
    exact different rfl
  · intro denied
    have before := counted denied
    simpa [TaskView.unlist, stored, JournalEntry.isClosing, JournalEntry.isFunding] using before
  · by_cases compressedPath : path = some .compressed
    · have opened := open_ compressedPath
      subst compressedPath
      simp only [TaskView.unlist, TaskView.openCompressed, List.countP_append, List.count_append]
      simp [JournalEntry.closesCompressed]
      omega
    · have other :
          JournalEntry.closesCompressed (.closed hash how path reward refund fee) = false := by
        unfold JournalEntry.closesCompressed
        split <;> simp_all
      simp only [TaskView.unlist, TaskView.openCompressed, List.countP_append, List.count_append]
      simp [other]
      omega
  · simpa [TaskView.unlist] using single

theorem of_close {state : QuantumTaskState} {how : Closing} {path : Option DispatchPath}
    {reward refund fee : Nat} (stored : v.stored = some state)
    (split : reward + refund + fee = state.deposit)
    (open_ : path = some .compressed → v.openCompressed = 1)
    (balanced : Balanced compressed hash v) :
    Balanced compressed hash (v.close state.owner (.closed hash how path reward refund fee)) :=
  (balanced.of_unlist how stored split open_).congr rfl rfl rfl rfl

end Balanced

theorem Sealed.openCompressed {state : QuantumTaskState} {record : DispatchRecord}
    (sealed : Sealed v state record)
    (path : v.dispatch.map DispatchRecord.path = some .compressed) : v.openCompressed = 1 := by
  rw [sealed.dispatch, Option.map_some, Option.some.injEq] at path
  simp [TaskView.openCompressed, sealed.stored, sealed.dispatch, sealed.status, path]

/-- Every move keeps the journal in balance. -/
theorem TaskMove.balanced (move : TaskMove chain loss compressed hash v next)
    (phase : Phase loss compressed hash v) (balanced : Balanced compressed hash v) :
    Balanced compressed hash next := by
  cases move with
  | scheduled owner deposit free =>
      obtain ⟨value, listed, counted, once, single⟩ := balanced
      refine ⟨?_, ?_, ?_, ?_, ?_⟩
      · simp only [TaskView.deposit, free] at value
        have kept : v.closedValue + deposit ≤ v.fundedValue + deposit := by omega
        simpa [TaskView.schedule, TaskView.closedValue, TaskView.fundedValue, TaskView.deposit,
          JournalEntry.closedAmount, JournalEntry.fundedAmount] using kept
      · intro denied other
        have nobody := listed denied other
        simp only [free, reduceCtorEq, false_and, exists_false, iff_false] at nobody
        simp [TaskView.schedule, nobody, eq_comm]
      · intro denied
        have before := counted denied
        simp only [free, Option.isSome_none, Bool.false_eq_true, if_false, Nat.add_zero] at before
        simp [TaskView.schedule, JournalEntry.isClosing, JournalEntry.isFunding, before]
      · have closings := Nat.le_of_add_right_le once
        have shut : (v.schedule hash owner deposit).openCompressed = 0 := by
          unfold TaskView.openCompressed TaskView.schedule
          cases v.dispatch <;> simp
        rw [shut]
        simpa [TaskView.schedule, JournalEntry.closesCompressed] using closings
      · simpa [TaskView.schedule] using single
  | cancelled state refund fee quiet found pending split =>
      exact balanced.of_unlist _ found (by omega) (fun impossible => by simp at impossible)
  | dispatched d quiet same path found pending advances =>
      exact .of_quantum_advance advances path found (balanced.congr rfl rfl rfl rfl)
  | presented call payload allowed quiet presentable => exact balanced.congr rfl rfl rfl rfl
  | resumed frame rest d waiting kind advances =>
      obtain ⟨rfl, opening | ⟨allowed, call, payload, rfl, presenting⟩⟩ :=
        phase.of_query waiting kind
      · exact .of_quantum_advance advances opening.path opening.stored
          (balanced.congr rfl rfl rfl rfl)
      · exact .of_compressed_advance allowed advances presenting.presentable
          (balanced.congr rfl rfl rfl rfl)
  | proved call payload rest waiting advances =>
      obtain ⟨rfl, allowed, presenting⟩ := phase.of_proof waiting
      exact .of_compressed_advance allowed advances presenting.presentable
        (balanced.congr rfl rfl rfl rfl)
  | settling enforcer state quiet found executing enclave => exact balanced.congr rfl rfl rfl rfl
  | settled state enforcer reward refund fee rest ready split =>
      obtain ⟨record, sealed⟩ := phase.of_ready ready
      exact .of_close sealed.stored split sealed.openCompressed (balanced.congr rfl rfl rfl rfl)
  | rescued state enforcer quiet found executing enclave =>
      obtain ⟨record, sealed⟩ := phase.of_enclave quiet found enclave
      exact balanced.of_close found (by omega) sealed.openCompressed
  | calledBack before after promise success state reward refund fee inFlight found split =>
      obtain ⟨rfl, rfl, other, record, running, _, _, _, _, path⟩ := phase.of_promise inFlight
      refine .of_close found split ?_ (balanced.congr rfl rfl rfl rfl)
      intro compressedPath
      rw [Option.some.injEq, path] at compressedPath
      simp [TaskView.openCompressed, running.stored, running.dispatch, running.status,
        compressedPath]
  | lost before after promise allowed inFlight => exact balanced.congr rfl rfl rfl rfl

/-- What the scheduler keeps about every hash at once. -/
structure Orderly (loss compressed : Prop) (w : World) : Prop where
  bounded : w.FeeBounded
  phase : ∀ hash, Phase loss compressed hash (w.view hash)
  balanced : ∀ hash, Balanced compressed hash (w.view hash)

theorem Deployed.orderly {w : World} (started : Deployed w) : Orderly loss compressed w := by
  obtain ⟨_, _, _, _, _, within, rfl⟩ := started.eq
  refine ⟨within, fun hash => .absent ⟨?_, rfl, rfl, rfl⟩, fun hash => ⟨?_, ?_, ?_, ?_, ?_⟩⟩
  · simp [World.view, deployed]
  · simp [World.view, deployed, TaskView.closedValue, TaskView.fundedValue, TaskView.deposit]
  · simp [World.view, deployed]
  · simp [World.view, deployed]
  · simp [World.view, deployed, TaskView.openCompressed]
  · simp [World.view, deployed]

/-- A disciplined step: guarded, and compressed payloads only where covered. -/
def Disciplined (chain : Chain) (w : World) (move : Step) : Prop :=
  Guarded chain w move ∧ Covered chain w move

instance (chain : Chain) (w : World) (move : Step) : Decidable (Disciplined chain w move) :=
  inferInstanceAs (Decidable (_ ∧ _))

theorem step_orderly {w after : World} {move : Step} (disciplined : Disciplined chain w move)
    (allowed : move.presents ≠ none → compressed)
    (losses : ∀ index success promise fault, move = .executionCallback index success →
      w.promises[index]? = some promise →
      executionCallback chain promise success
        { w with promises := w.promises.eraseIdx index } = .error fault → loss)
    (orderly : Orderly loss compressed w) (stepped : step chain w move = .ok after) :
    Orderly loss compressed after := by
  refine ⟨step_feeBounded stepped orderly.bounded, ?_, ?_⟩
  · intro hash
    rcases step_refines hash orderly.bounded disciplined.1 disciplined.2 allowed losses stepped with
      unchanged | moved
    · rw [unchanged]
      exact orderly.phase hash
    · exact moved.phase (orderly.phase hash)
  · intro hash
    rcases step_refines hash orderly.bounded disciplined.1 disciplined.2 allowed losses stepped with
      unchanged | moved
    · rw [unchanged]
      exact orderly.balanced hash
    · exact moved.balanced (orderly.phase hash) (orderly.balanced hash)

end XCron.Scheduler
