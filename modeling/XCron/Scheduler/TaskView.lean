import XCron.Scheduler.Effects

/-!
# The life of one task

A task is spread over four storage maps, the promises in flight and the
endpoints that wait for a synchronous call. The view of a hash collects all of
it, and `TaskMove` is the machine that one task runs on its own: what any step
of the scheduler can do to a view, provided no endpoint acts on a task while
another one that works on it is waiting.
-/

namespace XCron.Scheduler

open Platform

/-- Everything the world holds about one hash. -/
@[ext]
structure TaskView where
  stored : Option QuantumTaskState
  listedBy : Address → Prop
  enclave : Option Address
  dispatch : Option DispatchRecord
  promises : List Promise
  frames : List Frame
  journal : List JournalEntry

def World.view (w : World) (hash : TaskHash) : TaskView :=
  { stored := w.quantumTasks.get? hash
    listedBy := fun owner => hash ∈ w.ownerTasks owner
    enclave := w.assignedEnclaveKeeper hash
    dispatch := w.dispatches hash
    promises := w.promises.filter fun promise => promise.taskHash = hash
    frames := w.frames.filter fun frame => frame.taskHash = hash
    journal := w.journal.filter fun entry => entry.taskHash = hash }

namespace TaskView

def schedule (hash : TaskHash) (owner : Address) (deposit : Nat) (v : TaskView) : TaskView :=
  { v with
    stored := some { owner := owner, deposit := deposit, status := .pending, executingAt := 0 }
    listedBy := fun other => other = owner ∨ v.listedBy other
    journal := v.journal ++ [.funded hash deposit] }

def push (frame : Frame) (v : TaskView) : TaskView := { v with frames := frame :: v.frames }

def assign (d : Dispatch) (v : TaskView) : TaskView :=
  { v with enclave := if d.payload.confidential then some d.keeper else v.enclave }

def start (chain : Chain) (d : Dispatch) (v : TaskView) : TaskView :=
  { v with
    stored := some d.executingState
    dispatch := some d.toRecord
    journal := v.journal ++ [.dispatched d.taskHash d.path]
    promises := if d.payload.confidential then v.promises else v.promises ++ [d.promise chain] }

def unlist (owner : Address) (entry : JournalEntry) (v : TaskView) : TaskView :=
  { v with
    stored := none
    listedBy := fun other => other ≠ owner ∧ v.listedBy other
    journal := v.journal ++ [entry] }

def close (owner : Address) (entry : JournalEntry) (v : TaskView) : TaskView :=
  { v.unlist owner entry with enclave := none }

end TaskView

namespace World

theorem view_storeTask (w : World) (hash other : TaskHash) (owner : Address) (deposit : Nat) :
    (storeTask hash owner deposit w).view other =
      if other = hash then (w.view other).schedule hash owner deposit else w.view other := by
  by_cases same : other = hash
  · subst same
    ext1
    case listedBy =>
      funext address
      by_cases owned : address = owner
      · subst owned
        simp [view, storeTask, TaskView.schedule]
      · simp [view, storeTask, TaskView.schedule, owned]
    all_goals simp [view, storeTask, TaskView.schedule, JournalEntry.taskHash]
  · rw [if_neg same]
    ext1
    case listedBy =>
      funext address
      by_cases owned : address = owner
      · subst owned
        simp [view, storeTask, same]
      · simp [view, storeTask, owned]
    all_goals simp [view, storeTask, JournalEntry.taskHash, same, Ne.symm same]

theorem view_suspend (w : World) (frame : Frame) (hash : TaskHash) (receiver : Address)
    (endpoint : Bytes) (args : List Bytes) :
    (w.suspend frame receiver endpoint args).view hash =
      if frame.taskHash = hash then (w.view hash).push frame else w.view hash := by
  by_cases same : frame.taskHash = hash
  · rw [if_pos same]
    ext1 <;> simp [view, suspend, emit, TaskView.push, same]
  · rw [if_neg same]
    ext1 <;> simp [view, suspend, emit, same]

theorem view_assignEnclave (w : World) (d : Dispatch) (hash : TaskHash) :
    (w.assignEnclave d.taskHash d.payload d.keeper).view hash =
      if d.taskHash = hash then (w.view hash).assign d else w.view hash := by
  by_cases same : d.taskHash = hash
  · subst same
    rw [if_pos rfl]
    ext1
    case enclave =>
      by_cases sealed : d.payload.confidential = true
      · simp [view, assignEnclave, TaskView.assign, sealed]
      · simp [view, assignEnclave, TaskView.assign, sealed]
    all_goals rfl
  · rw [if_neg same]
    ext1
    case enclave =>
      by_cases sealed : d.payload.confidential = true
      · simp [view, assignEnclave, sealed, Ne.symm same]
      · simp [view, assignEnclave, sealed]
    all_goals rfl

theorem view_startExecution (chain : Chain) (w : World) (d : Dispatch) (hash : TaskHash) :
    (w.startExecution chain d).view hash =
      if d.taskHash = hash then (w.view hash).start chain d else w.view hash := by
  by_cases same : d.taskHash = hash
  · subst same
    rw [if_pos rfl]
    ext1
    case promises =>
      by_cases sealed : d.payload.confidential = true
      · simp [view, startExecution, TaskView.start, sealed]
      · simp [view, startExecution, TaskView.start, sealed, Dispatch.promise]
    all_goals simp [view, startExecution, TaskView.start, JournalEntry.taskHash]
  · rw [if_neg same]
    ext1
    case promises =>
      by_cases sealed : d.payload.confidential = true
      · simp [view, startExecution, sealed]
      · simp [view, startExecution, sealed, Dispatch.promise, same]
    all_goals simp [view, startExecution, JournalEntry.taskHash, same, Ne.symm same]

theorem view_unlistTask (w : World) (hash other : TaskHash) (owner : Address)
    (entry : JournalEntry) (about : entry.taskHash = hash) :
    ((w.unlistTask hash owner).record entry).view other =
      if hash = other then (w.view other).unlist owner entry else w.view other := by
  by_cases same : hash = other
  · subst same
    rw [if_pos rfl]
    ext1
    case listedBy =>
      funext address
      by_cases owned : address = owner
      · subst owned
        simp [view, unlistTask, record, TaskView.unlist]
      · simp [view, unlistTask, record, TaskView.unlist, owned]
    all_goals simp [view, unlistTask, record, TaskView.unlist, about]
  · rw [if_neg same]
    ext1
    case listedBy =>
      funext address
      by_cases owned : address = owner
      · subst owned
        simp [view, unlistTask, record, Ne.symm same]
      · simp [view, unlistTask, record, owned]
    all_goals simp [view, unlistTask, record, about, same, Ne.symm same]

theorem view_dropTask (w : World) (hash other : TaskHash) (owner : Address)
    (entry : JournalEntry) (about : entry.taskHash = hash) :
    ((w.dropTask hash owner).record entry).view other =
      if hash = other then (w.view other).close owner entry else w.view other := by
  have dropped : ((w.dropTask hash owner).record entry).view other =
      { ((w.unlistTask hash owner).record entry).view other with
        enclave := Function.update w.assignedEnclaveKeeper hash none other } := rfl
  rw [dropped, view_unlistTask w hash other owner entry about]
  by_cases same : hash = other
  · subst same
    simp [TaskView.close]
  · simp [same, Ne.symm same, view]

theorem view_cancelled (chain : Chain) (w : World) (hash other : TaskHash)
    (state : QuantumTaskState) :
    (w.cancelled chain hash state).view other =
      if hash = other then (w.view other).unlist state.owner
        (.closed hash .cancelled none 0 (cancellationRefund w state.deposit)
          (protocolFee w state.deposit))
      else w.view other :=
  view_unlistTask w hash other state.owner _ rfl

theorem view_succeeded (chain : Chain) (w : World) (hash other : TaskHash)
    (targetContract keeper : Address) (deposit : Nat) (owner : Address)
    (path : Option DispatchPath) :
    (w.succeeded chain hash targetContract keeper deposit owner path).view other =
      if hash = other then (w.view other).close owner
        (.closed hash (.executed true) path (calculateReward w deposit)
          (remainder deposit (calculateReward w deposit + protocolFee w deposit))
          (protocolFee w deposit))
      else w.view other :=
  view_dropTask w hash other owner _ rfl

theorem view_failed (chain : Chain) (w : World) (hash other : TaskHash)
    (targetContract keeper : Address) (deposit : Nat) (owner : Address)
    (path : Option DispatchPath) :
    (w.failed chain hash targetContract keeper deposit owner path).view other =
      if hash = other then (w.view other).close owner
        (.closed hash (.executed false) path 0 (remainder deposit (protocolFee w deposit))
          (protocolFee w deposit))
      else w.view other :=
  view_dropTask w hash other owner _ rfl

theorem view_rescued (chain : Chain) (w : World) (hash other : TaskHash)
    (state : QuantumTaskState) (keeper : Address) :
    (w.rescued chain hash state keeper).view other =
      if hash = other then (w.view other).close state.owner
        (.closed hash .rescued (w.dispatchPath hash) 0 state.deposit 0)
      else w.view other :=
  view_dropTask w hash other state.owner _ rfl

end World

/-- A dispatch goes as far as its next synchronous call, or it starts. -/
inductive Advances (chain : Chain) (d : Dispatch) (v : TaskView) : TaskView → Prop where
  | oracle : Advances chain d v (v.push (.oracle d))
  | xwap : Advances chain d v (v.push (.xwap d))
  | start : Advances chain d v (v.start chain d)

/-- A compressed payload that the scheduler holds enough for: its hash was never
dispatched this way before, and its deposit is covered by the stored task. -/
def Presentable (hash : TaskHash) (payload : Task) (v : TaskView) : Prop :=
  .dispatched hash .compressed ∉ v.journal ∧
    match v.stored with
    | none => payload.deposit = 0
    | some state => state.status = .pending ∧ payload.deposit ≤ state.deposit

instance (hash : TaskHash) (payload : Task) (v : TaskView) :
    Decidable (Presentable hash payload v) := by
  unfold Presentable
  cases v.stored <;> infer_instance

/-- What a step can do to the view of a task. `loss` says whether a callback may
fault, `compressed` whether compressed tasks may be presented. -/
inductive TaskMove (chain : Chain) (loss compressed : Prop) (hash : TaskHash) :
    TaskView → TaskView → Prop where
  | scheduled {v : TaskView} (owner : Address) (deposit : Nat) (free : v.stored = none) :
      TaskMove chain loss compressed hash v (v.schedule hash owner deposit)
  | cancelled {v : TaskView} (state : QuantumTaskState) (refund fee : Nat) (quiet : v.frames = [])
      (found : v.stored = some state) (pending : state.status = .pending)
      (split : refund + fee = state.deposit) :
      TaskMove chain loss compressed hash v
        (v.unlist state.owner (.closed hash .cancelled none 0 refund fee))
  | dispatched {v next : TaskView} (d : Dispatch) (quiet : v.frames = []) (same : d.taskHash = hash)
      (path : d.path = .quantum) (found : v.stored = some d.state)
      (pending : d.state.status = .pending) (advances : Advances chain d (v.assign d) next) :
      TaskMove chain loss compressed hash v next
  | presented {v : TaskView} (call : CallContext) (payload : Task) (allowed : compressed)
      (quiet : v.frames = []) (presentable : Presentable hash payload v) :
      TaskMove chain loss compressed hash v (v.push (.proof call hash payload))
  | resumed {v next : TaskView} (frame : Frame) (rest : List Frame) (d : Dispatch)
      (waiting : v.frames = frame :: rest) (kind : frame = .oracle d ∨ frame = .xwap d)
      (advances : Advances chain d { v with frames := rest } next) :
      TaskMove chain loss compressed hash v next
  | proved {v next : TaskView} (call : CallContext) (payload : Task) (rest : List Frame)
      (waiting : v.frames = .proof call hash payload :: rest)
      (advances : Advances chain (compressedDispatch call hash payload) { v with frames := rest }
        next) :
      TaskMove chain loss compressed hash v next
  | settling {v : TaskView} (enforcer : Address) (state : QuantumTaskState) (quiet : v.frames = [])
      (found : v.stored = some state) (executing : state.status = .executing)
      (enclave : v.enclave = some enforcer) :
      TaskMove chain loss compressed hash v (v.push (.zkVerifier hash enforcer state))
  | settled {v : TaskView} (state : QuantumTaskState) (enforcer : Address) (reward refund fee : Nat)
      (rest : List Frame)
      (ready : (v.frames = [] ∧ rest = [] ∧ v.stored = some state ∧ state.status = .executing ∧
          v.enclave = some enforcer) ∨ v.frames = .zkVerifier hash enforcer state :: rest)
      (split : reward + refund + fee = state.deposit) :
      TaskMove chain loss compressed hash v
        (({ v with frames := rest } : TaskView).close state.owner
          (.closed hash (.executed true) (v.dispatch.map DispatchRecord.path) reward refund fee))
  | rescued {v : TaskView} (state : QuantumTaskState) (enforcer : Address) (quiet : v.frames = [])
      (found : v.stored = some state) (executing : state.status = .executing)
      (enclave : v.enclave = some enforcer) :
      TaskMove chain loss compressed hash v
        (v.close state.owner
          (.closed hash .rescued (v.dispatch.map DispatchRecord.path) 0 state.deposit 0))
  | calledBack {v : TaskView} (before after : List Promise) (promise : Promise) (success : Bool)
      (state : QuantumTaskState) (reward refund fee : Nat)
      (inFlight : v.promises = before ++ promise :: after) (found : v.stored = some state)
      (split : reward + refund + fee = state.deposit) :
      TaskMove chain loss compressed hash v
        (({ v with promises := before ++ after } : TaskView).close state.owner
          (.closed hash (.executed success) (some promise.path) reward refund fee))
  | lost {v : TaskView} (before after : List Promise) (promise : Promise) (allowed : loss)
      (inFlight : v.promises = before ++ promise :: after) :
      TaskMove chain loss compressed hash v { v with promises := before ++ after }

/-- The task that an endpoint takes up. Scheduling is not in the list: it
refuses a hash that is stored. -/
def Step.actsOn (chain : Chain) : Step → Option TaskHash
  | .cancelQuantumTask _ hash => some hash
  | .executeQuantumTask _ payload _ => some (taskHash chain payload)
  | .executeCompressedTask _ payload _ => some (taskHash chain payload)
  | .settleXseTask _ hash _ => some hash
  | .rescueStuckXseTask _ hash => some hash
  | _ => none

def Step.presents : Step → Option Task
  | .executeCompressedTask _ payload _ => some payload
  | _ => none

/-- No endpoint acts on a task while another one that works on it waits for a
synchronous call. -/
def Guarded (chain : Chain) (w : World) (move : Step) : Prop :=
  ∀ frame ∈ w.frames, move.actsOn chain ≠ some frame.taskHash

instance (chain : Chain) (w : World) (move : Step) : Decidable (Guarded chain w move) :=
  inferInstanceAs (Decidable (∀ frame ∈ w.frames, _))

/-- Compressed payloads are presented only where they are covered. -/
def Covered (chain : Chain) (w : World) (move : Step) : Prop :=
  ∀ payload ∈ move.presents, Presentable (taskHash chain payload) payload
    (w.view (taskHash chain payload))

instance (chain : Chain) (w : World) (move : Step) : Decidable (Covered chain w move) :=
  inferInstanceAs (Decidable (∀ payload ∈ move.presents, _))

theorem Guarded.quiet {chain : Chain} {w : World} {move : Step}
    (guarded : Guarded chain w move) (hash : TaskHash) (acts : move.actsOn chain = some hash) :
    (w.view hash).frames = [] := by
  apply List.filter_eq_nil_iff.mpr
  intro frame waiting same
  apply guarded frame waiting
  rw [acts, of_decide_eq_true same]

section Refinement

variable {chain : Chain} {loss compressed : Prop} {w next : World}

/-- A step leaves a task alone, or makes one move of its machine. -/
def Refines (chain : Chain) (loss compressed : Prop) (w next : World) (hash : TaskHash) : Prop :=
  next.view hash = w.view hash ∨ TaskMove chain loss compressed hash (w.view hash) (next.view hash)

theorem dispatched_advances {d : Dispatch}
    (dispatched : Dispatched chain d w next) :
    Advances chain d (w.view d.taskHash) (next.view d.taskHash) := by
  rcases dispatched with ⟨_, _, rfl⟩ | ⟨_, rfl⟩ | rfl
  · rw [World.view_suspend, if_pos (by rfl)]
    exact .oracle
  · rw [World.view_suspend, if_pos (by rfl)]
    exact .xwap
  · rw [World.view_startExecution, if_pos rfl]
    exact .start

theorem dispatched_frame {d : Dispatch} {hash : TaskHash}
    (dispatched : Dispatched chain d w next) (different : d.taskHash ≠ hash) :
    next.view hash = w.view hash := by
  rcases dispatched with ⟨_, _, rfl⟩ | ⟨_, rfl⟩ | rfl
  · rw [World.view_suspend]
    exact if_neg different
  · rw [World.view_suspend]
    exact if_neg different
  · rw [World.view_startExecution]
    exact if_neg different

theorem dispatched_refines {call : CallContext} {payload : Task} {state : QuantumTaskState}
    {hash : TaskHash} (quiet : (w.view (taskHash chain payload)).frames = [])
    (found : w.quantumTasks.get? (taskHash chain payload) = some state)
    (pending : state.status = .pending)
    (dispatched : Dispatched chain
      ⟨call, taskHash chain payload, payload, call.caller, state, .quantum⟩
      (w.assignEnclave (taskHash chain payload) payload call.caller) next) :
    Refines chain loss compressed w next hash := by
  let d : Dispatch := ⟨call, taskHash chain payload, payload, call.caller, state, .quantum⟩
  by_cases same : d.taskHash = hash
  · subst same
    have advanced := dispatched_advances dispatched
    rw [World.view_assignEnclave w d, if_pos rfl] at advanced
    exact .inr (.dispatched d quiet rfl rfl found pending advanced)
  · have unchanged := dispatched_frame dispatched same
    rw [World.view_assignEnclave w d, if_neg same] at unchanged
    exact .inl unchanged

theorem cancelled_refines {cancelled hash : TaskHash} {state : QuantumTaskState}
    (bounded : w.FeeBounded) (quiet : (w.view cancelled).frames = [])
    (found : w.quantumTasks.get? cancelled = some state) (pending : state.status = .pending) :
    Refines chain loss compressed w (w.cancelled chain cancelled state) hash := by
  unfold Refines
  rw [World.view_cancelled]
  by_cases same : cancelled = hash
  · subst same
    rw [if_pos rfl]
    exact .inr (.cancelled state _ _ quiet found pending (cancellation_split bounded _))
  · exact .inl (if_neg same)

theorem settleVerified_refines {settled hash : TaskHash} {enforcer : Address}
    {state : QuantumTaskState} {w before : World} {rest : List Frame}
    (popped : w.view settled = { before.view settled with frames := rest })
    (others : ∀ other, settled ≠ other → w.view other = before.view other)
    (ready : ((before.view settled).frames = [] ∧ rest = [] ∧
        (before.view settled).stored = some state ∧ state.status = .executing ∧
        (before.view settled).enclave = some enforcer) ∨
      (before.view settled).frames = .zkVerifier settled enforcer state :: rest)
    (bounded : w.FeeBounded) (closed : settleVerified chain settled enforcer state w = .ok next) :
    Refines chain loss compressed before next hash := by
  obtain ⟨_, _, rfl⟩ := finalizeSuccessfulExecution_eq_ok.mp closed
  unfold Refines
  rw [World.view_succeeded]
  by_cases same : settled = hash
  · subst same
    rw [if_pos rfl, popped]
    have path : w.dispatchPath settled = (before.view settled).dispatch.map DispatchRecord.path :=
      congrArg (fun v : TaskView => v.dispatch.map DispatchRecord.path) popped
    rw [path]
    exact .inr (.settled state enforcer _ _ _ rest ready (success_split bounded state.deposit))
  · rw [if_neg same]
    exact .inl (others hash same)

theorem view_pop {frame : Frame} {rest : List Frame} (waiting : w.frames = frame :: rest) :
    (w.view frame.taskHash).frames = frame :: ({ w with frames := rest }.view frame.taskHash).frames ∧
      ∀ other, frame.taskHash ≠ other → { w with frames := rest }.view other = w.view other := by
  constructor
  · simp [World.view, waiting]
  · intro other different
    ext1
    case frames => simp [World.view, waiting, different]
    all_goals rfl

theorem resume_refines {frame : Frame} {rest : List Frame} {results : List Bytes} {hash : TaskHash}
    (bounded : w.FeeBounded) (waiting : w.frames = frame :: rest)
    (resumed : resume chain frame results { w with frames := rest } = .ok next) :
    Refines chain loss compressed w next hash := by
  obtain ⟨top, others⟩ := view_pop waiting
  rcases resume_ok resumed with ⟨d, kind, dispatched⟩ | ⟨call, about, payload, rfl, dispatched⟩ |
    ⟨settled, enforcer, state, rfl, closed⟩
  · have about : frame.taskHash = d.taskHash := by
      rcases kind with rfl | rfl <;> rfl
    rw [about] at top others
    by_cases same : d.taskHash = hash
    · subst same
      exact .inr (.resumed frame _ d top kind (dispatched_advances dispatched))
    · exact .inl ((dispatched_frame dispatched same).trans (others hash same))
  · by_cases same : about = hash
    · subst same
      exact .inr (.proved call payload _ top (dispatched_advances dispatched))
    · exact .inl ((dispatched_frame dispatched same).trans (others hash same))
  · have popped : { w with frames := rest }.view settled =
        { w.view settled with frames := ({ w with frames := rest }.view settled).frames } := rfl
    exact settleVerified_refines popped others (.inr top) bounded closed

theorem view_spend {index : Nat} {promise : Promise} (inFlight : w.promises[index]? = some promise) :
    (∃ before after, (w.view promise.taskHash).promises = before ++ promise :: after ∧
        { w with promises := w.promises.eraseIdx index }.view promise.taskHash =
          { w.view promise.taskHash with promises := before ++ after }) ∧
      ∀ other, promise.taskHash ≠ other →
        { w with promises := w.promises.eraseIdx index }.view other = w.view other := by
  obtain ⟨within, found⟩ := List.getElem?_eq_some_iff.mp inFlight
  have whole : w.promises = w.promises.take index ++ promise :: w.promises.drop (index + 1) := by
    rw [← found, List.getElem_cons_drop, List.take_append_drop]
  have shorter : w.promises.eraseIdx index =
      w.promises.take index ++ w.promises.drop (index + 1) := List.eraseIdx_eq_take_drop_succ ..
  constructor
  · refine ⟨(w.promises.take index).filter fun other => other.taskHash = promise.taskHash,
      (w.promises.drop (index + 1)).filter fun other => other.taskHash = promise.taskHash, ?_, ?_⟩
    · have filtered := congrArg
        (List.filter fun other : Promise => decide (other.taskHash = promise.taskHash)) whole
      simpa [World.view] using filtered
    · simp [World.view, shorter]
  · intro other different
    have filtered := congrArg
      (List.filter fun one : Promise => decide (one.taskHash = other)) whole
    ext1
    case promises => simpa [World.view, shorter, different] using filtered.symm
    all_goals rfl

theorem executionCallback_refines {index : Nat} {promise : Promise} {success : Bool}
    {hash : TaskHash} (bounded : w.FeeBounded) (inFlight : w.promises[index]? = some promise)
    (called : executionCallback chain promise success
      { w with promises := w.promises.eraseIdx index } = .ok next) :
    Refines chain loss compressed w next hash := by
  obtain ⟨⟨before, after, split, spent⟩, others⟩ := view_spend inFlight
  obtain ⟨state, found, ended⟩ := executionCallback_ok called
  have closes : ∀ reward refund fee, reward + refund + fee = state.deposit →
      (∀ other, next.view other = if promise.taskHash = other then
        ({ w with promises := w.promises.eraseIdx index }.view other).close state.owner
          (.closed promise.taskHash (.executed success) (some promise.path) reward refund fee)
        else { w with promises := w.promises.eraseIdx index }.view other) →
      Refines chain loss compressed w next hash := by
    intro reward refund fee exact_split views
    unfold Refines
    rw [views hash]
    by_cases same : promise.taskHash = hash
    · subst same
      rw [if_pos rfl, spent]
      exact .inr (.calledBack before after promise success state reward refund fee split found
        exact_split)
    · rw [if_neg same]
      exact .inl (others hash same)
  rcases ended with ⟨rfl, _, rfl⟩ | ⟨rfl, rfl⟩
  · exact closes _ _ _ (success_split bounded state.deposit)
      (fun other => World.view_succeeded ..)
  · refine closes 0 _ _ ?_ (fun other => World.view_failed ..)
    rw [Nat.zero_add]
    exact failure_split bounded state.deposit

theorem takeDeposit_view {call : CallContext} {requested : Option Nat} {deposit : Nat}
    (taken : takeDeposit call requested w = .ok (deposit, next)) (hash : TaskHash) :
    next.view hash = w.view hash := by
  rcases takeDeposit_cases taken with ⟨_, rfl⟩ | ⟨_, _, _, rfl⟩ <;> rfl

theorem storeTask_refines {paid : World} {stored hash : TaskHash} {owner : Address} {deposit : Nat}
    (same : ∀ other, paid.view other = w.view other) (free : paid.quantumTasks.get? stored = none) :
    Refines chain loss compressed w (storeTask stored owner deposit paid) hash := by
  unfold Refines
  rw [World.view_storeTask, same hash]
  by_cases about : hash = stored
  · subst about
    rw [if_pos rfl]
    refine .inr (.scheduled owner deposit ?_)
    rw [← same hash]
    exact free
  · exact .inl (if_neg about)

/-- One step of the scheduler is at most one move of each task. -/
theorem step_refines {move : Step} (hash : TaskHash) (bounded : w.FeeBounded)
    (guarded : Guarded chain w move) (covered : Covered chain w move)
    (allowed : move.presents ≠ none → compressed)
    (losses : ∀ index success promise fault, move = .executionCallback index success →
      w.promises[index]? = some promise →
      executionCallback chain promise success
        { w with promises := w.promises.eraseIdx index } = .error fault → loss)
    (stepped : step chain w move = .ok next) :
    Refines chain loss compressed w next hash := by
  cases step_effect stepped with
  | scheduleQuantumTask _ _ taken free =>
      exact storeTask_refines (fun other => takeDeposit_view taken other) free
  | scheduleSovereignTask _ _ taken free =>
      exact storeTask_refines (fun other => takeDeposit_view taken other) free
  | cancelQuantumTask _ found _ pending _ =>
      exact cancelled_refines bounded (guarded.quiet _ rfl) found pending
  | executeQuantumTask _ found pending _ dispatched =>
      exact dispatched_refines (guarded.quiet _ rfl) found pending dispatched
  | @executeCompressedTask call payload _ _ _ _ _ _ =>
      have quiet := guarded.quiet (taskHash chain payload) rfl
      unfold Refines
      rw [World.view_suspend]
      by_cases same : taskHash chain payload = hash
      · subst same
        rw [if_pos (by rfl)]
        exact .inr (.presented call payload (allowed (by simp [Step.presents])) quiet
          (covered payload rfl))
      · exact .inl (if_neg same)
  | @awaitSettlement call settled _ state _ _ found executing enclave _ =>
      have quiet := guarded.quiet settled rfl
      unfold Refines
      rw [World.view_suspend]
      by_cases same : settled = hash
      · subst same
        rw [if_pos (by rfl)]
        exact .inr (.settling call.caller state quiet found executing enclave)
      · exact .inl (if_neg same)
  | @settleXseTask _ settled _ _ _ _ found executing enclave _ closed =>
      have quiet := guarded.quiet settled rfl
      have unmoved : w.view settled = { w.view settled with frames := [] } := by
        rw [← quiet]
      exact settleVerified_refines unmoved (fun _ _ => rfl)
        (.inl ⟨quiet, rfl, found, executing, enclave⟩) bounded closed
  | @rescueStuckXseTask _ rescued state keeper _ found executing _ enclave _ =>
      have quiet := guarded.quiet rescued rfl
      unfold Refines
      rw [World.view_rescued]
      by_cases same : rescued = hash
      · subst same
        rw [if_pos rfl]
        exact .inr (.rescued state keeper quiet found executing enclave)
      · exact .inl (if_neg same)
  | syncReturn waiting resumed => exact resume_refines bounded waiting resumed
  | executionCallback inFlight called => exact executionCallback_refines bounded inFlight called
  | @callbackFault _ _ promise _ inFlight faulted =>
      obtain ⟨⟨before, after, split, spent⟩, others⟩ := view_spend inFlight
      by_cases same : promise.taskHash = hash
      · subst same
        unfold Refines
        rw [spent]
        exact .inr (.lost before after promise (losses _ _ _ _ rfl inFlight faulted) split)
      · exact .inl (others hash same)
  | solveIntent | solveMultiIntent | executePreCognitiveLeaf =>
      refine .inl ?_
      rw [World.delivered_eq]
      rfl
  | _ => exact .inl rfl

end Refinement

end XCron.Scheduler
