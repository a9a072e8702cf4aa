import XCron.Scheduler.Fees

/-!
# What the scheduler asks other contracts

An endpoint that asks another contract waits in a frame until the answer is there. Every
frame goes with one query, and a task is put into execution only where no query is left.
-/

namespace XCron.Scheduler

open Platform

variable {chain : Chain} {w next : World} {move : Step}

structure Query where
  receiver : Address
  endpoint : Bytes
  args : List Bytes

def Event.query? : Event → Option Query
  | .syncCall receiver endpoint args => some ⟨receiver, endpoint, args⟩
  | _ => none

def World.queries (w : World) : List Query := w.events.filterMap Event.query?

def JournalEntry.start? : JournalEntry → Option (TaskHash × DispatchPath)
  | .dispatched hash path => some (hash, path)
  | _ => none

def World.starts (w : World) : List (TaskHash × DispatchPath) :=
  w.journal.filterMap JournalEntry.start?

structure Quiet (w next : World) : Prop where
  queries : next.queries = w.queries
  starts : next.starts = w.starts

/-- An endpoint of a frame asks its query and waits. -/
structure Asks (frame : Frame) (query : Query) (w next : World) : Prop where
  frames : next.frames = frame :: w.frames
  queries : next.queries = w.queries ++ [query]
  starts : next.starts = w.starts
  config : next.config = w.config

/-- A task is put into execution. -/
structure Starts (d : Dispatch) (w next : World) : Prop where
  frames : next.frames = w.frames
  queries : next.queries = w.queries
  starts : next.starts = w.starts ++ [(d.taskHash, d.path)]
  record : next.dispatches d.taskHash = some d.toRecord

def marketQuery (xwap : Address) : Query := ⟨xwap, "isSafeToExecute".toUTF8.toList, []⟩

def proofQuery (xsc : Address) (hash : TaskHash) (packedProof : Bytes) : Query :=
  ⟨xsc, "verifyProof".toUTF8.toList, [hash.val, packedProof]⟩

/-- How far the dispatcher gets: it asks the oracle of the trigger, it asks for the market
where the payload wants that and an address is set, or it starts the task. -/
inductive Dispatches (d : Dispatch) (w next : World) : Prop where
  | asksOracle (query : Query) (asks : Asks (.oracle d) query w next)
  | asksMarket (xwap : Address) (configured : w.config.xwapAddress = some xwap)
      (asks : Asks (.xwap d) (marketQuery xwap) w next)
  | starts (unguarded : d.payload.requireXwapSafe = true → w.config.xwapAddress = some Bytes32.zero)
      (starts : Starts d w next)

theorem suspend_asks (frame : Frame) (receiver : Address) (endpoint : Bytes) (args : List Bytes)
    (w : World) : Asks frame ⟨receiver, endpoint, args⟩ w (w.suspend frame receiver endpoint args) := by
  refine ⟨rfl, ?_, rfl, rfl⟩
  exact List.filterMap_append

theorem startExecution_starts (chain : Chain) (d : Dispatch) (w : World) :
    Starts d w (w.startExecution chain d) := by
  refine ⟨rfl, ?_, List.filterMap_append, Function.update_self _ _ _⟩
  by_cases sealed : d.payload.confidential = true
  · have events : (w.startExecution chain d).events =
        w.events ++ [.xsePayloadTriggered d.keeper d.taskHash.val] := if_pos sealed
    rw [World.queries, events, List.filterMap_append]
    exact List.append_nil _
  · have events : (w.startExecution chain d).events = w.events := if_neg sealed
    rw [World.queries, events]
    rfl

theorem dispatchFunded_starts {d : Dispatch} (dispatched : dispatchFunded chain d w = .ok next) :
    Starts d w next := by
  simp only [dispatchFunded, Outcome.bind_eq_ok, Outcome.pure_eq_ok] at dispatched
  obtain ⟨_, _, rfl⟩ := dispatched
  exact startExecution_starts chain d w

theorem dispatchRipe_dispatches {d : Dispatch} (dispatched : dispatchRipe chain d w = .ok next) :
    Dispatches d w next := by
  simp only [dispatchRipe, Outcome.bind_eq_ok] at dispatched
  obtain ⟨_, _, rest⟩ := dispatched
  split at rest
  next guarded =>
    simp only [Outcome.bind_eq_ok, Outcome.load_eq_ok] at rest
    obtain ⟨xwap, configured, rest⟩ := rest
    split at rest
    next known =>
      obtain rfl := (Outcome.pure_eq_ok _ _).mp rest
      exact .asksMarket xwap configured (suspend_asks _ _ _ _ _)
    next unknown =>
      have zero := of_not_not unknown
      exact .starts (fun _ => zero ▸ configured) (dispatchFunded_starts rest)
  next unguarded => exact .starts (fun guarded => absurd guarded unguarded) (dispatchFunded_starts rest)

theorem dispatchTaskExecution_dispatches {d : Dispatch}
    (dispatched : dispatchTaskExecution chain d w = .ok next) : Dispatches d w next := by
  simp only [dispatchTaskExecution, Outcome.bind_eq_ok] at dispatched
  obtain ⟨query, _, rest⟩ := dispatched
  cases query with
  | none => exact dispatchRipe_dispatches rest
  | some query =>
      obtain rfl := (Outcome.pure_eq_ok _ _).mp rest
      exact .asksOracle _ (suspend_asks _ _ _ _ _)

/-- What a step does about frames, queries and starts. -/
inductive Turn (chain : Chain) (w next : World) : Step → Prop where
  | execute {call : CallContext} {payload : Task} {secret : Option Bytes32} {d : Dispatch}
      (quantum : d.path = .quantum) (dispatches : Dispatches d w next) :
      Turn chain w next (.executeQuantumTask call payload secret)
  | prove {call : CallContext} {payload : Task} {packedProof : Bytes} {xsc : Address}
      (configured : w.config.xscAddress = some xsc)
      (asks : Asks (.proof call (taskHash chain payload) payload)
        (proofQuery xsc (taskHash chain payload) packedProof) w next) :
      Turn chain w next (.executeCompressedTask call payload packedProof)
  | settle {call : CallContext} {hash : TaskHash} {zkProof : Bytes} {query : Query}
      {state : QuantumTaskState}
      (asks : Asks (.zkVerifier hash call.caller state) query w next) :
      Turn chain w next (.settleXseTask call hash zkProof)
  | oracleReturns {results : List Bytes} {d : Dispatch} {rest : List Frame}
      (waiting : w.frames = .oracle d :: rest)
      (dispatches : Dispatches d { w with frames := rest } next) :
      Turn chain w next (.syncReturn results)
  | marketReturns {results : List Bytes} {d : Dispatch} {rest : List Frame}
      (waiting : w.frames = .xwap d :: rest) (safe : firstBool results = true)
      (starts : Starts d { w with frames := rest } next) :
      Turn chain w next (.syncReturn results)
  | proofReturns {results : List Bytes} {call : CallContext} {hash : TaskHash} {payload : Task}
      {rest : List Frame} (waiting : w.frames = .proof call hash payload :: rest)
      (proved : firstBool results = true)
      (dispatches : Dispatches (compressedDispatch call hash payload) { w with frames := rest } next) :
      Turn chain w next (.syncReturn results)
  | verifierReturns {results : List Bytes} {hash : TaskHash} {enforcer : Address}
      {state : QuantumTaskState} {rest : List Frame}
      (waiting : w.frames = .zkVerifier hash enforcer state :: rest) (frames : next.frames = rest)
      (quiet : Quiet w next) : Turn chain w next (.syncReturn results)
  | other {move : Step} (own : ∀ results, move ≠ .syncReturn results)
      (frames : next.frames = w.frames) (quiet : Quiet w next) : Turn chain w next move

theorem Dispatches.of_enclave {d : Dispatch} {hash : TaskHash} {payload : Task} {keeper : Address}
    (dispatches : Dispatches d (w.assignEnclave hash payload keeper) next) : Dispatches d w next := by
  cases dispatches with
  | asksOracle query asks =>
      exact .asksOracle query ⟨asks.frames, asks.queries, asks.starts, asks.config⟩
  | asksMarket xwap configured asks =>
      exact .asksMarket xwap configured ⟨asks.frames, asks.queries, asks.starts, asks.config⟩
  | starts unguarded starts =>
      exact .starts unguarded ⟨starts.frames, starts.queries, starts.starts, starts.record⟩

theorem quiet_of_same (events : next.events = w.events) (journal : next.journal = w.journal) :
    Quiet w next := by
  constructor
  · rw [World.queries, events]
    rfl
  · rw [World.starts, journal]
    rfl

theorem quiet_of_event {event : Event} (events : next.events = w.events ++ [event])
    (other : event.query? = none) (journal : next.journal = w.journal) : Quiet w next := by
  constructor
  · rw [World.queries, events, List.filterMap_append, List.filterMap_cons_none other]
    exact List.append_nil _
  · rw [World.starts, journal]
    rfl

theorem quiet_of_entry {event : Event} {entry : JournalEntry}
    (events : next.events = w.events ++ [event]) (other : event.query? = none)
    (journal : next.journal = w.journal ++ [entry]) (closed : entry.start? = none) :
    Quiet w next := by
  constructor
  · rw [World.queries, events, List.filterMap_append, List.filterMap_cons_none other]
    exact List.append_nil _
  · rw [World.starts, journal, List.filterMap_append, List.filterMap_cons_none closed]
    exact List.append_nil _

theorem resume_turn {frame : Frame} {rest : List Frame} {results : List Bytes}
    (waiting : w.frames = frame :: rest)
    (resumed : resume chain frame results { w with frames := rest } = .ok next) :
    Turn chain w next (.syncReturn results) := by
  cases frame with
  | oracle d =>
      simp only [resume, Outcome.bind_eq_ok] at resumed
      obtain ⟨_, _, dispatched⟩ := resumed
      exact .oracleReturns waiting (dispatchRipe_dispatches dispatched)
  | xwap d =>
      simp only [resume, Outcome.bind_eq_ok, Outcome.require_eq_ok] at resumed
      obtain ⟨_, safe, dispatched⟩ := resumed
      exact .marketReturns waiting safe (dispatchFunded_starts dispatched)
  | proof call hash payload =>
      simp only [resume, resumeCompressedTask, Outcome.bind_eq_ok, Outcome.require_eq_ok] at resumed
      obtain ⟨_, proved, dispatched⟩ := resumed
      exact .proofReturns waiting proved (dispatchTaskExecution_dispatches dispatched)
  | zkVerifier hash enforcer state =>
      simp only [resume, Outcome.bind_eq_ok] at resumed
      obtain ⟨_, _, closed⟩ := resumed
      obtain ⟨_, _, rfl⟩ := finalizeSuccessfulExecution_eq_ok.mp closed
      exact .verifierReturns waiting rfl (quiet_of_entry rfl rfl rfl rfl)

theorem step_turn (stepped : step chain w move = .ok next) : Turn chain w next move := by
  cases step_effect stepped with
  | scheduleQuantumTask _ _ taken _ | scheduleSovereignTask _ _ taken _ =>
      refine .other (by rintro _ ⟨⟩) ?_ ?_
      · rcases takeDeposit_cases taken with ⟨_, rfl⟩ | ⟨_, _, _, rfl⟩ <;> rfl
      · rcases takeDeposit_cases taken with ⟨_, rfl⟩ | ⟨_, _, _, rfl⟩ <;>
          exact quiet_of_entry rfl rfl rfl rfl
  | executeQuantumTask =>
      simp only [step, Step.call?, body, Outcome.bind_eq_ok] at stepped
      obtain ⟨_, _, _, unpaid, executed⟩ := stepped
      obtain ⟨noEgld, noEsdt⟩ := notPayable_eq_ok.mp unpaid
      rw [credit_of_noValue w noEgld noEsdt] at executed
      simp only [executeQuantumTask, Outcome.bind_eq_ok] at executed
      obtain ⟨_, _, _, _, _, _, _, _, _, _, _, _, _, _, _, _, dispatched⟩ := executed
      exact .execute rfl (dispatchTaskExecution_dispatches dispatched).of_enclave
  | executeCompressedTask _ configured => exact .prove configured (suspend_asks _ _ _ _ _)
  | awaitSettlement => exact .settle (suspend_asks _ _ _ _ _)
  | settleXseTask _ _ _ _ _ closed =>
      obtain ⟨_, _, rfl⟩ := finalizeSuccessfulExecution_eq_ok.mp closed
      exact .other (by rintro _ ⟨⟩) rfl (quiet_of_entry rfl rfl rfl rfl)
  | syncReturn waiting resumed => exact resume_turn waiting resumed
  | executionCallback _ called =>
      obtain ⟨_, _, ⟨_, _, rfl⟩ | ⟨_, rfl⟩⟩ := executionCallback_ok called
      · exact .other (by rintro _ ⟨⟩) rfl (quiet_of_entry rfl rfl rfl rfl)
      · exact .other (by rintro _ ⟨⟩) rfl (quiet_of_entry rfl rfl rfl rfl)
  | solveIntent | executePreCognitiveLeaf =>
      clear stepped
      rw [World.delivered_eq]
      exact .other (by rintro _ ⟨⟩) rfl (quiet_of_same rfl rfl)
  | solveMultiIntent =>
      clear stepped
      rw [World.delivered_eq]
      exact .other (by rintro _ ⟨⟩) rfl (quiet_of_event rfl rfl rfl)
  | cancelQuantumTask | rescueStuckXseTask =>
      exact .other (by rintro _ ⟨⟩) rfl (quiet_of_entry rfl rfl rfl rfl)
  | triggerXseEnclave | authorizeCloneKey | revokeCloneKey | fundCloneKey =>
      exact .other (by rintro _ ⟨⟩) rfl (quiet_of_event rfl rfl rfl)
  | _ => exact .other (by rintro _ ⟨⟩) rfl (quiet_of_same rfl rfl)

end XCron.Scheduler
