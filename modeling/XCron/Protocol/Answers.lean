import XCron.Scheduler.Queries
import XCron.Xsc.Core
import XCron.Xwap.Safety
import XCron.ZkVerifier.Contract

/-!
# Answers to the scheduler

The scheduler asks the price oracle whether the market is safe, and the compression
contract whether it knows a task. Both calls are synchronous: the contract that is asked
answers before anything else can happen. Any other contract that is asked, such as the
oracle of a trigger, may do as it likes before it answers, and answer what it likes.
-/

namespace XCron.Protocol

open Platform
open Scheduler (Query Frame Dispatch DispatchRecord)

/-! ## The three contracts -/

structure System where
  scheduler : Scheduler.World
  oracle : Xwap.World
  core : Xsc.Core
  pending : List Query

structure Sites where
  scheduler : Chain
  core : Chain
  oracle : Address

inductive Move where
  | scheduler (move : Scheduler.Step)
  | oracle (move : Xwap.Step)
  | core (move : Xsc.Step)
  | answer (block : UInt64)

def System.answer? (sites : Sites) (block : UInt64) (query : Query) (s : System) :
    Option (Outcome (List Bytes)) :=
  if query.receiver = sites.oracle ∧ query.endpoint = "isSafeToExecute".toUTF8.toList then
    some (.ok [ZkVerifier.finishBool (Xwap.isSafeToExecute block s.oracle)])
  else if query.receiver = sites.core.scAddress ∧ query.endpoint = "verifyProof".toUTF8.toList then
    match query.args with
    | [leaf, packedProof] => some do
        let proved ← Xsc.verifyProof sites.core leaf packedProof s.core
        pure [ZkVerifier.finishBool proved]
    | _ => some (.error .rejected)
  else none

def System.answering (sites : Sites) (s : System) : Bool :=
  match s.pending with
  | [] => false
  | query :: _ => (s.answer? sites 0 query).isSome

/-- The scheduler has moved on. Queries that were just made are open, and the one whose
answer has come is not. -/
def System.follow (returned : Bool) (scheduler : Scheduler.World) (s : System) : System :=
  { s with
    scheduler := scheduler
    pending := (scheduler.queries.drop s.scheduler.queries.length).reverse ++
      if returned then s.pending.tail else s.pending }

def returns : Scheduler.Step → Bool
  | .syncReturn _ => true
  | _ => false

theorem returns_other {own : Scheduler.Step} (other : ∀ results, own ≠ .syncReturn results) :
    returns own = false := by
  unfold returns
  split
  next results => exact absurd rfl (other results)
  next => rfl

def System.step (sites : Sites) (s : System) : Move → Outcome System
  | .scheduler move => do
      ensure (s.answering sites = false)
      let scheduler ← Scheduler.step sites.scheduler s.scheduler move
      pure (s.follow (returns move) scheduler)
  | .oracle move => do
      ensure (s.answering sites = false)
      let oracle ← Xwap.step s.oracle move
      pure { s with oracle := oracle }
  | .core move => do
      ensure (s.answering sites = false)
      let core ← Xsc.step sites.core s.core move
      pure { s with core := core }
  | .answer block =>
      match s.pending with
      | [] => .error .rejected
      | query :: _ =>
          match s.answer? sites block query with
          | none => .error .rejected
          | some outcome => do
              let results ← outcome
              let scheduler ← Scheduler.step sites.scheduler s.scheduler (.syncReturn results)
              pure (s.follow true scheduler)

/-- The owner of the scheduler points it to these contracts only. -/
def Wired (sites : Sites) (_ : System) : Move → Prop
  | .scheduler (.configure _ (.setXwapAddress addr)) => addr = sites.oracle
  | .scheduler (.configure _ (.setXscAddress addr)) => addr = sites.core.scAddress
  | _ => True

def Started (before after : Scheduler.World) (hash : TaskHash) (record : DispatchRecord) : Prop :=
  after.starts = before.starts ++ [(hash, record.path)] ∧ after.dispatches hash = some record

/-! ## Frames and queries -/

variable {sites : Sites} {s next : System} {move : Move}

/-- What a frame of the scheduler has asked. -/
def Asked (sites : Sites) : Frame → Query → Prop
  | .xwap _, query => query = Scheduler.marketQuery sites.oracle
  | .proof _ hash payload, query =>
      hash = Scheduler.taskHash sites.scheduler payload ∧
        ∃ packedProof, query = Scheduler.proofQuery sites.core.scAddress hash packedProof
  | _, _ => True

/-- The scheduler knows these contracts only, and every frame waits for its query. -/
structure System.Connected (sites : Sites) (s : System) : Prop where
  market : ∀ xwap, s.scheduler.config.xwapAddress = some xwap → xwap = sites.oracle
  proofs : ∀ xsc, s.scheduler.config.xscAddress = some xsc → xsc = sites.core.scAddress
  asked : List.Forall₂ (Asked sites) s.scheduler.frames s.pending

/-- The latest frame waits for the latest query. -/
theorem System.Connected.first {frame : Frame} {rest : List Frame} (connected : s.Connected sites)
    (waiting : s.scheduler.frames = frame :: rest) :
    ∃ query queries, Asked sites frame query ∧ List.Forall₂ (Asked sites) rest queries ∧
      s.pending = query :: queries := by
  have asked := connected.asked
  rw [waiting] at asked
  exact List.forall₂_cons_left_iff.mp asked

/-- The system's contracts have approved of what a frame waits for. -/
def Approved (sites : Sites) (s : System) (move : Move) : Frame → Prop
  | .xwap _ => ∃ block, move = .answer block ∧ Xwap.isSafeToExecute block s.oracle = true
  | .proof _ hash _ => ∃ block siblings, move = .answer block ∧
      (Xsc.pathRoot sites.core hash siblings).val = s.core.merkleRoot
  | _ => True

theorem answer?_market (block : UInt64) (s : System) :
    s.answer? sites block (Scheduler.marketQuery sites.oracle) =
      some (.ok [ZkVerifier.finishBool (Xwap.isSafeToExecute block s.oracle)]) :=
  if_pos ⟨rfl, rfl⟩

theorem answer?_proof (block : UInt64) (hash : TaskHash) (packedProof : Bytes) (s : System) :
    s.answer? sites block (Scheduler.proofQuery sites.core.scAddress hash packedProof) = some (do
      let proved ← Xsc.verifyProof sites.core hash.val packedProof s.core
      pure [ZkVerifier.finishBool proved]) := by
  have other : "verifyProof".toUTF8.toList ≠ "isSafeToExecute".toUTF8.toList := by decide +kernel
  unfold System.answer?
  rw [if_neg (fun asked => other asked.2), if_pos ⟨rfl, rfl⟩]
  rfl

theorem firstBool_finishBool (value : Bool) :
    Scheduler.firstBool [ZkVerifier.finishBool value] = value := by
  cases value <;> decide

theorem answering_iff {query : Query} {rest : List Query} (pending : s.pending = query :: rest) :
    s.answering sites = (s.answer? sites 0 query).isSome := by
  unfold System.answering
  rw [pending]

theorem approved_of_idle {frame : Frame} {query : Query} {rest : List Query}
    (pending : s.pending = query :: rest) (idle : s.answering sites = false)
    (asked : Asked sites frame query) : Approved sites s move frame := by
  rw [answering_iff pending] at idle
  cases frame with
  | xwap d =>
      obtain rfl : query = _ := asked
      rw [answer?_market] at idle
      cases idle
  | proof call hash payload =>
      obtain ⟨_, packedProof, rfl⟩ := asked
      rw [answer?_proof] at idle
      cases idle
  | oracle d => trivial
  | zkVerifier hash enforcer state => trivial

theorem answer_approved {block : UInt64} {frame : Frame} {query : Query}
    {outcome : Outcome (List Bytes)} {results : List Bytes}
    (asked : Asked sites frame query) (answered : s.answer? sites block query = some outcome)
    (returned : outcome = .ok results) (positive : Scheduler.firstBool results = true) :
    Approved sites s (.answer block) frame := by
  cases frame with
  | xwap d =>
      obtain rfl : query = _ := asked
      rw [answer?_market] at answered
      obtain rfl := Option.some.inj answered
      obtain rfl := Except.ok.inj returned
      rw [firstBool_finishBool] at positive
      exact ⟨block, rfl, positive⟩
  | proof call hash payload =>
      obtain ⟨_, packedProof, rfl⟩ := asked
      rw [answer?_proof] at answered
      obtain rfl := Option.some.inj answered
      simp only [Outcome.bind_eq_ok, Outcome.pure_eq_ok] at returned
      obtain ⟨proved, verified, rfl⟩ := returned
      rw [firstBool_finishBool] at positive
      subst positive
      obtain ⟨siblings, _, root⟩ := Xsc.accepted_root verified
      exact ⟨block, siblings, rfl, root⟩
  | oracle d => trivial
  | zkVerifier hash enforcer state => trivial

/-! ## Steps -/

/-- The scheduler moves on: by a step of its own, or with an answer that it gets. -/
structure Advances (sites : Sites) (s next : System) (move : Move) (own : Scheduler.Step) :
    Prop where
  stepped : Scheduler.step sites.scheduler s.scheduler own = .ok next.scheduler
  pending : next.pending = (s.follow (returns own) next.scheduler).pending
  configures : ∀ call change, own = .configure call change → move = .scheduler own
  approved : ∀ results frame rest, own = .syncReturn results →
    Scheduler.firstBool results = true → s.scheduler.frames = frame :: rest →
    Approved sites s move frame

/-- A step of the system moves the scheduler on, or it leaves the scheduler alone. -/
theorem step_cases (connected : s.Connected sites) (stepped : s.step sites move = .ok next) :
    (∃ own, Advances sites s next move own) ∨
      next.scheduler = s.scheduler ∧ next.pending = s.pending := by
  cases move with
  | scheduler own =>
      simp only [System.step, Outcome.bind_eq_ok, Outcome.ensure_eq_ok, Outcome.pure_eq_ok] at stepped
      obtain ⟨_, idle, scheduler, stepped, rfl⟩ := stepped
      refine .inl ⟨own, stepped, rfl, fun _ _ _ => rfl, ?_⟩
      intro results frame rest _ _ waiting
      obtain ⟨query, queries, asked, _, pending⟩ := connected.first waiting
      exact approved_of_idle pending idle asked
  | oracle own =>
      simp only [System.step, Outcome.bind_eq_ok, Outcome.pure_eq_ok] at stepped
      obtain ⟨_, _, oracle, _, rfl⟩ := stepped
      exact .inr ⟨rfl, rfl⟩
  | core own =>
      simp only [System.step, Outcome.bind_eq_ok, Outcome.pure_eq_ok] at stepped
      obtain ⟨_, _, core, _, rfl⟩ := stepped
      exact .inr ⟨rfl, rfl⟩
  | answer block =>
      simp only [System.step] at stepped
      split at stepped
      next => cases stepped
      next query queries pending =>
        split at stepped
        next => cases stepped
        next outcome answered =>
          simp only [Outcome.bind_eq_ok, Outcome.pure_eq_ok] at stepped
          obtain ⟨results, returned, scheduler, stepped, rfl⟩ := stepped
          refine .inl ⟨.syncReturn results, stepped, rfl, by rintro _ _ ⟨⟩, ?_⟩
          rintro results frame rest ⟨⟩ positive waiting
          obtain ⟨query', _, asked, _, pending'⟩ := connected.first waiting
          obtain ⟨rfl, _⟩ := List.cons.inj (pending.symm.trans pending')
          exact answer_approved asked answered returned positive

def Known (sites : Sites) (c : Scheduler.Config) : Prop :=
  (∀ xwap, c.xwapAddress = some xwap → xwap = sites.oracle) ∧
    ∀ xsc, c.xscAddress = some xsc → xsc = sites.core.scAddress

theorem known_apply {c c' : Scheduler.Config} {call : CallContext} {change : Scheduler.ConfigCall}
    (wired : Wired sites s (.scheduler (.configure call change))) (applied : c.apply change = .ok c')
    (known : Known sites c) : Known sites c' := by
  cases change with
  | setXwapAddress addr =>
      obtain rfl := (Outcome.pure_eq_ok _ _).mp applied
      refine ⟨?_, known.2⟩
      rintro _ ⟨⟩
      exact wired
  | setXscAddress addr =>
      obtain rfl := (Outcome.pure_eq_ok _ _).mp applied
      refine ⟨known.1, ?_⟩
      rintro _ ⟨⟩
      exact wired
  | setProtocolFeeBps value =>
      simp only [Scheduler.Config.apply, Outcome.bind_eq_ok, Outcome.pure_eq_ok] at applied
      obtain ⟨_, _, rfl⟩ := applied
      exact known
  | removeWhitelistedKeeper keeper =>
      simp only [Scheduler.Config.apply, Outcome.bind_eq_ok, Outcome.pure_eq_ok] at applied
      obtain ⟨_, _, _, _, rfl⟩ := applied
      exact known
  | _ =>
      obtain rfl := (Outcome.pure_eq_ok _ _).mp applied
      exact known

variable {own : Scheduler.Step}

theorem Advances.known (advances : Advances sites s next move own) (wired : Wired sites s move)
    (known : Known sites s.scheduler.config) : Known sites next.scheduler.config := by
  rcases Scheduler.step_config advances.stepped with ⟨call, change, rfl, _, applied⟩ | same
  · rw [advances.configures call change rfl] at wired
    exact known_apply wired applied known
  · unfold Known
    rw [same]
    exact known

theorem asked_push {d : Dispatch} {before : Scheduler.World} {pending : List Query}
    (known : Known sites before.config) (dispatches : Scheduler.Dispatches d before next.scheduler)
    (asked : List.Forall₂ (Asked sites) before.frames pending)
    (follows : ∀ queries, next.scheduler.queries = before.queries ++ queries →
      next.pending = queries.reverse ++ pending) :
    List.Forall₂ (Asked sites) next.scheduler.frames next.pending := by
  cases dispatches with
  | asksOracle query asks =>
      rw [asks.frames, follows _ asks.queries]
      exact .cons trivial asked
  | asksMarket xwap configured asks =>
      rw [asks.frames, follows _ asks.queries]
      have same : xwap = sites.oracle := known.1 xwap configured
      exact .cons (congrArg Scheduler.marketQuery same) asked
  | starts unguarded starts =>
      rw [starts.frames, follows [] (starts.queries.trans (List.append_nil _).symm)]
      exact asked

theorem Advances.asked (advances : Advances sites s next move own)
    (connected : s.Connected sites) :
    List.Forall₂ (Asked sites) next.scheduler.frames next.pending := by
  have asked := connected.asked
  have known : Known sites s.scheduler.config := ⟨connected.market, connected.proofs⟩
  have follows : ∀ queries, next.scheduler.queries = s.scheduler.queries ++ queries →
      next.pending = queries.reverse ++ if returns own then s.pending.tail else s.pending := by
    intro queries asks
    rw [advances.pending]
    unfold System.follow
    rw [asks, List.drop_left]
  have popped : ∀ {frame : Frame} {rest : List Frame}, s.scheduler.frames = frame :: rest →
      List.Forall₂ (Asked sites) rest s.pending.tail := by
    intro frame rest waiting
    obtain ⟨_, _, _, later, pending⟩ := connected.first waiting
    rw [pending]
    exact later
  cases Scheduler.step_turn advances.stepped with
  | execute _ dispatches => exact asked_push known dispatches asked follows
  | prove configured asks =>
      rw [asks.frames, follows _ asks.queries]
      obtain rfl := connected.proofs _ configured
      exact .cons ⟨rfl, _, rfl⟩ asked
  | settle asks =>
      rw [asks.frames, follows _ asks.queries]
      exact .cons trivial asked
  | @oracleReturns _ _ rest waiting dispatches | @proofReturns _ _ _ _ rest waiting _ dispatches =>
      have known' : Known sites { s.scheduler with frames := rest }.config := known
      have asked' := popped waiting
      exact asked_push known' dispatches asked' follows
  | marketReturns waiting _ starts =>
      rw [starts.frames, follows [] (starts.queries.trans (List.append_nil _).symm)]
      exact popped waiting
  | verifierReturns waiting frames quiet =>
      rw [frames, follows [] (quiet.queries.trans (List.append_nil _).symm)]
      exact popped waiting
  | other other frames quiet =>
      rw [frames, follows [] (quiet.queries.trans (List.append_nil _).symm), returns_other other]
      exact asked

theorem System.Connected.step (connected : s.Connected sites) (wired : Wired sites s move)
    (stepped : s.step sites move = .ok next) : next.Connected sites := by
  have known : Known sites s.scheduler.config := ⟨connected.market, connected.proofs⟩
  rcases step_cases connected stepped with ⟨own, advances⟩ | ⟨scheduler, pending⟩
  · obtain ⟨market, proofs⟩ := advances.known wired known
    exact ⟨market, proofs, advances.asked connected⟩
  · constructor
    · rw [scheduler]
      exact connected.market
    · rw [scheduler]
      exact connected.proofs
    · rw [scheduler, pending]
      exact connected.asked

/-! ## Runs -/

/-- A run in which the owner of the scheduler points it to these contracts only. -/
abbrev Run (sites : Sites) : System → List Move → System → Prop :=
  Trace (System.step sites) (Wired sites)

/-- At some time of the run the compression contract held the root of a tree that a path
leads to from the task. -/
def Vouched (sites : Sites) (start : System) (moves : List Move) (hash : TaskHash) : Prop :=
  ∃ past block rest earlier siblings, moves = past ++ .answer block :: rest ∧
    Run sites start past earlier ∧
    (Xsc.pathRoot sites.core hash siblings).val = earlier.core.merkleRoot

/-- A dispatch through `executeCompressedTask` is of a task that has been vouched for. -/
def Covered (sites : Sites) (start : System) (moves : List Move) (d : Dispatch) : Prop :=
  d.path = .compressed →
    d.taskHash = Scheduler.taskHash sites.scheduler d.payload ∧
      Vouched sites start moves d.taskHash

/-- Every dispatch that waits for an answer is covered. -/
def FramesCovered (sites : Sites) (start : System) (moves : List Move) (s : System) : Prop :=
  ∀ d, .oracle d ∈ s.scheduler.frames ∨ .xwap d ∈ s.scheduler.frames →
    Covered sites start moves d

variable {start : System} {moves : List Move} {d : Dispatch}

theorem Vouched.mono {hash : TaskHash} (vouched : Vouched sites start moves hash)
    (later : List Move) : Vouched sites start (moves ++ later) hash := by
  obtain ⟨past, block, rest, earlier, siblings, rfl, run, root⟩ := vouched
  exact ⟨past, block, rest ++ later, earlier, siblings, by simp, run, root⟩

theorem Covered.mono (covered : Covered sites start moves d) (later : List Move) :
    Covered sites start (moves ++ later) d := by
  intro compressed
  obtain ⟨digest, vouched⟩ := covered compressed
  exact ⟨digest, vouched.mono later⟩

/-- A dispatch that waits for an answer has been covered before. -/
theorem covered_push {before after : Scheduler.World} {longer : List Move}
    (dispatches : Scheduler.Dispatches d before after) (covered : Covered sites start longer d)
    (rest : ∀ d, .oracle d ∈ before.frames ∨ .xwap d ∈ before.frames →
      Covered sites start longer d) :
    ∀ d, .oracle d ∈ after.frames ∨ .xwap d ∈ after.frames → Covered sites start longer d := by
  intro other waits
  cases dispatches with
  | asksOracle query asks =>
      simp only [asks.frames, List.mem_cons, Frame.oracle.injEq, reduceCtorEq, false_or] at waits
      rcases waits with (rfl | waits) | waits
      · exact covered
      · exact rest other (.inl waits)
      · exact rest other (.inr waits)
  | asksMarket xwap configured asks =>
      simp only [asks.frames, List.mem_cons, Frame.xwap.injEq, reduceCtorEq, false_or] at waits
      rcases waits with waits | rfl | waits
      · exact rest other (.inl waits)
      · exact covered
      · exact rest other (.inr waits)
  | starts unguarded starts =>
      rw [starts.frames] at waits
      exact rest other waits

/-- What a step of the scheduler makes of a dispatch, if it has one at hand. -/
inductive Handles (sites : Sites) (start : System) (longer : List Move) (s next : System)
    (move : Move) : Prop where
  | dispatches {d : Dispatch} {before : Scheduler.World}
      (dispatches : Scheduler.Dispatches d before next.scheduler)
      (covered : Covered sites start longer d) (frames : before.frames ⊆ s.scheduler.frames)
      (config : before.config = s.scheduler.config) (starts : before.starts = s.scheduler.starts)
  | approved {d : Dispatch} {before : Scheduler.World}
      (starts : Scheduler.Starts d before next.scheduler)
      (covered : Covered sites start longer d) (frames : before.frames ⊆ s.scheduler.frames)
      (unchanged : before.starts = s.scheduler.starts)
      (safe : ∃ block, move = .answer block ∧ Xwap.isSafeToExecute block s.oracle = true)
  | nothing (starts : next.scheduler.starts = s.scheduler.starts)
      (frames : ∀ d, .oracle d ∈ next.scheduler.frames ∨ .xwap d ∈ next.scheduler.frames →
        .oracle d ∈ s.scheduler.frames ∨ .xwap d ∈ s.scheduler.frames)

theorem Advances.handles (advances : Advances sites s next move own)
    (connected : s.Connected sites) (run : Run sites start moves s)
    (covered : FramesCovered sites start moves s) :
    Handles sites start (moves ++ [move]) s next move := by
  have fewer : ∀ {frame : Frame} {rest : List Frame}, s.scheduler.frames = frame :: rest →
      rest ⊆ s.scheduler.frames := by
    intro frame rest waiting
    rw [waiting]
    exact List.subset_cons_self _ _
  cases Scheduler.step_turn advances.stepped with
  | execute quantum dispatches =>
      refine .dispatches dispatches ?_ (List.Subset.refl _) rfl rfl
      intro compressed
      cases quantum.symm.trans compressed
  | prove _ asks =>
      refine .nothing asks.starts ?_
      intro d waits
      simpa [asks.frames] using waits
  | settle asks =>
      refine .nothing asks.starts ?_
      intro d waits
      simpa [asks.frames] using waits
  | oracleReturns waiting dispatches =>
      have waits : .oracle _ ∈ s.scheduler.frames := waiting ▸ List.mem_cons_self
      have sub := fewer waiting
      exact .dispatches dispatches ((covered _ (.inl waits)).mono _) sub rfl rfl
  | marketReturns waiting positive starts =>
      have waits : .xwap _ ∈ s.scheduler.frames := waiting ▸ List.mem_cons_self
      have safe := advances.approved _ _ _ rfl positive waiting
      have sub := fewer waiting
      exact .approved starts ((covered _ (.inr waits)).mono _) sub rfl safe
  | @proofReturns results call hash payload rest waiting positive dispatches =>
      have sub := fewer waiting
      refine .dispatches dispatches ?_ sub rfl rfl
      obtain ⟨block, siblings, rfl, root⟩ := advances.approved _ _ _ rfl positive waiting
      obtain ⟨_, _, asked, _, _⟩ := connected.first waiting
      intro _
      exact ⟨asked.1, moves, block, [], s, siblings, rfl, run, root⟩
  | verifierReturns waiting frames quiet =>
      refine .nothing quiet.starts ?_
      intro d waits
      rw [frames] at waits
      have sub := fewer waiting
      exact waits.imp (fun member => sub member) fun member => sub member
  | other _ frames quiet =>
      refine .nothing quiet.starts ?_
      intro d waits
      rwa [frames] at waits

theorem Handles.framesCovered {longer : List Move} (handles : Handles sites start longer s next move)
    (covered : FramesCovered sites start longer s) : FramesCovered sites start longer next := by
  cases handles with
  | dispatches dispatches fresh frames _ _ =>
      exact covered_push dispatches fresh fun d waits =>
        covered d (waits.imp (fun member => frames member) fun member => frames member)
  | approved starts _ frames _ _ =>
      intro d waits
      rw [starts.frames] at waits
      exact covered d (waits.imp (fun member => frames member) fun member => frames member)
  | nothing _ frames => exact fun d waits => covered d (frames d waits)

theorem not_started (quiet : next.scheduler.starts = s.scheduler.starts) {hash : TaskHash}
    {record : DispatchRecord} : ¬Started s.scheduler next.scheduler hash record := by
  rintro ⟨starts, _⟩
  rw [quiet] at starts
  simp at starts

theorem started_eq {before : Scheduler.World} {hash : TaskHash} {record : DispatchRecord}
    (unchanged : before.starts = s.scheduler.starts) (starts : Scheduler.Starts d before next.scheduler)
    (started : Started s.scheduler next.scheduler hash record) :
    d.taskHash = hash ∧ d.toRecord = record := by
  obtain ⟨listed, stored⟩ := started
  rw [starts.starts, unchanged, List.append_cancel_left_eq, List.cons.injEq, Prod.mk.injEq] at listed
  obtain ⟨⟨rfl, _⟩, _⟩ := listed
  exact ⟨rfl, Option.some.inj (starts.record.symm.trans stored)⟩

/-- A run keeps the frames and the queries together, and covers what waits. -/
structure Invariant (sites : Sites) (start : System) (moves : List Move) (s : System) : Prop where
  run : Run sites start moves s
  connected : s.Connected sites
  covered : FramesCovered sites start moves s

theorem Invariant.step (invariant : Invariant sites start moves s) (wired : Wired sites s move)
    (stepped : s.step sites move = .ok next) : Invariant sites start (moves ++ [move]) next := by
  obtain ⟨run, connected, covered⟩ := invariant
  have covered' : FramesCovered sites start (moves ++ [move]) s :=
    fun d waits => (covered d waits).mono [move]
  refine ⟨run.concat wired stepped, connected.step wired stepped, ?_⟩
  rcases step_cases connected stepped with ⟨own, advances⟩ | ⟨scheduler, _⟩
  · exact (advances.handles connected run covered).framesCovered covered'
  · intro d waits
    rw [scheduler] at waits
    exact covered' d waits

/-- The three contracts have just been deployed; the scheduler knows neither of the others. -/
structure System.Deployed (s : System) : Prop where
  scheduler : Scheduler.Deployed s.scheduler
  oracle : Xwap.Deployed s.oracle
  core : ∃ authorizedKeeper, Xsc.init authorizedKeeper = s.core
  pending : s.pending = []

theorem System.Deployed.invariant (started : start.Deployed) : Invariant sites start [] start := by
  obtain ⟨_, _, _, _, _, _, scheduler⟩ := started.scheduler.eq
  refine ⟨.nil start, ⟨?_, ?_, ?_⟩, ?_⟩
  · rw [scheduler]
    rintro _ ⟨⟩
  · rw [scheduler]
    rintro _ ⟨⟩
  · rw [scheduler, started.pending]
    exact .nil
  · intro d waits
    rw [scheduler] at waits
    rcases waits with waits | waits <;> cases waits

theorem invariant_run (started : start.Deployed) (run : Run sites start moves s) :
    Invariant sites start moves s := by
  have holds : Invariant sites start ([] ++ moves) s := by
    refine run.history_allowed (Invariant sites start) ?_ started.invariant
    intro past s move next wired invariant stepped
    exact invariant.step wired stepped
  exact holds

/-- In every run, a step that puts a task into execution does it with the approval of the
others. If the task asks for a safe market, the step is the answer of the price oracle, which
is safe in this very state. If it comes through `executeCompressedTask`, then at some time of
the run the compression contract held a root that a path leads to from its digest. -/
theorem executions_approved (started : start.Deployed) (known : sites.oracle ≠ Bytes32.zero)
    (run : Run sites start moves s) (stepped : s.step sites move = .ok next) {hash : TaskHash}
    {record : DispatchRecord} (executes : Started s.scheduler next.scheduler hash record) :
    (record.payload.requireXwapSafe = true →
        ∃ block, move = .answer block ∧ Xwap.isSafeToExecute block s.oracle = true) ∧
      (record.path = .compressed →
        hash = Scheduler.taskHash sites.scheduler record.payload ∧
          Vouched sites start (moves ++ [move]) hash) := by
  obtain ⟨_, connected, covered⟩ := invariant_run started run
  rcases step_cases connected stepped with ⟨own, advances⟩ | ⟨scheduler, _⟩
  · cases advances.handles connected run covered with
    | @dispatches d before dispatches covered _ config unchanged =>
        cases dispatches with
        | asksOracle query asks => exact absurd executes (not_started (asks.starts.trans unchanged))
        | asksMarket xwap _ asks => exact absurd executes (not_started (asks.starts.trans unchanged))
        | starts unguarded starts =>
            obtain ⟨rfl, rfl⟩ := started_eq unchanged starts executes
            refine ⟨?_, covered⟩
            intro guarded
            have configured := unguarded guarded
            rw [config] at configured
            exact absurd (connected.market _ configured).symm known
    | approved starts covered _ unchanged safe =>
        obtain ⟨rfl, rfl⟩ := started_eq unchanged starts executes
        exact ⟨fun _ => safe, covered⟩
    | nothing quiet _ => exact absurd executes (not_started quiet)
  · have quiet : next.scheduler.starts = s.scheduler.starts := by rw [scheduler]
    exact absurd executes (not_started quiet)

instance (sites : Sites) (s : System) (move : Move) : Decidable (Wired sites s move) := by
  unfold Wired
  split <;> infer_instance

namespace Sample

def contracts : Sites :=
  { scheduler := sampleChain
    core := { sampleChain with scAddress := .fill 20 }
    oracle := .fill 21 }

def cautiousTask : Task := { Scheduler.Sample.timedTask with requireXwapSafe := true }

def cautiousHash : TaskHash := Scheduler.taskHash sampleChain cautiousTask

def system : System :=
  { scheduler := Scheduler.Sample.world
    oracle := Xwap.init (.fill 2) (.fill 3)
    core := Xsc.init (.fill 3)
    pending := [] }

theorem system_deployed : system.Deployed :=
  ⟨Scheduler.Sample.world_deployed, ⟨.fill 2, .fill 3, rfl⟩, ⟨.fill 3, rfl⟩, rfl⟩

def ownerCall : CallContext := Scheduler.Sample.call (.fill 2) 0 1000

def approvedRun : List Move :=
  [.core (.updateRoot (Scheduler.Sample.call (.fill 3) 0 1000) cautiousHash.val)] ++
    Xwap.Sample.reportRun.map .oracle ++
    [.scheduler (.configure ownerCall (.setXwapAddress (.fill 21))),
      .scheduler (.configure ownerCall (.setXscAddress (.fill 20))),
      .scheduler Scheduler.Sample.admitKeeper,
      .scheduler (.executeCompressedTask (Scheduler.Sample.call Scheduler.Sample.keeper 0 1000)
        cautiousTask []),
      .answer 102]

end Sample

theorem executions_approved_sample :
    ∃ s next record, Run Sample.contracts Sample.system Sample.approvedRun s ∧
      s.step Sample.contracts (.answer 102) = .ok next ∧
      Started s.scheduler next.scheduler Sample.cautiousHash record ∧
      Xwap.isSafeToExecute 102 s.oracle = true ∧
      Vouched Sample.contracts Sample.system (Sample.approvedRun ++ [.answer 102])
        Sample.cautiousHash := by
  obtain ⟨s, run, ends⟩ := Trace.of_runChecked (System.step Sample.contracts)
    (Wired Sample.contracts) Sample.system Sample.approvedRun
    (fun s => endsIn (fun next : System =>
      next.scheduler.starts = s.scheduler.starts ++ [(Sample.cautiousHash, .compressed)] ∧
        ∃ record ∈ next.scheduler.dispatches Sample.cautiousHash,
          record.payload.requireXwapSafe = true ∧ record.path = .compressed)
      (s.step Sample.contracts (.answer 102)) = true) (by decide +kernel)
  obtain ⟨next, stepped, starts, record, stored, guarded, compressed⟩ := endsIn_iff.mp ends
  have executes : Started s.scheduler next.scheduler Sample.cautiousHash record :=
    ⟨compressed ▸ starts, stored⟩
  obtain ⟨market, vouched⟩ :=
    executions_approved Sample.system_deployed (by decide) run stepped executes
  obtain ⟨block, answered, safe⟩ := market guarded
  cases answered
  exact ⟨s, next, record, run, stepped, executes, safe, (vouched compressed).2⟩

end XCron.Protocol
