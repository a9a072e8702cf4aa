import XCron.Keeper.Sessions

/-!
# Retrying failed sweeps

`process_retry_queue` collects in one list what was swept, what has used up its retries
and what it has no key for, and then tells the first from the other two by the retry
counter: whoever is on the list and has retries left is marked as swept.
-/

namespace XCron.Keeper.PrivacySessionManager

open Platform

/-! ## The endpoint -/

/-- The loop over the queue: the manager and the list `successfully_swept`. -/
structure RetryRun where
  manager : PrivacySessionManager
  successfullySwept : List Text

def RetryRun.push (stealthAddr : Text) (run : RetryRun) : RetryRun :=
  { run with successfullySwept := run.successfullySwept ++ [stealthAddr] }

def retrySweep (stealthWallets sweeps : Text → Bool) (run : RetryRun) (stealthAddr : Text) :
    RetryRun :=
  if stealthWallets stealthAddr then
    if sweeps stealthAddr then run.push stealthAddr
    else
      match run.manager.sessions.get? stealthAddr with
      | some session =>
          let session := { session with retryCount := session.retryCount + 1 }
          let run := { run with
            manager := { run.manager with
              sessions := run.manager.sessions.set stealthAddr session } }
          if run.manager.maxRetryLimit < session.retryCount then run.push stealthAddr else run
      | none => run
  else run.push stealthAddr

def completeRetried (manager : PrivacySessionManager) (addr : Text) : PrivacySessionManager :=
  match manager.sessions.get? addr with
  | some session =>
      if session.retryCount ≤ manager.maxRetryLimit then
        match manager.completeSession addr with
        | .ok manager => manager
        | .error _ => manager
      else manager
  | none => manager

/-- `process_retry_queue`. The lock on the queue is held from the first line to the last. -/
def processRetryQueue (stealthWallets sweeps : Text → Bool) (manager : PrivacySessionManager) :
    PrivacySessionManager :=
  if manager.retryQueue = [] then manager
  else
    let run := manager.retryQueue.foldl (retrySweep stealthWallets sweeps) ⟨manager, []⟩
    let manager := { run.manager with
      retryQueue := run.manager.retryQueue.filter fun addr => addr ∉ run.successfullySwept }
    run.successfullySwept.foldl completeRetried manager

/-! ## Runs -/

inductive Step where
  | authorizeSession (now : UInt64) (userAddress stealthAddress : Text) (dripAmount : U128)
  | completeSession (stealthAddress : Text)
  | registerFailedSweep (stealthAddress : Text)
  | processRetryQueue (stealthWallets sweeps : Text → Bool)

/-- What a call leaves behind: one that fails changes nothing. -/
def settled (manager : PrivacySessionManager) :
    Except SessionError PrivacySessionManager → PrivacySessionManager
  | .ok next => next
  | .error _ => manager

def step (manager : PrivacySessionManager) : Step → Outcome PrivacySessionManager
  | .authorizeSession now userAddress stealthAddress dripAmount =>
      pure (manager.settled (manager.authorizeSession now userAddress stealthAddress dripAmount))
  | .completeSession stealthAddress =>
      pure (manager.settled (manager.completeSession stealthAddress))
  | .registerFailedSweep stealthAddress =>
      pure (manager.settled (manager.registerFailedSweep stealthAddress))
  | .processRetryQueue stealthWallets sweeps =>
      pure (manager.processRetryQueue stealthWallets sweeps)

variable {stealthWallets sweeps : Text → Bool} {manager next : PrivacySessionManager}

/-! ## What is asked of a run over the queue -/

/-- Exactly the sessions whose sweep went through become swept, the others count as before,
and those whose sweep failed and that have retries left stay in the queue. -/
structure RetriesExactly (stealthWallets sweeps : Text → Bool)
    (manager next : PrivacySessionManager) : Prop where
  swept : ∀ addr ∈ manager.retryQueue, ∀ session, manager.sessions.get? addr = some session →
    ∃ session', next.sessions.get? addr = some session' ∧
      (session'.status = .swept ↔
        session.status = .swept ∨ stealthWallets addr = true ∧ sweeps addr = true)
  counted : ∀ addr ∈ manager.retryQueue, ¬(stealthWallets addr = true ∧ sweeps addr = true) →
    ∀ session, manager.sessions.get? addr = some session → session.active = true →
      ∃ session', next.sessions.get? addr = some session' ∧ session'.active = true ∧
        session'.amountDripped = session.amountDripped
  queued : ∀ addr, addr ∈ next.retryQueue ↔
    addr ∈ manager.retryQueue ∧ (stealthWallets addr = true ∧ sweeps addr = false) ∧
      ∃ session', next.sessions.get? addr = some session' ∧
        session'.retryCount ≤ next.maxRetryLimit

/-- Of the sessions in the queue that are not swept yet, those whose key is missing have no
retries left, and those that can be swept have some. -/
def CountersTell (stealthWallets sweeps : Text → Bool) (manager : PrivacySessionManager) : Prop :=
  ∀ addr ∈ manager.retryQueue, ∀ session ∈ manager.sessions.get? addr, session.status ≠ .swept →
    (stealthWallets addr = false → manager.maxRetryLimit < session.retryCount) ∧
      (stealthWallets addr = true → sweeps addr = true →
        session.retryCount ≤ manager.maxRetryLimit)

instance : Decidable (CountersTell stealthWallets sweeps manager) :=
  inferInstanceAs (Decidable (∀ addr ∈ manager.retryQueue, ∀ session ∈ manager.sessions.get? addr,
    session.status ≠ .swept → _ ∧ _))

/-! ## What happens to one session -/

def attempted (stealthWallets sweeps : Text → Bool) (addr : Text) (session : PrivacySession) :
    PrivacySession :=
  if stealthWallets addr = true ∧ sweeps addr = false then
    { session with retryCount := session.retryCount + 1 }
  else session

/-- Whether an address is collected in the loop, and leaves the queue. -/
def Collected (stealthWallets sweeps : Text → Bool) (manager : PrivacySessionManager)
    (addr : Text) : Prop :=
  stealthWallets addr = true → sweeps addr = false →
    ∃ session, manager.sessions.get? addr = some session ∧
      manager.maxRetryLimit < session.retryCount + 1

/-- The loop over the first addresses of the queue. -/
structure LoopDone (stealthWallets sweeps : Text → Bool) (manager : PrivacySessionManager)
    (past : List Text) (run : RetryRun) : Prop where
  sessions : ∀ addr, run.manager.sessions.get? addr =
    if addr ∈ past then (manager.sessions.get? addr).map (attempted stealthWallets sweeps addr)
    else manager.sessions.get? addr
  collected : ∀ addr, addr ∈ run.successfullySwept ↔
    addr ∈ past ∧ Collected stealthWallets sweeps manager addr
  limit : run.manager.maxRetryLimit = manager.maxRetryLimit
  queue : run.manager.retryQueue = manager.retryQueue

theorem LoopDone.round {past : List Text} {run run' : RetryRun}
    (done : LoopDone stealthWallets sweeps manager past run) {addr : Text}
    (sessions : ∀ other, run'.manager.sessions.get? other =
      if other = addr then (manager.sessions.get? addr).map (attempted stealthWallets sweeps addr)
      else run.manager.sessions.get? other)
    (collected : ∀ other, other ∈ run'.successfullySwept ↔
      other ∈ run.successfullySwept ∨ other = addr ∧ Collected stealthWallets sweeps manager addr)
    (limit : run'.manager.maxRetryLimit = run.manager.maxRetryLimit)
    (queue : run'.manager.retryQueue = run.manager.retryQueue) :
    LoopDone stealthWallets sweeps manager (past ++ [addr]) run' := by
  refine ⟨?_, ?_, limit.trans done.limit, queue.trans done.queue⟩
  · intro other
    rw [sessions, done.sessions]
    by_cases itself : other = addr
    · simp [itself]
    · simp [itself]
  · intro other
    rw [collected, done.collected, List.mem_append, List.mem_singleton]
    constructor
    · rintro (⟨member, collected'⟩ | ⟨rfl, collected'⟩)
      · exact ⟨.inl member, collected'⟩
      · exact ⟨.inr rfl, collected'⟩
    · rintro ⟨member | rfl, collected'⟩
      · exact .inl ⟨member, collected'⟩
      · exact .inr ⟨rfl, collected'⟩

theorem mem_push {run : RetryRun} {addr other : Text} {condition : Prop} (holds : condition) :
    other ∈ (run.push addr).successfullySwept ↔
      other ∈ run.successfullySwept ∨ other = addr ∧ condition := by
  rw [RetryRun.push, List.mem_append, List.mem_singleton]
  exact or_congr_right (and_iff_left holds).symm

theorem LoopDone.retrySweep {past : List Text} {run : RetryRun}
    (done : LoopDone stealthWallets sweeps manager past run) {addr : Text} (fresh : addr ∉ past) :
    LoopDone stealthWallets sweeps manager (past ++ [addr])
      (retrySweep stealthWallets sweeps run addr) := by
  have here := done.sessions addr
  rw [if_neg fresh] at here
  have untouched (same : ∀ session, attempted stealthWallets sweeps addr session = session)
      (other : Text) : run.manager.sessions.get? other =
        if other = addr then (manager.sessions.get? addr).map (attempted stealthWallets sweeps addr)
        else run.manager.sessions.get? other := by
    split
    next itself => rw [itself, here, funext same, Option.map_id']
    next => rfl
  unfold PrivacySessionManager.retrySweep
  split
  next atHand =>
    split
    next through =>
      refine done.round (untouched fun session => by simp [attempted, through])
        (fun other => mem_push fun _ failed => ?_) rfl rfl
      rw [through] at failed
      cases failed
    next failed =>
      have failed : sweeps addr = false := by simpa using failed
      split
      next session found =>
        rw [here] at found
        have counted (other : Text) :
            (run.manager.sessions.set addr
              { session with retryCount := session.retryCount + 1 }).get? other =
              if other = addr then
                (manager.sessions.get? addr).map (attempted stealthWallets sweeps addr)
              else run.manager.sessions.get? other := by
          have failure : attempted stealthWallets sweeps addr session =
              { session with retryCount := session.retryCount + 1 } := if_pos ⟨atHand, failed⟩
          rw [Cells.get?_set, found, Option.map_some, failure]
        dsimp only
        split
        next exhausted =>
          rw [done.limit] at exhausted
          exact done.round counted (fun other => mem_push fun _ _ => ⟨session, found, exhausted⟩)
            rfl rfl
        next left =>
          rw [done.limit] at left
          refine done.round counted (fun other => (or_iff_left ?_).symm) rfl rfl
          rintro ⟨rfl, collected⟩
          obtain ⟨session', found', exhausted⟩ := collected atHand failed
          obtain rfl := Option.some.inj (found.symm.trans found')
          exact left exhausted
      next missing =>
        rw [here] at missing
        refine done.round ?_ (fun other => (or_iff_left ?_).symm) rfl rfl
        · intro other
          split
          next itself => rw [itself, here, missing, Option.map_none]
          next => rfl
        · rintro ⟨rfl, collected⟩
          obtain ⟨session, found, _⟩ := collected atHand failed
          rw [missing] at found
          cases found
  next missing =>
    refine done.round (untouched fun session => by simp [attempted, missing])
      (fun other => mem_push fun atHand => absurd atHand missing) rfl rfl

theorem loop_done {past : List Text} (nodup : past.Nodup) :
    LoopDone stealthWallets sweeps manager past
      (past.foldl (retrySweep stealthWallets sweeps) ⟨manager, []⟩) := by
  induction past using List.reverseRecOn with
  | nil => exact ⟨fun addr => by simp, fun addr => by simp, rfl, rfl⟩
  | append_singleton past addr inductionHypothesis =>
      rw [List.nodup_append] at nodup
      obtain ⟨nodup, _, apart⟩ := nodup
      have fresh : addr ∉ past := fun member => apart addr member addr (List.mem_singleton_self _) rfl
      rw [List.foldl_append]
      exact (inductionHypothesis nodup).retrySweep fresh

def completed (maxRetryLimit : UInt32) (session : PrivacySession) : PrivacySession :=
  if session.retryCount ≤ maxRetryLimit then { session with status := .swept } else session

/-- The pass over some of the collected addresses. -/
structure PassDone (manager : PrivacySessionManager) (past : List Text)
    (next : PrivacySessionManager) : Prop where
  sessions : ∀ addr, next.sessions.get? addr =
    if addr ∈ past then (manager.sessions.get? addr).map (completed manager.maxRetryLimit)
    else manager.sessions.get? addr
  limit : next.maxRetryLimit = manager.maxRetryLimit
  queue : next.retryQueue = manager.retryQueue

theorem completed_twice (maxRetryLimit : UInt32) (session : PrivacySession) :
    completed maxRetryLimit (completed maxRetryLimit session) = completed maxRetryLimit session := by
  by_cases left : session.retryCount ≤ maxRetryLimit
  · simp [completed, left]
  · simp [completed, left]

theorem completeRetried_get? (manager : PrivacySessionManager) (addr other : Text) :
    (manager.completeRetried addr).sessions.get? other =
        (if other = addr then (manager.sessions.get? addr).map (completed manager.maxRetryLimit)
        else manager.sessions.get? other) ∧
      (manager.completeRetried addr).maxRetryLimit = manager.maxRetryLimit ∧
      (manager.completeRetried addr).retryQueue = manager.retryQueue := by
  unfold completeRetried
  split
  next session found =>
    simp only [completeSession, found, Option.map_some, completed]
    split
    next left => exact ⟨Cells.get?_set _ _ _ _, rfl, rfl⟩
    next exhausted =>
      refine ⟨?_, rfl, rfl⟩
      split
      next itself => rw [itself, found]
      next => rfl
  next missing =>
    refine ⟨?_, rfl, rfl⟩
    split
    next itself => rw [itself, missing, Option.map_none]
    next => rfl

theorem pass_done (manager : PrivacySessionManager) (past : List Text) :
    PassDone manager past (past.foldl completeRetried manager) := by
  induction past using List.reverseRecOn with
  | nil => exact ⟨fun addr => by simp, rfl, rfl⟩
  | append_singleton past addr inductionHypothesis =>
      rw [List.foldl_append]
      have round := completeRetried_get? (past.foldl completeRetried manager) addr
      obtain ⟨_, limit, queue⟩ := round addr
      refine ⟨?_, limit.trans inductionHypothesis.limit, queue.trans inductionHypothesis.queue⟩
      intro other
      refine (round other).1.trans ?_
      rw [inductionHypothesis.limit, inductionHypothesis.sessions, inductionHypothesis.sessions]
      by_cases itself : other = addr
      · subst itself
        by_cases before : other ∈ past
        · simp [before, Option.map_map, Function.comp_def, completed_twice]
        · simp [before]
      · simp [itself]

/-! ## What happens to the queue -/

def retried (stealthWallets sweeps : Text → Bool) (maxRetryLimit : UInt32) (addr : Text)
    (session : PrivacySession) : PrivacySession :=
  if stealthWallets addr = true ∧ sweeps addr = false then
    { session with retryCount := session.retryCount + 1 }
  else completed maxRetryLimit session

theorem retried_eq (stealthWallets sweeps : Text → Bool) {addr : Text} {session : PrivacySession}
    (found : manager.sessions.get? addr = some session) :
    (Collected stealthWallets sweeps manager addr →
      completed manager.maxRetryLimit (attempted stealthWallets sweeps addr session) =
        retried stealthWallets sweeps manager.maxRetryLimit addr session) ∧
      (¬Collected stealthWallets sweeps manager addr →
        attempted stealthWallets sweeps addr session =
          retried stealthWallets sweeps manager.maxRetryLimit addr session) := by
  unfold attempted retried
  by_cases failed : stealthWallets addr = true ∧ sweeps addr = false
  · rw [if_pos failed, if_pos failed]
    refine ⟨fun collected => if_neg ?_, fun _ => rfl⟩
    obtain ⟨session', found', exhausted⟩ := collected failed.1 failed.2
    obtain rfl := Option.some.inj (found.symm.trans found')
    exact UInt32.not_le.mpr exhausted
  · rw [if_neg failed, if_neg failed]
    refine ⟨fun _ => rfl, fun uncollected => ?_⟩
    exact absurd (fun atHand failed' => absurd ⟨atHand, failed'⟩ failed) uncollected

/-- What the call does to the sessions and to the queue, if no address is queued twice. -/
structure Processed (stealthWallets sweeps : Text → Bool)
    (manager next : PrivacySessionManager) : Prop where
  queued : ∀ addr ∈ manager.retryQueue, next.sessions.get? addr =
    (manager.sessions.get? addr).map
      (retried stealthWallets sweeps manager.maxRetryLimit addr)
  others : ∀ addr, addr ∉ manager.retryQueue →
    next.sessions.get? addr = manager.sessions.get? addr
  limit : next.maxRetryLimit = manager.maxRetryLimit
  sublist : next.retryQueue.Sublist manager.retryQueue
  left : ∀ addr, addr ∈ next.retryQueue ↔
    addr ∈ manager.retryQueue ∧ ¬Collected stealthWallets sweeps manager addr

theorem processRetryQueue_processed (nodup : manager.retryQueue.Nodup) :
    Processed stealthWallets sweeps manager
      (manager.processRetryQueue stealthWallets sweeps) := by
  unfold processRetryQueue
  split
  next empty =>
    refine ⟨?_, fun _ _ => rfl, rfl, List.Sublist.refl _, ?_⟩
    · rw [empty]
      nofun
    · rw [empty]
      simp
  next nonempty =>
    have loop : LoopDone stealthWallets sweeps manager _ _ := loop_done nodup
    dsimp only
    generalize manager.retryQueue.foldl (retrySweep stealthWallets sweeps) ⟨manager, []⟩ = run
      at loop
    have pass := pass_done { run.manager with
      retryQueue := run.manager.retryQueue.filter fun addr => addr ∉ run.successfullySwept }
      run.successfullySwept
    refine ⟨?_, ?_, pass.limit.trans loop.limit, ?_, ?_⟩
    · intro addr member
      rw [pass.sessions]
      dsimp only
      rw [loop.sessions, loop.limit, if_pos member, Option.map_map]
      cases found : manager.sessions.get? addr with
      | none => simp
      | some session =>
          obtain ⟨collects, keeps⟩ := retried_eq stealthWallets sweeps found
          split
          next collected =>
            exact congrArg some (collects ((loop.collected addr).mp collected).2)
          next uncollected =>
            refine congrArg some (keeps fun collected => uncollected ?_)
            exact (loop.collected addr).mpr ⟨member, collected⟩
    · intro addr other
      have uncollected : addr ∉ run.successfullySwept := fun collected =>
        other ((loop.collected addr).mp collected).1
      rw [pass.sessions, if_neg uncollected]
      dsimp only
      rw [loop.sessions, if_neg other]
    · rw [pass.queue]
      dsimp only
      rw [loop.queue]
      exact List.filter_sublist
    · intro addr
      rw [pass.queue]
      dsimp only
      rw [loop.queue, List.mem_filter, decide_eq_true_eq, loop.collected]
      constructor
      · rintro ⟨member, uncollected⟩
        exact ⟨member, fun collected => uncollected ⟨member, collected⟩⟩
      · rintro ⟨member, uncollected⟩
        exact ⟨member, fun collected => uncollected collected.2⟩

/-! ## The queue over a run -/

/-- No address is queued twice, and every one that is has a session. -/
structure Queued (manager : PrivacySessionManager) : Prop where
  nodup : manager.retryQueue.Nodup
  present : ∀ addr ∈ manager.retryQueue, ∃ session, manager.sessions.get? addr = some session

theorem Queued.set (queued : manager.Queued) (addr : Text) (session : PrivacySession) :
    Queued { manager with sessions := manager.sessions.set addr session } := by
  refine ⟨queued.nodup, ?_⟩
  intro other member
  change ∃ session', (manager.sessions.set addr session).get? other = some session'
  rw [Cells.get?_set]
  split
  · exact ⟨session, rfl⟩
  · exact queued.present other member

theorem Queued.processRetryQueue (queued : manager.Queued) :
    (manager.processRetryQueue stealthWallets sweeps).Queued := by
  have processed : Processed stealthWallets sweeps manager _ :=
    processRetryQueue_processed queued.nodup
  refine ⟨queued.nodup.sublist processed.sublist, ?_⟩
  intro addr member
  have before := processed.sublist.subset member
  obtain ⟨session, found⟩ := queued.present addr before
  rw [processed.queued addr before, found]
  exact ⟨_, rfl⟩

theorem Queued.step {move : Step} (queued : manager.Queued)
    (stepped : PrivacySessionManager.step manager move = .ok next) : next.Queued := by
  cases move with
  | authorizeSession now userAddress stealthAddress dripAmount =>
      simp only [PrivacySessionManager.step, Outcome.pure_eq_ok] at stepped
      subst stepped
      unfold authorizeSession
      dsimp only
      split
      · exact queued
      · split
        · exact queued
        · exact queued.set _ _
  | completeSession stealthAddress =>
      simp only [PrivacySessionManager.step, Outcome.pure_eq_ok] at stepped
      subst stepped
      unfold completeSession
      split
      · exact queued.set _ _
      · exact queued
  | registerFailedSweep stealthAddress =>
      simp only [PrivacySessionManager.step, Outcome.pure_eq_ok] at stepped
      subst stepped
      unfold registerFailedSweep
      split
      next session found =>
        dsimp only
        have written := queued.set stealthAddress
          { session with status := .failedSweep, retryCount := session.retryCount + 1 }
        split
        next fresh =>
          refine ⟨?_, ?_⟩
          · rw [settled, ← List.concat_eq_append]
            exact written.nodup.concat fresh.2
          · intro addr member
            rcases List.mem_append.mp member with before | added
            · exact written.present addr before
            · obtain rfl := List.mem_singleton.mp added
              exact ⟨_, Cells.get?_set_self _ _ _⟩
        next => exact written
      next => exact queued
  | processRetryQueue stealthWallets sweeps =>
      simp only [PrivacySessionManager.step, Outcome.pure_eq_ok] at stepped
      subst stepped
      exact queued.processRetryQueue

theorem queued_run {globalFloatLimit : U128} {maxActiveDripsPerUser : Nat} {steps : List Step}
    {allowed : PrivacySessionManager → Step → Prop}
    (trace : Trace step allowed (new globalFloatLimit maxActiveDripsPerUser) steps manager) :
    manager.Queued := by
  refine trace.preserves Queued (fun _ _ _ _ queued stepped => queued.step stepped) ?_
  exact ⟨List.nodup_nil, nofun⟩

/-! ## Who is marked as swept -/

theorem completed_status {maxRetryLimit : UInt32} {session : PrivacySession} :
    (completed maxRetryLimit session).status = .swept ↔
      session.status = .swept ∨ session.retryCount ≤ maxRetryLimit := by
  unfold completed
  split
  next left => simp [left]
  next exhausted => simp [exhausted]

theorem retried_of_untried {maxRetryLimit : UInt32} {addr : Text} {session : PrivacySession}
    (other : ¬(stealthWallets addr = true ∧ sweeps addr = false)) :
    retried stealthWallets sweeps maxRetryLimit addr session = completed maxRetryLimit session :=
  if_neg other

theorem Processed.after (processed : Processed stealthWallets sweeps manager next) {addr : Text}
    (member : addr ∈ manager.retryQueue) {session : PrivacySession}
    (found : manager.sessions.get? addr = some session) :
    next.sessions.get? addr =
      some (retried stealthWallets sweeps manager.maxRetryLimit addr session) := by
  rw [processed.queued addr member, found]
  rfl

/-- Where the call is right, the counters have told the swept sessions from the others. -/
theorem RetriesExactly.tells (processed : Processed stealthWallets sweeps manager next)
    (exactly : RetriesExactly stealthWallets sweeps manager next) :
    CountersTell stealthWallets sweeps manager := by
  intro addr member session found unswept
  obtain ⟨session', found', swept⟩ := exactly.swept addr member session found
  rw [processed.after member found] at found'
  obtain rfl := Option.some.inj found'
  constructor
  · intro missing
    rw [retried_of_untried (by simp [missing]), completed_status] at swept
    refine UInt32.not_le.mp fun left => ?_
    rcases swept.mp (.inr left) with already | ⟨atHand, _⟩
    · exact unswept already
    · rw [missing] at atHand
      cases atHand
  · intro atHand through
    rw [retried_of_untried (by simp [through]), completed_status] at swept
    exact (swept.mpr (.inr ⟨atHand, through⟩)).resolve_left unswept

namespace CountersTell

variable {addr : Text} {session : PrivacySession}

theorem retried_swept (tell : CountersTell stealthWallets sweeps manager)
    (member : addr ∈ manager.retryQueue) (found : manager.sessions.get? addr = some session) :
    (retried stealthWallets sweeps manager.maxRetryLimit addr session).status = .swept ↔
      session.status = .swept ∨ stealthWallets addr = true ∧ sweeps addr = true := by
  by_cases failed : stealthWallets addr = true ∧ sweeps addr = false
  · rw [retried, if_pos failed]
    simp [failed.2]
  · rw [retried_of_untried failed, completed_status]
    by_cases swept : session.status = .swept
    · exact iff_of_true (.inl swept) (.inl swept)
    · obtain ⟨discarded, paid⟩ := tell addr member session found swept
      refine or_congr_right ?_
      constructor
      · intro left
        have atHand : stealthWallets addr = true := by
          by_contra missing
          exact absurd left (UInt32.not_le.mpr (discarded (Bool.eq_false_of_not_eq_true missing)))
        exact ⟨atHand, by simpa [atHand] using failed⟩
      · rintro ⟨atHand, through⟩
        exact paid atHand through

theorem retried_active (tell : CountersTell stealthWallets sweeps manager)
    (member : addr ∈ manager.retryQueue) (found : manager.sessions.get? addr = some session)
    (notSwept : ¬(stealthWallets addr = true ∧ sweeps addr = true))
    (active : session.active = true) :
    (retried stealthWallets sweeps manager.maxRetryLimit addr session).active = true ∧
      (retried stealthWallets sweeps manager.maxRetryLimit addr session).amountDripped =
        session.amountDripped := by
  by_cases failed : stealthWallets addr = true ∧ sweeps addr = false
  · rw [retried, if_pos failed]
    exact ⟨active, rfl⟩
  · have missing : stealthWallets addr = false := by
      by_contra atHand
      have atHand := Bool.eq_true_of_not_eq_false atHand
      cases through : sweeps addr with
      | false => exact failed ⟨atHand, through⟩
      | true => exact notSwept ⟨atHand, through⟩
    have unswept : session.status ≠ .swept := by
      intro swept
      rw [PrivacySession.active, swept] at active
      cases active
    have exhausted := (tell addr member session found unswept).1 missing
    rw [retried_of_untried failed, completed, if_neg (UInt32.not_le.mpr exhausted)]
    exact ⟨active, rfl⟩

end CountersTell

theorem not_collected_iff {addr : Text} {session : PrivacySession}
    (found : manager.sessions.get? addr = some session) :
    ¬Collected stealthWallets sweeps manager addr ↔
      (stealthWallets addr = true ∧ sweeps addr = false) ∧
        (retried stealthWallets sweeps manager.maxRetryLimit addr session).retryCount ≤
          manager.maxRetryLimit := by
  constructor
  · intro uncollected
    have atHand : stealthWallets addr = true := by
      by_contra missing
      exact uncollected fun atHand => absurd atHand missing
    have failed : sweeps addr = false := by
      by_contra through
      exact uncollected fun _ failed => absurd failed through
    refine ⟨⟨atHand, failed⟩, ?_⟩
    rw [retried, if_pos ⟨atHand, failed⟩]
    by_contra exhausted
    exact uncollected fun _ _ => ⟨session, found, UInt32.not_le.mp exhausted⟩
  · rintro ⟨⟨atHand, failed⟩, left⟩ collected
    rw [retried, if_pos ⟨atHand, failed⟩] at left
    obtain ⟨session', found', exhausted⟩ := collected atHand failed
    obtain rfl := Option.some.inj (found.symm.trans found')
    exact UInt32.not_le.mpr exhausted left

/-- Where the counters tell the swept sessions from the others, the call is right. -/
theorem CountersTell.exactly (processed : Processed stealthWallets sweeps manager next)
    (queued : manager.Queued) (tell : CountersTell stealthWallets sweeps manager) :
    RetriesExactly stealthWallets sweeps manager next where
  swept addr member session found :=
    ⟨_, processed.after member found, tell.retried_swept member found⟩
  counted addr member notSwept session found active :=
    ⟨_, processed.after member found, tell.retried_active member found notSwept active⟩
  queued addr := by
    rw [processed.left, processed.limit]
    refine and_congr_right fun member => ?_
    obtain ⟨session, found⟩ := queued.present addr member
    rw [processed.after member found, not_collected_iff found]
    simp only [Option.some.injEq, exists_eq_left']

/-- In every reachable state, and whatever keys are at hand and sweeps go through, the call
marks exactly the swept sessions if and only if the retry counters tell them apart. -/
theorem retries_exactly_iff {globalFloatLimit : U128} {maxActiveDripsPerUser : Nat}
    {steps : List Step}
    (trace : Trace step (fun _ _ => True) (new globalFloatLimit maxActiveDripsPerUser) steps
      manager) (stealthWallets sweeps : Text → Bool) :
    RetriesExactly stealthWallets sweeps manager
        (manager.processRetryQueue stealthWallets sweeps) ↔
      CountersTell stealthWallets sweeps manager := by
  have queued := queued_run trace
  have processed : Processed stealthWallets sweeps manager _ :=
    processRetryQueue_processed queued.nodup
  exact ⟨RetriesExactly.tells processed, CountersTell.exactly processed queued⟩

namespace Sample

def user : Text := ascii "erd1user"

def stealth : Text := ascii "erd1stealth"

def failures (count : Nat) : List Step :=
  .authorizeSession 1000 user stealth 5 :: List.replicate count (.registerFailedSweep stealth)

def statusAfter (stealthWallets : Text → Bool) (manager : PrivacySessionManager) :
    Option SessionStatus :=
  ((manager.processRetryQueue stealthWallets fun _ => true).sessions.get? stealth).map
    PrivacySession.status

def Waiting (manager : PrivacySessionManager) : Prop :=
  stealth ∈ manager.retryQueue ∧
    (manager.sessions.get? stealth).map PrivacySession.status = some .failedSweep

instance : DecidablePred Waiting := fun _ => inferInstanceAs (Decidable (_ ∧ _))

theorem statusAfter_iff (waiting : Waiting manager)
    (exactly : RetriesExactly stealthWallets (fun _ => true) manager
      (manager.processRetryQueue stealthWallets fun _ => true)) :
    statusAfter stealthWallets manager = some .swept ↔ stealthWallets stealth = true := by
  obtain ⟨member, status⟩ := waiting
  obtain ⟨session, found, unswept⟩ := Option.map_eq_some_iff.mp status
  obtain ⟨session', found', swept⟩ := exactly.swept stealth member session found
  rw [statusAfter, found', Option.map_some, Option.some.injEq, swept, unswept]
  simp

end Sample

theorem retries_exactly_iff_sample :
    ∃ manager, Trace step (fun _ _ => True) (new 10 2) (Sample.failures 1) manager ∧
      manager.retryQueue = [Sample.stealth] ∧
      RetriesExactly (fun _ => true) (fun _ => true) manager
        (manager.processRetryQueue (fun _ => true) fun _ => true) := by
  obtain ⟨manager, trace, queue, tell⟩ := Trace.of_runChecked step (fun _ _ => True) (new 10 2)
    (Sample.failures 1)
    (fun manager => manager.retryQueue = [Sample.stealth] ∧
      CountersTell (fun _ => true) (fun _ => true) manager)
    (by decide +kernel)
  exact ⟨manager, trace, queue, (retries_exactly_iff trace _ _).mpr tell⟩

/-- After one failure and without its key the session becomes swept; after six failures and
with its key it does not, though it was swept. -/
theorem retries_misjudged :
    (∃ manager, Trace step (fun _ _ => True) (new 10 2) (Sample.failures 1) manager ∧
      Sample.statusAfter (fun _ => false) manager = some .swept ∧
      ¬RetriesExactly (fun _ => false) (fun _ => true) manager
        (manager.processRetryQueue (fun _ => false) fun _ => true)) ∧
    ∃ manager, Trace step (fun _ _ => True) (new 10 2) (Sample.failures 6) manager ∧
      Sample.statusAfter (fun _ => true) manager = some .failedSweep ∧
      ¬RetriesExactly (fun _ => true) (fun _ => true) manager
        (manager.processRetryQueue (fun _ => true) fun _ => true) := by
  obtain ⟨manager, trace, waiting, swept⟩ := Trace.of_runChecked step (fun _ _ => True) (new 10 2)
    (Sample.failures 1)
    (fun manager => Sample.Waiting manager ∧
      Sample.statusAfter (fun _ => false) manager = some .swept)
    (by decide +kernel)
  obtain ⟨manager', trace', waiting', failed⟩ := Trace.of_runChecked step (fun _ _ => True)
    (new 10 2) (Sample.failures 6)
    (fun manager => Sample.Waiting manager ∧
      Sample.statusAfter (fun _ => true) manager = some .failedSweep)
    (by decide +kernel)
  refine ⟨⟨manager, trace, swept, fun exactly => ?_⟩, manager', trace', failed, fun exactly => ?_⟩
  · cases (Sample.statusAfter_iff waiting exactly).mp swept
  · have swept' := (Sample.statusAfter_iff waiting' exactly).mpr rfl
    rw [failed] at swept'
    cases swept'

end XCron.Keeper.PrivacySessionManager
