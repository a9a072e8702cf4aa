import XCron.Scheduler.Ownership

/-!
# Rate limits

An owner may have a hundred tasks, and schedule ten in a round. `enforce_rate_limits`
checks both, and `schedule_quantum_task` alone calls it: a sovereign task is neither
checked nor counted for its round. The first limit moreover reads the owner's list,
which a task that an execution brings back to storage is no longer on.
-/

namespace XCron.Scheduler

open Platform

variable {chain : Chain} {w next : World} {move : Step} {owner : Address} {round : UInt64}

/-! ## The tasks of an owner -/

/-- The owner's tasks are on the owner's list, which is short. -/
structure Rated (owner : Address) (w : World) : Prop where
  listed : ∀ hash state, w.quantumTasks.get? hash = some state → state.owner = owner →
    hash ∈ w.ownerTasks owner
  few : (w.ownerTasks owner).card ≤ 100

/-- The steps that keep to the limits of an owner in a round: no sovereign task of the
owner is scheduled in that round, nor in any other while there are a hundred tasks; and
no waiting endpoint brings back a task that is not stored for the owner any more. -/
structure Limited (owner : Address) (round : UInt64) (w : World) (move : Step) : Prop where
  sovereign : ∀ call encryptedPayload requested,
    move = .scheduleSovereignTask call encryptedPayload requested →
    (resolveCaller call w).1 = owner → (w.ownerTasks owner).card < 100 ∧ call.blockRound ≠ round
  returns : ∀ frame, Returns w move frame → frame.starts = true → frame.owner = owner →
    ∃ state, w.quantumTasks.get? frame.taskHash = some state ∧ state.owner = owner

theorem scheduleQuantumTask_limits {call : CallContext} {payload : Task} {requested : Option Nat}
    (stepped : step chain w (.scheduleQuantumTask call payload requested) = .ok next) :
    (w.ownerTasks (resolveCaller call w).1).card < 100 ∧
      (0 < w.config.maxTasksPerRound → w.tasksPerRound (resolveCaller call w).1 call.blockRound <
        w.config.maxTasksPerRound) ∧
      next.tasksPerRound = (w.counted (resolveCaller call w).1 call.blockRound).tasksPerRound := by
  simp only [step, Step.call?, body, scheduleQuantumTask, enforceRateLimits, Outcome.bind_eq_ok,
    Outcome.require_eq_ok, Outcome.pure_eq_ok] at stepped
  obtain ⟨_, _, _, _, _, _, ⟨deposit, paid⟩, taken, _, _, _, _, _, ⟨_, few, _, slow, rfl⟩, rfl⟩ :=
    stepped
  have resolved : resolveCaller call (w.credit call) = resolveCaller call w := rfl
  rw [resolved] at few slow ⊢
  rcases takeDeposit_cases taken with ⟨_, rfl⟩ | ⟨_, _, _, rfl⟩
  · exact ⟨few, slow, rfl⟩
  · exact ⟨few, slow, rfl⟩

theorem Limited.room {call : CallContext} (limited : Limited owner round w move)
    (stepped : step chain w move = .ok next) (schedules : move.scheduling? = some call)
    (mine : (resolveCaller call w).1 = owner) : (w.ownerTasks owner).card < 100 := by
  cases move with
  | scheduleQuantumTask other payload requested =>
      obtain rfl := Option.some.inj schedules
      rw [← mine]
      exact (scheduleQuantumTask_limits stepped).1
  | scheduleSovereignTask other encryptedPayload requested =>
      obtain rfl := Option.some.inj schedules
      exact (limited.sovereign _ _ _ rfl mine).1
  | _ => cases schedules

theorem Rated.step (rated : Rated owner w) (limited : Limited owner round w move)
    (stepped : step chain w move = .ok next) : Rated owner next := by
  cases step_handled stepped with
  | scheduled call hash deposit schedules free stored listed =>
      by_cases mine : (resolveCaller call w).1 = owner
      · have room := limited.room stepped schedules mine
        rw [mine] at listed stored
        constructor
        · intro other state found owned
          rw [listed, Function.update_self, Finset.mem_insert]
          rw [stored] at found
          rcases Cells.of_get?_set found with ⟨same, _⟩ | ⟨_, found⟩
          · exact .inl same
          · exact .inr (rated.listed other state found owned)
        · rw [listed, Function.update_self]
          exact Nat.le_trans (Finset.card_insert_le _ _) room
      · constructor
        · intro other state found owned
          rw [listed, Function.update_of_ne (Ne.symm mine)]
          rw [stored] at found
          rcases Cells.of_get?_set found with ⟨_, rfl⟩ | ⟨_, found⟩
          · exact absurd owned mine
          · exact rated.listed other state found owned
        · rw [listed, Function.update_of_ne (Ne.symm mine)]
          exact rated.few
  | started hash state origin stored listed =>
      constructor
      · intro other state' found owned
        rw [listed]
        rw [stored] at found
        rcases Cells.of_get?_set found with ⟨_, rfl⟩ | ⟨_, found⟩
        · subst hash
          rcases origin with ⟨before, found, same⟩ | ⟨frame, returns, starts, rfl, same⟩
          · exact rated.listed _ before found (same.trans owned)
          · obtain ⟨before, found, owned'⟩ := limited.returns frame returns starts (same.trans owned)
            exact rated.listed _ before found owned'
        · exact rated.listed other state' found owned
      · rw [listed]
        exact rated.few
  | closed hash closer _ _ _ stored listed _ _ =>
      constructor
      · intro other state found owned
        have different : other ≠ hash := by
          rintro rfl
          rw [stored, Cells.get?_clear_self] at found
          cases found
        rw [stored, Cells.get?_clear_ne _ different] at found
        have member := rated.listed other state found owned
        rw [listed, Function.update_apply]
        split
        · subst closer
          exact Finset.mem_erase.mpr ⟨different, member⟩
        · exact member
      · rw [listed, Function.update_apply]
        split
        · subst closer
          exact Nat.le_trans (Finset.card_erase_le) rated.few
        · exact rated.few
  | untouched stored listed =>
      constructor
      · rw [stored, listed]
        exact rated.listed
      · rw [listed]
        exact rated.few

/-! ## The tasks of a round -/

def schedulesFor (owner : Address) (round : UInt64) (w : World) (move : Step) : Bool :=
  match move.scheduling? with
  | some call => (resolveCaller call w).1 = owner ∧ call.blockRound = round
  | none => false

def scheduledIn (chain : Chain) (owner : Address) (round : UInt64) (start : World)
    (steps : List Step) : Nat :=
  sumAlong (step chain) (fun w move => if schedulesFor owner round w move then 1 else 0) start steps

theorem step_tasksPerRound (stepped : step chain w move = .ok next) :
    (∃ call payload requested, move = .scheduleQuantumTask call payload requested) ∨
      next.tasksPerRound = w.tasksPerRound := by
  cases step_effect stepped with
  | scheduleQuantumTask => exact .inl ⟨_, _, _, rfl⟩
  | scheduleSovereignTask _ _ taken _ =>
      right
      rcases takeDeposit_cases taken with ⟨_, rfl⟩ | ⟨_, _, _, rfl⟩ <;> rfl
  | authorizeCloneKey | revokeCloneKey | fundCloneKey => exact .inr rfl
  | _ => exact .inr (step_sameWallets stepped rfl rfl).tasksPerRound

theorem counted_tasksPerRound (caller : Address) (current : UInt64) (w : World) :
    (w.counted caller current).tasksPerRound owner round =
      w.tasksPerRound owner round + if caller = owner ∧ current = round then 1 else 0 := by
  simp only [World.counted, Function.update_apply]
  by_cases mine : owner = caller
  · subst mine
    rw [if_pos rfl, Function.update_apply]
    by_cases now : round = current
    · subst now
      simp
    · simp [now, Ne.symm now]
  · simp [mine, Ne.symm mine]

/-- As long as the limits are kept, the counter is right. -/
theorem Limited.counts (limited : Limited owner round w move)
    (stepped : step chain w move = .ok next) :
    next.tasksPerRound owner round =
      w.tasksPerRound owner round + if schedulesFor owner round w move then 1 else 0 := by
  cases move with
  | scheduleQuantumTask call payload requested =>
      rw [(scheduleQuantumTask_limits stepped).2.2, counted_tasksPerRound]
      simp only [schedulesFor, Step.scheduling?, decide_eq_true_eq]
  | scheduleSovereignTask call encryptedPayload requested =>
      have elsewhere : ¬((resolveCaller call w).1 = owner ∧ call.blockRound = round) := by
        rintro ⟨mine, now⟩
        exact (limited.sovereign _ _ _ rfl mine).2 now
      rcases step_tasksPerRound stepped with ⟨_, _, _, impossible⟩ | same
      · cases impossible
      · simp [schedulesFor, Step.scheduling?, elsewhere, same]
  | _ =>
      rcases step_tasksPerRound stepped with ⟨_, _, _, impossible⟩ | same
      · cases impossible
      · rw [same]
        rfl

theorem scheduledIn_eq {start : World} {steps : List Step}
    (trace : Trace (step chain) (Limited owner round) start steps w) :
    w.tasksPerRound owner round =
      start.tasksPerRound owner round + scheduledIn chain owner round start steps :=
  trace.sumAlong_eq (fun _ => True) (fun w => w.tasksPerRound owner round) _
    (fun _ _ _ _ _ _ => trivial) (fun _ _ _ limited _ stepped => limited.counts stepped) trivial

/-- The limit of a round never changes, and no counter exceeds it. -/
structure RoundLimit (w : World) : Prop where
  fixed : w.config.maxTasksPerRound = Constants.maxTasksPerRound
  within : ∀ owner round, w.tasksPerRound owner round ≤ Constants.maxTasksPerRound

theorem Config.apply_maxTasksPerRound {c changed : Config} {change : ConfigCall}
    (fixed : c.maxTasksPerRound = Constants.maxTasksPerRound)
    (applied : c.apply change = .ok changed) :
    changed.maxTasksPerRound = Constants.maxTasksPerRound := by
  cases change with
  | setProtocolFeeBps value =>
      simp only [Config.apply, Outcome.bind_eq_ok, Outcome.pure_eq_ok] at applied
      obtain ⟨_, _, rfl⟩ := applied
      exact fixed
  | removeWhitelistedKeeper keeper =>
      simp only [Config.apply, Outcome.bind_eq_ok, Outcome.pure_eq_ok] at applied
      obtain ⟨_, _, _, _, rfl⟩ := applied
      exact fixed
  | upgrade =>
      obtain rfl := (Outcome.pure_eq_ok _ _).mp applied
      simp only [fixed]
      rfl
  | _ =>
      obtain rfl := (Outcome.pure_eq_ok _ _).mp applied
      exact fixed

theorem RoundLimit.step (limit : RoundLimit w) (stepped : step chain w move = .ok next) :
    RoundLimit next := by
  constructor
  · rcases step_config stepped with ⟨_, _, _, _, applied⟩ | same
    · exact Config.apply_maxTasksPerRound limit.fixed applied
    · rw [same]
      exact limit.fixed
  · intro owner round
    rcases step_tasksPerRound stepped with ⟨call, payload, requested, rfl⟩ | same
    · obtain ⟨_, slow, counted⟩ := scheduleQuantumTask_limits stepped
      rw [counted, counted_tasksPerRound]
      have before := limit.within owner round
      rw [limit.fixed] at slow
      have room := slow (by decide)
      split
      next now =>
        rw [now.1, now.2] at room
        exact room
      next => exact before
    · rw [same]
      exact limit.within owner round

/-! ## Both limits -/

/-- In every run that keeps to the limits of an owner in a round, at most a hundred tasks
of the owner are stored, and no more are scheduled for the owner in the round than the
configured number. -/
theorem rate_limits {start : World} {steps : List Step} (started : Deployed start)
    (trace : Trace (step chain) (Limited owner round) start steps w) :
    (∀ hashes : Finset TaskHash, (∀ hash ∈ hashes, ∃ state,
        w.quantumTasks.get? hash = some state ∧ state.owner = owner) → hashes.card ≤ 100) ∧
      (0 < w.config.maxTasksPerRound →
        scheduledIn chain owner round start steps ≤ w.config.maxTasksPerRound) := by
  obtain ⟨_, _, _, _, _, _, rfl⟩ := started.eq
  constructor
  · have rated : Rated owner w := by
      refine trace.preserves (Rated owner)
        (fun _ _ _ limited rated stepped => rated.step limited stepped) ⟨?_, ?_⟩
      · intro hash state found
        simp [deployed] at found
      · simp [deployed]
    intro hashes owned
    refine Nat.le_trans (Finset.card_le_card ?_) rated.few
    intro hash member
    obtain ⟨state, found, mine⟩ := owned hash member
    exact rated.listed hash state found mine
  · intro _
    have limit : RoundLimit w := by
      refine trace.preserves RoundLimit (fun _ _ _ _ limit stepped => limit.step stepped)
        ⟨rfl, ?_⟩
      intro owner round
      exact Nat.zero_le _
    have counted := scheduledIn_eq trace
    have within := limit.within owner round
    rw [limit.fixed]
    omega

namespace Sample

def sovereignTasks (deposits : List Nat) : List Step :=
  deposits.map fun deposit => .scheduleSovereignTask (call alice deposit 1000) [1] none

def bobSchedules : Step := .scheduleQuantumTask (call bob 700 1000) timedTask none

theorem bobSchedules_limited (w : World) : Limited bob 1 w bobSchedules := by
  constructor
  · intro call encryptedPayload requested impossible
    cases impossible
  · rintro frame ⟨⟨results, impossible⟩, _⟩
    cases impossible

end Sample

theorem rate_limits_sample :
    ∃ w, Trace (step sampleChain) (Limited Sample.bob 1) Sample.world [Sample.bobSchedules] w ∧
      (w.ownerTasks Sample.bob).card = 1 ∧
      scheduledIn sampleChain Sample.bob 1 Sample.world [Sample.bobSchedules] ≤
        w.config.maxTasksPerRound := by
  obtain ⟨w, trace, single, limit⟩ := Trace.of_runChecked (step sampleChain) (fun _ _ => True)
    Sample.world [Sample.bobSchedules]
    (fun w => (w.ownerTasks Sample.bob).card = 1 ∧ 0 < w.config.maxTasksPerRound) (by decide +kernel)
  cases trace with
  | cons _ stepped rest =>
      cases rest
      have limited : Trace (step sampleChain) (Limited Sample.bob 1) Sample.world
          [Sample.bobSchedules] w := .cons (Sample.bobSchedules_limited _) stepped (.nil _)
      exact ⟨w, limited, single, (rate_limits Sample.world_deployed limited).2 limit⟩

/-- Eleven sovereign tasks are scheduled for Alice in a round that allows for ten. -/
theorem rate_limit_exceeded :
    Deployed Sample.world ∧
      ∃ w, Trace (step sampleChain) (fun _ move => move.enablesCompression = false) Sample.world
          (Sample.sovereignTasks (List.range 11)) w ∧
        w.config.maxTasksPerRound = 10 ∧
        scheduledIn sampleChain Sample.alice 1 Sample.world
          (Sample.sovereignTasks (List.range 11)) = 11 := by
  obtain ⟨w, trace, limit⟩ := Trace.of_runChecked (step sampleChain)
    (fun _ move => move.enablesCompression = false) Sample.world
    (Sample.sovereignTasks (List.range 11)) (fun w => w.config.maxTasksPerRound = 10)
    (by decide +kernel)
  exact ⟨Sample.world_deployed, w, trace, limit, by decide +kernel⟩

end XCron.Scheduler
