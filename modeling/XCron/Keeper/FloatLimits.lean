import XCron.Keeper.Sessions

/-!
# The limits of the sessions

Both limits count what is stored. That is what was authorised as long as no authorisation
takes the place of an open session and no report of a failure reopens a closed one.
-/

namespace XCron.Keeper

open Platform Outcome

def PrivacySession.drip (session : PrivacySession) (stealthAddress : Text) : Drip :=
  ⟨stealthAddress, session.userAddress, session.amountDripped⟩

namespace Sessions

variable {w next : Sessions} {move : Step} {stealthAddress : Text} {session : PrivacySession}

def activeMeasure (measure : Drip → Nat) (stealthAddress : Text) (session : PrivacySession) : Nat :=
  if session.active then measure (session.drip stealthAddress) else 0

/-- What is stored as active is what is open, however it is measured. -/
def Matched (w : Sessions) : Prop :=
  ∀ measure, (w.openDrips.map measure).sum =
    w.manager.sessions.weigh (activeMeasure measure)

def float (w : Sessions) : Nat := (w.openDrips.map fun drip => drip.amount.toNat).sum

def userDrips (userAddress : Text) (w : Sessions) : Nat :=
  (w.openDrips.filter fun drip => drip.userAddress = userAddress).length

/-! ## What the manager reads -/

theorem Matched.float_eq (matched : Matched w) :
    w.float = ((w.manager.sessions.values.filter PrivacySession.active).map fun session =>
      session.amountDripped.toNat).sum := by
  rw [Cells.sum_filter_values]
  exact matched fun drip => drip.amount.toNat

theorem Matched.currentOutstanding (matched : Matched w) :
    w.manager.currentOutstanding.toNat = w.float % 2 ^ 128 := by
  rw [matched.float_eq, PrivacySessionManager.currentOutstanding, U128.toNat_sum, List.map_map]
  rfl

theorem Matched.activeUserSessions (matched : Matched w) (userAddress : Text) :
    w.manager.activeUserSessions userAddress = w.userDrips userAddress := by
  have counted := matched fun drip => if drip.userAddress = userAddress then 1 else 0
  unfold userDrips PrivacySessionManager.activeUserSessions
  rw [Cells.length_filter, Cells.length_filter, Cells.values, List.map_map]
  simp only [decide_eq_true_eq]
  rw [counted]
  apply congrArg List.sum
  apply List.map_congr_left
  intro entry _
  unfold activeMeasure PrivacySession.drip
  by_cases active : entry.2.active = true
  · simp only [Function.comp_apply, active, Bool.and_true, if_true, decide_eq_true_eq]
  · simp [active]

/-! ## What the calls do -/

theorem authorizeSession_ok {now : UInt64} {userAddress : Text} {dripAmount : U128}
    {manager changed : PrivacySessionManager}
    (authorized : manager.authorizeSession now userAddress stealthAddress dripAmount = .ok changed) :
    manager.currentOutstanding + dripAmount ≤ manager.globalFloatLimit ∧
      manager.activeUserSessions userAddress < manager.maxActiveDripsPerUser ∧
      ∃ session : PrivacySession, session.active = true ∧
        session.drip stealthAddress = ⟨stealthAddress, userAddress, dripAmount⟩ ∧
        { manager with sessions := manager.sessions.set stealthAddress session } = changed := by
  unfold PrivacySessionManager.authorizeSession at authorized
  dsimp only at authorized
  split at authorized
  next => cases authorized
  next within =>
    split at authorized
    next => cases authorized
    next few =>
      exact ⟨BitVec.not_lt.mp within, Nat.lt_of_not_le few, _, rfl, rfl, Except.ok.inj authorized⟩

theorem completeSession_ok {manager changed : PrivacySessionManager}
    (completed : manager.completeSession stealthAddress = .ok changed) :
    ∃ session, manager.sessions.get? stealthAddress = some session ∧
      { manager with sessions :=
          manager.sessions.set stealthAddress { session with status := .swept } } = changed := by
  unfold PrivacySessionManager.completeSession at completed
  split at completed
  next session found => exact ⟨session, found, Except.ok.inj completed⟩
  next => cases completed

theorem registerFailedSweep_ok {manager changed : PrivacySessionManager}
    (registered : manager.registerFailedSweep stealthAddress = .ok changed) :
    ∃ session failed, manager.sessions.get? stealthAddress = some session ∧
      failed.active = true ∧ failed.drip stealthAddress = session.drip stealthAddress ∧
      changed.sessions = manager.sessions.set stealthAddress failed ∧
      changed.globalFloatLimit = manager.globalFloatLimit ∧
      changed.maxActiveDripsPerUser = manager.maxActiveDripsPerUser := by
  unfold PrivacySessionManager.registerFailedSweep at registered
  split at registered
  next session found =>
    dsimp only at registered
    let failed : PrivacySession :=
      { session with status := .failedSweep, retryCount := session.retryCount + 1 }
    have kept : changed.sessions = manager.sessions.set stealthAddress failed ∧
        changed.globalFloatLimit = manager.globalFloatLimit ∧
          changed.maxActiveDripsPerUser = manager.maxActiveDripsPerUser := by
      split at registered <;> obtain rfl := Except.ok.inj registered <;> exact ⟨rfl, rfl, rfl⟩
    exact ⟨session, failed, found, rfl, rfl, kept⟩
  next => cases registered

/-- A call that fails changes nothing; the others are these. -/
inductive Effect (w next : Sessions) : Step → Prop where
  | refused {move : Step} : next = w → Effect w next move
  | authorized {now : UInt64} {userAddress stealthAddress : Text} {dripAmount : U128}
      {session : PrivacySession} :
      w.manager.currentOutstanding + dripAmount ≤ w.manager.globalFloatLimit →
      w.manager.activeUserSessions userAddress < w.manager.maxActiveDripsPerUser →
      session.active = true →
      session.drip stealthAddress = ⟨stealthAddress, userAddress, dripAmount⟩ →
      next = ⟨{ w.manager with sessions := w.manager.sessions.set stealthAddress session },
        w.openDrips ++ [⟨stealthAddress, userAddress, dripAmount⟩]⟩ →
      Effect w next (.authorizeSession now userAddress stealthAddress dripAmount)
  | completed {stealthAddress : Text} {session : PrivacySession} :
      w.manager.sessions.get? stealthAddress = some session →
      next = ⟨{ w.manager with sessions :=
          w.manager.sessions.set stealthAddress { session with status := .swept } },
        w.openDrips.filter fun drip => drip.stealthAddress ≠ stealthAddress⟩ →
      Effect w next (.completeSession stealthAddress)
  | failed {stealthAddress : Text} {session failed : PrivacySession} :
      w.manager.sessions.get? stealthAddress = some session → failed.active = true →
      failed.drip stealthAddress = session.drip stealthAddress →
      next.manager.sessions = w.manager.sessions.set stealthAddress failed →
      next.manager.globalFloatLimit = w.manager.globalFloatLimit →
      next.manager.maxActiveDripsPerUser = w.manager.maxActiveDripsPerUser →
      next.openDrips = w.openDrips → Effect w next (.registerFailedSweep stealthAddress)

theorem step_effect (stepped : step w move = .ok next) : Effect w next move := by
  cases move with
  | authorizeSession now userAddress stealthAddress dripAmount =>
      simp only [step] at stepped
      split at stepped
      next manager authorized =>
        obtain ⟨within, few, session, active, drip, rfl⟩ := authorizeSession_ok authorized
        exact .authorized within few active drip ((pure_eq_ok _ _).mp stepped).symm
      next => exact .refused ((pure_eq_ok _ _).mp stepped).symm
  | completeSession stealthAddress =>
      simp only [step] at stepped
      split at stepped
      next manager completed =>
        obtain ⟨session, found, rfl⟩ := completeSession_ok completed
        exact .completed found ((pure_eq_ok _ _).mp stepped).symm
      next => exact .refused ((pure_eq_ok _ _).mp stepped).symm
  | registerFailedSweep stealthAddress =>
      simp only [step] at stepped
      split at stepped
      next manager registered =>
        obtain ⟨session, failed, found, active, drip, sessions, limit, most⟩ :=
          registerFailedSweep_ok registered
        obtain rfl := (pure_eq_ok _ _).mp stepped
        exact .failed found active drip sessions limit most rfl
      next => exact .refused ((pure_eq_ok _ _).mp stepped).symm

/-! ## Fair calls -/

/-- Both limits leave room for a drip. -/
def Admits (w : Sessions) (userAddress : Text) (dripAmount : U128) : Prop :=
  w.manager.currentOutstanding + dripAmount ≤ w.manager.globalFloatLimit ∧
    w.manager.activeUserSessions userAddress < w.manager.maxActiveDripsPerUser

instance (w : Sessions) (userAddress : Text) (dripAmount : U128) :
    Decidable (w.Admits userAddress dripAmount) :=
  inferInstanceAs (Decidable (_ ∧ _))

/-- The calls that keep the count: no authorised sum wraps, no authorisation goes to an
address with an open session, and no failure is reported of a closed one. -/
def Fair (w : Sessions) : Step → Prop
  | .authorizeSession _ userAddress stealthAddress dripAmount =>
      w.manager.currentOutstanding.toNat + dripAmount.toNat < 2 ^ 128 ∧
        ∀ session ∈ w.manager.sessions.get? stealthAddress,
          session.active = true → ¬w.Admits userAddress dripAmount
  | .registerFailedSweep stealthAddress =>
      ∀ session ∈ w.manager.sessions.get? stealthAddress, session.status ≠ .swept
  | .completeSession _ => True

instance (w : Sessions) (move : Step) : Decidable (w.Fair move) := by
  unfold Fair
  split <;> infer_instance

theorem active_iff (session : PrivacySession) : session.active = true ↔ session.status ≠ .swept := by
  unfold PrivacySession.active
  cases session.status <;> decide

theorem Matched.authorized (matched : Matched w)
    (closed : ∀ old, w.manager.sessions.get? stealthAddress = some old → old.active = false)
    (active : session.active = true) :
    Matched ⟨{ w.manager with sessions := w.manager.sessions.set stealthAddress session },
      w.openDrips ++ [session.drip stealthAddress]⟩ := by
  intro measure
  have nothing : ∀ old, w.manager.sessions.get? stealthAddress = some old →
      activeMeasure measure stealthAddress old = 0 := by
    intro old found
    simp [activeMeasure, closed old found]
  have added : activeMeasure measure stealthAddress session =
      measure (session.drip stealthAddress) := if_pos active
  rw [Cells.weigh_set, Cells.weigh_clear_of_zero _ nothing, ← matched measure, added,
    List.map_append, List.sum_append, Nat.add_comm]
  rfl

theorem Matched.completed (matched : Matched w)
    (found : w.manager.sessions.get? stealthAddress = some session) :
    Matched ⟨{ w.manager with sessions :=
        w.manager.sessions.set stealthAddress { session with status := .swept } },
      w.openDrips.filter fun drip => drip.stealthAddress ≠ stealthAddress⟩ := by
  intro measure
  let elsewhere : Drip → Nat := fun drip =>
    if drip.stealthAddress ≠ stealthAddress then measure drip else 0
  have cleared := Cells.weigh_clear (activeMeasure elsewhere) found
  have here : activeMeasure elsewhere stealthAddress session = 0 := by
    simp [activeMeasure, elsewhere, PrivacySession.drip]
  have agree : ∀ other, other ≠ stealthAddress → activeMeasure measure other =
      activeMeasure elsewhere other := by
    intro other different
    funext stored
    simp [activeMeasure, elsewhere, PrivacySession.drip, different]
  have swept : activeMeasure measure stealthAddress { session with status := .swept } = 0 := rfl
  rw [Cells.weigh_set, swept, Nat.zero_add, Cells.weigh_clear_congr _ _ agree, Cells.sum_filter]
  simp only [decide_eq_true_eq]
  rw [here, Nat.add_zero, ← matched elsewhere] at cleared
  exact cleared.symm

theorem Matched.failed (matched : Matched w)
    (found : w.manager.sessions.get? stealthAddress = some session)
    (open' : session.active = true) {failed : PrivacySession} (active : failed.active = true)
    (drip : failed.drip stealthAddress = session.drip stealthAddress)
    (sessions : next.manager.sessions = w.manager.sessions.set stealthAddress failed)
    (drips : next.openDrips = w.openDrips) : Matched next := by
  intro measure
  have cleared := Cells.weigh_clear (activeMeasure measure) found
  have same : activeMeasure measure stealthAddress failed =
      activeMeasure measure stealthAddress session := by
    simp only [activeMeasure, active, open', if_true, drip]
  rw [drips, sessions, Cells.weigh_set, matched measure, same, Nat.add_comm]
  exact cleared.symm

/-- The limits hold of what was authorised, and the manager knows it. -/
structure Limited (globalFloatLimit : U128) (maxActiveDripsPerUser : Nat) (w : Sessions) : Prop where
  matched : Matched w
  float : w.float ≤ globalFloatLimit.toNat
  users : ∀ userAddress, w.userDrips userAddress ≤ maxActiveDripsPerUser
  limit : w.manager.globalFloatLimit = globalFloatLimit
  most : w.manager.maxActiveDripsPerUser = maxActiveDripsPerUser

theorem Limited.currentOutstanding {globalFloatLimit : U128} {maxActiveDripsPerUser : Nat}
    (limited : Limited globalFloatLimit maxActiveDripsPerUser w) :
    w.manager.currentOutstanding.toNat = w.float := by
  rw [limited.matched.currentOutstanding]
  exact Nat.mod_eq_of_lt (Nat.lt_of_le_of_lt limited.float globalFloatLimit.isLt)

theorem limited_step {globalFloatLimit : U128} {maxActiveDripsPerUser : Nat}
    (limited : Limited globalFloatLimit maxActiveDripsPerUser w) (fair : w.Fair move)
    (stepped : step w move = .ok next) : Limited globalFloatLimit maxActiveDripsPerUser next := by
  have outstanding := limited.currentOutstanding
  cases step_effect stepped with
  | refused same => rwa [same]
  | @authorized now userAddress stealthAddress dripAmount session within few active drip moved =>
      obtain ⟨fits, closed⟩ := fair
      have room := BitVec.le_def.mp within
      rw [(U128.toNat_add_eq_iff _ _).mpr fits, outstanding, limited.limit] at room
      subst moved
      rw [← drip]
      refine ⟨limited.matched.authorized ?_ active, ?_, ?_, limited.limit, limited.most⟩
      · intro old found
        by_contra stillOpen
        exact closed old found (by simpa using stillOpen) ⟨within, few⟩
      · simpa [Sessions.float, drip] using room
      · intro other
        have before := limited.users other
        rw [limited.matched.activeUserSessions, limited.most] at few
        simp only [userDrips, List.filter_append, List.length_append, drip] at before few ⊢
        by_cases same : userAddress = other
        · subst same
          simpa using few
        · simpa [same] using before
  | @completed stealthAddress session found moved =>
      subst moved
      refine ⟨limited.matched.completed found, ?_, ?_, limited.limit, limited.most⟩
      · have kept : (w.openDrips.filter fun drip => drip.stealthAddress ≠ stealthAddress).Sublist
            w.openDrips := List.filter_sublist
        exact Nat.le_trans (List.Sublist.sum_le_sum (kept.map _) (by simp)) limited.float
      · intro userAddress
        have kept : (w.openDrips.filter fun drip => drip.stealthAddress ≠ stealthAddress).Sublist
            w.openDrips := List.filter_sublist
        exact Nat.le_trans (kept.filter _).length_le (limited.users userAddress)
  | @failed stealthAddress session failed found active drip sessions limit most drips =>
      have open' : session.active = true := (active_iff session).mpr (fair session found)
      refine ⟨limited.matched.failed found open' active drip sessions drips, ?_, ?_,
        limit.trans limited.limit, most.trans limited.most⟩
      · rw [Sessions.float, drips]
        exact limited.float
      · intro userAddress
        rw [userDrips, drips]
        exact limited.users userAddress

theorem limited_start (globalFloatLimit : U128) (maxActiveDripsPerUser : Nat) :
    Limited globalFloatLimit maxActiveDripsPerUser
      (start globalFloatLimit maxActiveDripsPerUser) := by
  refine ⟨fun _ => rfl, Nat.zero_le _, fun _ => Nat.zero_le _, rfl, rfl⟩

/-- A fair call activates a closed session only by authorising its address again. -/
theorem stays_closed {later : PrivacySession} (fair : w.Fair move)
    (stepped : step w move = .ok next)
    (found : w.manager.sessions.get? stealthAddress = some session)
    (swept : session.status = .swept)
    (found' : next.manager.sessions.get? stealthAddress = some later)
    (active : later.active = true) :
    ∃ now userAddress dripAmount,
      move = .authorizeSession now userAddress stealthAddress dripAmount := by
  have closed {stored : PrivacySession} (stored' : some stored = some later)
      (status : stored.status = .swept) : False := by
    obtain rfl := Option.some.inj stored'
    exact (active_iff stored).mp active status
  cases step_effect stepped with
  | refused same =>
      subst same
      exact (closed (found.symm.trans found') swept).elim
  | @authorized now userAddress other dripAmount _ _ _ _ _ moved =>
      subst moved
      by_cases same : stealthAddress = other
      · exact ⟨now, userAddress, dripAmount, by rw [same]⟩
      · rw [Cells.get?_set_ne _ _ same, found] at found'
        exact (closed found' swept).elim
  | @completed other stored _ moved =>
      subst moved
      rcases Cells.of_get?_set found' with ⟨_, rfl⟩ | ⟨_, found'⟩
      · exact (closed rfl rfl).elim
      · exact (closed (found.symm.trans found') swept).elim
  | @failed other stored _ stored' _ _ sessions _ _ _ =>
      by_cases same : stealthAddress = other
      · subst same
        exact (fair session found swept).elim
      · rw [sessions, Cells.get?_set_ne _ _ same, found] at found'
        exact (closed found' swept).elim

/-- After any fair calls, the authorised and uncompleted drips keep to both limits, the
sum that is compared is their exact sum, and no fair call reopens a closed session but a
new authorisation. -/
theorem sessions_limited {globalFloatLimit : U128} {maxActiveDripsPerUser : Nat}
    {steps : List Step}
    (trace : Trace step Fair (start globalFloatLimit maxActiveDripsPerUser) steps w) :
    w.float ≤ globalFloatLimit.toNat ∧
      (∀ userAddress, w.userDrips userAddress ≤ maxActiveDripsPerUser) ∧
      w.manager.currentOutstanding.toNat = w.float ∧
      ∀ move next stealthAddress session later, w.Fair move → step w move = .ok next →
        w.manager.sessions.get? stealthAddress = some session → session.status = .swept →
        next.manager.sessions.get? stealthAddress = some later → later.active = true →
        ∃ now userAddress dripAmount,
          move = .authorizeSession now userAddress stealthAddress dripAmount := by
  have limited : Limited globalFloatLimit maxActiveDripsPerUser w := by
    refine trace.preserves _ ?_ (limited_start globalFloatLimit maxActiveDripsPerUser)
    intro _ _ _ fair limited stepped
    exact limited_step limited fair stepped
  refine ⟨limited.float, limited.users, limited.currentOutstanding, ?_⟩
  intro _ _ _ _ _ fair stepped found swept found' active
  exact stays_closed fair stepped found swept found' active

namespace Sample

def user : Text := ascii "erd1user"

def stealth (number : UInt8) : Text := ascii "erd1stealth" ++ [number]

def fairCalls : List Step :=
  [.authorizeSession 1 user (stealth 1) 5, .authorizeSession 2 user (stealth 2) 5,
    .authorizeSession 3 user (stealth 3) 5, .registerFailedSweep (stealth 1),
    .completeSession (stealth 1), .authorizeSession 4 user (stealth 1) 3]

def repeatedCalls : List Step :=
  [.authorizeSession 1 user (stealth 1) 5, .authorizeSession 2 user (stealth 1) 5,
    .authorizeSession 3 user (stealth 1) 5]

def completedCalls : List Step :=
  [.authorizeSession 1 user (stealth 1) 5, .completeSession (stealth 1)]

end Sample

theorem sessions_limited_sample :
    ∃ w, Trace step Fair (start 10 2) Sample.fairCalls w ∧ w.openDrips.length = 2 ∧
      w.float ≤ 10 ∧ w.userDrips Sample.user ≤ 2 := by
  obtain ⟨w, trace, two⟩ := Trace.of_runChecked step Fair (start 10 2) Sample.fairCalls
    (fun w => w.openDrips.length = 2) (by decide +kernel)
  obtain ⟨float, users, _⟩ := sessions_limited trace
  exact ⟨w, trace, two, float, users Sample.user⟩

/-- Both limits are passed, and a closed session is active again. -/
theorem sessions_exceed_limits :
    (∃ w, Trace step (fun _ _ => True) (start 10 2) Sample.repeatedCalls w ∧ w.float = 15 ∧
      w.userDrips Sample.user = 3) ∧
    ∃ w next, Trace step (fun _ _ => True) (start 10 2) Sample.completedCalls w ∧
      (w.manager.sessions.get? (Sample.stealth 1)).map PrivacySession.status = some .swept ∧
      step w (.registerFailedSweep (Sample.stealth 1)) = .ok next ∧
      (next.manager.sessions.get? (Sample.stealth 1)).map PrivacySession.active = some true := by
  constructor
  · exact Trace.of_runChecked step (fun _ _ => True) (start 10 2) Sample.repeatedCalls
      (fun w => w.float = 15 ∧ w.userDrips Sample.user = 3) (by decide +kernel)
  · obtain ⟨w, trace, swept, reopened⟩ := Trace.of_runChecked step (fun _ _ => True) (start 10 2)
      Sample.completedCalls
      (fun w => (w.manager.sessions.get? (Sample.stealth 1)).map PrivacySession.status =
          some .swept ∧
        endsIn (fun next => (next.manager.sessions.get? (Sample.stealth 1)).map
          PrivacySession.active = some true) (step w (.registerFailedSweep (Sample.stealth 1))) = true)
      (by decide +kernel)
    obtain ⟨next, stepped, active⟩ := endsIn_iff.mp reopened
    exact ⟨w, next, trace, swept, stepped, active⟩

end Sessions

end XCron.Keeper
