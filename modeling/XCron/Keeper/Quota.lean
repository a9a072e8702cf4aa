import XCron.Keeper.DripFunder

/-!
# The daily quota of drips

The accumulator is exact while every attempt that fails gives its drip back to the window
that it was taken from. The code does so in one of the places where an attempt can fail,
and there without asking which window it is.
-/

namespace XCron.Keeper

open Platform Outcome

/-! ## What counts -/

def Stage.window? : Stage → Option Nat
  | .approved window => some window
  | .signed window _ => some window
  | .broadcast window _ => some window
  | _ => none

def Stage.sampled? : Stage → Option UInt64
  | .sampled now => some now
  | _ => none

namespace Attempt

/-- What an attempt takes from a window while it is in progress or has succeeded. -/
def spends (window : Nat) (attempt : Attempt) : Nat :=
  if attempt.stage.window? = some window then attempt.dripAmt.toNat else 0

def pays (window : Nat) (attempt : Attempt) : Nat :=
  match attempt.stage with
  | .broadcast approved _ => if approved = window then attempt.dripAmt.toNat else 0
  | _ => 0

theorem pays_le_spends (window : Nat) (attempt : Attempt) :
    attempt.pays window ≤ attempt.spends window := by
  unfold pays spends
  split
  next approved _ broadcast => simp [broadcast, Stage.window?]
  next => exact Nat.zero_le _

theorem spends_eq_zero_iff (window : Nat) (attempt : Attempt) :
    attempt.spends window = 0 ↔ attempt.dripAmt = 0 ∨ attempt.stage.window? ≠ some window := by
  unfold spends
  rw [U128.eq_zero_iff]
  split
  next counted => simp [counted]
  next elsewhere => simp [elsewhere]

theorem spends_congr {attempt later : Attempt} (amount : later.dripAmt = attempt.dripAmt)
    (stage : later.stage.window? = attempt.stage.window?) (window : Nat) :
    later.spends window = attempt.spends window := by
  unfold spends
  rw [amount, stage]

theorem spends_of_idle {attempt : Attempt} (idle : attempt.stage.window? = none) (window : Nat) :
    attempt.spends window = 0 := by
  simp [spends, idle]

end Attempt

namespace Drips

variable {w next : Drips} {move : Step} {id : Nat} {attempt : Attempt} {now : UInt64}

/-- The drips approved in a window that are in progress or have been broadcast. -/
def spent (window : Nat) (w : Drips) : Nat := w.attempts.total (Attempt.spends window)

def paid (window : Nat) (w : Drips) : Nat := w.attempts.total (Attempt.pays window)

theorem paid_le_spent (window : Nat) (w : Drips) : w.paid window ≤ w.spent window := by
  apply List.sum_le_sum
  intro entry _
  exact entry.2.pays_le_spends window

/-- The accumulator is what the current window has spent. -/
def Exact (w : Drips) : Prop := w.funder.dailyAccumulator.toNat = w.spent w.window

/-- No attempt comes from a later window. -/
def Dated (w : Drips) : Prop :=
  ∀ id attempt window, w.attempts.get? id = some attempt →
    attempt.stage.window? = some window → window ≤ w.window

theorem spent_record (found : w.attempts.get? id = some attempt) (later : Attempt) (window : Nat) :
    (w.record id later).spent window + attempt.spends window =
      later.spends window + w.spent window :=
  Cells.total_set_of_some (Attempt.spends window) later found

theorem Dated.spent_later (dated : Dated w) {window : Nat} (later : w.window < window) :
    w.spent window = 0 := by
  apply (Cells.total_eq_zero_iff _ _).mpr
  intro id attempt found
  apply if_neg
  intro counted
  have early := dated id attempt window found counted
  omega

/-! ## What a step does -/

/-- What a step does, from the stage that its attempt has reached. -/
inductive Effect (w next : Drips) : Step → Prop where
  | ticked {now : UInt64} : { w with clock := now } = next → Effect w next (.tick now)
  | queried {id : Nat} {stealth dripWallet : Text} {response : AccountResponse} :
      w.attempts.get? id = none → w.query id stealth dripWallet response = next →
      Effect w next (.query id stealth dripWallet response)
  | checked {id : Nat} {attempt : Attempt} {now : UInt64} :
      w.attempts.get? id = some attempt → attempt.stage = .sampled now →
      w.check id attempt now = next → Effect w next (.check id)
  | fetched {id window : Nat} {attempt : Attempt} {nonce : Option UInt64} :
      w.attempts.get? id = some attempt → attempt.stage = .approved window →
      w.fetchNonce id attempt window nonce = next → Effect w next (.fetchNonce id nonce)
  | answered {id window : Nat} {attempt : Attempt} {fundingTx : Transaction}
      {txHash : Option Text} :
      w.attempts.get? id = some attempt → attempt.stage = .signed window fundingTx →
      w.broadcast id attempt window txHash = next → Effect w next (.broadcast id txHash)

theorem step_effect (stepped : step w move = .ok next) : Effect w next move := by
  cases move with
  | tick now =>
      simp only [step, bind_eq_ok, pure_eq_ok] at stepped
      obtain ⟨_, _, moved⟩ := stepped
      exact .ticked moved
  | query id stealth dripWallet response =>
      simp only [step] at stepped
      split at stepped
      next free => exact .queried free ((pure_eq_ok _ _).mp stepped)
      next => cases stepped
  | check id =>
      simp only [step, bind_eq_ok, load_eq_ok] at stepped
      obtain ⟨attempt, found, stepped⟩ := stepped
      split at stepped
      next now sampled => exact .checked found sampled ((pure_eq_ok _ _).mp stepped)
      next => cases stepped
  | fetchNonce id nonce =>
      simp only [step, bind_eq_ok, load_eq_ok] at stepped
      obtain ⟨attempt, found, stepped⟩ := stepped
      split at stepped
      next window approved => exact .fetched found approved ((pure_eq_ok _ _).mp stepped)
      next => cases stepped
  | broadcast id txHash =>
      simp only [step, bind_eq_ok, load_eq_ok] at stepped
      obtain ⟨attempt, found, stepped⟩ := stepped
      split at stepped
      next window fundingTx signed => exact .answered found signed ((pure_eq_ok _ _).mp stepped)
      next => cases stepped

theorem Dated.record (dated : Dated w) {later : Attempt}
    (early : ∀ window, later.stage.window? = some window → window ≤ w.window) :
    Dated (w.record id later) := by
  intro other stored window found counted
  rw [Drips.record] at found
  rcases Cells.of_get?_set found with ⟨_, rfl⟩ | ⟨_, found⟩
  · exact early window counted
  · exact dated other stored window found counted

theorem window_le_windowAt (now : UInt64) (w : Drips) : w.window ≤ w.windowAt now := by
  unfold windowAt
  split
  · exact Nat.le_succ _
  · exact Nat.le_refl _

/-- The check sends the attempt away. -/
def Refuses (w : Drips) (attempt : Attempt) (now : UInt64) : Prop :=
  w.funder.maxDailyDripCap < (w.funder.roll now).dailyAccumulator + attempt.dripAmt

instance (w : Drips) (attempt : Attempt) (now : UInt64) : Decidable (w.Refuses attempt now) :=
  inferInstanceAs (Decidable (_ < _))

theorem roll_cap (now : UInt64) (funder : DripFunder) :
    (funder.roll now).maxDailyDripCap = funder.maxDailyDripCap := by
  unfold DripFunder.roll
  split <;> rfl

theorem check_refused (id : Nat) (refuses : w.Refuses attempt now) : ∃ refused,
    w.check id attempt now =
      { w.record id { attempt with stage := .ended (.error refused) } with
        funder := w.funder.roll now, window := w.windowAt now } := by
  rw [Refuses, ← roll_cap now] at refuses
  refine ⟨.dailyLimitExceeded (w.funder.roll now).maxDailyDripCap
    (w.funder.roll now).dailyAccumulator attempt.dripAmt, ?_⟩
  simp only [check, DripFunder.checkAndIncrementDrip, refuses, if_true]

theorem check_approved (id : Nat) (approves : ¬w.Refuses attempt now) :
    w.check id attempt now =
      { w.record id { attempt with stage := .approved (w.windowAt now) } with
        funder := { w.funder.roll now with
          dailyAccumulator := (w.funder.roll now).dailyAccumulator + attempt.dripAmt }
        window := w.windowAt now } := by
  rw [Refuses, ← roll_cap now] at approves
  simp only [check, DripFunder.checkAndIncrementDrip, approves, if_false]

/-- Whatever the check decides, it has rolled the funder, and an attempt that it lets pass
counts for the window of the check. -/
theorem check_decides (id : Nat) (attempt : Attempt) (now : UInt64) (w : Drips) :
    ∃ stage accumulator, stage.sampled? = none ∧
      (∀ window, stage.window? = some window → window = w.windowAt now) ∧
      w.check id attempt now =
        { w.record id { attempt with stage := stage } with
          funder := { w.funder.roll now with dailyAccumulator := accumulator }
          window := w.windowAt now } := by
  by_cases refuses : w.Refuses attempt now
  · obtain ⟨refused, checked⟩ := check_refused id refuses
    exact ⟨.ended (.error refused), _, rfl, nofun, checked⟩
  · refine ⟨.approved (w.windowAt now), _, rfl, ?_, check_approved id refuses⟩
    rintro window ⟨⟩
    rfl

theorem check_window : (w.check id attempt now).window = w.windowAt now := by
  obtain ⟨_, _, _, _, checked⟩ := check_decides id attempt now w
  rw [checked]

theorem dated_step (dated : Dated w) (stepped : step w move = .ok next) : Dated next := by
  cases step_effect stepped with
  | ticked moved =>
      subst moved
      exact dated
  | queried _ moved =>
      subst moved
      apply dated.record
      intro window counted
      dsimp only at counted
      split at counted <;> cases counted
  | @checked id attempt now _ _ moved =>
      subst moved
      have later : Dated { w with window := w.windowAt now } := fun other stored window found counted =>
        Nat.le_trans (dated other stored window found counted) (window_le_windowAt now w)
      obtain ⟨stage, _, _, counts, checked⟩ := check_decides id attempt now w
      rw [checked]
      apply later.record
      intro window counted
      exact Nat.le_of_eq (counts window counted)
  | @fetched id window attempt nonce found approved moved =>
      subst moved
      have early := dated id attempt window found (by rw [approved]; rfl)
      apply dated.record
      cases nonce with
      | none => simp [Stage.window?]
      | some nonce =>
          rintro window ⟨⟩
          exact early
  | @answered id window attempt fundingTx txHash found signed moved =>
      subst moved
      have early := dated id attempt window found (by rw [signed]; rfl)
      cases txHash with
      | none => exact dated.record (by simp [Stage.window?])
      | some txHash =>
          apply dated.record
          rintro window ⟨⟩
          exact early

/-! ## Exactness -/

theorem Exact.roll (exact : Exact w) (dated : Dated w) (now : UInt64) :
    (w.funder.roll now).dailyAccumulator.toNat = w.spent (w.windowAt now) := by
  unfold DripFunder.roll windowAt
  split
  · rw [dated.spent_later (Nat.lt_succ_self _)]
    rfl
  · exact exact

/-- The sum of an approved check does not wrap. -/
def FairCheck (w : Drips) (attempt : Attempt) : Prop :=
  match attempt.stage with
  | .sampled now => w.Refuses attempt now ∨
      (w.funder.roll now).dailyAccumulator.toNat + attempt.dripAmt.toNat < 2 ^ 128
  | _ => True

instance (w : Drips) (attempt : Attempt) : Decidable (w.FairCheck attempt) := by
  unfold FairCheck
  split <;> infer_instance

/-- The steps that keep the accumulator exact: no approved sum wraps, an attempt that
fails for want of a nonce does not count for the current window, and one that fails at
its broadcast does, or is not taken back. A drip of nothing may fail anywhere. -/
def Fair (w : Drips) : Step → Prop
  | .check id => ∀ attempt ∈ w.attempts.get? id, w.FairCheck attempt
  | .fetchNonce id none => ∀ attempt ∈ w.attempts.get? id,
      attempt.dripAmt = 0 ∨ attempt.stage.window? ≠ some w.window
  | .broadcast id none => ∀ attempt ∈ w.attempts.get? id,
      attempt.dripAmt = 0 ∨ attempt.stage.window? = some w.window ∨
        w.funder.dailyAccumulator < attempt.dripAmt
  | _ => True

instance (w : Drips) (move : Step) : Decidable (w.Fair move) := by
  unfold Fair
  split <;> infer_instance

theorem exact_check_iff (dated : Dated w) (exact : Exact w)
    (found : w.attempts.get? id = some attempt) (sampled : attempt.stage = .sampled now) :
    Exact (w.check id attempt now) ↔ w.Refuses attempt now ∨
      (w.funder.roll now).dailyAccumulator.toNat + attempt.dripAmt.toNat < 2 ^ 128 := by
  have rolled := exact.roll dated now
  have idle : attempt.spends (w.windowAt now) = 0 :=
    Attempt.spends_of_idle (by rw [sampled]; rfl) _
  by_cases refuses : w.Refuses attempt now
  · obtain ⟨refused, checked⟩ := check_refused id refuses
    let later : Attempt := { attempt with stage := .ended (.error refused) }
    have recorded := spent_record found later (w.windowAt now)
    have silent : later.spends (w.windowAt now) = 0 := Attempt.spends_of_idle rfl _
    rw [silent, idle, Nat.add_zero, Nat.zero_add] at recorded
    refine iff_of_true ?_ (.inl refuses)
    rw [checked]
    exact rolled.trans recorded.symm
  · let later : Attempt := { attempt with stage := .approved (w.windowAt now) }
    have recorded := spent_record found later (w.windowAt now)
    have counts : later.spends (w.windowAt now) = attempt.dripAmt.toNat := if_pos rfl
    rw [counts, idle, Nat.add_zero, ← rolled, Nat.add_comm] at recorded
    rw [check_approved id refuses, ← U128.toNat_add_eq_iff]
    unfold Exact
    constructor
    · intro counted
      exact .inr (counted.trans recorded)
    · rintro (refuses' | counted)
      · exact absurd refuses' refuses
      · exact counted.trans recorded.symm

theorem spent_failed (found : w.attempts.get? id = some attempt) (failure : DripError)
    (window : Nat) :
    (w.record id { attempt with stage := .ended (.error failure) }).spent window +
      attempt.spends window = w.spent window := by
  rw [spent_record found, Attempt.spends_of_idle rfl, Nat.zero_add]

theorem spent_kept (found : w.attempts.get? id = some attempt) {later : Attempt}
    (amount : later.dripAmt = attempt.dripAmt)
    (stage : later.stage.window? = attempt.stage.window?) (window : Nat) :
    (w.record id later).spent window = w.spent window := by
  have recorded := spent_record found later window
  rw [Attempt.spends_congr amount stage] at recorded
  omega

theorem spent_query (free : w.attempts.get? id = none) (stealth dripWallet : Text)
    (response : AccountResponse) (window : Nat) :
    (w.query id stealth dripWallet response).spent window = w.spent window := by
  have begun : (w.query id stealth dripWallet response).spent window = _ + w.spent window :=
    Cells.total_set_of_none _ _ free
  rwa [Attempt.spends_of_idle (by dsimp only; split <;> rfl), Nat.zero_add] at begun

theorem toNat_revert (amount : U128) (funder : DripFunder) :
    (funder.revert amount).dailyAccumulator.toNat =
      if amount.toNat ≤ funder.dailyAccumulator.toNat then
        funder.dailyAccumulator.toNat - amount.toNat
      else funder.dailyAccumulator.toNat := by
  simp only [DripFunder.revert, BitVec.le_def]
  split
  next covered => exact BitVec.toNat_sub_of_le (BitVec.le_def.mpr covered)
  next => rfl

theorem exact_fetchNonce_iff (exact : Exact w) (found : w.attempts.get? id = some attempt)
    {window : Nat} (approved : attempt.stage = .approved window) (nonce : Option UInt64) :
    Exact (w.fetchNonce id attempt window nonce) ↔ w.Fair (.fetchNonce id nonce) := by
  cases nonce with
  | some nonce =>
      have kept : (w.fetchNonce id attempt window (some nonce)).spent w.window =
          w.spent w.window := by
        apply spent_kept found
        · rfl
        · rw [approved]
          rfl
      exact iff_of_true (exact.trans kept.symm) trivial
  | none =>
      have failed := spent_failed found .network w.window
      have unspent := attempt.spends_eq_zero_iff w.window
      simp only [Fair, found, Option.mem_some_iff, forall_eq']
      rw [← unspent]
      change w.funder.dailyAccumulator.toNat = _ ↔ _
      rw [show w.funder.dailyAccumulator.toNat = _ from exact, ← failed]
      constructor
      · intro counted
        exact Nat.left_eq_add.mp counted.symm
      · intro nothing
        rw [nothing]
        rfl

theorem exact_broadcast_iff (exact : Exact w) (found : w.attempts.get? id = some attempt)
    {window : Nat} {fundingTx : Transaction} (signed : attempt.stage = .signed window fundingTx)
    (txHash : Option Text) :
    Exact (w.broadcast id attempt window txHash) ↔ w.Fair (.broadcast id txHash) := by
  cases txHash with
  | some txHash =>
      have kept : (w.broadcast id attempt window (some txHash)).spent w.window =
          w.spent w.window := by
        apply spent_kept found
        · rfl
        · rw [signed]
          rfl
      exact iff_of_true (exact.trans kept.symm) trivial
  | none =>
      have failed := spent_failed found .network w.window
      have reverted := toNat_revert attempt.dripAmt w.funder
      have counted : w.funder.dailyAccumulator.toNat = w.spent w.window := exact
      simp only [Fair, found, Option.mem_some_iff, forall_eq']
      rw [U128.eq_zero_iff, BitVec.lt_def]
      change (w.funder.revert attempt.dripAmt).dailyAccumulator.toNat =
        (w.record id { attempt with stage := .ended (.error .network) }).spent w.window ↔ _
      by_cases current : attempt.stage.window? = some w.window
      · have spends : attempt.spends w.window = attempt.dripAmt.toNat := if_pos current
        refine iff_of_true ?_ (.inr (.inl current))
        split at reverted <;> omega
      · have spends : attempt.spends w.window = 0 := if_neg current
        simp only [current, false_or]
        split at reverted <;> omega

/-- In an exact state, the fair steps are those that keep it exact. -/
theorem exact_step_iff (dated : Dated w) (exact : Exact w) (stepped : step w move = .ok next) :
    Exact next ↔ w.Fair move := by
  cases step_effect stepped with
  | ticked moved =>
      subst moved
      exact iff_of_true exact trivial
  | @queried id stealth dripWallet response free moved =>
      subst moved
      have same := spent_query free stealth dripWallet response w.window
      exact iff_of_true (exact.trans same.symm) trivial
  | @checked id attempt now found sampled moved =>
      subst moved
      rw [exact_check_iff dated exact found sampled]
      simp [Fair, FairCheck, found, sampled]
  | fetched found approved moved =>
      subst moved
      exact exact_fetchNonce_iff exact found approved _
  | answered found signed moved =>
      subst moved
      exact exact_broadcast_iff exact found signed _

/-! ## The cap -/

/-- No window has more than the cap in progress and broadcast. -/
def Capped (w : Drips) : Prop := ∀ window, w.spent window ≤ w.funder.maxDailyDripCap.toNat

theorem check_cap : (w.check id attempt now).funder.maxDailyDripCap = w.funder.maxDailyDripCap := by
  obtain ⟨_, _, _, _, checked⟩ := check_decides id attempt now w
  rw [checked]
  exact roll_cap now w.funder

theorem spent_le_of_failed (found : w.attempts.get? id = some attempt) (failure : DripError)
    (window : Nat) :
    (w.record id { attempt with stage := .ended (.error failure) }).spent window ≤
      w.spent window := by
  have failed := spent_failed found failure window
  omega

theorem capped_check (capped : Capped w) (found : w.attempts.get? id = some attempt)
    (exact' : Exact (w.check id attempt now)) : Capped (w.check id attempt now) := by
  intro window
  rw [check_cap]
  by_cases refuses : w.Refuses attempt now
  · obtain ⟨refused, checked⟩ := check_refused id refuses
    rw [checked]
    exact Nat.le_trans (spent_le_of_failed found refused window) (capped window)
  · rw [check_approved id refuses] at exact' ⊢
    by_cases current : window = w.windowAt now
    · subst current
      have within := BitVec.le_def.mp (BitVec.not_lt.mp refuses)
      exact Nat.le_trans (Nat.le_of_eq exact'.symm) within
    · have recorded := spent_record found { attempt with stage := .approved (w.windowAt now) } window
      have elsewhere : ({ attempt with stage := .approved (w.windowAt now) } : Attempt).spends
          window = 0 := if_neg (fun same => current (Option.some.inj same).symm)
      have before := capped window
      change (w.record id { attempt with stage := .approved (w.windowAt now) }).spent window ≤ _
      omega

theorem capped_step (capped : Capped w) (exact' : Exact next)
    (stepped : step w move = .ok next) : Capped next := by
  cases step_effect stepped with
  | ticked moved =>
      subst moved
      exact capped
  | @queried id stealth dripWallet response free moved =>
      subst moved
      intro window
      have same := spent_query free stealth dripWallet response window
      exact Nat.le_trans (Nat.le_of_eq same) (capped window)
  | checked found sampled moved =>
      subst moved
      exact capped_check capped found exact'
  | @fetched id approvedIn attempt nonce found approved moved =>
      subst moved
      intro window
      cases nonce with
      | none => exact Nat.le_trans (spent_le_of_failed found .network window) (capped window)
      | some nonce =>
          refine Nat.le_trans (Nat.le_of_eq (spent_kept found ?_ ?_ window)) (capped window)
          · rfl
          · rw [approved]
            rfl
  | @answered id approvedIn attempt fundingTx txHash found signed moved =>
      subst moved
      intro window
      cases txHash with
      | none =>
          have reverted : (w.funder.revert attempt.dripAmt).maxDailyDripCap =
              w.funder.maxDailyDripCap := by
            unfold DripFunder.revert
            split <;> rfl
          change _ ≤ (w.funder.revert attempt.dripAmt).maxDailyDripCap.toNat
          rw [reverted]
          exact Nat.le_trans (spent_le_of_failed found .network window) (capped window)
      | some txHash =>
          refine Nat.le_trans (Nat.le_of_eq (spent_kept found ?_ ?_ window)) (capped window)
          · rfl
          · rw [signed]
            rfl

/-! ## Days -/

/-- Nothing has been read from a later clock. -/
structure Clocked (w : Drips) : Prop where
  reset : w.funder.lastResetTimestamp ≤ w.clock
  sampled : ∀ id attempt now, w.attempts.get? id = some attempt →
    attempt.stage.sampled? = some now → now ≤ w.clock

theorem roll_reset (now : UInt64) (funder : DripFunder) :
    (funder.roll now).lastResetTimestamp =
      if funder.windowElapsed now then now else funder.lastResetTimestamp := by
  unfold DripFunder.roll
  split <;> rfl

theorem check_reset : (w.check id attempt now).funder.lastResetTimestamp =
    if w.funder.windowElapsed now then now else w.funder.lastResetTimestamp := by
  obtain ⟨_, _, _, _, checked⟩ := check_decides id attempt now w
  rw [checked]
  exact roll_reset now w.funder

theorem revert_reset (amount : U128) (funder : DripFunder) :
    (funder.revert amount).lastResetTimestamp = funder.lastResetTimestamp := by
  unfold DripFunder.revert
  split <;> rfl

theorem Clocked.record (clocked : Clocked w) {later : Attempt}
    (attempts : next.attempts = w.attempts.set id later) (clock : next.clock = w.clock)
    (reset : next.funder.lastResetTimestamp ≤ w.clock)
    (early : ∀ now, later.stage.sampled? = some now → now ≤ w.clock) : Clocked next := by
  refine ⟨by rwa [clock], ?_⟩
  rw [clock, attempts]
  intro other stored now found read
  rcases Cells.of_get?_set found with ⟨_, rfl⟩ | ⟨_, found⟩
  · exact early now read
  · exact clocked.sampled other stored now found read

theorem clocked_check (clocked : Clocked w) (read : now ≤ w.clock) :
    Clocked (w.check id attempt now) := by
  have reset : (w.check id attempt now).funder.lastResetTimestamp ≤ w.clock := by
    rw [check_reset]
    split
    · exact read
    · exact clocked.reset
  obtain ⟨stage, _, silent, _, checked⟩ := check_decides id attempt now w
  rw [checked] at reset ⊢
  exact clocked.record rfl rfl reset (by simp [silent])

theorem clocked_step (clocked : Clocked w) (stepped : step w move = .ok next) : Clocked next := by
  cases move with
  | tick now =>
      simp only [step, bind_eq_ok, ensure_eq_ok, pure_eq_ok] at stepped
      obtain ⟨_, later, rfl⟩ := stepped
      refine ⟨UInt64.le_trans clocked.reset later, ?_⟩
      intro id attempt read found sampled
      exact UInt64.le_trans (clocked.sampled id attempt read found sampled) later
  | query id stealth dripWallet response =>
      cases step_effect stepped with
      | queried _ moved =>
          subst moved
          refine clocked.record rfl rfl clocked.reset ?_
          intro now read
          dsimp only at read
          split at read
          · cases read
            exact UInt64.le_refl _
          · cases read
  | check id =>
      cases step_effect stepped with
      | @checked _ attempt now found sampled moved =>
          subst moved
          apply clocked_check clocked
          exact clocked.sampled id attempt now found (by rw [sampled]; rfl)
  | fetchNonce id nonce =>
      cases step_effect stepped with
      | fetched _ _ moved =>
          subst moved
          refine clocked.record rfl rfl clocked.reset ?_
          cases nonce <;> simp [Stage.sampled?]
  | broadcast id txHash =>
      cases step_effect stepped with
      | @answered _ _ attempt _ _ _ _ moved =>
          subst moved
          cases txHash with
          | some txHash => exact clocked.record rfl rfl clocked.reset (by simp [Stage.sampled?])
          | none =>
              refine clocked.record rfl rfl ?_ (by simp [Stage.sampled?])
              exact Nat.le_trans (Nat.le_of_eq (congrArg UInt64.toNat (revert_reset _ _))) clocked.reset

theorem Fresh.clocked (fresh : Fresh w) : Clocked w := by
  refine ⟨?_, ?_⟩
  · rw [fresh.untouched]
    exact UInt64.zero_le
  · intro id attempt now found _
    rw [fresh.idle, Cells.get?_empty] at found
    cases found

/-- A window lasts a day: each check falls less than a day after the reset that it counts
from, and a day at least has passed at every reset but the first. -/
def Daily (w : Drips) : Prop :=
  ∀ id attempt now,
    now.toNat < (w.check id attempt now).funder.lastResetTimestamp.toNat + 86400 ∧
      ((w.check id attempt now).window ≠ w.window → w.funder.lastResetTimestamp ≠ 0 →
        w.funder.lastResetTimestamp.toNat + 86400 ≤
          (w.check id attempt now).funder.lastResetTimestamp.toNat)

theorem Clocked.daily (clocked : Clocked w) (bounded : w.clock.toNat + 86400 < 2 ^ 64) :
    Daily w := by
  intro id attempt now
  have reset := UInt64.le_iff_toNat_le.mp clocked.reset
  have ends : (w.funder.lastResetTimestamp + 86400).toNat =
      w.funder.lastResetTimestamp.toNat + 86400 := by
    rw [UInt64.toNat_add]
    exact Nat.mod_eq_of_lt (by simpa using by omega)
  rw [check_reset, check_window]
  unfold windowAt DripFunder.windowElapsed
  simp only [decide_eq_true_eq, UInt64.le_iff_toNat_le, ends]
  split
  next elapsed =>
    refine ⟨by omega, fun _ begun => ?_⟩
    exact elapsed.resolve_left begun
  next running =>
    refine ⟨by omega, fun rolled => absurd rfl rolled⟩

/-! ## Runs -/

/-- The accumulator holds what the current window has approved and not seen fail, and no
window has broadcast more than the cap. -/
def Accounted (w : Drips) : Prop :=
  Exact w ∧ ∀ window, w.paid window ≤ w.funder.maxDailyDripCap.toNat

theorem Fresh.spent (fresh : Fresh w) (window : Nat) : w.spent window = 0 := by
  rw [Drips.spent, fresh.idle]
  rfl

theorem Fresh.exact (fresh : Fresh w) : Exact w := by
  rw [Exact, fresh.unspent, fresh.spent]
  rfl

theorem Fresh.dated (fresh : Fresh w) : Dated w := by
  intro id attempt window found _
  rw [fresh.idle, Cells.get?_empty] at found
  cases found

/-- In any run of concurrent calls, the drips of every state passed are accounted for
exactly if every step is fair; and its windows are days, until the clock ends. -/
theorem drips_accounted_iff {start : Drips} {steps : List Step} {allowed : Drips → Step → Prop}
    (fresh : Fresh start) (trace : Trace step allowed start steps w) :
    (Throughout step Accounted start steps ↔ Trace step Fair start steps w) ∧
      (w.clock.toNat + 86400 < 2 ^ 64 → Daily w) := by
  have exactly : Throughout step Exact start steps ↔ Trace step Fair start steps w := by
    refine trace.throughout_iff Dated ?_ ?_ fresh.dated fresh.exact
    · intro _ _ _ dated stepped
      exact dated_step dated stepped
    · intro _ _ _ dated exact stepped
      exact exact_step_iff dated exact stepped
  have soundly : Throughout step (fun w => Exact w ∧ Capped w) start steps ↔
      Trace step Fair start steps w := by
    refine trace.throughout_iff Dated ?_ ?_ fresh.dated ⟨fresh.exact, ?_⟩
    · intro _ _ _ dated stepped
      exact dated_step dated stepped
    · rintro state move next dated ⟨exact, capped⟩ stepped
      have kept := exact_step_iff dated exact stepped
      constructor
      · rintro ⟨exact', _⟩
        exact kept.mp exact'
      · intro fair
        exact ⟨kept.mpr fair, capped_step capped (kept.mpr fair) stepped⟩
    · intro window
      rw [fresh.spent]
      exact Nat.zero_le _
  have clocked : Clocked w := trace.preserves Clocked
    (fun _ _ _ _ clocked stepped => clocked_step clocked stepped) fresh.clocked
  refine ⟨⟨?_, ?_⟩, clocked.daily⟩
  · intro accounted
    apply exactly.mp
    exact accounted.mono fun _ both => both.1
  · intro fair
    refine (soundly.mpr fair).mono ?_
    rintro state ⟨exact, capped⟩
    exact ⟨exact, fun window => Nat.le_trans (paid_le_spent window state) (capped window)⟩

namespace Sample

def funder : DripFunder :=
  { activationAmount := ascii "5"
    minThreshold := 1
    maxDailyDripCap := 11
    dailyAccumulator := 0
    lastResetTimestamp := 0 }

def start : Drips := { funder := funder, clock := 1000, attempts := .empty, window := 0 }

theorem start_fresh : Fresh start := ⟨rfl, rfl, rfl, rfl⟩

def begin (id : Nat) : List Step :=
  [.query id (ascii "erd1stealth") (ascii "erd1drip") .notFound, .check id]

/-- Two calls side by side: one broadcast succeeds and one fails, a third call is refused
while both are in progress, and on the next day a fourth begins. -/
def fairRun : List Step :=
  begin 0 ++ begin 1 ++ begin 2 ++
    [.fetchNonce 0 (some 7), .fetchNonce 1 (some 8), .broadcast 1 none,
      .broadcast 0 (some (ascii "aa")), .tick 90000] ++ begin 3

def leakingRun : List Step := begin 0 ++ [.fetchNonce 0 none]

def transfer (id : Nat) : List Step :=
  [.fetchNonce id (some 7), .broadcast id (some (ascii "aa"))]

/-- A drip is approved on the first day, and its broadcast fails on the second, when two
others have been sent. -/
def lateRun : List Step :=
  begin 0 ++ [.fetchNonce 0 (some 7), .tick 90000] ++ begin 1 ++ transfer 1 ++ begin 2 ++
    transfer 2 ++ [.broadcast 0 none] ++ begin 3 ++ transfer 3

end Sample

theorem drips_accounted_iff_sample :
    ∃ w, Trace step Fair Sample.start Sample.fairRun w ∧ w.paid 1 = 5 ∧ w.window = 2 ∧
      Throughout step Accounted Sample.start Sample.fairRun := by
  obtain ⟨w, trace, paid, window⟩ := Trace.of_runChecked step Fair Sample.start Sample.fairRun
    (fun w => w.paid 1 = 5 ∧ w.window = 2) (by decide +kernel)
  exact ⟨w, trace, paid, window, (drips_accounted_iff Sample.start_fresh trace).1.mpr trace⟩

/-- A drip that is never sent leaves the quota short of it, and one that fails late lets
the next day exceed its cap. -/
theorem drips_miscounted :
    (∃ w, Trace step (fun _ _ => True) Sample.start Sample.leakingRun w ∧
      w.funder.dailyAccumulator = 5 ∧ w.spent w.window = 0) ∧
    ∃ w, Trace step (fun _ _ => True) Sample.start Sample.lateRun w ∧
      w.funder.maxDailyDripCap = 11 ∧ w.paid w.window = 15 := by
  constructor
  · exact Trace.of_runChecked step (fun _ _ => True) Sample.start Sample.leakingRun
      (fun w => w.funder.dailyAccumulator = 5 ∧ w.spent w.window = 0) (by decide +kernel)
  · exact Trace.of_runChecked step (fun _ _ => True) Sample.start Sample.lateRun
      (fun w => w.funder.maxDailyDripCap = 11 ∧ w.paid w.window = 15) (by decide +kernel)

end Drips

end XCron.Keeper
