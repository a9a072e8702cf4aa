import XCron.Shield.Limits

/-!
# The automatic freeze

A proposal that would exceed the limit of the day is meant to freeze the shield. The
pause is written and then given up with everything else that the transaction wrote,
because the transaction ends in a panic.
-/

namespace XCron.Shield

open Platform

variable {chain : Chain} {isValidEsdtIdentifier : TokenIdentifier → Bool} {w next : World}
  {move : Step}

def submit (chain : Chain) (isValidEsdtIdentifier : TokenIdentifier → Bool) (w : World)
    (move : Step) : World :=
  match step chain isValidEsdtIdentifier w move with
  | .ok next => next
  | .error _ => w

def transactions (chain : Chain) (isValidEsdtIdentifier : TokenIdentifier → Bool) (w : World)
    (moves : List Step) : World :=
  moves.foldl (submit chain isValidEsdtIdentifier) w

def Step.unpauses : Step → Bool
  | .owner _ .unpauseShield => true
  | _ => false

/-- A proposal that passes all checks but the one of the limit. -/
structure Exceeds (isValidEsdtIdentifier : TokenIdentifier → Bool) (w : World) (call : CallContext)
    (proposal : Proposal) : Prop where
  passes : Passes isValidEsdtIdentifier w call proposal
  exceeds : w.shieldDailyLimit.amount proposal.tokenId < w.spending call proposal

/-- The shield is paused, and no proposal succeeds until the owner unpauses it. -/
def Frozen (chain : Chain) (isValidEsdtIdentifier : TokenIdentifier → Bool) (w : World) : Prop :=
  w.config.isPaused = true ∧
    ∀ later : List Step, (∀ move ∈ later, move.unpauses = false) → ∀ call proposal next,
      step chain isValidEsdtIdentifier (transactions chain isValidEsdtIdentifier w later)
        (.agentProposeExecution call proposal) ≠ .ok next

/-! ## While the shield is paused -/

theorem not_proposed {call : CallContext} {proposal : Proposal} (paused : w.config.isPaused = true) :
    step chain isValidEsdtIdentifier w (.agentProposeExecution call proposal) ≠ .ok next := by
  intro stepped
  simp only [step, Outcome.bind_eq_ok, agentProposeExecution_eq_ok, paused] at stepped
  obtain ⟨_, _, _, _, unpaused, _⟩ := stepped
  cases unpaused

theorem config_paid (payments : List EsdtPayment) :
    (payments.foldl World.paid w).config = w.config := by
  induction payments generalizing w with
  | nil => rfl
  | cons payment payments inductionHypothesis =>
      refine inductionHypothesis.trans ?_
      unfold World.paid
      split <;> rfl

theorem config_callback (tokenId : TokenIdentifier) (day : UInt64) (amount : Nat)
    (succeeded : Bool) : (agentExecutionCallback tokenId day amount succeeded w).config = w.config := by
  unfold agentExecutionCallback
  dsimp only
  split
  · rfl
  · split <;> rfl

theorem paused_step (paused : w.config.isPaused = true) (kept : move.unpauses = false)
    (stepped : step chain isValidEsdtIdentifier w move = .ok next) :
    next.config.isPaused = true := by
  cases move with
  | agentProposeExecution call proposal => exact absurd stepped (not_proposed paused)
  | agentExecutionCallback index succeeded =>
      simp only [step] at stepped
      split at stepped
      next missing => cases stepped
      next promise found =>
        cases stepped
        rw [config_callback]
        unfold World.settle
        split <;> exact paused
  | owner call ownerCall =>
      simp only [step, Outcome.bind_eq_ok] at stepped
      obtain ⟨_, _, _, _, _, _, applied⟩ := stepped
      cases ownerCall with
      | unpauseShield => cases kept
      | pauseShield =>
          simp only [World.apply, Outcome.pure_eq_ok] at applied
          subst applied
          rfl
      | emergencyWithdraw tokenIdentifier amount =>
          simp only [World.apply] at applied
          split at applied
          next covered =>
            cases applied
            exact paused
          next short => cases applied
      | _ =>
          simp only [World.apply, Outcome.pure_eq_ok] at applied
          subst applied
          exact paused
  | fundTreasury call =>
      simp only [step, Outcome.bind_eq_ok, Outcome.pure_eq_ok] at stepped
      obtain ⟨_, _, rfl⟩ := stepped
      rw [config_paid]
      exact paused
  | receiveEsdt token amount =>
      simp only [step, Outcome.pure_eq_ok] at stepped
      subst stepped
      exact paused

theorem paused_transactions {moves : List Step} (paused : w.config.isPaused = true)
    (kept : ∀ move ∈ moves, move.unpauses = false) :
    (transactions chain isValidEsdtIdentifier w moves).config.isPaused = true := by
  induction moves generalizing w with
  | nil => exact paused
  | cons move moves inductionHypothesis =>
      have first : (submit chain isValidEsdtIdentifier w move).config.isPaused = true := by
        unfold submit
        split
        next next stepped =>
          exact paused_step paused (kept move (List.mem_cons_self ..)) stepped
        next fault _ => exact paused
      exact inductionHypothesis first fun later member => kept later (List.mem_cons_of_mem _ member)

theorem frozen_of_paused (paused : w.config.isPaused = true) :
    Frozen chain isValidEsdtIdentifier w :=
  ⟨paused, fun _ kept _ _ _ => not_proposed (paused_transactions paused kept)⟩

/-! ## The proposal that exceeds the limit -/

theorem Exceeds.submit_eq {call : CallContext} {proposal : Proposal}
    (exceeds : Exceeds isValidEsdtIdentifier w call proposal) :
    submit chain isValidEsdtIdentifier w (.agentProposeExecution call proposal) = w := by
  unfold submit
  split
  next next stepped =>
    simp only [step, Outcome.bind_eq_ok, agentProposeExecution_eq_ok] at stepped
    obtain ⟨_, _, _, _, _, _, within, _⟩ := stepped
    exact absurd exceeds.exceeds (Nat.not_lt_of_le within)
  next fault _ => rfl

/-- In every run, a proposal that exceeds the limit is followed by a frozen shield exactly
if the shield was paused already. -/
theorem frozen_iff_paused {start : World} (past : List Step)
    {call : CallContext} {proposal : Proposal}
    (exceeds : Exceeds isValidEsdtIdentifier
      (transactions chain isValidEsdtIdentifier start past) call proposal) :
    Frozen chain isValidEsdtIdentifier (submit chain isValidEsdtIdentifier
        (transactions chain isValidEsdtIdentifier start past) (.agentProposeExecution call proposal)) ↔
      (transactions chain isValidEsdtIdentifier start past).config.isPaused = true := by
  rw [exceeds.submit_eq]
  constructor
  · intro frozen
    exact frozen.1
  · intro paused
    exact frozen_of_paused paused

namespace Sample

def shield : World := init (.fill 4) (.fill 5) (.fill 7)

def limited : List Step :=
  [.receiveEsdt usdc 1000, .owner (shieldCall (.fill 2) 0) (.setShieldLimit usdc 100)]

def limitedAndPaused : List Step := limited ++ [.owner (shieldCall (.fill 2) 0) .pauseShield]

def excess : Proposal :=
  { targetContract := .fill 8
    tokenId := usdc
    amount := 150
    funcName := "swap".toUTF8.toList
    args := [] }

end Sample

theorem frozen_iff_paused_sample :
    Frozen sampleChain Sample.wellFormed (submit sampleChain Sample.wellFormed
      (transactions sampleChain Sample.wellFormed Sample.shield Sample.limitedAndPaused)
      (.agentProposeExecution (Sample.shieldCall (.fill 7) 90000) Sample.excess)) :=
  (frozen_iff_paused Sample.limitedAndPaused
    ⟨⟨by decide +kernel, by decide +kernel, by decide +kernel, by decide +kernel⟩,
      by decide +kernel⟩).mpr (by decide +kernel)

/-- The excess is refused, but the shield stays open, and the agent may go on spending. -/
theorem shield_not_frozen :
    Deployed Sample.shield ∧
      Exceeds Sample.wellFormed
        (transactions sampleChain Sample.wellFormed Sample.shield Sample.limited)
        (Sample.shieldCall (.fill 7) 90000) Sample.excess ∧
      (submit sampleChain Sample.wellFormed
        (transactions sampleChain Sample.wellFormed Sample.shield Sample.limited)
        (.agentProposeExecution (Sample.shieldCall (.fill 7) 90000) Sample.excess)).config.isPaused =
          false ∧
      endsIn (fun next => next.dailySpent.amount (Sample.usdc, 1) = 100)
        (step sampleChain Sample.wellFormed (submit sampleChain Sample.wellFormed
          (transactions sampleChain Sample.wellFormed Sample.shield Sample.limited)
          (.agentProposeExecution (Sample.shieldCall (.fill 7) 90000) Sample.excess))
          (Sample.proposes 100)) = true :=
  ⟨⟨.fill 4, .fill 5, .fill 7, rfl⟩,
    ⟨⟨by decide +kernel, by decide +kernel, by decide +kernel, by decide +kernel⟩,
      by decide +kernel⟩, by decide +kernel, by decide +kernel⟩

end XCron.Shield
