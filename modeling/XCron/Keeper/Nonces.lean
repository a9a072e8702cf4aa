import XCron.Platform.Bytes
import XCron.Platform.Quorum
import XCron.Platform.Trace
import Mathlib.Data.Finset.Basic

/-!
# Wallet nonces

A wallet of the keeper counts its own nonces. It counts on when a node has accepted its
transaction, and where none has, `fetch_nonce` of `network.rs` asks up to three nodes for
the nonce of the account. The chain goes on meanwhile, and one of the nodes may lie. Some modes
of `main.rs` number what they send in another way.
-/

namespace XCron.Keeper.Nonces

open Platform

/-! ## The network -/

structure AccountDetails where
  nonce : UInt64
  balance : Bytes
  deriving DecidableEq

structure AccountData where
  account : AccountDetails
  deriving DecidableEq

/-- What a node answers when it is asked for an account. -/
structure AccountResponse where
  data : Option AccountData
  error : Option Bytes
  code : Option Bytes
  deriving DecidableEq

structure SendTxData where
  txHash : Bytes
  deriving DecidableEq

structure SendTxResponse where
  data : Option SendTxData
  error : Option Bytes
  code : Option Bytes
  deriving DecidableEq

inductive Reply (Body : Type) where
  | failed
  | received (status : Nat) (body : Option Body)
  deriving DecidableEq

def fetchNonceSingleNode : Reply AccountResponse → Option UInt64
  | .failed => none
  | .received status body => do
      guard (status = 200)
      let accountResp ← body
      let data ← accountResp.data
      pure data.account.nonce

/-- What `fetch_nonce` makes of the nonces that it has collected. -/
def nonceConsensus : List UInt64 → Option UInt64
  | [] => none
  | [nonce] => some nonce
  | first :: second :: rest =>
      if first = second then some first
      else
        match rest with
        | [third] =>
            if first = third then some first else if second = third then some second else none
        | _ => none

/-- There is at least one node: without any, `fetch_nonce` panics. -/
def maxNodesToPing (nodes : Nat) : Nat := min nodes 3

def txHash : Reply SendTxResponse → Option Bytes
  | .failed => none
  | .received status body => do
      guard (status = 201 ∨ status = 200)
      let resp ← body
      guard (resp.code = some (ascii "successful"))
      let data ← resp.data
      pure data.txHash

/-- `select_ok`: the first node, in the order in which they reply, that accepts the
transaction. -/
def selectOk (replies : List (Nat × Reply SendTxResponse)) : Option (Nat × Bytes) :=
  replies.findSome? fun reply => (txHash reply.2).map fun hash => (reply.1, hash)

/-! ## The loop -/

/-- The modes that differ in their nonces, and the others. The loop has a branch for
`FundHydra`, but `main` returns before the loops of that mode start. -/
inductive ExecutionMode where
  | fuzz
  | orphanFlooding
  | fundHydra
  | blsDesync
  | other
  deriving DecidableEq

structure Wallet where
  mode : ExecutionMode
  index : UInt64

/-- The nonce of the transaction that is sent next; `roll` is a random byte. -/
def Wallet.txNonce (wallet : Wallet) (currentNonce : UInt64) (roll : UInt8) : UInt64 :=
  match wallet.mode with
  | .orphanFlooding => currentNonce + 5 + wallet.index % 50
  | .fuzz => if roll % 100 < 10 then currentNonce + 5 else currentNonce
  | _ => currentNonce

/-- What the loop of one wallet is waiting for. -/
inductive Phase where
  | idle
  /-- The replies to a transaction with this nonce. -/
  | sending (currentNonce : UInt64)
  /-- The reply of the next node that `fetch_nonce` asks. `since` was the account's nonce when
  the first was asked, and every nonce collected stands beside the node that gave it. -/
  | fetching (since asked : Nat) (collected : Votes Nat UInt64)
  /-- The replies to one of the hundred transactions of `FundHydra`. -/
  | funding (sent : Nat)
  | stopped
  deriving DecidableEq

structure World where
  account : Nat
  pool : Finset Nat
  nonce : UInt64
  phase : Phase

/-- The wallet starts with the nonce that it fetches, or with zero. -/
def start (account : Nat) (pool : Finset Nat) : World where
  account := account
  pool := pool
  nonce := 0
  phase := .fetching account 0 []

inductive Step where
  /-- A transaction of the wallet enters the pool, now or long after it was sent. -/
  | enterPool (nonce : Nat)
  | execute
  | send (roll : UInt8)
  | replied (replies : List (Nat × Reply SendTxResponse))
  | pinged (reply : Reply AccountResponse)
  deriving DecidableEq

def collect (asked : Nat) (reply : Reply AccountResponse) (collected : Votes Nat UInt64) :
    Votes Nat UInt64 :=
  collected ++ (fetchNonceSingleNode reply).toList.map fun nonce => (asked, nonce)

def step (wallet : Wallet) (nodes : Nat) (w : World) : Step → Outcome World
  | .enterPool nonce => pure { w with pool := insert nonce w.pool }
  | .execute => do
      ensure (w.account ∈ w.pool)
      pure { w with account := w.account + 1, pool := w.pool.erase w.account }
  | .send roll =>
      match w.phase with
      | .idle =>
          if wallet.mode = .fundHydra then
            pure { w with nonce := w.nonce + 1, phase := .funding 1 }
          else pure { w with phase := .sending (wallet.txNonce w.nonce roll) }
      | _ => .error .rejected
  | .replied replies =>
      match w.phase with
      | .sending _ =>
          if wallet.mode = .blsDesync then pure { w with phase := .idle }
          else
            match selectOk replies with
            | some _ => pure { w with nonce := w.nonce + 1, phase := .idle }
            | none => pure { w with phase := .fetching w.account 0 [] }
      | .funding sent =>
          if sent < 100 then pure { w with nonce := w.nonce + 1, phase := .funding (sent + 1) }
          else pure { w with phase := .stopped }
      | _ => .error .rejected
  | .pinged reply =>
      match w.phase with
      | .fetching since asked collected =>
          let collected := collect asked reply collected
          if asked + 1 < maxNodesToPing nodes then
            pure { w with phase := .fetching since (asked + 1) collected }
          else
            match nonceConsensus collected.values with
            | some realNonce => pure { w with nonce := realNonce, phase := .idle }
            | none => pure { w with phase := .idle }
      | _ => .error .rejected

/-! ## Honest nodes -/

/-- What an honest node answers is true: it accepts a transaction that is in the pool, or has
been executed already, and the nonce that it gives is the account's. -/
def Truthful (honest : Nat → Prop) (w : World) : Step → Prop
  | .replied replies =>
      match w.phase with
      | .sending currentNonce => ∀ reply ∈ replies, honest reply.1 → (txHash reply.2).isSome →
          currentNonce.toNat < w.account ∨ currentNonce.toNat ∈ w.pool
      | _ => True
  | .pinged reply =>
      match w.phase with
      | .fetching _ asked _ =>
          honest asked → ∀ nonce ∈ fetchNonceSingleNode reply, nonce.toNat = w.account
      | _ => True
  | _ => True

/-- The loop believes one node alone: the first that accepts a transaction, and the only one
that gives a nonce. -/
def Reliable (nodes : Nat) (honest : Nat → Prop) (w : World) : Step → Prop
  | .replied replies => ∀ chosen ∈ selectOk replies, honest chosen.1
  | .pinged reply =>
      match w.phase with
      | .fetching _ asked collected =>
          maxNodesToPing nodes ≤ asked + 1 → (collect asked reply collected).length = 1 →
            ∀ vote ∈ collect asked reply collected, honest vote.1
      | _ => True
  | _ => True

def Fair (nodes : Nat) (honest : Nat → Prop) (w : World) (move : Step) : Prop :=
  Truthful honest w move ∧ Reliable nodes honest w move

instance (honest : Nat → Prop) [DecidablePred honest] (nodes : Nat) (w : World) (move : Step) :
    Decidable (Fair nodes honest w move) := by
  have told (reply : Reply AccountResponse) :
      Decidable (∀ nonce ∈ fetchNonceSingleNode reply, nonce.toNat = w.account) :=
    Option.decidableForallMem _
  unfold Fair Truthful Reliable
  cases move <;> cases w.phase <;> infer_instance

/-- The loop sends the nonce that it has counted to. -/
def InOrder (wallet : Wallet) (w : World) : Step → Prop
  | .send roll => wallet.mode ≠ .fundHydra ∧ wallet.txNonce w.nonce roll = w.nonce
  | _ => True

instance (wallet : Wallet) (w : World) (move : Step) : Decidable (InOrder wallet w move) := by
  unfold InOrder
  cases move <;> infer_instance

/-- At most one of the nodes that are asked for nonces lies. -/
def OneLiar (honest : Nat → Prop) : Prop :=
  ∀ first second, first < 3 → second < 3 → ¬honest first → ¬honest second → first = second

/-! ## What a step does -/

/-- The nonces collected so far are the account's at some time since the first node was asked,
as far as honest nodes gave them. -/
structure Collected (honest : Nat → Prop) (account since asked : Nat)
    (collected : Votes Nat UInt64) : Prop where
  started : since ≤ account
  sources : collected.sources.Nodup
  before : ∀ node ∈ collected.sources, node < asked
  told : ∀ node nonce, (node, nonce) ∈ collected → honest node →
    since ≤ nonce.toNat ∧ nonce.toNat ≤ account

/-- Every nonce that the wallet has counted past is executed or waiting. -/
def Covered (w : World) : Prop :=
  ∀ nonce, w.account ≤ nonce → nonce < w.nonce.toNat → nonce ∈ w.pool

/-- The wallet counts no further than it has sent. -/
structure Counted (w : World) : Prop where
  covered : Covered w
  sending : ∀ nonce, w.phase = .sending nonce → nonce = w.nonce
  funding : ∀ sent, w.phase ≠ .funding sent

/-- What a fetch has collected so far. -/
def Sound (honest : Nat → Prop) (w : World) : Prop :=
  ∀ since asked collected, w.phase = .fetching since asked collected →
    asked < 3 ∧ Collected honest w.account since asked collected

section Steps

variable {wallet : Wallet} {nodes : Nat} {honest : Nat → Prop} {w next : World} {move : Step}

theorem nonceConsensus_agreed {values : List UInt64} {nonce : UInt64}
    (agreed : nonceConsensus values = some nonce) : values = [nonce] ∨ 2 ≤ values.count nonce := by
  unfold nonceConsensus at agreed
  split at agreed
  next => cases agreed
  next => exact .inl (congrArg (fun value => [value]) (Option.some.inj agreed))
  next first second rest =>
    right
    split at agreed
    next same =>
      cases agreed
      rw [← same, List.count_cons_self, List.count_cons_self]
      omega
    next =>
      split at agreed
      next third =>
        split at agreed
        next same =>
          cases agreed
          simp [← same, List.count_cons]
        next =>
          split at agreed
          next same =>
            cases agreed
            simp [← same, List.count_cons]
          next => cases agreed
      next => cases agreed

namespace Collected

variable {account since asked : Nat} {collected : Votes Nat UInt64}

theorem later (sound : Collected honest account since asked collected) :
    Collected honest (account + 1) since asked collected where
  started := Nat.le_succ_of_le sound.started
  sources := sound.sources
  before := sound.before
  told node nonce member honesty := by
    obtain ⟨early, late⟩ := sound.told node nonce member honesty
    exact ⟨early, Nat.le_succ_of_le late⟩

theorem collect (sound : Collected honest account since asked collected)
    {reply : Reply AccountResponse}
    (truthful : honest asked → ∀ nonce ∈ fetchNonceSingleNode reply, nonce.toNat = account) :
    Collected honest account since (asked + 1) (Nonces.collect asked reply collected) := by
  unfold Nonces.collect
  cases answered : fetchNonceSingleNode reply with
  | none =>
      rw [Option.toList_none, List.map_nil, List.append_nil]
      refine ⟨sound.started, sound.sources, ?_, sound.told⟩
      intro node member
      exact Nat.lt_succ_of_lt (sound.before node member)
  | some given =>
      rw [Option.toList_some, List.map_singleton]
      have sources : Votes.sources (collected ++ [(asked, given)]) = collected.sources ++ [asked] :=
        List.map_append
      refine ⟨sound.started, ?_, ?_, ?_⟩
      · rw [sources, ← List.concat_eq_append]
        apply sound.sources.concat
        intro again
        exact Nat.lt_irrefl asked (sound.before asked again)
      · intro node member
        rw [sources] at member
        rcases List.mem_append.mp member with earlier | latest
        · exact Nat.lt_succ_of_lt (sound.before node earlier)
        · obtain rfl := List.mem_singleton.mp latest
          exact Nat.lt_succ_self node
      · intro node nonce member honesty
        rcases List.mem_append.mp member with earlier | latest
        · exact sound.told node nonce earlier honesty
        · obtain ⟨rfl, rfl⟩ := Prod.mk.inj (List.mem_singleton.mp latest)
          have current := truthful honesty nonce answered
          exact ⟨current ▸ sound.started, Nat.le_of_eq current⟩

/-- What the consensus settles on was the account's nonce since the first node was asked. -/
theorem consensus (sound : Collected honest account since asked collected) (few : asked ≤ 3)
    (liar : OneLiar honest) {nonce : UInt64} (agreed : nonceConsensus collected.values = some nonce)
    (lone : ∀ node nonce, collected = [(node, nonce)] → honest node) :
    since ≤ nonce.toNat ∧ nonce.toNat ≤ account := by
  classical
  obtain ⟨node, member, honesty⟩ : ∃ node, (node, nonce) ∈ collected ∧ honest node := by
    rcases nonceConsensus_agreed agreed with single | twice
    · obtain ⟨⟨node, given⟩, shape⟩ := List.length_eq_one_iff.mp
        ((List.length_map _).symm.trans (congrArg List.length single))
      subst shape
      obtain rfl : given = nonce := List.singleton_inj.mp single
      exact ⟨node, .head _, lone node given rfl⟩
    · apply Votes.agreed_honest sound.sources _ twice
      intro first member second member'
      exact liar first second (Nat.lt_of_lt_of_le (sound.before first member) few)
        (Nat.lt_of_lt_of_le (sound.before second member') few)
  exact sound.told node nonce member honesty

end Collected

/-- What a step does, in the phase that it starts from. -/
inductive Effect (wallet : Wallet) (nodes : Nat) (w : World) : Step → World → Prop where
  | enteredPool (nonce : Nat) :
      Effect wallet nodes w (.enterPool nonce) { w with pool := insert nonce w.pool }
  | executed : w.account ∈ w.pool → Effect wallet nodes w .execute
      { w with account := w.account + 1, pool := w.pool.erase w.account }
  | sent {roll : UInt8} : w.phase = .idle → wallet.mode ≠ .fundHydra →
      Effect wallet nodes w (.send roll)
        { w with phase := .sending (wallet.txNonce w.nonce roll) }
  | funded {roll : UInt8} : w.phase = .idle → wallet.mode = .fundHydra →
      Effect wallet nodes w (.send roll) { w with nonce := w.nonce + 1, phase := .funding 1 }
  | ignored {nonce : UInt64} {replies : List (Nat × Reply SendTxResponse)} :
      w.phase = .sending nonce → Effect wallet nodes w (.replied replies) { w with phase := .idle }
  | accepted {nonce : UInt64} {replies : List (Nat × Reply SendTxResponse)} {node : Nat}
      {hash : Bytes} : w.phase = .sending nonce → selectOk replies = some (node, hash) →
      Effect wallet nodes w (.replied replies) { w with nonce := w.nonce + 1, phase := .idle }
  | failed {nonce : UInt64} {replies : List (Nat × Reply SendTxResponse)} :
      w.phase = .sending nonce → selectOk replies = none →
      Effect wallet nodes w (.replied replies) { w with phase := .fetching w.account 0 [] }
  | fundedMore {sent : Nat} {replies : List (Nat × Reply SendTxResponse)} :
      w.phase = .funding sent → Effect wallet nodes w (.replied replies)
        { w with nonce := w.nonce + 1, phase := .funding (sent + 1) }
  | stopped {sent : Nat} {replies : List (Nat × Reply SendTxResponse)} :
      w.phase = .funding sent →
      Effect wallet nodes w (.replied replies) { w with phase := .stopped }
  | collected {since asked : Nat} {collected : Votes Nat UInt64} {reply : Reply AccountResponse} :
      w.phase = .fetching since asked collected → asked + 1 < maxNodesToPing nodes →
      Effect wallet nodes w (.pinged reply)
        { w with phase := .fetching since (asked + 1) (collect asked reply collected) }
  | resynced {since asked : Nat} {collected : Votes Nat UInt64} {reply : Reply AccountResponse}
      {realNonce : UInt64} : w.phase = .fetching since asked collected →
      maxNodesToPing nodes ≤ asked + 1 →
      nonceConsensus (collect asked reply collected).values = some realNonce →
      Effect wallet nodes w (.pinged reply) { w with nonce := realNonce, phase := .idle }
  | unsettled {since asked : Nat} {collected : Votes Nat UInt64} {reply : Reply AccountResponse} :
      w.phase = .fetching since asked collected → maxNodesToPing nodes ≤ asked + 1 →
      nonceConsensus (collect asked reply collected).values = none →
      Effect wallet nodes w (.pinged reply) { w with phase := .idle }

theorem step_effect (stepped : step wallet nodes w move = .ok next) :
    Effect wallet nodes w move next := by
  cases move with
  | enterPool nonce =>
      obtain rfl := Except.ok.inj stepped
      exact .enteredPool nonce
  | execute =>
      simp only [step, Outcome.bind_eq_ok, Outcome.ensure_eq_ok, Outcome.pure_eq_ok] at stepped
      obtain ⟨_, waiting, rfl⟩ := stepped
      exact .executed waiting
  | send roll =>
      simp only [step] at stepped
      split at stepped
      next idle =>
        split at stepped
        next funding =>
          obtain rfl := Except.ok.inj stepped
          exact .funded idle funding
        next other =>
          obtain rfl := Except.ok.inj stepped
          exact .sent idle other
      next => cases stepped
  | replied replies =>
      simp only [step] at stepped
      split at stepped
      next sending =>
        split at stepped
        next =>
          obtain rfl := Except.ok.inj stepped
          exact .ignored sending
        next =>
          split at stepped
          next accepted =>
            obtain rfl := Except.ok.inj stepped
            exact .accepted sending accepted
          next failed =>
            obtain rfl := Except.ok.inj stepped
            exact .failed sending failed
      next funding =>
        split at stepped
        next =>
          obtain rfl := Except.ok.inj stepped
          exact .fundedMore funding
        next =>
          obtain rfl := Except.ok.inj stepped
          exact .stopped funding
      next => cases stepped
  | pinged reply =>
      simp only [step] at stepped
      split at stepped
      next fetching =>
        split at stepped
        next more =>
          obtain rfl := Except.ok.inj stepped
          exact .collected fetching more
        next last =>
          split at stepped
          next agreed =>
            obtain rfl := Except.ok.inj stepped
            exact .resynced fetching (Nat.le_of_not_lt last) agreed
          next unsettled =>
            obtain rfl := Except.ok.inj stepped
            exact .unsettled fetching (Nat.le_of_not_lt last) unsettled
      next => cases stepped

theorem Truthful.pinged {reply : Reply AccountResponse}
    (truthful : Truthful honest w (.pinged reply)) {since asked : Nat}
    {collected : Votes Nat UInt64} (fetching : w.phase = .fetching since asked collected) :
    honest asked → ∀ nonce ∈ fetchNonceSingleNode reply, nonce.toNat = w.account := by
  rwa [Truthful, fetching] at truthful

/-- The nonce that a fair fetch ends with was the account's since the fetch began. -/
theorem resynced_within (sound : Sound honest w) (liar : OneLiar honest)
    {reply : Reply AccountResponse} (fair : Fair nodes honest w (.pinged reply))
    {since asked : Nat} {collected : Votes Nat UInt64}
    (fetching : w.phase = .fetching since asked collected)
    (last : maxNodesToPing nodes ≤ asked + 1) {realNonce : UInt64}
    (agreed : nonceConsensus (collect asked reply collected).values = some realNonce) :
    since ≤ realNonce.toNat ∧ realNonce.toNat ≤ w.account := by
  obtain ⟨few, gathered⟩ := sound since asked collected fetching
  have reliable := fair.2
  rw [Reliable, fetching] at reliable
  apply (gathered.collect (fair.1.pinged fetching)).consensus few liar agreed
  intro node nonce single
  exact reliable last (congrArg List.length single) (node, nonce) (single ▸ .head _)

theorem selectOk_mem {replies : List (Nat × Reply SendTxResponse)} {node : Nat} {hash : Bytes}
    (chosen : selectOk replies = some (node, hash)) :
    ∃ reply, (node, reply) ∈ replies ∧ (txHash reply).isSome := by
  obtain ⟨⟨source, reply⟩, member, found⟩ := List.exists_of_findSome?_eq_some chosen
  obtain ⟨hash', read, same⟩ := Option.map_eq_some_iff.mp found
  obtain rfl := (Prod.mk.inj same).1
  exact ⟨reply, member, read ▸ rfl⟩

theorem toNat_add_one_le (nonce : UInt64) : (nonce + 1).toNat ≤ nonce.toNat + 1 := by
  rw [UInt64.toNat_add]
  exact Nat.mod_le _ _

theorem Sound.idle (idle : w.phase = .idle) : Sound honest w := by
  intro _ _ _ fetching
  cases idle.symm.trans fetching

theorem Collected.nil (account : Nat) : Collected honest account account 0 [] where
  started := Nat.le_refl account
  sources := List.nodup_nil
  before _ member := by cases member
  told _ _ member := by cases member

theorem sound_step (fair : Fair nodes honest w move) (sound : Sound honest w)
    (stepped : step wallet nodes w move = .ok next) : Sound honest next := by
  cases step_effect stepped with
  | enteredPool nonce => exact sound
  | executed waiting =>
      intro since asked collected fetching
      obtain ⟨few, gathered⟩ := sound since asked collected fetching
      exact ⟨few, gathered.later⟩
  | ignored | accepted | resynced | unsettled => exact .idle rfl
  | sent | funded | fundedMore | stopped =>
      intro _ _ _ fetching
      cases fetching
  | failed sending refused =>
      intro since asked collected fetching
      obtain ⟨rfl, rfl, rfl⟩ := Phase.fetching.inj fetching
      exact ⟨Nat.succ_pos 2, .nil _⟩
  | collected fetching more =>
      intro since asked collected fetching'
      obtain ⟨rfl, rfl, rfl⟩ := Phase.fetching.inj fetching'
      obtain ⟨_, gathered⟩ := sound _ _ _ fetching
      exact ⟨Nat.lt_of_lt_of_le more (Nat.min_le_right nodes 3),
        gathered.collect (fair.1.pinged fetching)⟩

theorem Counted.idle (covered : Covered w) (idle : w.phase = .idle) : Counted w where
  covered := covered
  sending _ sending := by cases idle.symm.trans sending
  funding _ funding := by cases idle.symm.trans funding

theorem Counted.fetching {since asked : Nat} {collected : Votes Nat UInt64} (covered : Covered w)
    (fetching : w.phase = .fetching since asked collected) : Counted w where
  covered := covered
  sending _ sending := by cases fetching.symm.trans sending
  funding _ funding := by cases fetching.symm.trans funding

theorem counted_step (liar : OneLiar honest) (fair : Fair nodes honest w move)
    (inOrder : InOrder wallet w move) (sound : Sound honest w) (counted : Counted w)
    (stepped : step wallet nodes w move = .ok next) : Counted next := by
  cases step_effect stepped with
  | enteredPool nonce =>
      refine ⟨?_, counted.sending, counted.funding⟩
      intro nonce' least passed
      exact Finset.mem_insert_of_mem (counted.covered nonce' least passed)
  | executed waiting =>
      refine ⟨?_, counted.sending, counted.funding⟩
      intro nonce least passed
      have onwards : nonce ≠ w.account := Nat.ne_of_gt least
      exact Finset.mem_erase.mpr
        ⟨onwards, counted.covered nonce (Nat.le_of_lt least) passed⟩
  | sent idle other =>
      refine ⟨counted.covered, ?_, ?_⟩
      · intro nonce sending
        exact (Phase.sending.inj sending).symm.trans inOrder.2
      · intro _ funding
        cases funding
  | funded idle funding => exact absurd funding inOrder.1
  | ignored sending => exact .idle counted.covered rfl
  | @accepted currentNonce replies node hash sending chosen =>
      obtain ⟨reply, member, success⟩ := selectOk_mem chosen
      have truthful := fair.1
      rw [Truthful, sending] at truthful
      have settled := truthful _ member (fair.2 (node, hash) chosen) success
      rw [counted.sending _ sending] at settled
      refine .idle ?_ rfl
      intro nonce least passed
      rcases Nat.lt_or_eq_of_le (Nat.le_of_lt_succ (Nat.lt_of_lt_of_le passed
        (toNat_add_one_le w.nonce))) with earlier | rfl
      · exact counted.covered nonce least earlier
      · exact settled.resolve_left (Nat.not_lt.mpr least)
  | failed sending refused => exact .fetching counted.covered rfl
  | fundedMore funding | stopped funding => exact absurd funding (counted.funding _)
  | collected fetching more => exact .fetching counted.covered rfl
  | resynced fetching last agreed =>
      have within := resynced_within sound liar fair fetching last agreed
      refine .idle ?_ rfl
      intro nonce least passed
      exact absurd (Nat.lt_of_lt_of_le passed within.2) (Nat.not_lt.mpr least)
  | unsettled fetching last split => exact .idle counted.covered rfl

theorem sound_start (account : Nat) (pool : Finset Nat) : Sound honest (start account pool) := by
  intro since asked collected fetching
  obtain ⟨rfl, rfl, rfl⟩ := Phase.fetching.inj fetching
  exact ⟨Nat.succ_pos 2, .nil account⟩

theorem counted_start (account : Nat) (pool : Finset Nat) : Counted (start account pool) :=
  .fetching (fun nonce _ passed => absurd passed (Nat.not_lt_zero nonce)) rfl

end Steps

/-! ## Runs -/

namespace Sample

/-- The second of three nodes lies. -/
def honest (node : Nat) : Prop := node ≠ 1

instance (node : Nat) : Decidable (honest node) := inferInstanceAs (Decidable (_ ≠ _))

theorem one_liar : OneLiar honest := by
  intro first second _ _ lies lies'
  exact (not_not.mp lies).trans (not_not.mp lies').symm

def told (nonce : UInt64) : Reply AccountResponse :=
  .received 200 (some ⟨some ⟨⟨nonce, ascii "0"⟩⟩, none, none⟩)

def accepted : Reply SendTxResponse :=
  .received 201 (some ⟨some ⟨ascii "aa"⟩, none, some (ascii "successful")⟩)

def wallet : Wallet where
  mode := .fuzz
  index := 0

/-- A transaction times out, and reaches the pool all the same. -/
def failing : List Step :=
  [.pinged (told 7), .pinged (told 900), .pinged (told 7), .send 50, .enterPool 7,
    .replied [(0, accepted)], .send 30, .replied [(0, .failed), (1, .failed), (2, .failed)]]

def resync : List Step :=
  [.enterPool 8, .execute, .execute, .pinged (told 9), .pinged (told 3), .pinged (told 9)]

end Sample

section Runs

variable {wallet : Wallet} {nodes : Nat} {honest : Nat → Prop} {w next : World} {move : Step}
  {account : Nat} {pool : Finset Nat} {steps : List Step}

theorem sound_run
    (trace : Trace (step wallet nodes) (Fair nodes honest) (start account pool) steps w) :
    Sound honest w :=
  trace.preserves (Sound honest) (fun _ _ _ fair sound stepped => sound_step fair sound stepped)
    (sound_start account pool)

theorem counted_run (liar : OneLiar honest)
    (trace : Trace (step wallet nodes)
      (fun w move => Fair nodes honest w move ∧ InOrder wallet w move) (start account pool) steps
      w) : Counted w := by
  have kept : Sound honest w ∧ Counted w := by
    apply trace.preserves fun w => Sound honest w ∧ Counted w
    · rintro _ _ _ ⟨fair, inOrder⟩ ⟨sound, counted⟩ stepped
      exact ⟨sound_step fair sound stepped, counted_step liar fair inOrder sound counted stepped⟩
    · exact ⟨sound_start account pool, counted_start account pool⟩
  exact kept.2

/-- The chain executes what the wallet has counted past. -/
theorem Covered.executes (covered : Covered w) :
    ∃ count final, Trace (step wallet nodes) (Fair nodes honest) w (List.replicate count .execute)
        final ∧ final.nonce = w.nonce ∧ w.nonce.toNat ≤ final.account := by
  induction missing : w.nonce.toNat - w.account generalizing w with
  | zero => exact ⟨0, w, .nil w, rfl, Nat.le_of_sub_eq_zero missing⟩
  | succ rest inductionHypothesis =>
      have behind : w.account < w.nonce.toNat := Nat.lt_of_sub_eq_succ missing
      have waiting : w.account ∈ w.pool := covered w.account (Nat.le_refl _) behind
      have stepped : step wallet nodes w .execute =
          .ok { w with account := w.account + 1, pool := w.pool.erase w.account } := by
        simp [step, ensure, waiting, pure, Except.pure, bind, Except.bind]
      have covered' : Covered { w with
          account := w.account + 1, pool := w.pool.erase w.account } := by
        intro nonce least counted
        exact Finset.mem_erase.mpr ⟨Nat.ne_of_gt least, covered nonce (Nat.le_of_lt least) counted⟩
      obtain ⟨count, final, trace, same, reached⟩ := inductionHypothesis covered' (by
        show w.nonce.toNat - (w.account + 1) = rest
        omega)
      exact ⟨count + 1, final, .cons ⟨trivial, trivial⟩ stepped trace, same, reached⟩

/-- No nonce is left out where the wallet sends in order: whatever the nodes answer, as long as
one at most lies and the one that is believed alone does not, the chain can execute every
transaction that the wallet has counted past. -/
theorem counted_executable (liar : OneLiar honest)
    (trace : Trace (step wallet nodes)
      (fun w move => Fair nodes honest w move ∧ InOrder wallet w move) (start account pool) steps
      w) :
    ∃ count final, Trace (step wallet nodes) (Fair nodes honest) w (List.replicate count .execute)
        final ∧ final.nonce = w.nonce ∧ w.nonce.toNat ≤ final.account :=
  (counted_run liar trace).covered.executes

theorem counted_executable_sample :
    ∃ w, Trace (step Sample.wallet 3)
        (fun w move => Fair 3 Sample.honest w move ∧ InOrder Sample.wallet w move) (start 7 ∅)
        Sample.failing w ∧ w.nonce = 8 ∧
      ∃ count final, Trace (step Sample.wallet 3) (Fair 3 Sample.honest) w
          (List.replicate count .execute) final ∧
        final.nonce = w.nonce ∧ w.nonce.toNat ≤ final.account := by
  obtain ⟨w, trace, counted⟩ := Trace.of_runChecked (step Sample.wallet 3)
    (fun w move => Fair 3 Sample.honest w move ∧ InOrder Sample.wallet w move) (start 7 ∅)
    Sample.failing (fun w => w.nonce = 8) (by decide +kernel)
  exact ⟨w, trace, counted, counted_executable Sample.one_liar trace⟩

def sends : Step → Bool
  | .send _ => true
  | _ => false

/-- A fetch that began in one state is under way in another, or has ended before it. -/
def Resyncing (began w : World) : Prop :=
  (∃ asked collected, w.phase = .fetching began.account asked collected ∧ w.nonce = began.nonce) ∨
    w.phase = .idle ∧
      (w.nonce = began.nonce ∨ began.account ≤ w.nonce.toNat ∧ w.nonce.toNat ≤ w.account)

theorem resyncing_step {began : World} (liar : OneLiar honest) (fair : Fair nodes honest w move)
    (quiet : sends move = false) (sound : Sound honest w) (resyncing : Resyncing began w)
    (stepped : step wallet nodes w move = .ok next) : Resyncing began next := by
  cases step_effect stepped with
  | enteredPool nonce => exact resyncing
  | executed waiting =>
      rcases resyncing with under | ⟨idle, same | ⟨early, late⟩⟩
      · exact .inl under
      · exact .inr ⟨idle, .inl same⟩
      · exact .inr ⟨idle, .inr ⟨early, Nat.le_succ_of_le late⟩⟩
  | sent idle | funded idle => cases quiet
  | ignored busy | accepted busy | failed busy | fundedMore busy | stopped busy =>
      rcases resyncing with ⟨_, _, fetching, _⟩ | ⟨idle, _⟩
      · cases busy.symm.trans fetching
      · cases busy.symm.trans idle
  | collected fetching more =>
      rcases resyncing with ⟨_, _, fetching', same⟩ | ⟨idle, _⟩
      · obtain ⟨rfl, rfl, rfl⟩ := Phase.fetching.inj (fetching.symm.trans fetching')
        exact .inl ⟨_, _, rfl, same⟩
      · cases fetching.symm.trans idle
  | resynced fetching last agreed =>
      rcases resyncing with ⟨_, _, fetching', _⟩ | ⟨idle, _⟩
      · obtain ⟨rfl, rfl, rfl⟩ := Phase.fetching.inj (fetching.symm.trans fetching')
        exact .inr ⟨rfl, .inr (resynced_within sound liar fair fetching last agreed)⟩
      · cases fetching.symm.trans idle
  | unsettled fetching last split =>
      rcases resyncing with ⟨_, _, _, same⟩ | ⟨idle, _⟩
      · exact .inr ⟨rfl, .inl same⟩
      · cases fetching.symm.trans idle

/-- The fetch after a failed transaction leaves the wallet with a nonce that was the account's
since the failure, or with its own where the nodes do not agree. -/
theorem nonce_healed (liar : OneLiar honest)
    (earlier : Trace (step wallet nodes) (Fair nodes honest) (start account pool) steps w)
    (failed : w.phase = .fetching w.account 0 []) {further : List Step}
    (trace : Trace (step wallet nodes)
      (fun w move => Fair nodes honest w move ∧ sends move = false) w further next)
    (done : next.phase = .idle) :
    next.nonce = w.nonce ∨ w.account ≤ next.nonce.toNat ∧ next.nonce.toNat ≤ next.account := by
  have kept : Sound honest next ∧ Resyncing w next := by
    apply trace.preserves fun later => Sound honest later ∧ Resyncing w later
    · rintro _ _ _ ⟨fair, quiet⟩ ⟨sound, resyncing⟩ stepped
      exact ⟨sound_step fair sound stepped,
        resyncing_step liar fair quiet sound resyncing stepped⟩
    · exact ⟨sound_run earlier, .inl ⟨0, [], failed, rfl⟩⟩
  rcases kept.2 with ⟨_, _, fetching, _⟩ | ⟨_, healed⟩
  · cases done.symm.trans fetching
  · exact healed

theorem nonce_healed_sample :
    ∃ w next, Trace (step Sample.wallet 3) (Fair 3 Sample.honest) (start 7 ∅) Sample.failing w ∧
      Trace (step Sample.wallet 3) (fun w move => Fair 3 Sample.honest w move ∧ sends move = false)
        w Sample.resync next ∧
      (next.nonce = w.nonce ∨ w.account ≤ next.nonce.toNat ∧ next.nonce.toNat ≤ next.account) := by
  obtain ⟨w, earlier, failed, onwards⟩ := Trace.of_runChecked (step Sample.wallet 3)
    (Fair 3 Sample.honest) (start 7 ∅) Sample.failing
    (fun w => w.phase = .fetching w.account 0 [] ∧
      endsIn (fun next => next.phase = .idle) (runChecked (step Sample.wallet 3)
        (fun w move => Fair 3 Sample.honest w move ∧ sends move = false) w Sample.resync) = true)
    (by decide +kernel)
  obtain ⟨next, trace, done⟩ := Trace.of_runChecked _ _ _ _ _ onwards
  exact ⟨w, next, earlier, trace, nonce_healed Sample.one_liar earlier failed trace done⟩

end Runs

end XCron.Keeper.Nonces
