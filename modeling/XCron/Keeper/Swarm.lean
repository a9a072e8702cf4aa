import XCron.Keeper.Snipers
import XCron.Platform.Trace
import Mathlib.Algebra.BigOperators.Fin

/-!
# Four pollers

`xcron-keeper-rs/src/ws_sniper.rs`: four tasks poll a node each for swaps and intents, and
share what they have seen under a lock. The lock is held while a hash is let in, not while
its transaction is looked at, and what is found is dropped when the channel is full.
-/

namespace XCron.Keeper

open Platform Outcome
open XCron.Xse (Utf8State utf8Step)

/-! ## What a node answers -/

/-- A JSON value. Of a number it matters what it is as a 64-bit word. -/
inductive Value where
  | null
  | bool (value : Bool)
  | number (unsigned : Option UInt64)
  | string (text : Text)
  | array (items : List Value)
  | object (members : List (Text × Value))

namespace Value

def get (key : String) : Value → Option Value
  | .object members => (members.find? fun member => decide (member.1 = ascii key)).map (·.2)
  | _ => none

def asStr : Value → Option Text
  | .string text => some text
  | _ => none

def asU64 : Value → Option UInt64
  | .number unsigned => unsigned
  | _ => none

def asArray : Value → Option (List Value)
  | .array items => some items
  | _ => none

def hash (tx : Value) : Text := (((tx.get "hash").or (tx.get "txHash")).bind asStr).getD []

end Value

/-- The transactions of a pool: an array, or nested as observers write it. -/
def txsArray (parsed : Value) : Option (List Value) :=
  match parsed.asArray with
  | some array => some array
  | none => do
      let data ← parsed.get "data"
      let txPool ← data.get "txPool"
      let pool ← txPool.get "regularTransactions"
      pool.asArray

def replacement : Text := [239, 191, 189]

/-- `String::from_utf8_lossy`, from a reader that holds back the bytes of a character. -/
def utf8LossyFrom : Utf8State → Bytes → Bytes → Text
  | _, pending, [] => if pending = [] then [] else replacement
  | state, pending, byte :: rest =>
      match utf8Step (some state) byte with
      | some next =>
          if next.owed = 0 then pending ++ byte :: utf8LossyFrom next [] rest
          else utf8LossyFrom next (pending ++ [byte]) rest
      | none =>
          replacement ++
            if pending = [] then utf8LossyFrom ⟨0, 128, 191⟩ [] rest
            else
              -- the byte that does not continue the character may begin another one
              match utf8Step (some ⟨0, 128, 191⟩) byte with
              | some next =>
                  if next.owed = 0 then byte :: utf8LossyFrom next [] rest
                  else utf8LossyFrom next [byte] rest
              | none => replacement ++ utf8LossyFrom ⟨0, 128, 191⟩ [] rest

def fromUtf8Lossy (bytes : Bytes) : Text := utf8LossyFrom ⟨0, 128, 191⟩ [] bytes

/-- Where a text may be cut; a slice that cuts elsewhere panics. -/
def isCharBoundary (text : Text) (index : Nat) : Bool :=
  index = 0 || match text[index]? with
    | none => index = text.length
    | some byte => byte < 128 || 192 ≤ byte

/-! ## What is looked for -/

structure ArbitrageOpportunity where
  victimHash : Text
  gasPrice : UInt64
  targetDex : Text
  amountInHex : Text
  deriving DecidableEq

inductive Finding where
  | ignored
  | opportunity (opp : ArbitrageOpportunity)
  | panicked

def decodeData (rawData : Text) : Text :=
  match base64Decode rawData with
  | some bytes => fromUtf8Lossy bytes
  | none => rawData

def isSwap (decoded : Text) : Bool :=
  decide (swapFixedInput <:+: decoded) ||
    decide (ascii "73776170546f6b656e7346697865644f7574707574" <:+: decoded) ||
    decide (ascii "swapTokensFixedInput" <:+: decoded)

def isXcronIntent (decoded : Text) : Bool :=
  decide (ascii "6372656174654d756c7469496e707574" <:+: decoded) ||
    decide (ascii "createMultiIntent" <:+: decoded) || decide (ascii "createIntent" <:+: decoded)

def examine (tx : Value) : Finding :=
  let hash := tx.hash
  let receiver := ((tx.get "receiver").bind Value.asStr).getD []
  let rawData := ((tx.get "data").bind Value.asStr).getD []
  let gasPrice := ((tx.get "gasPrice").bind Value.asU64).getD 0
  if rawData = [] then .ignored
  else
    let decoded := decodeData rawData
    if isSwap decoded || isXcronIntent decoded then
      if gasPrice < 1000000000 then .ignored
      else
        let amountInfo :=
          if 3 ≤ (decoded.splitOn separator).length then ascii "payload_raw=" ++ decoded
          else if isXcronIntent decoded then ascii "XCRON_INTENT" else ascii "omni_swap"
        -- the line that is printed cuts the hash and the receiver
        if isCharBoundary hash (min 8 hash.length) && isCharBoundary hash (hash.length - 4) &&
            isCharBoundary receiver (min 16 receiver.length) then
          .opportunity ⟨hash, gasPrice, receiver, amountInfo⟩
        else .panicked
    else .ignored

/-! ## The pollers -/

/-- Where one of the four pollers is. -/
inductive Poller where
  | idle
  | scanning (txs : List Value)
  | holding (tx : Value) (txs : List Value)
  | dead

/-- The hashes let in, the latest first, and what was sent are bookkeeping. -/
structure Swarm where
  seen : RollingSet Text
  pollers : Fin 4 → Poller
  channel : List ArbitrageOpportunity
  recent : List Text
  sent : List ArbitrageOpportunity

namespace Swarm

def start : Swarm := ⟨.empty, fun _ => .idle, [], [], []⟩

/-- What can happen next: one of the pollers goes on, or the receiver takes something. -/
inductive Step where
  | fetch (poller : Fin 4) (response : Option Value)
  | check (poller : Fin 4)
  | examine (poller : Fin 4)
  | receive

def put (poller : Fin 4) (at_point : Poller) (swarm : Swarm) : Swarm :=
  { swarm with pollers := Function.update swarm.pollers poller at_point }

def check (poller : Fin 4) (tx : Value) (rest : List Value) (swarm : Swarm) : Swarm :=
  if tx.hash = [] then swarm.put poller (.scanning rest)
  else if swarm.seen.contains tx.hash then swarm.put poller (.scanning rest)
  else
    { swarm.put poller (.holding tx rest) with
      seen := swarm.seen.insert 20000 tx.hash
      recent := tx.hash :: swarm.recent }

def trySend (capacity : Nat) (opp : ArbitrageOpportunity) (swarm : Swarm) : Swarm :=
  if swarm.channel.length < capacity then
    { swarm with channel := swarm.channel ++ [opp], sent := opp :: swarm.sent }
  else swarm

def examine (capacity : Nat) (poller : Fin 4) (tx : Value) (rest : List Value) (swarm : Swarm) :
    Swarm :=
  match Keeper.examine tx with
  | .ignored => swarm.put poller (.scanning rest)
  | .opportunity opp => (swarm.put poller (.scanning rest)).trySend capacity opp
  | .panicked => swarm.put poller .dead

def step (capacity : Nat) (swarm : Swarm) : Step → Outcome Swarm
  | .fetch poller response =>
      match swarm.pollers poller with
      | .idle => pure (swarm.put poller (.scanning ((response.bind txsArray).getD [])))
      | _ => .error .rejected
  | .check poller =>
      match swarm.pollers poller with
      | .scanning [] => pure (swarm.put poller .idle)
      | .scanning (tx :: rest) => pure (swarm.check poller tx rest)
      | _ => .error .rejected
  | .examine poller =>
      match swarm.pollers poller with
      | .holding tx rest => pure (swarm.examine capacity poller tx rest)
      | _ => .error .rejected
  | .receive =>
      match swarm.channel with
      | [] => .error .rejected
      | _ :: rest => pure { swarm with channel := rest }

end Swarm

/-! ## Any order of the four -/

theorem examine_opportunity {tx : Value} {opp : ArbitrageOpportunity}
    (found : examine tx = .opportunity opp) :
    opp.victimHash = tx.hash ∧ 1000000000 ≤ opp.gasPrice := by
  unfold examine at found
  dsimp only at found
  split at found
  · cases found
  · split at found
    · split at found
      · cases found
      next paid =>
        split at found
        · cases found
          exact ⟨rfl, UInt64.not_lt.mp paid⟩
        · cases found
    · cases found

def Poller.holdsHash (hash : Text) : Poller → Nat
  | .holding tx _ => if tx.hash = hash then 1 else 0
  | _ => 0

namespace Swarm

variable {capacity : Nat} {swarm next : Swarm} {poller : Fin 4} {hash : Text}

def inHand (hash : Text) (swarm : Swarm) : Nat := ∑ poller, (swarm.pollers poller).holdsHash hash

def sentFor (hash : Text) (swarm : Swarm) : Nat :=
  swarm.sent.countP fun opp => decide (opp.victimHash = hash)

theorem inHand_put (poller : Fin 4) (at_point : Poller) (swarm : Swarm) (hash : Text) :
    (swarm.put poller at_point).inHand hash + (swarm.pollers poller).holdsHash hash =
      swarm.inHand hash + at_point.holdsHash hash := by
  have moved : (fun other => ((swarm.put poller at_point).pollers other).holdsHash hash) =
      Function.update (fun other => (swarm.pollers other).holdsHash hash) poller
        (at_point.holdsHash hash) :=
    Function.comp_update (Poller.holdsHash hash) swarm.pollers poller at_point
  have before := Finset.add_sum_erase Finset.univ (fun other => (swarm.pollers other).holdsHash hash)
    (Finset.mem_univ poller)
  rw [inHand, moved, Finset.sum_update_of_mem (Finset.mem_univ poller),
    Finset.sdiff_singleton_eq_erase, inHand]
  omega

/-- What is sent or in hand for a hash does not exceed how often it was let in. -/
structure Accounted (capacity : Nat) (swarm : Swarm) : Prop where
  holds : swarm.seen.Holds 20000 swarm.recent
  letIn : RollingSet.LetIn 20000 swarm.recent
  let_in_first : ∀ hash, swarm.sentFor hash + swarm.inHand hash ≤ swarm.recent.count hash
  paid : ∀ opp ∈ swarm.sent, 1000000000 ≤ opp.gasPrice
  room : swarm.channel.length ≤ capacity

theorem accounted_start (capacity : Nat) : Accounted capacity start :=
  ⟨RollingSet.holds_empty 20000, .nil, fun _ => Nat.le_refl _, by simp [start], Nat.zero_le _⟩

theorem Accounted.put (accounted : Accounted capacity swarm) {at_point : Poller}
    (empty : ∀ hash, at_point.holdsHash hash = 0) : Accounted capacity (swarm.put poller at_point) := by
  refine ⟨accounted.holds, accounted.letIn, ?_, accounted.paid, accounted.room⟩
  intro hash
  have moved := inHand_put poller at_point swarm hash
  have before := accounted.let_in_first hash
  rw [empty hash] at moved
  change swarm.sentFor hash + (swarm.put poller at_point).inHand hash ≤ swarm.recent.count hash
  omega

theorem Accounted.check (accounted : Accounted capacity swarm) (tx : Value) (rest : List Value)
    (free : ∀ hash, (swarm.pollers poller).holdsHash hash = 0) :
    Accounted capacity (swarm.check poller tx rest) := by
  unfold Swarm.check
  split
  · exact accounted.put fun _ => rfl
  · split
    · exact accounted.put fun _ => rfl
    next unknown =>
      refine ⟨accounted.holds.insert (Bool.eq_false_iff.mpr unknown), ?_, ?_, accounted.paid,
        accounted.room⟩
      · apply RollingSet.LetIn.cons
        · rw [← accounted.holds.contains_iff]
          exact unknown
        · exact accounted.letIn
      · intro hash
        have moved := inHand_put poller (.holding tx rest) swarm hash
        have before := accounted.let_in_first hash
        rw [free hash] at moved
        change swarm.sentFor hash + (swarm.put poller (.holding tx rest)).inHand hash ≤
          (tx.hash :: swarm.recent).count hash
        rw [List.count_cons]
        simp only [Poller.holdsHash, beq_iff_eq] at moved ⊢
        omega

theorem Accounted.examine (accounted : Accounted capacity swarm) {tx : Value} {rest : List Value}
    (held : swarm.pollers poller = .holding tx rest) :
    Accounted capacity (swarm.examine capacity poller tx rest) := by
  unfold Swarm.examine
  split
  · exact accounted.put fun _ => rfl
  next opp found =>
    obtain ⟨named, paid⟩ := examine_opportunity found
    unfold Swarm.trySend
    split
    next room =>
      refine ⟨accounted.holds, accounted.letIn, ?_, ?_, ?_⟩
      · intro hash
        have moved := inHand_put poller (.scanning rest) swarm hash
        have before := accounted.let_in_first hash
        rw [held] at moved
        change (opp :: swarm.sent).countP (fun opp => decide (opp.victimHash = hash)) +
          (swarm.put poller (.scanning rest)).inHand hash ≤ swarm.recent.count hash
        rw [List.countP_cons, named]
        simp only [Poller.holdsHash, decide_eq_true_eq] at moved ⊢
        unfold sentFor at before
        omega
      · intro other member
        rcases List.mem_cons.mp member with rfl | earlier
        · exact paid
        · exact accounted.paid other earlier
      · dsimp only
        rw [List.length_append]
        exact room
    next full => exact accounted.put fun _ => rfl
  · exact accounted.put fun _ => rfl

theorem Accounted.step {move : Step} (accounted : Accounted capacity swarm)
    (stepped : swarm.step capacity move = .ok next) : Accounted capacity next := by
  cases move with
  | fetch poller response =>
      simp only [Swarm.step] at stepped
      split at stepped
      · cases stepped
        exact accounted.put fun _ => rfl
      · cases stepped
  | check poller =>
      simp only [Swarm.step] at stepped
      split at stepped
      · cases stepped
        exact accounted.put fun _ => rfl
      next tx rest scanning =>
        cases stepped
        apply accounted.check
        intro hash
        rw [scanning]
        rfl
      · cases stepped
  | examine poller =>
      simp only [Swarm.step] at stepped
      split at stepped
      next tx rest held =>
        cases stepped
        exact accounted.examine held
      · cases stepped
  | receive =>
      simp only [Swarm.step] at stepped
      split at stepped
      · cases stepped
      next opp rest channel =>
        cases stepped
        refine ⟨accounted.holds, accounted.letIn, accounted.let_in_first, accounted.paid, ?_⟩
        have room := accounted.room
        rw [channel, List.length_cons] at room
        exact Nat.le_of_succ_le room

end Swarm

/-- In whatever order the four pollers scan their pools, a transaction is signalled once for
every 60 003 hashes that are let in, at most, and what they remember stays bounded. -/
theorem opportunities_rare (capacity : Nat) (steps : List Swarm.Step) (final : Swarm)
    (trace : Trace (Swarm.step capacity) (fun _ _ => True) .start steps final) :
    (∀ hash, final.sentFor hash ≤ final.recent.length / 60003 + 1) ∧
      final.seen.current.card + final.seen.previous.card + final.seen.oldest.card ≤ 60002 ∧
      final.channel.length ≤ capacity ∧ ∀ opp ∈ final.sent, 1000000000 ≤ opp.gasPrice := by
  have accounted : Swarm.Accounted capacity final :=
    trace.preserves (Swarm.Accounted capacity)
      (fun _ _ _ _ accounted stepped => accounted.step stepped) (Swarm.accounted_start capacity)
  refine ⟨?_, accounted.holds.card_le, accounted.room, accounted.paid⟩
  intro hash
  have first := accounted.let_in_first hash
  have rare : final.recent.count hash ≤ final.recent.length / 60003 + 1 :=
    accounted.letIn.count_le hash
  omega

namespace Swarm

/-- An intent that two nodes have in their pools. -/
def sampleIntent : Value :=
  .object [(ascii "hash", .string (ascii "c3d4e5f6")), (ascii "receiver", .string (ascii "erd1xcron")),
    (ascii "data", .string (ascii "createIntent@01")), (ascii "gasPrice", .number (some 2000000000))]

def sampleSteps : List Step :=
  [.fetch 0 (some (.array [sampleIntent])), .fetch 1 (some (.array [sampleIntent])), .check 0,
    .check 1, .examine 0, .receive]

end Swarm

theorem opportunities_rare_sample : ∃ final : Swarm,
    Trace (Swarm.step 100) (fun _ _ => True) .start Swarm.sampleSteps final ∧
      final.sentFor (ascii "c3d4e5f6") ≤ 1 ∧ final.sent.length = 1 := by
  obtain ⟨final, trace, sent, recent⟩ := Trace.of_runChecked (Swarm.step 100) (fun _ _ => True)
    .start Swarm.sampleSteps (fun swarm => swarm.sent.length = 1 ∧ swarm.recent.length = 1)
    (by decide)
  have rare := (opportunities_rare 100 Swarm.sampleSteps final trace).1 (ascii "c3d4e5f6")
  rw [recent] at rare
  exact ⟨final, trace, rare, sent⟩

end XCron.Keeper
