import XCron.Common.Types
import XCron.Platform.Call
import XCron.Platform.Trace

/-!
# State compression

`xsc-core/src/xsc_core.rs`: a keeper publishes the root of a Merkle tree, and
anyone may have a leaf checked against it. A proof is one buffer, the siblings
from the leaf upwards one after the other.
-/

namespace XCron.Xsc

open Platform

inductive Event where
  | rootUpdated (newRoot : Bytes) (nonce : UInt64)

structure Core where
  authorizedKeeper : Address
  /-- An empty cell reads as the empty buffer. -/
  merkleRoot : Bytes
  rootNonce : UInt64
  isPaused : Bool
  events : List Event

def init (authorizedKeeper : Address) : Core :=
  { authorizedKeeper := authorizedKeeper
    merkleRoot := []
    rootNonce := 0
    isPaused := false
    events := [] }

namespace Core

def requireNotPaused (c : Core) : Outcome Unit := require (c.isPaused = false) "Protocol Paused"

def updateRoot (call : CallContext) (newRoot : Bytes) (c : Core) : Outcome Core := do
  c.requireNotPaused
  require (call.caller = c.authorizedKeeper) "Unauthorized Keeper"
  require (newRoot.length = 32) "Invalid Root Length"
  let nonce := c.rootNonce + 1
  pure { c with
    rootNonce := nonce
    merkleRoot := newRoot
    events := c.events ++ [.rootUpdated newRoot nonce] }

end Core

/-! ## Hashing -/

/-- `load_slice` into an array of 32 zeros, which a shorter buffer leaves as it is. -/
def loadArray (buffer : Bytes) : Bytes :=
  if 32 ≤ buffer.length then buffer.take 32 else List.replicate 32 0

def compareBytes : Bytes → Bytes → Int
  | a :: first, b :: second => if a < b then -1 else if b < a then 1 else compareBytes first second
  | _, _ => 0

def bufCompare (a b : Bytes) : Int := compareBytes (loadArray a) (loadArray b)

/-- What `compute_parent_hash` hashes: a byte that marks inner nodes, then the two
nodes, the smaller one first. -/
def parentPreimage (a b : Bytes) : Bytes :=
  if bufCompare a b ≤ 0 then 1 :: (a ++ b) else 1 :: (b ++ a)

def computeParentHash (chain : Chain) (a b : Bytes) : Bytes :=
  (chain.sha256 (parentPreimage a b)).val

/-! ## Verification -/

def copySlice (buffer : Bytes) (start length : Nat) : Option Bytes :=
  if start + length ≤ buffer.length then some ((buffer.drop start).take length) else none

/-- `unwrap`, which stops the call on nothing. -/
def unwrap {Alpha : Type} : Option Alpha → Outcome Alpha
  | some value => .ok value
  | none => .error (.signal "panic occurred")

/-- The loop of `verify_proof`, from an offset on. -/
def computeRoot (chain : Chain) (packedProof : Bytes) (offset : Nat) (computedHash : Bytes) :
    Outcome Bytes :=
  if offset < packedProof.length then do
    let sibling ← unwrap (copySlice packedProof offset 32)
    computeRoot chain packedProof (offset + 32) (computeParentHash chain computedHash sibling)
  else pure computedHash
termination_by packedProof.length - offset

def verifyProof (chain : Chain) (leaf packedProof : Bytes) (c : Core) : Outcome Bool := do
  c.requireNotPaused
  require (leaf.length = 32) "Invalid Leaf Length"
  require (packedProof.length % 32 = 0) "Invalid Packed Proof Length"
  require (packedProof.length ≤ 1024) "Proof depth exceeds maximum limit"
  let computedHash ← computeRoot chain packedProof 0 leaf
  pure (computedHash = c.merkleRoot)

/-! ## Steps -/

inductive Step where
  | updateRoot (call : CallContext) (newRoot : Bytes)
  | setPaused (call : CallContext) (paused : Bool)
  | setAuthorizedKeeper (call : CallContext) (newKeeper : Address)
  | upgrade (call : CallContext) (authorizedKeeper : Address)

def step (chain : Chain) (c : Core) : Step → Outcome Core
  | .updateRoot call newRoot => do
      call.notPayable
      c.updateRoot call newRoot
  | .setPaused call paused => do
      call.notPayable
      call.onlyOwner chain
      pure { c with isPaused := paused }
  | .setAuthorizedKeeper call newKeeper => do
      call.notPayable
      call.onlyOwner chain
      pure { c with authorizedKeeper := newKeeper }
  | .upgrade call authorizedKeeper => do
      call.notPayable
      call.onlyOwner chain
      pure { c with authorizedKeeper := authorizedKeeper }

/-! ## The packed buffer as a list of siblings -/

def pack (siblings : List Bytes32) : Bytes := siblings.flatMap Bytes32.val

@[simp]
theorem pack_cons (sibling : Bytes32) (rest : List Bytes32) :
    pack (sibling :: rest) = sibling.val ++ pack rest := rfl

@[simp]
theorem length_pack (siblings : List Bytes32) : (pack siblings).length = 32 * siblings.length := by
  induction siblings with
  | nil => rfl
  | cons sibling rest inductionHypothesis =>
      rw [pack_cons, List.length_append, sibling.length_eq, inductionHypothesis, List.length_cons]
      omega

theorem exists_pack (buffer : Bytes) (whole : buffer.length % 32 = 0) :
    ∃ siblings, buffer = pack siblings := by
  induction count : buffer.length / 32 generalizing buffer with
  | zero =>
      have nothing : buffer = [] := List.length_eq_zero_iff.mp (by omega)
      exact ⟨[], nothing⟩
  | succ count inductionHypothesis =>
      have taken : (buffer.take 32).length = 32 := by
        rw [List.length_take]
        omega
      have left : (buffer.drop 32).length = buffer.length - 32 := List.length_drop
      obtain ⟨siblings, packed⟩ := inductionHypothesis (buffer.drop 32) (by omega) (by omega)
      refine ⟨⟨buffer.take 32, taken⟩ :: siblings, ?_⟩
      rw [pack_cons, ← packed, List.take_append_drop]

def pathRoot (chain : Chain) (leaf : Bytes32) (siblings : List Bytes32) : Bytes32 :=
  siblings.foldl (fun current sibling =>
    chain.sha256 (parentPreimage current.val sibling.val)) leaf

/-- The loop takes one sibling after the other and never runs out of the buffer. -/
theorem computeRoot_pack (chain : Chain) (before : Bytes) (current : Bytes32)
    (siblings : List Bytes32) :
    computeRoot chain (before ++ pack siblings) before.length current.val =
      .ok (pathRoot chain current siblings).val := by
  induction siblings generalizing before current with
  | nil =>
      rw [computeRoot, if_neg (by simp [pack])]
      rfl
  | cons sibling rest inductionHypothesis =>
      have slice : copySlice (before ++ pack (sibling :: rest)) before.length 32 =
          some sibling.val := by
        have enough : before.length + 32 ≤ (before ++ pack (sibling :: rest)).length := by
          rw [List.length_append, length_pack, List.length_cons]
          omega
        rw [copySlice, if_pos enough, List.drop_left, pack_cons,
          List.take_left' sibling.length_eq]
      have more : before.length < (before ++ pack (sibling :: rest)).length := by
        rw [List.length_append, length_pack, List.length_cons]
        omega
      rw [computeRoot, if_pos more, slice]
      have onwards := inductionHypothesis (before ++ sibling.val)
        (chain.sha256 (parentPreimage current.val sibling.val))
      rw [List.length_append, sibling.length_eq, List.append_assoc, ← pack_cons] at onwards
      exact onwards

/-- `verify_proof` on a packed proof of at most 32 siblings. -/
theorem verifyProof_pack (chain : Chain) {c : Core} (unpaused : c.isPaused = false)
    (leaf : Bytes32) {siblings : List Bytes32} (short : siblings.length ≤ 32) :
    verifyProof chain leaf.val (pack siblings) c =
      .ok (decide ((pathRoot chain leaf siblings).val = c.merkleRoot)) := by
  have computed := computeRoot_pack chain [] leaf siblings
  rw [List.nil_append, List.length_nil] at computed
  have whole : (pack siblings).length % 32 = 0 := by
    rw [length_pack, Nat.mul_mod_right]
  have bounded : (pack siblings).length ≤ 1024 := by
    rw [length_pack]
    omega
  simp only [verifyProof, Core.requireNotPaused, require, unpaused, leaf.length_eq, whole, bounded,
    computed, if_true]
  rfl

theorem accepted_root {chain : Chain} {c : Core} {leaf : Bytes32} {packedProof : Bytes}
    (accepted : verifyProof chain leaf.val packedProof c = .ok true) :
    ∃ siblings, packedProof = pack siblings ∧
      (pathRoot chain leaf siblings).val = c.merkleRoot := by
  have checks := accepted
  simp only [verifyProof, Outcome.bind_eq_ok, Core.requireNotPaused,
    Outcome.require_eq_ok] at checks
  obtain ⟨_, unpaused, _, _, _, whole, _, bounded, _⟩ := checks
  obtain ⟨siblings, rfl⟩ := exists_pack packedProof whole
  rw [length_pack] at bounded
  rw [verifyProof_pack chain unpaused leaf (by omega)] at accepted
  exact ⟨siblings, rfl, of_decide_eq_true (Except.ok.inj accepted)⟩

end XCron.Xsc
