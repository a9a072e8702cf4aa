import XCron.Common.Encoding
import XCron.Platform.Merkle
import XCron.Scheduler.Intents
import XCron.Xsc.Core

/-!
# What a packed proof proves

A proof that `verify_proof` accepts for the digest of a task starts at a leaf of
the published tree, or shows a collision. The byte in front of inner nodes is not
what keeps leaves and nodes apart: a task is encoded in more bytes than a node. The
scheduler's own verifier gives the same answers.
-/

namespace XCron.Xsc

open Platform

def nodeMessage (a b : Bytes32) : Bytes :=
  if lexLess b.val a.val then 1 :: (b.val ++ a.val) else 1 :: (a.val ++ b.val)

theorem length_nodeMessage (a b : Bytes32) : (nodeMessage a b).length = 65 := by
  unfold nodeMessage
  split <;> simp [a.length_eq, b.length_eq]

theorem nodeMessage_paired {first second left right : Bytes32}
    (same : nodeMessage first second = nodeMessage left right) : first = left ∨ first = right := by
  have lengths : ∀ a b : Bytes32, a.val.length = b.val.length := by
    intro a b
    rw [a.length_eq, b.length_eq]
  unfold nodeMessage at same
  split at same <;> split at same <;> simp only [List.cons.injEq, true_and] at same <;>
    obtain ⟨heads, tails⟩ := List.append_inj same (lengths _ _)
  · exact .inl (Bytes32.ext tails)
  · exact .inr (Bytes32.ext tails)
  · exact .inr (Bytes32.ext heads)
  · exact .inl (Bytes32.ext heads)

/-! ## The comparisons of the two verifiers -/

theorem compareBytes_le_zero_iff (first second : Bytes) :
    compareBytes first second ≤ 0 ↔ lexLess second first = false := by
  induction first generalizing second with
  | nil => cases second <;> simp [compareBytes, lexLess]
  | cons a first inductionHypothesis =>
      cases second with
      | nil => simp [compareBytes, lexLess]
      | cons b second =>
          simp only [compareBytes, lexLess]
          by_cases below : a < b
          · simp [below, UInt8.lt_asymm below]
          · by_cases above : b < a
            · simp [below, above]
            · simp only [below, above, if_false]
              exact inductionHypothesis second

theorem loadArray_eq (array : Bytes32) : loadArray array.val = array.val := by
  rw [loadArray, if_pos (Nat.le_of_eq array.length_eq.symm),
    List.take_of_length_le (Nat.le_of_eq array.length_eq)]

theorem parentPreimage_eq (a b : Bytes32) : parentPreimage a.val b.val = nodeMessage a b := by
  unfold parentPreimage bufCompare nodeMessage
  rw [loadArray_eq, loadArray_eq]
  cases less : lexLess b.val a.val with
  | true => rw [if_neg (by simp [compareBytes_le_zero_iff, less]), if_pos rfl]
  | false => rw [if_pos (by simp [compareBytes_le_zero_iff, less])]; rfl

theorem nodePreimage_eq (a b : Bytes32) : Scheduler.nodePreimage a b = nodeMessage a b := by
  unfold Scheduler.nodePreimage nodeMessage
  cases less : lexLess a.val b.val with
  | true => rw [lexLess_asymm less]; rfl
  | false =>
      cases greater : lexLess b.val a.val with
      | true => rfl
      | false =>
          have same : a.val = b.val :=
            eq_of_not_lexLess (a.length_eq.trans b.length_eq.symm) less greater
          simp only [Bool.false_eq_true, if_false, same]

theorem pathRoot_sha256 (chain : Chain) (message : Bytes) (siblings : List Bytes32) :
    pathRoot chain (chain.sha256 message) siblings =
      chain.sha256 (HashPath.topInput chain.sha256 nodeMessage message siblings) := by
  unfold pathRoot
  simp only [parentPreimage_eq]
  exact HashPath.foldl_eq chain.sha256 nodeMessage message siblings

theorem pathRoot_eq_scheduler (chain : Chain) (leaf root : Bytes32) (siblings : List Bytes32) :
    Scheduler.verifyMerkleProof chain leaf siblings root =
      decide (pathRoot chain leaf siblings = root) := by
  unfold Scheduler.verifyMerkleProof pathRoot
  simp only [parentPreimage_eq, nodePreimage_eq]

/-- Both verifiers accept the same proofs; and the loop over a packed proof whose
length has been checked always comes to its end. -/
theorem verifiers_agree (chain : Chain) (leaf root : Bytes32) (siblings : List Bytes32)
    (short : siblings.length ≤ 32) {c : Core} (unpaused : c.isPaused = false)
    (stored : c.merkleRoot = root.val) :
    verifyProof chain leaf.val (pack siblings) c =
        .ok (Scheduler.verifyMerkleProof chain leaf siblings root) ∧
      ∀ (c : Core) (leaf packedProof : Bytes), c.isPaused = false → leaf.length = 32 →
        packedProof.length % 32 = 0 → packedProof.length ≤ 1024 →
        ∃ computedHash, computeRoot chain packedProof 0 leaf = .ok computedHash ∧
          verifyProof chain leaf packedProof c =
            .ok (decide (computedHash = c.merkleRoot)) := by
  constructor
  · rw [verifyProof_pack chain unpaused leaf short, stored, pathRoot_eq_scheduler]
    congr 2
    exact propext ⟨Bytes32.ext, congrArg Bytes32.val⟩
  · intro c leaf packedProof unpaused length whole bounded
    obtain ⟨siblings, rfl⟩ := exists_pack packedProof whole
    rw [length_pack] at bounded
    have short : siblings.length ≤ 32 := by omega
    exact ⟨_, computeRoot_pack chain [] ⟨leaf, length⟩ siblings,
      verifyProof_pack chain unpaused ⟨leaf, length⟩ short⟩

namespace Sample

def core (root : Bytes32) : Core := { init (.fill 3) with merkleRoot := root.val }

end Sample

theorem verifiers_agree_sample :
    (Sample.core (.fill 7)).isPaused = false ∧
      verifyProof sampleChain (Bytes32.fill 1).val (pack [.fill 2, .fill 1]) (Sample.core (.fill 7)) =
        .ok (Scheduler.verifyMerkleProof sampleChain (.fill 1) [.fill 2, .fill 1] (.fill 7)) :=
  ⟨rfl, (verifiers_agree sampleChain (.fill 1) (.fill 7) [.fill 2, .fill 1] (by decide) rfl rfl).1⟩

/-! ## Soundness -/

theorem encode_ne_nodeMessage (task : Task) (a b : Bytes32) : task.encode ≠ nodeMessage a b := by
  intro same
  have long := task.length_encode_ge
  rw [same, length_nodeMessage] at long
  omega

/-- A proof accepted for the digest of a task against the root of a tree of tasks
starts at a leaf of that tree, or the messages hashed along the proof and those
hashed for the tree show a collision. -/
theorem compression_sound (chain : Chain) {c : Core} (tree : HashTree Task) (payload : Task)
    (packedProof : Bytes)
    (stored : c.merkleRoot = (tree.root chain.sha256 nodeMessage Task.encode).val)
    (accepted : verifyProof chain (chain.sha256 payload.encode).val packedProof c = .ok true) :
    chain.sha256 payload.encode ∈ tree.leafDigests chain.sha256 Task.encode ∨
      ∃ siblings, packedProof = pack siblings ∧
        ∃ x ∈ HashPath.inputs chain.sha256 nodeMessage payload.encode siblings,
          ∃ y ∈ tree.messages chain.sha256 nodeMessage Task.encode, Collide chain.sha256 x y := by
  obtain ⟨siblings, rfl, reached⟩ := accepted_root accepted
  rw [pathRoot_sha256, stored] at reached
  rcases tree.mem_leafDigests_or_collision chain.sha256 nodeMessage Task.encode
    encode_ne_nodeMessage (fun _ _ _ _ => nodeMessage_paired) payload siblings
    (Bytes32.ext reached) with member | collision
  · exact .inl member
  · exact .inr ⟨siblings, rfl, collision⟩

theorem pair_accepted (chain : Chain) (task sibling : Task) {c : Core}
    (unpaused : c.isPaused = false)
    (stored : c.merkleRoot = ((HashTree.node (.leaf task) (.leaf sibling)).root chain.sha256
      nodeMessage Task.encode).val) :
    verifyProof chain (chain.sha256 task.encode).val (pack [chain.sha256 sibling.encode]) c =
      .ok true := by
  have short : [chain.sha256 sibling.encode].length ≤ 32 := by simp
  rw [verifyProof_pack chain unpaused _ short, pathRoot_sha256, stored]
  exact congrArg Except.ok (decide_eq_true rfl)

namespace Sample

def task (id : UInt64) : Task :=
  { id := id
    owner := .fill 4
    targetContract := .fill 9
    targetEndpoint := [112, 105, 110, 103]
    targetArgs := []
    trigger := .timeOnce 1000
    maxGas := 10000000
    deposit := 700
    maxRetries := 0
    retryCount := 0
    ttlSeconds := 100
    createdAt := 900
    status := .pending
    assignedKeeper := none
    completedAt := 0
    postTaskId := none
    requireXwapSafe := false
    confidential := false }

def tree : HashTree Task := .node (.leaf (task 1)) (.leaf (task 2))

def root : Bytes32 := tree.root sampleChain.sha256 nodeMessage Task.encode

end Sample

theorem compression_sound_sample :
    verifyProof sampleChain (sampleChain.sha256 (Sample.task 1).encode).val
        (pack [sampleChain.sha256 (Sample.task 2).encode]) (Sample.core Sample.root) = .ok true ∧
      (sampleChain.sha256 (Sample.task 1).encode ∈
          Sample.tree.leafDigests sampleChain.sha256 Task.encode ∨
        ∃ siblings, pack [sampleChain.sha256 (Sample.task 2).encode] = pack siblings ∧
          ∃ x ∈ HashPath.inputs sampleChain.sha256 nodeMessage (Sample.task 1).encode siblings,
            ∃ y ∈ Sample.tree.messages sampleChain.sha256 nodeMessage Task.encode,
              Collide sampleChain.sha256 x y) := by
  have stored : (Sample.core Sample.root).merkleRoot = Sample.root.val := rfl
  have accepted := pair_accepted sampleChain (Sample.task 1) (Sample.task 2)
    (show (Sample.core Sample.root).isPaused = false from rfl) stored
  exact ⟨accepted, compression_sound sampleChain Sample.tree (Sample.task 1) _ stored accepted⟩

end XCron.Xsc
