import XCron.Platform.Merkle
import XCron.Scheduler.Intents

/-!
# What a pre-cognitive leaf commits to

The owner of a pre-cognitive intent approves leaves through a Merkle root. The
buffer that `execute_pre_cognitive_leaf` hashes for a leaf is overwritten by
every `top_encode`, so only the last component, the minimal return, is left in
it.
-/

namespace XCron.Scheduler

open Platform

theorem Leaf.preimage_eq (leaf : Leaf) : leaf.preimage = natBytes leaf.minReturn := rfl

theorem Leaf.preimage_eq_iff (first second : Leaf) :
    first.preimage = second.preimage ↔ first.minReturn = second.minReturn := by
  rw [first.preimage_eq, second.preimage_eq]
  constructor
  · exact natBytes_injective
  · intro same
    rw [same]

theorem length_nodePreimage (current sibling : Bytes32) :
    (nodePreimage current sibling).length = 65 := by
  unfold nodePreimage
  split <;> simp [current.length_eq, sibling.length_eq]

theorem nodePreimage_injective {first second sibling : Bytes32}
    (same : nodePreimage first sibling = nodePreimage second sibling) : first = second := by
  have lengths : first.val.length = sibling.val.length := by
    rw [first.length_eq, sibling.length_eq]
  have lengths' : second.val.length = sibling.val.length := by
    rw [second.length_eq, sibling.length_eq]
  apply Bytes32.ext
  unfold nodePreimage at same
  split at same <;> split at same <;> simp only [List.cons.injEq, true_and] at same
  · exact (List.append_inj same (lengths.trans lengths'.symm)).1
  · obtain ⟨left, right⟩ := List.append_inj same lengths
    exact left.trans right
  · obtain ⟨left, right⟩ := List.append_inj same lengths'.symm
    exact right.trans left
  · exact (List.append_inj same rfl).2

def leafInputs (chain : Chain) (leaf : Leaf) (merkleProof : List Bytes32) : List Bytes :=
  HashPath.inputs chain.sha256 nodePreimage leaf.preimage merkleProof

theorem verifyMerkleProof_iff (chain : Chain) (message : Bytes) (merkleProof : List Bytes32)
    (root : Bytes32) :
    verifyMerkleProof chain (chain.sha256 message) merkleProof root = true ↔
      chain.sha256 (HashPath.topInput chain.sha256 nodePreimage message merkleProof) = root := by
  unfold verifyMerkleProof
  rw [decide_eq_true_eq, HashPath.foldl_eq]

/-- Two leaves are committed to separately exactly if they are the same or differ
in their minimal return: then their preimages differ, and a proof accepted for
both exhibits a collision. -/
theorem leaf_commitment (chain : Chain) (first second : Leaf) :
    (first ≠ second → first.preimage ≠ second.preimage ∧
        ∀ (root : Bytes32) (merkleProof : List Bytes32),
          verifyMerkleProof chain (chain.sha256 first.preimage) merkleProof root = true →
          verifyMerkleProof chain (chain.sha256 second.preimage) merkleProof root = true →
          ∃ x ∈ leafInputs chain first merkleProof, ∃ y ∈ leafInputs chain second merkleProof,
            Collide chain.sha256 x y) ↔
      first = second ∨ first.minReturn ≠ second.minReturn := by
  constructor
  · intro committed
    by_cases same : first = second
    · exact .inl same
    · right
      intro returns
      exact (committed same).1 ((first.preimage_eq_iff second).mpr returns)
  · intro apart different
    have returns : first.minReturn ≠ second.minReturn := apart.resolve_left different
    have preimages : first.preimage ≠ second.preimage := by
      intro equal
      exact returns ((first.preimage_eq_iff second).mp equal)
    refine ⟨preimages, ?_⟩
    intro root merkleProof accepted accepted'
    rw [verifyMerkleProof_iff] at accepted accepted'
    exact HashPath.exists_collision chain.sha256 nodePreimage
      (fun _ _ _ => nodePreimage_injective) preimages (accepted.trans accepted'.symm)

namespace Sample

def approvedLeaf : Leaf :=
  { targetContract := .fill 9
    targetEndpoint := [115]
    targetArgs := [[1]]
    expectedTokenOut := [70]
    minReturn := 5 }

def substitutedLeaf : Leaf :=
  { approvedLeaf with
    targetContract := .fill 8
    expectedTokenOut := [71] }

end Sample

/-- The check cannot tell an approved leaf from one with another token. -/
theorem leaf_substituted :
    Sample.approvedLeaf ≠ Sample.substitutedLeaf ∧
      Sample.approvedLeaf.preimage = Sample.substitutedLeaf.preimage := by
  decide +kernel

end XCron.Scheduler
