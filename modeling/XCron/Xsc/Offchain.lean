import XCron.Xsc.Soundness

/-!
# The off-chain tree

`xsc-offchain/keeper.js` builds its tree with the `merkletreejs` library, which
joins two nodes without the byte that the contract puts in front of them. The
library itself is a parameter here: what is assumed of it is its layers, its root
and its proofs.
-/

namespace XCron.Xsc

open Platform

def pairMessage (a b : Bytes32) : Bytes :=
  if lexLess b.val a.val then b.val ++ a.val else a.val ++ b.val

def parents (hash : Bytes → Bytes32) : List Bytes32 → List Bytes32
  | a :: b :: rest => hash (pairMessage a b) :: parents hash rest
  | layer => layer

def pairMessages : List Bytes32 → List Bytes
  | a :: b :: rest => pairMessage a b :: pairMessages rest
  | _ => []

/-- The other node of a pair. -/
def siblingIndex (index : Nat) : Nat := if index % 2 = 1 then index - 1 else index + 1

def siblingsOf : List (List Bytes32) → Nat → List Bytes32
  | [], _ => []
  | layer :: upper, index => layer[siblingIndex index]?.toList ++ siblingsOf upper (index / 2)

/-- What is assumed of `merkletreejs` with `sortPairs`. -/
structure MerkleTree (hash : Bytes → Bytes32) where
  getLayers : List Bytes32 → List (List Bytes32)
  getRoot : List Bytes32 → Bytes32
  getProof : List Bytes32 → Bytes32 → List Bytes32
  layers_single : ∀ leaf, getLayers [leaf] = [[leaf]]
  layers_parents : ∀ leaves, 1 < leaves.length →
    getLayers leaves = leaves :: getLayers (parents hash leaves)
  root_last : ∀ leaves root, (getLayers leaves).getLast? = some [root] → getRoot leaves = root
  proof_siblings : ∀ leaves index leaf, leaves.Nodup → leaves[index]? = some leaf →
    getProof leaves leaf = siblingsOf (getLayers leaves) index

theorem length_pairMessage (a b : Bytes32) : (pairMessage a b).length = 64 := by
  unfold pairMessage
  split <;> simp [a.length_eq, b.length_eq]

theorem pairMessage_ne_nodeMessage (a b c d : Bytes32) : nodeMessage a b ≠ pairMessage c d := by
  intro same
  have lengths := congrArg List.length same
  rw [length_nodeMessage, length_pairMessage] at lengths
  omega

theorem length_parents (hash : Bytes → Bytes32) (layer : List Bytes32) :
    (parents hash layer).length = (layer.length + 1) / 2 := by
  induction layer using parents.induct with
  | case1 a b rest inductionHypothesis =>
      rw [parents, List.length_cons, inductionHypothesis]
      simp only [List.length_cons]
      omega
  | case2 layer notPair =>
      match layer, notPair with
      | [], _ => rfl
      | [_], _ => simp [parents]
      | a :: b :: rest, notPair => exact absurd rfl (notPair a b rest)

namespace MerkleTree

variable {hash : Bytes → Bytes32} (library : MerkleTree hash)

def messages (leaves : List Bytes32) : List Bytes :=
  (library.getLayers leaves).flatMap pairMessages

theorem root_of_many (leaves : List Bytes32) (many : 1 < leaves.length) :
    ∃ a b, (library.getLayers leaves).getLast? = some [hash (pairMessage a b)] ∧
      pairMessage a b ∈ library.messages leaves := by
  induction size : leaves.length using Nat.strongRecOn generalizing leaves with
  | ind size inductionHypothesis =>
      have shorter := length_parents hash leaves
      rw [messages, library.layers_parents leaves many]
      by_cases last : leaves.length = 2
      · obtain ⟨a, b, rfl⟩ := List.length_eq_two.mp last
        refine ⟨a, b, ?_, ?_⟩
        · simp [parents, library.layers_single]
        · simp [pairMessages]
      · obtain ⟨a, b, top, hashed⟩ := inductionHypothesis _ (by omega) (parents hash leaves)
          (by omega) rfl
        refine ⟨a, b, ?_, ?_⟩
        · rw [List.getLast?_cons, top]
          rfl
        · rw [List.flatMap_cons]
          exact List.mem_append_right _ hashed

theorem siblings_of_many (leaves : List Bytes32) (many : 1 < leaves.length) (index : Nat)
    (inside : index < leaves.length) : siblingsOf (library.getLayers leaves) index ≠ [] := by
  induction size : leaves.length using Nat.strongRecOn generalizing leaves index with
  | ind size inductionHypothesis =>
      have shorter := length_parents hash leaves
      rw [library.layers_parents leaves many, siblingsOf]
      by_cases paired : siblingIndex index < leaves.length
      · rw [List.getElem?_eq_getElem paired]
        simp
      · have odd : index + 1 = leaves.length ∧ leaves.length % 2 = 1 := by
          unfold siblingIndex at paired
          split at paired <;> omega
        have onwards := inductionHypothesis _ (by omega) (parents hash leaves) (by omega)
          (index / 2) (by omega) rfl
        intro nothing
        exact onwards (List.append_eq_nil_iff.mp nothing).2

theorem getRoot_single (leaf : Bytes32) : library.getRoot [leaf] = leaf := by
  apply library.root_last
  rw [library.layers_single]
  rfl

theorem getProof_single (leaf : Bytes32) : library.getProof [leaf] leaf = [] := by
  rw [library.proof_siblings [leaf] 0 leaf (List.nodup_singleton leaf) rfl, library.layers_single]
  rfl

theorem layers_pair (a b : Bytes32) :
    library.getLayers [a, b] = [[a, b], [hash (pairMessage a b)]] := by
  rw [library.layers_parents [a, b] (Nat.lt_succ_self 1)]
  simp [parents, library.layers_single]

theorem getRoot_pair (a b : Bytes32) : library.getRoot [a, b] = hash (pairMessage a b) := by
  apply library.root_last
  rw [library.layers_pair]
  rfl

theorem getProof_pair {a b : Bytes32} (different : a ≠ b) : library.getProof [a, b] a = [b] := by
  rw [library.proof_siblings [a, b] 0 a (by simpa using different) rfl, library.layers_pair]
  rfl

end MerkleTree

/-! ## The keeper's proofs on chain -/

section Published

variable {chain : Chain} (library : MerkleTree chain.sha256) {records : List Bytes}
  {record : Bytes}

theorem updateRoot_stores {c next : Core} {call : CallContext} {newRoot : Bytes}
    (updated : step chain c (.updateRoot call newRoot) = .ok next) :
    next.isPaused = false ∧ next.merkleRoot = newRoot := by
  simp only [step, Core.updateRoot, Core.requireNotPaused, Outcome.bind_eq_ok,
    Outcome.require_eq_ok, Outcome.pure_eq_ok] at updated
  obtain ⟨_, _, _, unpaused, _, _, _, _, rfl⟩ := updated
  exact ⟨unpaused, rfl⟩

/-- With more than one record, the contract compares the digest of a marked node
with the digest of a plain pair. -/
theorem collision_of_accepted (distinct : (records.map chain.sha256).Nodup)
    (member : record ∈ records) (many : 1 < records.length)
    (reached : pathRoot chain (chain.sha256 record)
        (library.getProof (records.map chain.sha256) (chain.sha256 record)) =
      library.getRoot (records.map chain.sha256)) :
    ∃ x ∈ HashPath.inputs chain.sha256 nodeMessage record
        (library.getProof (records.map chain.sha256) (chain.sha256 record)),
      ∃ y ∈ library.messages (records.map chain.sha256), Collide chain.sha256 x y := by
  have many' : 1 < (records.map chain.sha256).length := by rwa [List.length_map]
  obtain ⟨index, inside, found⟩ := List.getElem_of_mem (List.mem_map_of_mem member)
  have proof := library.proof_siblings _ index _ distinct
    (List.getElem?_eq_some_iff.mpr ⟨inside, found⟩)
  obtain ⟨a, b, top, hashed⟩ := library.root_of_many _ many'
  rw [library.root_last _ _ top, pathRoot_sha256] at reached
  refine ⟨_, HashPath.topInput_mem_inputs _ _ _ _, _, hashed, ?_, reached⟩
  cases path : library.getProof (records.map chain.sha256) (chain.sha256 record) with
  | nil => exact absurd (proof.symm.trans path) (library.siblings_of_many _ many' index inside)
  | cons sibling rest =>
      obtain ⟨current, last, node⟩ :=
        HashPath.topInput_cons chain.sha256 nodeMessage record sibling rest
      rw [node]
      exact pairMessage_ne_nodeMessage current last a b

/-- A record's proof from the off-chain keeper is accepted on chain exactly if there
is but one record, short of a collision between a message hashed on chain and one
hashed by the keeper. -/
theorem offchain_proof_accepted {c next : Core} {call : CallContext}
    (distinct : (records.map chain.sha256).Nodup) (member : record ∈ records)
    (published : step chain c
      (.updateRoot call (library.getRoot (records.map chain.sha256)).val) = .ok next)
    (short : (library.getProof (records.map chain.sha256) (chain.sha256 record)).length ≤ 32) :
    (verifyProof chain (chain.sha256 record).val
          (pack (library.getProof (records.map chain.sha256) (chain.sha256 record))) next =
        .ok true ↔ records.length = 1) ∨
      ∃ x ∈ HashPath.inputs chain.sha256 nodeMessage record
          (library.getProof (records.map chain.sha256) (chain.sha256 record)),
        ∃ y ∈ library.messages (records.map chain.sha256), Collide chain.sha256 x y := by
  obtain ⟨unpaused, stored⟩ := updateRoot_stores published
  rw [verifyProof_pack chain unpaused _ short, stored]
  by_cases single : records.length = 1
  · left
    obtain ⟨only, rfl⟩ := List.length_eq_one_iff.mp single
    obtain rfl := List.mem_singleton.mp member
    rw [List.map_singleton, library.getProof_single, library.getRoot_single]
    exact iff_of_true (congrArg Except.ok (decide_eq_true rfl)) rfl
  · have many : 1 < records.length := by
      have := List.length_pos_of_mem member
      omega
    by_cases reached : pathRoot chain (chain.sha256 record)
        (library.getProof (records.map chain.sha256) (chain.sha256 record)) =
        library.getRoot (records.map chain.sha256)
    · exact .inr (collision_of_accepted library distinct member many reached)
    · left
      refine iff_of_false ?_ single
      intro accepted
      exact reached (Bytes32.ext (of_decide_eq_true (Except.ok.inj accepted)))

end Published

/-! ## A library that meets the assumptions -/

def layersOf (hash : Bytes → Bytes32) (leaves : List Bytes32) : List (List Bytes32) :=
  if 1 < leaves.length then leaves :: layersOf hash (parents hash leaves) else [leaves]
termination_by leaves.length
decreasing_by
  rw [length_parents]
  omega

def sortedTree (hash : Bytes → Bytes32) : MerkleTree hash where
  getLayers := layersOf hash
  getRoot leaves := ((layersOf hash leaves).getLast?.getD []).headD Bytes32.zero
  getProof leaves leaf := siblingsOf (layersOf hash leaves) (leaves.idxOf leaf)
  layers_single leaf := by
    rw [layersOf, if_neg (by simp)]
  layers_parents leaves many := by
    rw [layersOf, if_pos many]
  root_last leaves root last := by
    rw [last]
    rfl
  proof_siblings leaves index leaf distinct found := by
    obtain ⟨inside, rfl⟩ := List.getElem?_eq_some_iff.mp found
    rw [distinct.idxOf_getElem index inside]

/-- Two records: the contract hashes a marked node, the keeper a plain pair. -/
theorem verifyProof_of_pair {chain : Chain} (library : MerkleTree chain.sha256)
    {record other : Bytes} (different : chain.sha256 record ≠ chain.sha256 other) {next : Core}
    (unpaused : next.isPaused = false)
    (stored : next.merkleRoot =
      (library.getRoot [chain.sha256 record, chain.sha256 other]).val) :
    verifyProof chain (chain.sha256 record).val
        (pack (library.getProof [chain.sha256 record, chain.sha256 other] (chain.sha256 record)))
        next =
      .ok (decide ((chain.sha256 (nodeMessage (chain.sha256 record) (chain.sha256 other))).val =
        (chain.sha256 (pairMessage (chain.sha256 record) (chain.sha256 other))).val)) := by
  have short : [chain.sha256 other].length ≤ 32 := by simp
  rw [library.getProof_pair different, verifyProof_pack chain unpaused _ short, stored,
    library.getRoot_pair, pathRoot_sha256]
  rfl

namespace Sample

def keeperCall : CallContext :=
  { caller := .fill 3
    egldValue := 0
    esdtTransfers := []
    blockTimestamp := 1000
    blockRound := 1
    blockRandomSeed := []
    gasLeft := 0 }

def records : List Bytes := [[82, 48], [82, 49]]

def published (root : Bytes32) : Core :=
  { core root with rootNonce := 1, events := [.rootUpdated root.val 1] }

theorem updateRoot_published (root : Bytes32) :
    step sampleChain (init (.fill 3)) (.updateRoot keeperCall root.val) = .ok (published root) := by
  simp [step, Core.updateRoot, Core.requireNotPaused, CallContext.notPayable, require, ensure, init,
    keeperCall, root.length_eq, published, core, Bind.bind, Except.bind, pure, Except.pure]

end Sample

theorem offchain_proof_accepted_sample :
    step sampleChain (init (.fill 3)) (.updateRoot Sample.keeperCall
        ((sortedTree sampleChain.sha256).getRoot ([[82]].map sampleChain.sha256)).val) =
        .ok (Sample.published
          ((sortedTree sampleChain.sha256).getRoot ([[82]].map sampleChain.sha256))) ∧
      ((verifyProof sampleChain (sampleChain.sha256 [82]).val
            (pack ((sortedTree sampleChain.sha256).getProof ([[82]].map sampleChain.sha256)
              (sampleChain.sha256 [82])))
            (Sample.published
              ((sortedTree sampleChain.sha256).getRoot ([[82]].map sampleChain.sha256))) =
          .ok true ↔ ([[82]] : List Bytes).length = 1) ∨
        ∃ x ∈ HashPath.inputs sampleChain.sha256 nodeMessage [82]
            ((sortedTree sampleChain.sha256).getProof ([[82]].map sampleChain.sha256)
              (sampleChain.sha256 [82])),
          ∃ y ∈ (sortedTree sampleChain.sha256).messages ([[82]].map sampleChain.sha256),
            Collide sampleChain.sha256 x y) := by
  have short : ((sortedTree sampleChain.sha256).getProof ([[82]].map sampleChain.sha256)
      (sampleChain.sha256 [82])).length ≤ 32 := by
    rw [List.map_singleton, MerkleTree.getProof_single]
    exact Nat.zero_le 32
  exact ⟨Sample.updateRoot_published _, offchain_proof_accepted _ (List.nodup_singleton _)
    (List.mem_singleton.mpr rfl) (Sample.updateRoot_published _) short⟩

/-- The proof of the first of two records is refused against the keeper's own root. -/
theorem offchain_proof_rejected :
    (Sample.records.map sampleChain.sha256).Nodup ∧ [82, 48] ∈ Sample.records ∧
      ∃ next, step sampleChain (init (.fill 3)) (.updateRoot Sample.keeperCall
          ((sortedTree sampleChain.sha256).getRoot (Sample.records.map sampleChain.sha256)).val) =
          .ok next ∧
        ((sortedTree sampleChain.sha256).getProof (Sample.records.map sampleChain.sha256)
          (sampleChain.sha256 [82, 48])).length ≤ 32 ∧
        verifyProof sampleChain (sampleChain.sha256 [82, 48]).val
          (pack ((sortedTree sampleChain.sha256).getProof (Sample.records.map sampleChain.sha256)
            (sampleChain.sha256 [82, 48]))) next = .ok false := by
  have different : sampleChain.sha256 [82, 48] ≠ sampleChain.sha256 [82, 49] := by decide +kernel
  have apart : (sampleChain.sha256 (nodeMessage (sampleChain.sha256 [82, 48])
      (sampleChain.sha256 [82, 49]))).val ≠ (sampleChain.sha256 (pairMessage
      (sampleChain.sha256 [82, 48]) (sampleChain.sha256 [82, 49]))).val := by decide +kernel
  refine ⟨by simpa [Sample.records] using different, by simp [Sample.records], _,
    Sample.updateRoot_published _, ?_, ?_⟩
  · change (MerkleTree.getProof _ [_, _] _).length ≤ 32
    rw [MerkleTree.getProof_pair _ different]
    exact Nat.le_add_left 1 31
  · exact (verifyProof_of_pair (sortedTree sampleChain.sha256) different rfl rfl).trans
      (congrArg Except.ok (decide_eq_false apart))

end XCron.Xsc
