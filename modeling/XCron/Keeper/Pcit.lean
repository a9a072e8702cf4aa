import XCron.Scheduler.Leaves

/-!
# The keeper's pre-cognitive trees

`xcron-keeper-rs/src/pcit.rs`, the off-chain half of pre-cognitive intents: it
encodes and hashes leaves and folds siblings into the root that an owner signs.
The contract hashes other messages: its leaf keeps only the minimal return, and
its inner nodes start with a marker byte.
-/

namespace XCron.Keeper

open Platform

variable {chain : Chain}

structure PcitLeaf where
  targetContract : Bytes32
  targetEndpoint : String
  targetArgs : List Bytes
  expectedTokenOut : String
  minReturn : Nat

namespace PcitLeaf

def topEncode (leaf : PcitLeaf) : Bytes :=
  let buf : Bytes := []
  let buf := buf ++ leaf.targetContract.val
  let buf := buf ++ leaf.targetEndpoint.toUTF8.toList
  let buf := leaf.targetArgs.foldl (fun buf arg => buf ++ beBytes 4 arg.length ++ arg) buf
  let buf := buf ++ leaf.expectedTokenOut.toUTF8.toList
  if 0 < leaf.minReturn then buf ++ natBytes leaf.minReturn else buf

def toHash (chain : Chain) (leaf : PcitLeaf) : Bytes32 := chain.sha256 leaf.topEncode

def parameters (leaf : PcitLeaf) : Scheduler.Leaf :=
  { targetContract := leaf.targetContract
    targetEndpoint := leaf.targetEndpoint.toUTF8.toList
    targetArgs := leaf.targetArgs
    expectedTokenOut := leaf.expectedTokenOut.toUTF8.toList
    minReturn := leaf.minReturn }

end PcitLeaf

/-- What `compute_chain_root` hashes for a node: the smaller digest first, ties
as they come. -/
def chainInput (current sibling : Bytes32) : Bytes :=
  if lexLess sibling.val current.val then sibling.val ++ current.val
  else current.val ++ sibling.val

def computeChainRoot (chain : Chain) (leafHash : Bytes32) (siblings : List Bytes32) : Bytes32 :=
  siblings.foldl (fun current sibling => chain.sha256 (chainInput current sibling)) leafHash

theorem length_chainInput (current sibling : Bytes32) : (chainInput current sibling).length = 64 := by
  unfold chainInput
  split <;> simp [current.length_eq, sibling.length_eq]

theorem length_le_foldl (args : List Bytes) (buf : Bytes) :
    buf.length ≤ (args.foldl (fun buf arg => buf ++ beBytes 4 arg.length ++ arg) buf).length := by
  induction args generalizing buf with
  | nil => exact Nat.le_refl _
  | cons arg rest inductionHypothesis =>
      have longer := inductionHypothesis (buf ++ beBytes 4 arg.length ++ arg)
      simp only [List.length_append] at longer
      exact Nat.le_trans (by omega) longer

theorem PcitLeaf.length_topEncode (leaf : PcitLeaf) :
    32 + (natBytes leaf.minReturn).length ≤ leaf.topEncode.length := by
  have buffer := length_le_foldl leaf.targetArgs
    ([] ++ leaf.targetContract.val ++ leaf.targetEndpoint.toUTF8.toList)
  simp only [List.nil_append, List.length_append, leaf.targetContract.length_eq] at buffer
  unfold topEncode
  by_cases positive : 0 < leaf.minReturn
  · simp only [positive, if_true, List.nil_append, List.length_append]
    omega
  · have zero : leaf.minReturn = 0 := by omega
    simp only [zero, Nat.lt_irrefl, if_false, List.nil_append, List.length_append]
    simp only [natBytes, Nat.digits_zero, List.map_nil, List.reverse_nil, List.length_nil]
    omega

theorem PcitLeaf.preimage_ne_topEncode (leaf : PcitLeaf) :
    leaf.parameters.preimage ≠ leaf.topEncode := by
  intro same
  have longer := leaf.length_topEncode
  rw [← same, leaf.parameters.preimage_eq] at longer
  simp only [PcitLeaf.parameters] at longer
  omega

def contractInput (chain : Chain) (leaf : PcitLeaf) (siblings : List Bytes32) : Bytes :=
  HashPath.topInput chain.sha256 Scheduler.nodePreimage leaf.parameters.preimage siblings

def keeperInput (chain : Chain) (leaf : PcitLeaf) (siblings : List Bytes32) : Bytes :=
  HashPath.topInput chain.sha256 chainInput leaf.topEncode siblings

/-- Contract and keeper never hash the same message last. -/
theorem contractInput_ne_keeperInput (leaf : PcitLeaf) (siblings : List Bytes32) :
    contractInput chain leaf siblings ≠ keeperInput chain leaf siblings := by
  cases siblings with
  | nil => exact leaf.preimage_ne_topEncode
  | cons sibling rest =>
      obtain ⟨current, last, onChain⟩ := HashPath.topInput_cons chain.sha256 Scheduler.nodePreimage
        leaf.parameters.preimage sibling rest
      obtain ⟨current', last', offChain⟩ := HashPath.topInput_cons chain.sha256 chainInput
        leaf.topEncode sibling rest
      intro same
      have lengths := congrArg List.length same
      rw [contractInput, keeperInput, onChain, offChain, Scheduler.length_nodePreimage,
        length_chainInput] at lengths
      omega

/-- The contract recomputes the keeper's leaf hash and accepts the keeper's root
exactly if the hash collides on both pairs of messages. -/
theorem keeper_agrees_iff_collision (chain : Chain) (leaf : PcitLeaf) (siblings : List Bytes32) :
    (chain.sha256 leaf.parameters.preimage = leaf.toHash chain ∧
        Scheduler.verifyMerkleProof chain (chain.sha256 leaf.parameters.preimage) siblings
          (computeChainRoot chain (leaf.toHash chain) siblings) = true) ↔
      Collide chain.sha256 leaf.parameters.preimage leaf.topEncode ∧
        Collide chain.sha256 (contractInput chain leaf siblings)
          (keeperInput chain leaf siblings) := by
  have root : computeChainRoot chain (leaf.toHash chain) siblings =
      chain.sha256 (keeperInput chain leaf siblings) :=
    HashPath.foldl_eq chain.sha256 chainInput leaf.topEncode siblings
  rw [root, Scheduler.verifyMerkleProof_iff]
  constructor
  · rintro ⟨leaves, roots⟩
    exact ⟨⟨leaf.preimage_ne_topEncode, leaves⟩, contractInput_ne_keeperInput leaf siblings, roots⟩
  · rintro ⟨⟨_, leaves⟩, _, roots⟩
    exact ⟨leaves, roots⟩

namespace Sample

def leaf : PcitLeaf :=
  { targetContract := .fill 9
    targetEndpoint := "swap"
    targetArgs := [[1, 2]]
    expectedTokenOut := "WEGLD-bd4d79"
    minReturn := 5 }

def siblings : List Bytes32 := [.fill 3]

end Sample

/-- An honest leaf under its own root is refused. -/
theorem keeper_root_refused :
    Scheduler.verifyMerkleProof sampleChain
      (sampleChain.sha256 Sample.leaf.parameters.preimage) Sample.siblings
      (computeChainRoot sampleChain (Sample.leaf.toHash sampleChain) Sample.siblings) =
        false := by
  decide +kernel

end XCron.Keeper
