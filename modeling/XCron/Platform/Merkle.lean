import Mathlib.Data.List.Induction
import Mathlib.Tactic.Basic

/-!
# Hash paths

A Merkle proof is checked by hashing upwards: the digest of a message is joined
with a sibling to the next message, until the root is reached. Two messages that
reach the same root by the same siblings show a collision on the way, provided
that joining forgets nothing; and so does a path that reaches the root of a tree
without starting at one of its leaves.
-/

namespace Platform

variable {Message Digest : Type}

/-- Two different messages with one digest. -/
def Collide (hash : Message → Digest) (first second : Message) : Prop :=
  first ≠ second ∧ hash first = hash second

namespace HashPath

variable (hash : Message → Digest) (join : Digest → Digest → Message)

/-- The messages hashed on the way up, the first one at the leaf. -/
def inputs (message : Message) : List Digest → List Message
  | [] => [message]
  | sibling :: rest => message :: inputs (join (hash message) sibling) rest

/-- The last message hashed, whose digest is the root. -/
def topInput (message : Message) : List Digest → Message
  | [] => message
  | sibling :: rest => topInput (join (hash message) sibling) rest

/-- A loop over the siblings that carries the current digest ends in the digest
of the top message. -/
theorem foldl_eq (message : Message) (siblings : List Digest) :
    siblings.foldl (fun current sibling => hash (join current sibling)) (hash message) =
      hash (topInput hash join message siblings) := by
  induction siblings generalizing message with
  | nil => rfl
  | cons sibling rest inductionHypothesis => exact inductionHypothesis (join (hash message) sibling)

theorem topInput_cons (message : Message) (sibling : Digest) (rest : List Digest) :
    ∃ current last, topInput hash join message (sibling :: rest) = join current last := by
  induction rest generalizing message sibling with
  | nil => exact ⟨hash message, sibling, rfl⟩
  | cons next rest inductionHypothesis =>
      exact inductionHypothesis (join (hash message) sibling) next

/-- Equal roots of different messages exhibit a collision on the two paths. -/
theorem exists_collision
    (injective : ∀ first second sibling, join first sibling = join second sibling →
      first = second)
    {first second : Message} (different : first ≠ second) {siblings : List Digest}
    (same : hash (topInput hash join first siblings) =
      hash (topInput hash join second siblings)) :
    ∃ x ∈ inputs hash join first siblings, ∃ y ∈ inputs hash join second siblings,
      Collide hash x y := by
  induction siblings generalizing first second with
  | nil => exact ⟨first, by simp [inputs], second, by simp [inputs], different, same⟩
  | cons sibling rest inductionHypothesis =>
      by_cases digests : hash first = hash second
      · exact ⟨first, by simp [inputs], second, by simp [inputs], different, digests⟩
      · have joined : join (hash first) sibling ≠ join (hash second) sibling := by
          intro equal
          exact digests (injective _ _ sibling equal)
        rcases inductionHypothesis joined same with ⟨x, onFirst, y, onSecond, collision⟩
        exact ⟨x, List.mem_cons_of_mem _ onFirst, y, List.mem_cons_of_mem _ onSecond, collision⟩

theorem topInput_concat (message : Message) (siblings : List Digest) (sibling : Digest) :
    topInput hash join message (siblings ++ [sibling]) =
      join (hash (topInput hash join message siblings)) sibling := by
  induction siblings generalizing message with
  | nil => rfl
  | cons next rest inductionHypothesis => exact inductionHypothesis (join (hash message) next)

theorem inputs_concat (message : Message) (siblings : List Digest) (sibling : Digest) :
    inputs hash join message (siblings ++ [sibling]) =
      inputs hash join message siblings ++
        [join (hash (topInput hash join message siblings)) sibling] := by
  induction siblings generalizing message with
  | nil => rfl
  | cons next rest inductionHypothesis =>
      exact congrArg (message :: ·) (inductionHypothesis (join (hash message) next))

theorem topInput_mem_inputs (message : Message) (siblings : List Digest) :
    topInput hash join message siblings ∈ inputs hash join message siblings := by
  induction siblings generalizing message with
  | nil => exact List.mem_singleton.mpr rfl
  | cons next rest inductionHypothesis =>
      exact List.mem_cons_of_mem _ (inductionHypothesis (join (hash message) next))

end HashPath

/-- A binary tree of any shape. -/
inductive HashTree (Leaf : Type) where
  | leaf (value : Leaf)
  | node (left right : HashTree Leaf)

namespace HashTree

variable {Leaf : Type} (hash : Message → Digest) (join : Digest → Digest → Message)
  (encode : Leaf → Message)

/-- The last message hashed when a tree is built. -/
def topMessage : HashTree Leaf → Message
  | .leaf value => encode value
  | .node left right => join (hash (topMessage left)) (hash (topMessage right))

def root (tree : HashTree Leaf) : Digest := hash (tree.topMessage hash join encode)

def messages : HashTree Leaf → List Message
  | .leaf value => [encode value]
  | .node left right =>
      join (root hash join encode left) (root hash join encode right) ::
        (messages left ++ messages right)

def leafDigests : HashTree Leaf → List Digest
  | .leaf value => [hash (encode value)]
  | .node left right => leafDigests left ++ leafDigests right

theorem topMessage_mem_messages (tree : HashTree Leaf) :
    tree.topMessage hash join encode ∈ tree.messages hash join encode := by
  cases tree with
  | leaf value => exact List.mem_singleton.mpr rfl
  | node left right => exact List.mem_cons_self

/-- A path from the encoding of a leaf to the root of a tree starts at a leaf of the
tree, or a collision shows between the path and the tree. Leaves must not be
mistaken for joins, and a join must show one of its two parts. -/
theorem mem_leafDigests_or_collision
    (separated : ∀ value first second, encode value ≠ join first second)
    (paired : ∀ first second left right, join first second = join left right →
      first = left ∨ first = right)
    (tree : HashTree Leaf) (value : Leaf) (siblings : List Digest)
    (same : hash (HashPath.topInput hash join (encode value) siblings) =
      tree.root hash join encode) :
    hash (encode value) ∈ tree.leafDigests hash encode ∨
      ∃ x ∈ HashPath.inputs hash join (encode value) siblings,
        ∃ y ∈ tree.messages hash join encode, Collide hash x y := by
  induction siblings using List.reverseRecOn generalizing tree with
  | nil =>
      cases tree with
      | leaf other =>
          left
          rw [leafDigests, List.mem_singleton]
          exact same
      | node left right =>
          right
          exact ⟨_, HashPath.topInput_mem_inputs hash join _ [], _,
            topMessage_mem_messages hash join encode _, separated value _ _, same⟩
  | append_singleton siblings sibling inductionHypothesis =>
      rw [HashPath.topInput_concat] at same
      have reached : join (hash (HashPath.topInput hash join (encode value) siblings)) sibling ∈
          HashPath.inputs hash join (encode value) (siblings ++ [sibling]) := by
        rw [HashPath.inputs_concat]
        exact List.mem_append_right _ (List.mem_singleton.mpr rfl)
      have below : ∀ x ∈ HashPath.inputs hash join (encode value) siblings,
          x ∈ HashPath.inputs hash join (encode value) (siblings ++ [sibling]) := by
        intro x member
        rw [HashPath.inputs_concat]
        exact List.mem_append_left _ member
      cases tree with
      | leaf other =>
          right
          exact ⟨_, reached, _, topMessage_mem_messages hash join encode _,
            Ne.symm (separated other _ _), same⟩
      | node left right =>
          by_cases joined : join (hash (HashPath.topInput hash join (encode value) siblings))
              sibling = join (root hash join encode left) (root hash join encode right)
          · rcases paired _ _ _ _ joined with onLeft | onRight
            · rcases inductionHypothesis left onLeft with member | ⟨x, inPath, y, inTree, collision⟩
              · exact .inl (List.mem_append_left _ member)
              · exact .inr ⟨x, below x inPath, y,
                  List.mem_cons_of_mem _ (List.mem_append_left _ inTree), collision⟩
            · rcases inductionHypothesis right onRight with
                member | ⟨x, inPath, y, inTree, collision⟩
              · exact .inl (List.mem_append_right _ member)
              · exact .inr ⟨x, below x inPath, y,
                  List.mem_cons_of_mem _ (List.mem_append_right _ inTree), collision⟩
          · exact .inr ⟨_, reached, _, topMessage_mem_messages hash join encode _, joined, same⟩

end HashTree

end Platform
