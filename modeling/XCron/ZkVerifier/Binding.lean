import XCron.Platform.Merkle
import XCron.Platform.Numerals
import XCron.ZkVerifier.Contract

/-!
# What a commitment binds to

The message of a commitment is a number of fixed width, a numeral of any width and a salt
of any length, one after the other: digits of the numeral can be told as the beginning of
the salt, and the other way round.
-/

namespace XCron.ZkVerifier

open Platform

variable {chain : Chain} {commitment : Bytes32} {proof proof' : ProofData} {salt salt' : Bytes}

/-! ## Openings -/

/-- In some run of some verifier a commitment is opened for a proof with a salt. -/
inductive Accepted (chain : Chain) (commitment : Bytes32) (proof : ProofData) (salt : Bytes) :
    Prop where
  | intro {start s next : State} {steps : List Step} {taskId : UInt64} (deployed : Deployed start)
      (trace : Trace (step chain) (fun _ _ => True) start steps s)
      (found : s.proofs.get? taskId = some proof) (commits : proof.commitment = commitment)
      (verified : verifyProof chain taskId salt s = .ok next) :
      Accepted chain commitment proof salt

/-- Two openings are for one value with one salt, or else their messages collide. -/
def Bound (chain : Chain) (proof : ProofData) (salt : Bytes) (proof' : ProofData)
    (salt' : Bytes) : Prop :=
  (proof.blockNonce = proof'.blockNonce ∧ proof.claimedValue = proof'.claimedValue ∧
      salt = salt') ∨
    Collide chain.sha256 (proof.message salt) (proof'.message salt')

/-- The second opening is for the same block, and has digits at the end of its value that
the first one has at the beginning of its salt. -/
def Shifted (proof : ProofData) (salt : Bytes) (proof' : ProofData) (salt' : Bytes) : Prop :=
  proof.blockNonce = proof'.blockNonce ∧ ∃ digits, digits ≠ [] ∧
    natBytes proof'.claimedValue = natBytes proof.claimedValue ++ digits ∧ salt = digits ++ salt'

theorem Accepted.opened (accepted : Accepted chain commitment proof salt) :
    chain.sha256 (proof.message salt) = commitment := by
  obtain ⟨_, _, found, commits, verified⟩ := accepted
  simp only [verifyProof, found, Outcome.bind_eq_ok, Outcome.require_eq_ok, Outcome.load_eq_ok,
    Option.some.injEq] at verified
  obtain ⟨_, _, _, rfl, _, _, _, opened, _⟩ := verified
  rw [opened, commits]

theorem message_inj :
    proof.message salt = proof'.message salt' ↔
      proof.blockNonce = proof'.blockNonce ∧
        natBytes proof.claimedValue ++ salt = natBytes proof'.claimedValue ++ salt' := by
  unfold ProofData.message
  rw [List.append_assoc, List.append_assoc]
  constructor
  · intro same
    obtain ⟨nonces, tails⟩ :=
      unambiguous_u64 proof.blockNonce proof'.blockNonce trivial trivial _ _ same
    exact ⟨nonces, tails⟩
  · rintro ⟨nonces, tails⟩
    rw [nonces, tails]

theorem Shifted.message_eq (shifted : Shifted proof salt proof' salt') :
    proof.message salt = proof'.message salt' := by
  obtain ⟨nonces, digits, _, values, salts⟩ := shifted
  rw [message_inj, values, salts, List.append_assoc]
  exact ⟨nonces, rfl⟩

theorem Shifted.salts_ne (shifted : Shifted proof salt proof' salt') : salt ≠ salt' := by
  obtain ⟨_, digits, some, _, salts⟩ := shifted
  intro same
  rw [same] at salts
  exact some (List.self_eq_append_left.mp salts)

/-- One message is of one opening, or else digits are shifted between the two. -/
theorem shifted_of_message_eq (messages : proof.message salt = proof'.message salt')
    (salts : salt ≠ salt') :
    Shifted proof salt proof' salt' ∨ Shifted proof' salt' proof salt := by
  obtain ⟨nonces, tails⟩ := message_inj.mp messages
  rcases List.append_eq_append_iff.mp tails with ⟨digits, values, moved⟩ | ⟨digits, values, moved⟩
  · refine .inl ⟨nonces, digits, ?_, values, moved⟩
    rintro rfl
    exact salts moved
  · refine .inr ⟨nonces.symm, digits, ?_, values, moved⟩
    rintro rfl
    exact salts moved.symm

/-- Openings of one commitment bind to one value exactly if no digits are shifted between
the value and the salt. -/
theorem openings_bound_iff (accepted : Accepted chain commitment proof salt)
    (accepted' : Accepted chain commitment proof' salt') :
    Bound chain proof salt proof' salt' ↔
      ¬Shifted proof salt proof' salt' ∧ ¬Shifted proof' salt' proof salt := by
  constructor
  · intro bound
    constructor
    · intro shifted
      rcases bound with ⟨_, _, salts⟩ | ⟨apart, _⟩
      · exact shifted.salts_ne salts
      · exact apart shifted.message_eq
    · intro shifted
      rcases bound with ⟨_, _, salts⟩ | ⟨apart, _⟩
      · exact shifted.salts_ne salts.symm
      · exact apart shifted.message_eq.symm
  · rintro ⟨unshifted, unshifted'⟩
    by_cases messages : proof.message salt = proof'.message salt'
    · have salts : salt = salt' := by
        by_contra different
        exact (shifted_of_message_eq messages different).elim unshifted unshifted'
      obtain ⟨nonces, tails⟩ := message_inj.mp messages
      rw [salts] at tails
      exact .inl ⟨nonces, natBytes_injective (List.append_cancel_right tails), salts⟩
    · refine .inr ⟨messages, ?_⟩
      rw [accepted.opened, accepted'.opened]

/-! ## Opening in another way -/

/-- A verifier without proofs. -/
def unused : State := ⟨.empty, .fill 1, 1, []⟩

def plainCall : CallContext := ⟨.fill 9, 0, [], 0, 0, [], 0⟩

theorem readQuery_submitProof (commitment : Bytes32) (blockNonce : UInt64) (claimedValue : Nat) :
    readQuery "submitProof".toUTF8.toList
        [[], commitment.val, encodeU64 blockNonce, natBytes claimedValue] =
      .ok (.submitProof 0 commitment blockNonce claimedValue) := by
  have taskId : readU64 [] = .ok 0 := rfl
  have digest : readBytes32 commitment.val = .ok commitment := by
    rw [readBytes32, dif_pos commitment.length_eq]
  have nonce : readU64 (encodeU64 blockNonce) = .ok blockNonce := by
    have value : beValue (encodeU64 blockNonce) = blockNonce.toNat := by
      rw [encodeU64, beValue_beBytes]
      exact Nat.mod_eq_of_lt blockNonce.toNat_lt
    simp only [readU64, value, Outcome.bind_eq_ok, Outcome.ensure_eq_ok, Outcome.pure_eq_ok]
    exact ⟨(), blockNonce.toNat_lt, UInt64.ofNat_toNat⟩
  rw [readQuery, if_pos rfl]
  simp only [taskId, digest, nonce, beValue_natBytes, Bind.bind, Except.bind, pure, Except.pure]

theorem accepted_of_message (blockNonce : UInt64) (claimedValue : Nat) (salt : Bytes)
    (opened : chain.sha256 (encodeU64 blockNonce ++ natBytes claimedValue ++ salt) = commitment) :
    ∃ proof, proof.blockNonce = blockNonce ∧ proof.claimedValue = claimedValue ∧
      Accepted chain commitment proof salt := by
  let proof : ProofData := ⟨commitment, blockNonce, claimedValue, plainCall.caller, 0, false⟩
  let committed : State :=
    { unused with proofs := Cells.empty.set 0 proof }.emit (.proofSubmitted 0 plainCall.caller blockNonce)
  have submitted : step chain unused (.call plainCall "submitProof".toUTF8.toList
      [[], commitment.val, encodeU64 blockNonce, natBytes claimedValue]) = .ok committed := by
    rw [step, callEndpoint, readQuery_submitProof]
    rfl
  have found : committed.proofs.get? 0 = some proof := Cells.get?_set_self _ _ _
  have verified : ∃ next, verifyProof chain 0 salt committed = .ok next := by
    simp only [verifyProof, Outcome.bind_eq_ok, Outcome.require_eq_ok, Outcome.load_eq_ok,
      Outcome.pure_eq_ok, found]
    exact ⟨_, (), Option.some_ne_none _, proof, rfl, (), rfl, (), opened, rfl⟩
  obtain ⟨next, verified⟩ := verified
  exact ⟨proof, rfl, rfl,
    .intro ⟨.fill 1, rfl⟩ (.cons trivial submitted (.nil committed)) found rfl verified⟩

/-- A commitment that has been opened has no other opening, short of a collision, exactly
if the value is zero and the salt does not begin with a digit that could lead it. -/
theorem opening_unique_iff (accepted : Accepted chain commitment proof salt) :
    (∀ proof' salt', Accepted chain commitment proof' salt' → Bound chain proof salt proof' salt') ↔
      proof.claimedValue = 0 ∧ (salt = [] ∨ salt.head? = some 0) := by
  have opened := accepted.opened
  constructor
  · intro bound
    by_contra loose
    obtain ⟨claimedValue, salt', tails, different⟩ : ∃ claimedValue salt',
        natBytes claimedValue ++ salt' = natBytes proof.claimedValue ++ salt ∧ salt ≠ salt' := by
      by_cases zero : proof.claimedValue = 0
      · cases salt with
        | nil => exact absurd ⟨zero, .inl rfl⟩ loose
        | cons byte rest =>
            have digit : natBytes (beValue [byte]) = [byte] := by
              apply natBytes_beValue
              intro leading
              exact loose ⟨zero, .inr leading⟩
            refine ⟨beValue [byte], rest, ?_, List.cons_ne_self byte rest⟩
            rw [digit, zero, natBytes_zero]
            rfl
      · refine ⟨0, natBytes proof.claimedValue ++ salt, by rw [natBytes_zero]; rfl, ?_⟩
        intro same
        have lengths := congrArg List.length same
        have positive := List.length_pos_iff.mpr (natBytes_ne_nil zero)
        rw [List.length_append] at lengths
        omega
    rw [ProofData.message, List.append_assoc, ← tails, ← List.append_assoc] at opened
    obtain ⟨proof', nonces, values, accepted'⟩ := accepted_of_message _ _ _ opened
    have messages : proof.message salt = proof'.message salt' := by
      rw [message_inj, nonces, values, tails]
      exact ⟨rfl, rfl⟩
    rcases bound proof' salt' accepted' with ⟨_, _, salts⟩ | ⟨apart, _⟩
    · exact different salts
    · exact apart messages
  · rintro ⟨zero, unleading⟩ proof' salt' accepted'
    rw [openings_bound_iff accepted accepted']
    constructor
    · rintro ⟨_, digits, some, values, salts⟩
      rw [zero, natBytes_zero, List.nil_append] at values
      rcases unleading with empty | leading
      · rw [empty] at salts
        exact some (List.append_eq_nil_iff.mp salts.symm).1
      · rw [salts, List.head?_append_of_ne_nil _ some, ← values] at leading
        exact head?_natBytes _ leading
    · rintro ⟨_, digits, some, values, _⟩
      rw [zero, natBytes_zero] at values
      exact some (List.append_eq_nil_iff.mp values.symm).2

namespace Sample

def digest : Bytes32 := sha256 (encodeU64 5 ++ [1, 2])

theorem digest_accepted {claimedValue : Nat} {salt : Bytes}
    (tail : natBytes claimedValue ++ salt = [1, 2]) :
    ∃ proof, proof.blockNonce = 5 ∧ proof.claimedValue = claimedValue ∧
      Accepted sampleChain digest proof salt := by
  apply accepted_of_message
  rw [List.append_assoc, tail]
  rfl

end Sample

theorem openings_bound_iff_sample :
    ∃ proof, proof.claimedValue = 1 ∧ Accepted sampleChain Sample.digest proof [2] ∧
      Bound sampleChain proof [2] proof [2] := by
  obtain ⟨proof, _, value, accepted⟩ :=
    Sample.digest_accepted (show natBytes 1 ++ [2] = [1, 2] by decide +kernel)
  have unshifted : ¬Shifted proof [2] proof [2] := fun shifted => shifted.salts_ne rfl
  exact ⟨proof, value, accepted, (openings_bound_iff accepted accepted).mpr ⟨unshifted, unshifted⟩⟩

/-- One commitment is opened for the value 1 with the salt 02, and for the value 258
without a salt. -/
theorem commitment_opened_twice :
    ∃ proof proof', proof.claimedValue = 1 ∧ proof'.claimedValue = 258 ∧
      proof.blockNonce = proof'.blockNonce ∧ Accepted sampleChain Sample.digest proof [2] ∧
      Accepted sampleChain Sample.digest proof' [] ∧ ¬Bound sampleChain proof [2] proof' [] := by
  have tail : natBytes 1 ++ [2] = [1, 2] := by decide +kernel
  have tail' : natBytes 258 ++ [] = [1, 2] := by decide +kernel
  obtain ⟨proof, nonce, value, accepted⟩ := Sample.digest_accepted tail
  obtain ⟨proof', nonce', value', accepted'⟩ := Sample.digest_accepted tail'
  refine ⟨proof, proof', value, value', nonce.trans nonce'.symm, accepted, accepted', ?_⟩
  rintro (⟨_, values, _⟩ | ⟨apart, _⟩)
  · rw [value, value'] at values
    cases values
  · apply apart
    rw [message_inj, nonce, nonce', value, value', tail, tail']
    exact ⟨rfl, rfl⟩

end XCron.ZkVerifier
