import XCron.Keeper.Transaction
import XCron.Platform.JsonObject

/-!
# What a signature is made for

`serialize_for_signing` writes the signed fields of a transaction by hand, the optional
ones only if they are there. The sender signs this text, and so does the relayer once its
address has been written into the transaction.
-/

namespace XCron.Keeper

open Platform

/-! ## The payload -/

namespace Transaction

/-- `serialize_for_signing`, which never fails. -/
def serializeForSigning (transaction : Transaction) : Text :=
  let parts : List Text := []
  let parts := parts ++ [ascii "\"nonce\":" ++ formatDecimal transaction.nonce.toNat]
  let parts := parts ++ [ascii "\"value\":\"" ++ transaction.value ++ ascii "\""]
  let parts := parts ++ [ascii "\"receiver\":\"" ++ transaction.receiver ++ ascii "\""]
  let parts := parts ++ [ascii "\"sender\":\"" ++ transaction.sender ++ ascii "\""]
  let parts := parts ++ [ascii "\"gasPrice\":" ++ formatDecimal transaction.gasPrice.toNat]
  let parts := parts ++ [ascii "\"gasLimit\":" ++ formatDecimal transaction.gasLimit.toNat]
  let parts := match transaction.data with
    | some data => parts ++ [ascii "\"data\":\"" ++ data ++ ascii "\""]
    | none => parts
  let parts := parts ++ [ascii "\"chainID\":\"" ++ transaction.chainId ++ ascii "\""]
  let parts := parts ++ [ascii "\"version\":" ++ formatDecimal transaction.version.toNat]
  let parts := match transaction.options with
    | some options => parts ++ [ascii "\"options\":" ++ formatDecimal options.toNat]
    | none => parts
  let parts := match transaction.relayer with
    | some relayer => parts ++ [ascii "\"relayer\":\"" ++ relayer ++ ascii "\""]
    | none => parts
  ascii "\x7b" ++ List.intercalate (ascii ",") parts ++ ascii "\x7d"

def serializeForRelayerSigning (transaction : Transaction) : Text :=
  transaction.serializeForSigning

end Transaction

section Signatures

variable {Key PublicKey : Type}

/-- Ed25519, as far as transactions need it. Signatures are bytes, and a signature that was
made is accepted. -/
structure SignatureScheme (Key PublicKey : Type) where
  publicKey : Key → PublicKey
  sign : Key → Bytes → Bytes
  verify : PublicKey → Bytes → Bytes → Bool
  verify_sign : ∀ key message, verify (publicKey key) message (sign key message) = true

variable (scheme : SignatureScheme Key PublicKey)

namespace Transaction

def sign (signingKey : Key) (transaction : Transaction) : Transaction :=
  let payload := transaction.serializeForSigning
  { transaction with signature := some (hexEncode (scheme.sign signingKey payload)) }

def toRelayedV3 (relayerAddress : Text) (relayerSigningKey : Key) (transaction : Transaction) :
    Transaction :=
  let transaction := { transaction with relayer := some relayerAddress }
  let payload := transaction.serializeForRelayerSigning
  { transaction with
    relayerSignature := some (hexEncode (scheme.sign relayerSigningKey payload)) }

def senderSignature (transaction : Transaction) : Option Bytes :=
  transaction.signature.bind hexDecode

def Verifies (signer : PublicKey) (transaction : Transaction) : Prop :=
  ∃ signature, transaction.senderSignature = some signature ∧
    scheme.verify signer transaction.serializeForSigning signature = true

end Transaction

/-- One signature is accepted for two messages. -/
structure Reused (signer : PublicKey) (signature first second : Bytes) : Prop where
  different : first ≠ second
  accepted : scheme.verify signer first signature = true
  accepted' : scheme.verify signer second signature = true

end Signatures

/-! ## What is signed -/

/-- The transactions agree on every signed field. -/
structure SameSigned (first second : Transaction) : Prop where
  nonce : first.nonce = second.nonce
  value : first.value = second.value
  receiver : first.receiver = second.receiver
  sender : first.sender = second.sender
  gasPrice : first.gasPrice = second.gasPrice
  gasLimit : first.gasLimit = second.gasLimit
  data : first.data = second.data
  chainId : first.chainId = second.chainId
  version : first.version = second.version
  options : first.options = second.options
  relayer : first.relayer = second.relayer

/-- No text of the transaction contains a double quote. -/
structure Transaction.QuoteFree (transaction : Transaction) : Prop where
  value : 34 ∉ transaction.value
  receiver : 34 ∉ transaction.receiver
  sender : 34 ∉ transaction.sender
  data : ∀ data ∈ transaction.data, 34 ∉ data
  chainId : 34 ∉ transaction.chainId
  relayer : ∀ relayer ∈ transaction.relayer, 34 ∉ relayer

namespace Transaction

variable {transaction first second : Transaction}

def membersBefore (transaction : Transaction) : List JsonMember :=
  [⟨ascii "nonce", .number transaction.nonce.toNat⟩, ⟨ascii "value", .text transaction.value⟩,
    ⟨ascii "receiver", .text transaction.receiver⟩, ⟨ascii "sender", .text transaction.sender⟩,
    ⟨ascii "gasPrice", .number transaction.gasPrice.toNat⟩,
    ⟨ascii "gasLimit", .number transaction.gasLimit.toNat⟩] ++
  (transaction.data.map fun data => ⟨ascii "data", .text data⟩).toList ++
  [⟨ascii "chainID", .text transaction.chainId⟩,
    ⟨ascii "version", .number transaction.version.toNat⟩] ++
  (transaction.options.map fun options => ⟨ascii "options", .number options.toNat⟩).toList

def relayerMember (relayer : Text) : JsonMember := ⟨ascii "relayer", .text relayer⟩

def members (transaction : Transaction) : List JsonMember :=
  transaction.membersBefore ++ (transaction.relayer.map relayerMember).toList

theorem serializeForSigning_eq (transaction : Transaction) :
    transaction.serializeForSigning = writeObject transaction.members := by
  rcases transaction with ⟨nonce, value, receiver, sender, gasPrice, gasLimit, data, chainId,
    version, options, relayer, signature, relayerSignature⟩
  cases data <;> cases options <;> cases relayer <;>
    simp [serializeForSigning, members, membersBefore, relayerMember, writeObject, JsonMember.write,
      JsonValue.write, quoted, ascii]

theorem optional_append_inj {Alpha : Type} {optional optional' : Option Alpha}
    {rest rest' : List Alpha} (apart : ∀ item ∈ optional, rest'.head? ≠ some item)
    (apart' : ∀ item ∈ optional', rest.head? ≠ some item)
    (same : optional.toList ++ rest = optional'.toList ++ rest') :
    optional = optional' ∧ rest = rest' := by
  cases optional with
  | none =>
      cases optional' with
      | none => exact ⟨rfl, same⟩
      | some item' =>
          refine absurd ?_ (apart' item' rfl)
          exact congrArg List.head? same
  | some item =>
      cases optional' with
      | none =>
          refine absurd ?_ (apart item rfl)
          exact (congrArg List.head? same).symm
      | some item' =>
          obtain ⟨items, rests⟩ := List.cons.inj same
          exact ⟨congrArg some items, rests⟩

theorem members_inj (same : first.members = second.members) : SameSigned first second := by
  simp only [members, membersBefore, List.cons_append, List.nil_append, List.append_assoc,
    List.cons.injEq, JsonMember.mk.injEq, JsonValue.number.injEq, JsonValue.text.injEq,
    true_and] at same
  obtain ⟨nonce, value, receiver, sender, gasPrice, gasLimit, same⟩ := same
  obtain ⟨data, same⟩ := optional_append_inj
    (by simp [ascii]) (by simp [ascii]) same
  simp only [List.cons.injEq, JsonMember.mk.injEq, JsonValue.number.injEq, JsonValue.text.injEq,
    true_and] at same
  obtain ⟨chainId, version, same⟩ := same
  obtain ⟨options, same⟩ := optional_append_inj
    (by cases second.relayer <;> simp [ascii, relayerMember])
    (by cases first.relayer <;> simp [ascii, relayerMember]) same
  have relayer : first.relayer.map relayerMember = second.relayer.map relayerMember := by
    simpa using congrArg List.head? same
  have numbers : Function.Injective fun options : UInt32 =>
      (⟨ascii "options", .number options.toNat⟩ : JsonMember) := by
    intro options options' same
    simp only [JsonMember.mk.injEq, JsonValue.number.injEq, true_and] at same
    exact UInt32.toNat_inj.mp same
  have texts (name : Text) : Function.Injective fun text : Text =>
      (⟨name, .text text⟩ : JsonMember) := by
    intro text text' same
    simpa using same
  exact ⟨UInt64.toNat_inj.mp nonce, value, receiver, sender, UInt64.toNat_inj.mp gasPrice,
    UInt64.toNat_inj.mp gasLimit, Option.map_injective (texts _) data, chainId,
    UInt32.toNat_inj.mp version, Option.map_injective numbers options,
    Option.map_injective (texts _) relayer⟩

theorem serializeForSigning_of_sameSigned (same : SameSigned first second) :
    first.serializeForSigning = second.serializeForSigning := by
  obtain ⟨nonce, value, receiver, sender, gasPrice, gasLimit, data, chainId, version, options,
    relayer⟩ := same
  simp only [serializeForSigning, nonce, value, receiver, sender, gasPrice, gasLimit, data, chainId,
    version, options, relayer]

theorem QuoteFree.plain (plain : transaction.QuoteFree) :
    ∀ member ∈ transaction.members, member.Plain := by
  intro member present
  simp only [members, membersBefore, List.mem_append, List.mem_cons, List.not_mem_nil, or_false,
    Option.mem_toList, Option.map_eq_some_iff] at present
  rcases present with ((((rfl | rfl | rfl | rfl | rfl | rfl) | ⟨data, found, rfl⟩) | (rfl | rfl)) |
    ⟨options, _, rfl⟩) | ⟨relayer, found, rfl⟩
  · exact .of (by decide) trivial
  · exact .of (by decide) plain.value
  · exact .of (by decide) plain.receiver
  · exact .of (by decide) plain.sender
  · exact .of (by decide) trivial
  · exact .of (by decide) trivial
  · exact .of (by decide) (plain.data data found)
  · exact .of (by decide) plain.chainId
  · exact .of (by decide) trivial
  · exact .of (by decide) trivial
  · exact .of (by decide) (plain.relayer relayer found)

theorem serializeForSigning_eq_iff (plain : first.QuoteFree) (plain' : second.QuoteFree) :
    first.serializeForSigning = second.serializeForSigning ↔ SameSigned first second := by
  constructor
  · intro same
    rw [serializeForSigning_eq, serializeForSigning_eq] at same
    exact members_inj (writeObject_injective plain.plain plain'.plain same)
  · exact serializeForSigning_of_sameSigned

/-! ## The relayer -/

theorem serializeForSigning_relayer_iff (transaction : Transaction)
    (relayer relayer' : Option Text) :
    { transaction with relayer := relayer }.serializeForSigning =
        { transaction with relayer := relayer' }.serializeForSigning ↔ relayer = relayer' := by
  constructor
  · intro same
    have shape (relayer : Option Text) :
        { transaction with relayer := relayer }.members =
          ⟨ascii "nonce", .number transaction.nonce.toNat⟩ ::
            (transaction.membersBefore.tail ++ (relayer.map relayerMember).toList) := rfl
    rw [serializeForSigning_eq, serializeForSigning_eq, shape, shape, writeObject_cons,
      writeObject_cons, List.cons_inj_right, List.append_cancel_left_eq, writeRest_append,
      writeRest_append, List.append_cancel_left_eq] at same
    cases relayer with
    | none =>
        cases relayer' with
        | none => rfl
        | some address' => cases (List.cons.inj same).1
    | some address =>
        cases relayer' with
        | none => cases (List.cons.inj same).1
        | some address' =>
            have written := (List.cons.inj same).2
            simpa [relayerMember, JsonMember.write, JsonValue.write, quoted] using written
  · rintro rfl
    rfl

section Signatures

variable {Key PublicKey : Type} (scheme : SignatureScheme Key PublicKey)

theorem senderSignature_sign (key : Key) (transaction : Transaction) :
    (transaction.sign scheme key).senderSignature =
      some (scheme.sign key transaction.serializeForSigning) := by
  rw [senderSignature, sign, Option.bind_some, hexDecode_hexEncode]

theorem sign_verifies (key : Key) (transaction : Transaction) :
    (transaction.sign scheme key).Verifies scheme (scheme.publicKey key) :=
  ⟨_, senderSignature_sign scheme key transaction, scheme.verify_sign key _⟩

variable {signer : PublicKey} {signature : Bytes}

/-- A signature that is accepted for one payload is accepted for another transaction exactly
if the payloads are the same, unless it is one signature for two messages. -/
theorem verifies_iff (accepted : scheme.verify signer first.serializeForSigning signature = true)
    (attached : second.senderSignature = some signature) :
    (second.Verifies scheme signer ↔ first.serializeForSigning = second.serializeForSigning) ∨
      Reused scheme signer signature first.serializeForSigning second.serializeForSigning := by
  by_cases same : first.serializeForSigning = second.serializeForSigning
  · exact .inl (iff_of_true ⟨signature, attached, same ▸ accepted⟩ same)
  · by_cases verifies : second.Verifies scheme signer
    · obtain ⟨signature', attached', accepted'⟩ := verifies
      obtain rfl := Option.some.inj (attached.symm.trans attached')
      exact .inr ⟨same, accepted, accepted'⟩
    · exact .inl (iff_of_false verifies same)

/-- A signature of the sender outlasts `to_relayed_v3` exactly if the relayer stays. -/
theorem toRelayedV3_verifies_iff
    (accepted : scheme.verify signer transaction.serializeForSigning signature = true)
    (attached : transaction.senderSignature = some signature) (relayerAddress : Text)
    (relayerKey : Key) :
    ((transaction.toRelayedV3 scheme relayerAddress relayerKey).Verifies scheme signer ↔
        transaction.relayer = some relayerAddress) ∨
      Reused scheme signer signature transaction.serializeForSigning
        (transaction.toRelayedV3 scheme relayerAddress relayerKey).serializeForSigning := by
  rw [← serializeForSigning_relayer_iff transaction]
  exact verifies_iff scheme accepted attached

end Signatures

end Transaction

/-- Payloads of transactions without quotes determine every signed field; so a signature
that was made for one transaction is accepted with another one only if they agree on those
fields, and `to_relayed_v3` invalidates a signature of the sender exactly if it changes the
relayer; short of one signature that is accepted for two messages. -/
theorem signed_payload_determines {Key PublicKey : Type} (scheme : SignatureScheme Key PublicKey)
    {first second : Transaction} (plain : first.QuoteFree) (plain' : second.QuoteFree) :
    (first.serializeForSigning = second.serializeForSigning ↔ SameSigned first second) ∧
      (∀ key, second.signature = (first.sign scheme key).signature →
        (second.Verifies scheme (scheme.publicKey key) ↔ SameSigned first second) ∨
          Reused scheme (scheme.publicKey key) (scheme.sign key first.serializeForSigning)
            first.serializeForSigning second.serializeForSigning) ∧
      ∀ signer signature relayerAddress relayerKey, first.senderSignature = some signature →
        scheme.verify signer first.serializeForSigning signature = true →
        (¬(first.toRelayedV3 scheme relayerAddress relayerKey).Verifies scheme signer ↔
            first.relayer ≠ some relayerAddress) ∨
          Reused scheme signer signature first.serializeForSigning
            (first.toRelayedV3 scheme relayerAddress relayerKey).serializeForSigning := by
  have payloads := Transaction.serializeForSigning_eq_iff plain plain'
  refine ⟨payloads, ?_, ?_⟩
  · intro key moved
    have attached : second.senderSignature =
        some (scheme.sign key first.serializeForSigning) := by
      rw [Transaction.senderSignature, moved]
      exact Transaction.senderSignature_sign scheme key first
    rw [← payloads]
    exact Transaction.verifies_iff scheme (scheme.verify_sign key _) attached
  · intro signer signature relayerAddress relayerKey attached accepted
    rw [not_iff_not]
    exact Transaction.toRelayedV3_verifies_iff scheme accepted attached relayerAddress relayerKey

namespace Sample

def scheme : SignatureScheme Bytes Bytes where
  publicKey := id
  sign key message := key ++ message
  verify signer message signature := decide (signature = signer ++ message)
  verify_sign _ _ := decide_eq_true rfl

theorem scheme_reused_free {signer signature first second : Bytes} :
    ¬Reused scheme signer signature first second := by
  rintro ⟨different, accepted, accepted'⟩
  have same := (of_decide_eq_true accepted).symm.trans (of_decide_eq_true accepted')
  exact different (List.append_cancel_left same)

def signedCall : Transaction :=
  (Transaction.new 7 (ascii "0") (ascii "erd1scheduler") (ascii "erd1sender") 1000000000 30000000
    (some (ascii "claim")) (ascii "D") 1).sign scheme [1]

theorem signedCall_quoteFree : signedCall.QuoteFree := by
  refine ⟨by decide, by decide, by decide, ?_, by decide, ?_⟩
  · rintro _ ⟨⟩
    decide
  · rintro _ ⟨⟩

end Sample

theorem signed_payload_determines_sample :
    Sample.signedCall.Verifies Sample.scheme [1] ∧
      ¬(Sample.signedCall.toRelayedV3 Sample.scheme (ascii "erd1relayer") [2]).Verifies
        Sample.scheme [1] := by
  have attached := Transaction.senderSignature_sign Sample.scheme [1]
    (Transaction.new 7 (ascii "0") (ascii "erd1scheduler") (ascii "erd1sender") 1000000000 30000000
      (some (ascii "claim")) (ascii "D") 1)
  have accepted := Sample.scheme.verify_sign [1] Sample.signedCall.serializeForSigning
  obtain ⟨_, _, relayed⟩ := signed_payload_determines Sample.scheme Sample.signedCall_quoteFree
    Sample.signedCall_quoteFree
  refine ⟨Transaction.sign_verifies Sample.scheme [1] _, ?_⟩
  have changed := (relayed [1] _ (ascii "erd1relayer") [2] attached accepted).resolve_right
    Sample.scheme_reused_free
  exact changed.mpr (Option.some_ne_none _).symm

end XCron.Keeper
