import XCron.Platform.Base64
import XCron.Platform.JavaScript

/-!
# Secrets of the enclave

A client encrypts its exchange keys for the enclave (`sdk/src/xse.ts`), and the
enclave decrypts them (`xse-protocol/src/crypto.rs`). The client writes a JSON
object; the enclave splits what it decrypts at colons and expects two parts.
Encryption is the platform's and a parameter.
-/

namespace XCron.Xse

open Platform
open Platform.JsString

/-- RSA-OAEP with SHA-256, and what the enclave hashes of its key. `encrypt` fails
where the message is too long for a block. -/
structure Crypto (PublicKey PrivateKey Seed : Type) where
  importKey : Bytes → Option PublicKey
  publicKey : PrivateKey → PublicKey
  encrypt : PublicKey → Seed → Bytes → Option Bytes
  decrypt : PrivateKey → Bytes → Option Bytes
  modulus : PublicKey → Bytes
  sha256 : Bytes → Bytes32

/-- Decryption inverts encryption. -/
def Crypto.Inverts {PublicKey PrivateKey Seed : Type} (crypto : Crypto PublicKey PrivateKey Seed) :
    Prop :=
  ∀ key seed message cipher, crypto.encrypt (crypto.publicKey key) seed message = some cipher →
    crypto.decrypt key cipher = some message

/-! ## The client -/

structure JsNumber where
  text : JsString
  deriving DecidableEq

/-- The properties of a payload. -/
inductive Key where
  | exchange
  | apiKey
  | apiSecret
  | orderType
  | pair
  | amount
  | price
  deriving DecidableEq

def Key.name : Key → JsString
  | .exchange => jsAscii "exchange"
  | .apiKey => jsAscii "apiKey"
  | .apiSecret => jsAscii "apiSecret"
  | .orderType => jsAscii "orderType"
  | .pair => jsAscii "pair"
  | .amount => jsAscii "amount"
  | .price => jsAscii "price"

/-- `XsePayload`, with its own properties in the order in which they were added. -/
structure XsePayload where
  exchange : JsString
  apiKey : JsString
  apiSecret : JsString
  orderType : JsString
  pair : JsString
  amount : JsNumber
  price : Option JsNumber
  keys : List Key
  distinct : keys.Nodup
  complete : ∀ key, key ≠ .price → key ∈ keys

def unicodeEscape (unit : UInt16) : JsString :=
  [92, 117] ++ (formatHex 4 unit.toNat).map fun char => UInt16.ofNat char.toNat

/-- What JSON writes for a code unit that is no half of a surrogate pair. -/
def escapeUnit (unit : UInt16) : JsString :=
  if unit = 8 then [92, 98]
  else if unit = 9 then [92, 116]
  else if unit = 10 then [92, 110]
  else if unit = 12 then [92, 102]
  else if unit = 13 then [92, 114]
  else if unit = 34 then [92, 34]
  else if unit = 92 then [92, 92]
  else if unit < 32 ∨ isSurrogate unit.toNat then unicodeEscape unit
  else [unit]

def escapeUnits : JsString → JsString
  | [] => []
  | [unit] => escapeUnit unit
  | high :: low :: rest =>
      if isHighSurrogate high && isLowSurrogate low then high :: low :: escapeUnits rest
      else escapeUnit high ++ escapeUnits (low :: rest)

def quote (text : JsString) : JsString := 34 :: (escapeUnits text ++ [34])

def XsePayload.value (payload : XsePayload) : Key → Option JsString
  | .exchange => some (quote payload.exchange)
  | .apiKey => some (quote payload.apiKey)
  | .apiSecret => some (quote payload.apiSecret)
  | .orderType => some (quote payload.orderType)
  | .pair => some (quote payload.pair)
  | .amount => some payload.amount.text
  | .price => payload.price.map JsNumber.text

def colon : UInt8 := 58

def colonUnit : UInt16 := 58

def member (key : Key) (value : JsString) : JsString := quote key.name ++ colonUnit :: value

def XsePayload.members (payload : XsePayload) : List JsString :=
  payload.keys.filterMap fun key => (payload.value key).map (member key)

def joinMembers : List JsString → JsString
  | [] => []
  | [last] => last
  | first :: rest => first ++ 44 :: joinMembers rest

def stringify (payload : XsePayload) : JsString := 123 :: (joinMembers payload.members ++ [125])

/-- Bytes of six-bit digits; bits left over at the end are dropped. -/
def sextets : List Nat → Bytes
  | a :: b :: c :: d :: rest =>
      UInt8.ofNat (a * 4 + b / 16) :: UInt8.ofNat (b % 16 * 16 + c / 4) ::
        UInt8.ofNat (c % 4 * 64 + d) :: sextets rest
  | [a, b, c] => [UInt8.ofNat (a * 4 + b / 16), UInt8.ofNat (b % 16 * 16 + c / 4)]
  | [a, b] => [UInt8.ofNat (a * 4 + b / 16)]
  | _ => []

/-- `atob`: white space is ignored, and padding may be absent. -/
def atob (text : Text) : Option Bytes := do
  let stripped := text.filter fun char => decide (char ∉ [9, 10, 12, 13, 32])
  let padding := (stripped.reverse.take 2).takeWhile fun char => decide (char = base64Pad)
  let digits :=
    if stripped.length % 4 = 0 then stripped.take (stripped.length - padding.length) else stripped
  let values ← digits.mapM base64Value
  if values.length % 4 = 1 then none else some (sextets values)

/-- `text.replace(pattern, "")`: the first occurrence only. -/
def removeFirst (pattern : Text) : Text → Text
  | [] => []
  | char :: rest =>
      if pattern.isPrefixOf (char :: rest) then (char :: rest).drop pattern.length
      else char :: removeFirst pattern rest

def importPublicKey {PublicKey PrivateKey Seed : Type} (crypto : Crypto PublicKey PrivateKey Seed)
    (enclavePublicKeyPem : Text) : Option PublicKey := do
  let contents := removeFirst (ascii "-----BEGIN PUBLIC KEY-----") enclavePublicKeyPem
  let contents := removeFirst (ascii "-----END PUBLIC KEY-----") contents
  let contents := contents.filter fun char => decide (char ≠ 10 ∧ char ≠ 13)
  let binaryDer ← atob contents
  crypto.importKey binaryDer

/-- `encryptPayload`; the seed is the randomness of the encryption. -/
def encryptPayload {PublicKey PrivateKey Seed : Type} (crypto : Crypto PublicKey PrivateKey Seed)
    (enclavePublicKeyPem : Text) (seed : Seed) (payload : XsePayload) : Option Text := do
  let publicKey ← importPublicKey crypto enclavePublicKeyPem
  let encodedData := textEncode (stringify payload)
  let encrypted ← crypto.encrypt publicKey seed encodedData
  pure (base64Encode encrypted)

/-! ## The enclave -/

structure EncryptedSecrets where
  blob : Bytes
  enclavePubkeyHash : Text

structure DecryptedApiKeys where
  apiKey : Text
  apiSecret : Text
  deriving DecidableEq

/-- A reader of UTF-8 between two bytes: how many bytes are owed, and the least and
the greatest value of the next one. -/
structure Utf8State where
  owed : Nat
  least : UInt8
  greatest : UInt8

def utf8Step (state : Option Utf8State) (byte : UInt8) : Option Utf8State := do
  let ⟨owed, least, greatest⟩ ← state
  if 0 < owed then
    if least ≤ byte ∧ byte ≤ greatest then some ⟨owed - 1, 128, 191⟩ else none
  else if byte < 128 then some ⟨0, 128, 191⟩
  else if 194 ≤ byte ∧ byte ≤ 223 then some ⟨1, 128, 191⟩
  else if 224 ≤ byte ∧ byte ≤ 239 then
    some ⟨2, if byte = 224 then 160 else 128, if byte = 237 then 159 else 191⟩
  else if 240 ≤ byte ∧ byte ≤ 244 then
    some ⟨3, if byte = 240 then 144 else 128, if byte = 244 then 143 else 191⟩
  else none

def fromUtf8 (bytes : Bytes) : Option Text :=
  match bytes.foldl utf8Step (some ⟨0, 128, 191⟩) with
  | some ⟨0, _, _⟩ => some bytes
  | _ => none

def publicKeyHash {PublicKey PrivateKey Seed : Type} (crypto : Crypto PublicKey PrivateKey Seed)
    (privateKey : PrivateKey) : Text :=
  hexEncode (crypto.sha256 (crypto.modulus (crypto.publicKey privateKey))).val

def decryptSecrets {PublicKey PrivateKey Seed : Type} (crypto : Crypto PublicKey PrivateKey Seed)
    (privateKey : PrivateKey) (secrets : EncryptedSecrets) : Except String DecryptedApiKeys := do
  let expectedHash := publicKeyHash crypto privateKey
  if secrets.enclavePubkeyHash.length ≠ expectedHash.length then
    throw "FATAL ERROR: Enclave Spoofing Detected. Hash length mismatch."
  let diff := (secrets.enclavePubkeyHash.zip expectedHash).foldl
    (fun diff pair => diff ||| (pair.1 ^^^ pair.2)) (0 : UInt8)
  if diff ≠ 0 then
    throw "FATAL ERROR: Enclave Spoofing Detected. Hashes do not match."
  match crypto.decrypt privateKey secrets.blob with
  | none => throw "Failed to decrypt secrets using enclave private key"
  | some decrypted =>
      match fromUtf8 decrypted with
      | none => throw "Invalid UTF-8 sequence in decrypted data"
      | some text =>
          match text.splitOn colon with
          | [apiKey, apiSecret] => pure ⟨apiKey, apiSecret⟩
          | _ => throw "Invalid secret format. Expected 'API_KEY:API_SECRET'"

/-! ## Colons -/

theorem length_splitOn (separator : UInt8) (text : Text) :
    (text.splitOn separator).length = text.count separator + 1 := by
  induction text with
  | nil => rfl
  | cons char rest inductionHypothesis =>
      rw [List.splitOn_cons_eq_if_modifyHead, List.count_cons]
      split
      · simp [inductionHypothesis]
      · simp [inductionHypothesis]

theorem count_colon_textEncode (text : JsString) :
    text.count colonUnit ≤ (textEncode text).count colon := by
  have unpaired (unit : UInt16) : [unit].count colonUnit ≤
      (utf8 (if isSurrogate unit.toNat then 0xFFFD else unit.toNat)).count colon := by
    by_cases same : unit = colonUnit
    · subst same
      decide
    · simp [same]
  unfold textEncode
  induction text using codePoints.induct with
  | case1 => exact Nat.zero_le _
  | case2 unit => simpa [codePoints] using unpaired unit
  | case3 high low rest paired inductionHypothesis =>
      have surrogates : high ≠ colonUnit ∧ low ≠ colonUnit := by
        constructor <;> rintro rfl <;> revert paired <;> simp [isHighSurrogate, isLowSurrogate, colonUnit]
      rw [codePoints, if_pos paired, List.flatMap_cons, List.count_append,
        List.count_cons_of_ne surrogates.1, List.count_cons_of_ne surrogates.2]
      omega
  | case4 high low rest unpairedUnits inductionHypothesis =>
      have first := unpaired high
      rw [codePoints, if_neg unpairedUnits, List.flatMap_cons, List.count_append]
      have split : (high :: low :: rest).count colonUnit =
          [high].count colonUnit + (low :: rest).count colonUnit := by
        rw [← List.count_append]
        rfl
      omega

theorem count_joinMembers (members : List JsString) (colons : ∀ text ∈ members, colonUnit ∈ text) :
    members.length ≤ (joinMembers members).count colonUnit := by
  induction members using joinMembers.induct with
  | case1 => exact Nat.zero_le _
  | case2 last => exact List.one_le_count_iff.mpr (colons last (.head _))
  | case3 first rest nonempty inductionHypothesis =>
      have front := List.one_le_count_iff.mpr (colons first (.head _))
      have back := inductionHypothesis fun text member => colons text (.tail _ member)
      rw [joinMembers, List.count_append, List.count_cons]
      · simp only [List.length_cons] at back ⊢
        omega
      · exact nonempty

theorem XsePayload.two_le_members (payload : XsePayload) : 2 ≤ payload.members.length := by
  have exchange : member .exchange (quote payload.exchange) ∈ payload.members :=
    List.mem_filterMap.mpr ⟨.exchange, payload.complete _ (by decide), rfl⟩
  have amount : member .amount payload.amount.text ∈ payload.members :=
    List.mem_filterMap.mpr ⟨.amount, payload.complete _ (by decide), rfl⟩
  have different : member .exchange (quote payload.exchange) ≠ member .amount payload.amount.text := by
    have exchangeName : escapeUnits Key.exchange.name = jsAscii "exchange" := by decide
    have amountName : escapeUnits Key.amount.name = jsAscii "amount" := by decide
    intro same
    simp only [member, quote, exchangeName, amountName] at same
    have letters := (List.cons.inj (List.cons.inj same).2).1
    exact absurd letters (by decide)
  rcases shape : payload.members with _ | ⟨first, _ | ⟨second, rest⟩⟩
  · rw [shape] at exchange
    cases exchange
  · rw [shape, List.mem_singleton] at exchange amount
    exact absurd (exchange.trans amount.symm) different
  · simp

theorem colon_mem_members (payload : XsePayload) : ∀ text ∈ payload.members, colonUnit ∈ text := by
  intro text inside
  obtain ⟨key, _, written⟩ := List.mem_filterMap.mp inside
  obtain ⟨value, _, rfl⟩ := Option.map_eq_some_iff.mp written
  exact List.mem_append_right _ (.head _)

/-- What the client encrypts falls into more than two parts. -/
theorem three_le_parts (payload : XsePayload) :
    3 ≤ ((textEncode (stringify payload)).splitOn colon).length := by
  have encoded := count_colon_textEncode (stringify payload)
  have members := count_joinMembers payload.members (colon_mem_members payload)
  have two := payload.two_le_members
  have object : (joinMembers payload.members).count colonUnit ≤ (stringify payload).count colonUnit := by
    rw [stringify, List.count_cons, List.count_append]
    omega
  rw [length_splitOn]
  omega

/-! ## The round trip -/

section RoundTrip

variable {PublicKey PrivateKey Seed : Type} {crypto : Crypto PublicKey PrivateKey Seed}

/-- The enclave returns secrets only where it decrypts exactly two parts. -/
theorem decryptSecrets_eq_ok {privateKey : PrivateKey} {secrets : EncryptedSecrets}
    {keys : DecryptedApiKeys} (decrypted : decryptSecrets crypto privateKey secrets = .ok keys) :
    ∃ text, crypto.decrypt privateKey secrets.blob = some text ∧ (text.splitOn colon).length = 2 := by
  unfold decryptSecrets at decrypted
  simp only [bind, Except.bind, pure, Except.pure, throw, throwThe, MonadExceptOf.throw] at decrypted
  split at decrypted
  · cases decrypted
  · split at decrypted
    · cases decrypted
    · split at decrypted
      · cases decrypted
      · rename_i message found
        split at decrypted
        · cases decrypted
        · rename_i text valid
          split at decrypted
          · rename_i apiKey apiSecret parts
            have same : text = message := by
              unfold fromUtf8 at valid
              split at valid
              · exact (Option.some.inj valid).symm
              · cases valid
            refine ⟨message, found, ?_⟩
            rw [← same, parts]
            rfl
          · cases decrypted

/-- Whatever a client encrypts for an enclave, the enclave does not get the secrets out
of it. -/
theorem secrets_never_round_trip (inverts : crypto.Inverts) {privateKey : PrivateKey} {pem : Text}
    (imported : importPublicKey crypto pem = some (crypto.publicKey privateKey)) (seed : Seed)
    (payload : XsePayload) {text : Text} (encrypted : encryptPayload crypto pem seed payload = some text)
    {blob : Bytes} (decoded : base64Decode text = some blob) :
    decryptSecrets crypto privateKey ⟨blob, publicKeyHash crypto privateKey⟩ ≠
      .ok ⟨textEncode payload.apiKey, textEncode payload.apiSecret⟩ := by
  simp only [encryptPayload, imported, Option.bind_eq_bind, Option.bind_some,
    Option.bind_eq_some_iff, Option.pure_def, Option.some.injEq] at encrypted
  obtain ⟨cipher, sealed, rfl⟩ := encrypted
  obtain rfl : cipher = blob := by
    rw [base64Decode_encode] at decoded
    exact Option.some.inj decoded
  intro returned
  obtain ⟨message, found, parts⟩ := decryptSecrets_eq_ok returned
  rw [inverts _ _ _ _ sealed] at found
  obtain rfl := Option.some.inj found
  have many := three_le_parts payload
  omega

end RoundTrip

namespace Sample

/-- A stand-in for the platform whose ciphertext is the message behind the seed. -/
def crypto : Crypto Unit Unit UInt8 :=
  { importKey := fun der => if der = [48, 130] then some () else none
    publicKey := fun key => key
    encrypt := fun _ seed message => if message.length ≤ 446 then some (seed :: message) else none
    decrypt := fun _ cipher => cipher.tail?
    modulus := fun _ => [1, 0, 1]
    sha256 := fun _ => .fill 3 }

theorem inverts : crypto.Inverts := by
  intro key seed message cipher sealed
  simp only [crypto, Option.ite_none_right_eq_some, Option.some.injEq] at sealed
  obtain ⟨_, rfl⟩ := sealed
  rfl

def pem : Text :=
  ascii "-----BEGIN PUBLIC KEY-----" ++ [10] ++ base64Encode [48, 130] ++ [10] ++
    ascii "-----END PUBLIC KEY-----"

def payload : XsePayload :=
  { exchange := jsAscii "binance"
    apiKey := jsAscii "k"
    apiSecret := jsAscii "s"
    orderType := jsAscii "market"
    pair := jsAscii "EGLD"
    amount := ⟨jsAscii "1"⟩
    price := none
    keys := [.exchange, .apiKey, .apiSecret, .orderType, .pair, .amount]
    distinct := by decide
    complete := by intro key; cases key <;> decide }

def blob : Bytes := 7 :: textEncode (stringify payload)

end Sample

theorem sample_secrets_lost :
    decryptSecrets Sample.crypto () ⟨Sample.blob, publicKeyHash Sample.crypto ()⟩ ≠
      .ok ⟨textEncode Sample.payload.apiKey, textEncode Sample.payload.apiSecret⟩ :=
  secrets_never_round_trip Sample.inverts
    (show importPublicKey Sample.crypto Sample.pem = some () by decide +kernel) 7 Sample.payload
    (show encryptPayload Sample.crypto Sample.pem 7 Sample.payload = some (base64Encode Sample.blob) by
      decide +kernel)
    (base64Decode_encode _)

/-- An ordinary payload is refused for its format. -/
theorem ordinary_payload_refused :
    encryptPayload Sample.crypto Sample.pem 7 Sample.payload = some (base64Encode Sample.blob) ∧
      base64Decode (base64Encode Sample.blob) = some Sample.blob ∧
      decryptSecrets Sample.crypto () ⟨Sample.blob, publicKeyHash Sample.crypto ()⟩ =
        .error "Invalid secret format. Expected 'API_KEY:API_SECRET'" := by
  refine ⟨by decide +kernel, base64Decode_encode _, by decide +kernel⟩

end XCron.Xse
