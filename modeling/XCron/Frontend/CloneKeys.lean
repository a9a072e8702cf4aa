import XCron.Frontend.Scheduling
import XCron.Platform.Buffers
import XCron.Scheduler.Budgets

/-!
# Clone keys on the page

`useCloneKey.ts` asks the scheduler for the clone keys of the connected wallet and reads the
records off the bytes, and `CloneKeyManager.tsx` puts a button for more funds and one for
revocation beside each. The list is true to the contract. The buttons name the main wallet
where the contract expects the clone key.
-/

namespace XCron.Frontend

open Platform
open Platform.JsString

/-! ## The page -/

structure AddressTexts extends Core where
  toBech32 : Bytes32 → JsString
  newFromBech32_toBech32 : ∀ address, newFromBech32 (toBech32 address) = some address

/-- What the page keeps of a clone key, apart from the texts that it shows for the amounts and
the time. -/
structure CloneKeyInfo where
  mainAddress : JsString
  spendLimit : Nat
  spentAmount : Nat
  expiryTimestamp : Nat
  remainingBudget : Int
  isExpired : Bool

def parseCloneKey (texts : AddressTexts) (now : Nat) (raw : Bytes) : Option CloneKeyInfo := do
  let mainAddress :=
    match decodeBytes32 (subarray raw 0 32) with
    | some address => texts.toBech32 address
    | none => jsAscii "?"
  let offset := 32
  let spendLimitLen ← readUInt32BE raw offset
  let offset := offset + 4
  let spendLimit := beValue (subarray raw offset (offset + spendLimitLen))
  let offset := offset + spendLimitLen
  let spentAmountLen ← readUInt32BE raw offset
  let offset := offset + 4
  let spentAmount := beValue (subarray raw offset (offset + spentAmountLen))
  let offset := offset + spentAmountLen
  let expiryBuf := subarray raw offset (offset + 8)
  let expiryTimestamp := if 8 ≤ expiryBuf.length then numberOfBigInt (beValue expiryBuf) else 0
  pure
    { mainAddress := mainAddress
      spendLimit := spendLimit
      spentAmount := spentAmount
      expiryTimestamp := expiryTimestamp
      remainingBudget := spendLimit - spentAmount
      isExpired := decide (expiryTimestamp ≤ now) }

/-- A query of a view of the scheduler; there is no answer where it fails. -/
abbrev Query := JsString → List JsString → List Bytes

def fetchInfos (texts : AddressTexts) (query : Query) (now : Nat) :
    List Bytes → Option (List CloneKeyInfo)
  | [] => some []
  | addrBuf :: rest =>
      if addrBuf.length = 0 then fetchInfos texts query now rest
      else
        match query (jsAscii "getCloneKeyInfo") [hexString addrBuf] with
        | [] => fetchInfos texts query now rest
        | raw :: _ =>
            if raw.length < 32 + 4 then fetchInfos texts query now rest
            else do
              let info ← parseCloneKey texts now raw
              let infos ← fetchInfos texts query now rest
              pure (info :: infos)

def fetchCloneKeys (texts : AddressTexts) (query : Query) (now : Nat) (wallet : JsString) :
    Option (List CloneKeyInfo) := do
  let walletHex ← addressToHex texts.toCore wallet
  fetchInfos texts query now (query (jsAscii "getWalletCloneKeys") [walletHex])

def revokeCloneKey (texts : AddressTexts) (cloneAddress : JsString) : Option JsString :=
  (addressToHex texts.toCore cloneAddress).map fun hex => jsAscii "revokeCloneKey@" ++ hex

def fundCloneKey (texts : AddressTexts) (cloneAddress : JsString) : Option JsString :=
  (addressToHex texts.toCore cloneAddress).map fun hex => jsAscii "fundCloneKey@" ++ hex

def onRevoke (texts : AddressTexts) (info : CloneKeyInfo) : Option JsString :=
  revokeCloneKey texts info.mainAddress

def onFund (texts : AddressTexts) (info : CloneKeyInfo) : Option JsString :=
  fundCloneKey texts info.mainAddress

/-! ## The contract -/

def encodeProps (props : CloneKeyProperties) : Bytes :=
  props.mainAddress.val ++ encodeBigUint props.spendLimit ++ encodeBigUint props.spentAmount ++
    encodeU64 props.expiryTimestamp

def getCloneKeyInfo (cloneAddress : Address) (w : Scheduler.World) : List Bytes :=
  match w.cloneKeyProps.get? cloneAddress with
  | none => []
  | some props => [encodeProps props]

def managed (call : CallContext) (data : JsString) : Option Scheduler.Step := do
  let (function, arguments) ← parseCallData (textEncode data)
  match arguments with
  | [argument] => do
      let cloneAddress ← decodeBytes32 argument
      if function = ascii "revokeCloneKey" then some (.revokeCloneKey call cloneAddress)
      else if function = ascii "fundCloneKey" then some (.fundCloneKey call cloneAddress)
      else none
  | _ => none

/-- Every query is answered from one state of the contract. The keys of a wallet come in the
order of the storage. -/
structure Answers (query : Query) (w : Scheduler.World) (wallet : Address) (order : List Address) :
    Prop where
  distinct : order.Nodup
  complete : ∀ cloneAddress, cloneAddress ∈ order ↔ cloneAddress ∈ w.walletCloneKeys wallet
  wallets : query (jsAscii "getWalletCloneKeys") [hexString wallet.val] =
    order.map fun cloneAddress => cloneAddress.val
  infos : ∀ cloneAddress, query (jsAscii "getCloneKeyInfo") [hexString cloneAddress.val] =
    getCloneKeyInfo cloneAddress w

/-! ## Reading a record -/

def shown (texts : AddressTexts) (now : Nat) (props : CloneKeyProperties) : CloneKeyInfo where
  mainAddress := texts.toBech32 props.mainAddress
  spendLimit := props.spendLimit
  spentAmount := props.spentAmount
  expiryTimestamp := numberOfBigInt props.expiryTimestamp.toNat
  remainingBudget := props.spendLimit - props.spentAmount
  isExpired := decide (numberOfBigInt props.expiryTimestamp.toNat ≤ now)

theorem parseCloneKey_encodeProps {props : CloneKeyProperties}
    (limit : FitsBuffer (natBytes props.spendLimit))
    (spent : FitsBuffer (natBytes props.spentAmount)) (texts : AddressTexts) (now : Nat) :
    parseCloneKey texts now (encodeProps props) = some (shown texts now props) := by
  have start : Ahead (encodeProps props) 0 (props.mainAddress.val ++
      (encodeBuffer (natBytes props.spendLimit) ++ (encodeBuffer (natBytes props.spentAmount) ++
        (encodeU64 props.expiryTimestamp ++ [])))) := by
    simp only [Ahead, encodeProps, encodeBigUint, List.drop_zero, List.append_assoc,
      List.append_nil]
  have address : decodeBytes32 (subarray (encodeProps props) 0 (0 + 32)) =
      some props.mainAddress := by
    rw [start.subarray props.mainAddress.length_eq, decodeBytes32_val]
  obtain ⟨limitLen, limitDigits, afterLimit⟩ :=
    (start.past props.mainAddress.length_eq).buffer limit
  obtain ⟨spentLen, spentDigits, afterSpent⟩ := afterLimit.buffer spent
  have expiry := afterSpent.subarray (length_encodeU64 props.expiryTimestamp)
  rw [Nat.zero_add] at *
  unfold parseCloneKey
  simp only [address, limitLen, limitDigits, spentLen, spentDigits, expiry, beValue_natBytes,
    beValue_encodeU64, length_encodeU64, Option.bind_eq_bind, Option.bind_some, Option.pure_def]
  rfl

/-! ## The list -/

namespace Sample

open Scheduler.Sample (alice bob)

def aliceText : JsString :=
  jsAscii "erd1qcrqvpsxqcrqvpsxqcrqvpsxqcrqvpsxqcrqvpsxqcrqvpsxqcrqwkh39e"

/-- The text of one address is its own; the others get texts of another length. -/
def texts : AddressTexts where
  newFromBech32 text :=
    if text = aliceText then some alice else decodeBytes32 (bufferFromHex (text.drop 4))
  toBech32 address :=
    if address = alice then aliceText else jsAscii "erd1" ++ hexString address.val
  newFromBech32_toBech32 := by
    intro address
    split
    next here => rw [if_pos rfl, here]
    next other =>
      have long : (jsAscii "erd1" ++ hexString address.val).length = 68 := by
        rw [List.length_append, length_hexString, address.length_eq]
        rfl
      have different : jsAscii "erd1" ++ hexString address.val ≠ aliceText := by
        intro same
        rw [same] at long
        exact absurd long (by decide)
      have prefixed : (jsAscii "erd1").length = 4 := rfl
      rw [if_neg different, List.drop_left' prefixed, bufferFromHex_hexString]
      exact dif_pos address.length_eq

def query (w : Scheduler.World) : Query := fun function arguments =>
  if function = jsAscii "getWalletCloneKeys" then
    if arguments = [hexString alice.val] then [bob.val] else []
  else
    match arguments with
    | [argument] =>
        match decodeBytes32 (bufferFromHex argument) with
        | some cloneAddress => getCloneKeyInfo cloneAddress w
        | none => []
    | _ => []

theorem answers {w : Scheduler.World} (one : w.walletCloneKeys alice = {bob}) :
    Answers (query w) w alice [bob] where
  distinct := List.nodup_singleton bob
  complete cloneAddress := by
    rw [one]
    simp
  wallets := rfl
  infos cloneAddress := by
    have other : jsAscii "getCloneKeyInfo" ≠ jsAscii "getWalletCloneKeys" := by decide
    rw [query, if_neg other]
    simp only [bufferFromHex_hexString, decodeBytes32_val]

end Sample

section Listed

variable {chain : Chain} {texts : AddressTexts} {query : Query} {start w later : Scheduler.World}
  {steps further : List Scheduler.Step} {wallet : Address} {order : List Address} {now : Nat}

/-- The page shows a key as the contract keeps it: whose it is, what it may spend and has
spent, when it expires as far as a JavaScript number can say, and whether it still acts for its
main wallet. -/
structure Shows (texts : AddressTexts) (now : Nat) (w : Scheduler.World) (wallet : Address)
    (cloneAddress : Address) (info : CloneKeyInfo) : Prop where
  mainAddress : info.mainAddress = texts.toBech32 wallet
  budget : ∃ props, w.cloneKeyProps.get? cloneAddress = some props ∧
    info.spendLimit = props.spendLimit ∧ info.spentAmount = props.spentAmount ∧
    info.remainingBudget = props.unspent ∧
    info.expiryTimestamp = numberOfBigInt props.expiryTimestamp.toNat ∧
    (props.expiryTimestamp.toNat < 2 ^ 53 → info.expiryTimestamp = props.expiryTimestamp.toNat)
  acting : ∀ call : CallContext, call.caller = cloneAddress → call.blockTimestamp.toNat = now →
    (Scheduler.resolveCaller call w = (wallet, true) ↔ info.isExpired = false)

theorem fits_capped {amount : Nat} (capped : amount ≤ Constants.maxCloneKeySpendLimit) :
    FitsBuffer (natBytes amount) := by
  by_contra long
  have wide : 8 < (natBytes amount).length :=
    Nat.lt_of_lt_of_le (by decide) (Nat.le_of_not_lt long)
  have large := Nat.le_trans (le_of_length_natBytes wide) capped
  exact absurd large (by decide)

theorem shows_shown (exactNow : now < 2 ^ 53) (sound : Scheduler.KeysSound w)
    {cloneAddress : Address} {props : CloneKeyProperties}
    (found : w.cloneKeyProps.get? cloneAddress = some props) (owned : props.mainAddress = wallet) :
    Shows texts now w wallet cloneAddress (shown texts now props) where
  mainAddress := congrArg texts.toBech32 owned
  budget := by
    have remaining : (shown texts now props).remainingBudget = props.unspent :=
      (Int.ofNat_sub (sound.records _ _ found).within).symm
    exact ⟨props, found, rfl, rfl, remaining, rfl, numberOfBigInt_exact⟩
  acting call caller time := by
    subst caller time
    rw [Scheduler.resolveCaller, found, shown, decide_eq_false_iff_not,
      numberOfBigInt_le_iff exactNow]
    simp only
    split
    next expired => simp [UInt64.le_iff_toNat_le.mp expired]
    next live =>
      rw [owned]
      simpa [UInt64.le_iff_toNat_le] using live

theorem length_encodeProps (props : CloneKeyProperties) : ¬(encodeProps props).length < 32 + 4 := by
  simp only [encodeProps, encodeBigUint, encodeBuffer, encodeLength, encodeU64, List.length_append,
    length_beBytes, props.mainAddress.length_eq]
  omega

/-- The loop over the keys. -/
theorem fetchInfos_shows (texts : AddressTexts) (exactNow : now < 2 ^ 53)
    (sound : Scheduler.KeysSound w)
    (infos : ∀ cloneAddress, query (jsAscii "getCloneKeyInfo") [hexString cloneAddress.val] =
      getCloneKeyInfo cloneAddress w)
    (listed : ∀ cloneAddress ∈ order, cloneAddress ∈ w.walletCloneKeys wallet) :
    ∃ shownKeys, fetchInfos texts query now (order.map fun cloneAddress => cloneAddress.val) =
      some shownKeys ∧ List.Forall₂ (Shows texts now w wallet) order shownKeys := by
  induction order with
  | nil => exact ⟨[], rfl, .nil⟩
  | cons cloneAddress rest inductionHypothesis =>
      obtain ⟨shownKeys, fetched, shows⟩ := inductionHypothesis fun other member =>
        listed other (.tail _ member)
      obtain ⟨props, found, owned⟩ := (sound.listed cloneAddress wallet).mpr (listed _ (.head _))
      have record := sound.records _ _ found
      have filled : cloneAddress.val.length ≠ 0 := by
        rw [cloneAddress.length_eq]
        decide
      have parsed : parseCloneKey texts now (encodeProps props) = some (shown texts now props) :=
        parseCloneKey_encodeProps (fits_capped record.capped)
          (fits_capped (Nat.le_trans record.within record.capped)) texts now
      refine ⟨shown texts now props :: shownKeys, ?_, .cons (shows_shown exactNow sound found owned)
        shows⟩
      rw [List.map_cons, fetchInfos, if_neg filled, infos, getCloneKeyInfo, found]
      simp only [if_neg (length_encodeProps props), parsed, fetched, Option.bind_eq_bind,
        Option.bind_some, Option.pure_def]

theorem keysSound_run (started : Scheduler.Deployed start)
    (trace : Trace (Scheduler.step chain) (fun _ _ => True) start steps w) :
    Scheduler.KeysSound w :=
  trace.preserves Scheduler.KeysSound (fun _ _ _ _ sound stepped => sound.step stepped)
    started.keysSound

theorem fetchCloneKeys_shows (texts : AddressTexts) (exactNow : now < 2 ^ 53)
    (sound : Scheduler.KeysSound w) (answers : Answers query w wallet order) :
    ∃ shownKeys, fetchCloneKeys texts query now (texts.toBech32 wallet) = some shownKeys ∧
      List.Forall₂ (Shows texts now w wallet) order shownKeys := by
  obtain ⟨shownKeys, fetched, shows⟩ := fetchInfos_shows texts exactNow sound
    answers.infos fun cloneAddress member => (answers.complete cloneAddress).mp member
  have read : addressToHex texts.toCore (texts.toBech32 wallet) = some (hexString wallet.val) := by
    rw [addressToHex, texts.newFromBech32_toBech32]
    rfl
  refine ⟨shownKeys, ?_, shows⟩
  rw [fetchCloneKeys, read]
  simp only [Option.bind_eq_bind, Option.bind_some, answers.wallets, fetched]

/-- The page lists the clone keys of the wallet and no others, each as the contract keeps it. -/
theorem clone_keys_shown (texts : AddressTexts) (started : Scheduler.Deployed start)
    (trace : Trace (Scheduler.step chain) (fun _ _ => True) start steps w)
    (answers : Answers query w wallet order) (exactNow : now < 2 ^ 53) :
    ∃ shownKeys, fetchCloneKeys texts query now (texts.toBech32 wallet) = some shownKeys ∧
      List.Forall₂ (Shows texts now w wallet) order shownKeys ∧ shownKeys.length ≤ 3 := by
  have sound := keysSound_run started trace
  obtain ⟨shownKeys, fetched, shows⟩ := fetchCloneKeys_shows texts exactNow sound answers
  refine ⟨shownKeys, fetched, shows, ?_⟩
  have counted : order.toFinset = w.walletCloneKeys wallet := by
    ext cloneAddress
    rw [List.mem_toFinset, answers.complete]
  rw [← shows.length_eq, ← List.toFinset_card_of_nodup answers.distinct, counted]
  exact sound.few wallet

theorem clone_keys_shown_sample :
    ∃ w shownKeys,
      Trace (Scheduler.step sampleChain) (fun _ _ => True) Scheduler.Sample.world
        [Scheduler.Sample.authorizeBob] w ∧
      fetchCloneKeys Sample.texts (Sample.query w) 2000 Sample.aliceText = some shownKeys ∧
      List.Forall₂ (Shows Sample.texts 2000 w Scheduler.Sample.alice) [Scheduler.Sample.bob]
        shownKeys ∧ shownKeys.length ≤ 3 := by
  obtain ⟨w, trace, one⟩ := Trace.of_runChecked (Scheduler.step sampleChain)
    (fun _ _ => True) Scheduler.Sample.world [Scheduler.Sample.authorizeBob]
    (fun w => w.walletCloneKeys Scheduler.Sample.alice = {Scheduler.Sample.bob})
    (by decide +kernel)
  obtain ⟨shownKeys, fetched, shows, few⟩ := clone_keys_shown Sample.texts
    Scheduler.Sample.world_deployed trace (Sample.answers one)
    (show 2000 < 2 ^ 53 by decide)
  exact ⟨w, shownKeys, trace, fetched, shows, few⟩

/-! ## The buttons -/

theorem named_revoke : Named (jsAscii "revokeCloneKey@") (ascii "revokeCloneKey") where
  plain := by decide
  read := by decide
  separated := by decide

theorem named_fund : Named (jsAscii "fundCloneKey@") (ascii "fundCloneKey") where
  plain := by decide
  read := by decide
  separated := by decide

theorem shows_of_mem {keys : List Address} {infos : List CloneKeyInfo} {info : CloneKeyInfo}
    (shows : List.Forall₂ (Shows texts now w wallet) keys infos) (member : info ∈ infos) :
    ∃ cloneAddress, Shows texts now w wallet cloneAddress info := by
  induction shows with
  | nil => cases member
  | @cons cloneAddress first _ _ seen _ inductionHypothesis =>
      rcases List.mem_cons.mp member with rfl | later
      · exact ⟨cloneAddress, seen⟩
      · exact inductionHypothesis later

/-- No wallet is a clone key of its own. -/
theorem own_key_refused (sound : Scheduler.KeysSound w) (call : CallContext)
    {move : Scheduler.Step}
    (own : move = .revokeCloneKey call call.caller ∨ move = .fundCloneKey call call.caller)
    (next : Scheduler.World) : Scheduler.step chain w move ≠ .ok next := by
  intro stepped
  have keyed := Scheduler.step_keyed stepped
  rcases own with rfl | rfl
  · cases keyed with
    | revoked found owned _ _ _ => exact (sound.records _ _ found).foreign owned.symm
    | charged _ unmanaged => cases unmanaged
    | untouched _ unmanaged => cases unmanaged
  · cases keyed with
    | funded found owned _ _ _ => exact (sound.records _ _ found).foreign owned.symm
    | charged _ unmanaged => cases unmanaged
    | untouched _ unmanaged => cases unmanaged

theorem managed_own (call : CallContext) :
    managed call (jsAscii "revokeCloneKey@" ++ hexString call.caller.val) =
        some (.revokeCloneKey call call.caller) ∧
      managed call (jsAscii "fundCloneKey@" ++ hexString call.caller.val) =
        some (.fundCloneKey call call.caller) := by
  have other : ascii "fundCloneKey" ≠ ascii "revokeCloneKey" := by decide
  unfold managed
  constructor
  · rw [parseCallData_hexString named_revoke]
    simp only [Option.bind_eq_bind, Option.bind_some, decodeBytes32_val, if_true]
  · rw [parseCallData_hexString named_fund]
    simp only [Option.bind_eq_bind, Option.bind_some, decodeBytes32_val, if_neg other, if_true]

/-- The buttons beside the clone keys of a wallet never do anything: the contract refuses what
they send, now and later. -/
theorem shown_keys_unmanaged (started : Scheduler.Deployed start)
    (trace : Trace (Scheduler.step chain) (fun _ _ => True) start steps w)
    (answers : Answers query w wallet order) (exactNow : now < 2 ^ 53)
    {shownKeys : List CloneKeyInfo}
    (fetched : fetchCloneKeys texts query now (texts.toBech32 wallet) = some shownKeys)
    {info : CloneKeyInfo} (member : info ∈ shownKeys)
    (onwards : Trace (Scheduler.step chain) (fun _ _ => True) w further later)
    {call : CallContext} (signed : call.caller = wallet) {data : JsString}
    (clicked : onRevoke texts info = some data ∨ onFund texts info = some data) :
    ∃ move, managed call data = some move ∧
      ∀ next, Scheduler.step chain later move ≠ .ok next := by
  have sound := keysSound_run started trace
  have sound' : Scheduler.KeysSound later :=
    onwards.preserves Scheduler.KeysSound (fun _ _ _ _ sound stepped => sound.step stepped) sound
  obtain ⟨shownKeys', fetched', shows⟩ := fetchCloneKeys_shows texts exactNow sound
    answers
  obtain rfl := Option.some.inj (fetched.symm.trans fetched')
  obtain ⟨_, seen⟩ := shows_of_mem shows member
  subst signed
  have read : addressToHex texts.toCore info.mainAddress = some (hexString call.caller.val) := by
    rw [seen.mainAddress, addressToHex, texts.newFromBech32_toBech32]
    rfl
  rcases clicked with revoked | funded
  · rw [onRevoke, revokeCloneKey, read] at revoked
    obtain rfl := Option.some.inj revoked
    exact ⟨_, (managed_own call).1, own_key_refused sound' call (.inl rfl)⟩
  · rw [onFund, fundCloneKey, read] at funded
    obtain rfl := Option.some.inj funded
    exact ⟨_, (managed_own call).2, own_key_refused sound' call (.inr rfl)⟩

theorem shown_keys_unmanaged_sample :
    ∃ w info data, Trace (Scheduler.step sampleChain) (fun _ _ => True) Scheduler.Sample.world
        [Scheduler.Sample.authorizeBob] w ∧
      Shows Sample.texts 2000 w Scheduler.Sample.alice Scheduler.Sample.bob info ∧
      onRevoke Sample.texts info = some data ∧
      ∃ move, managed (Scheduler.Sample.call Scheduler.Sample.alice 0 2000) data = some move ∧
        ∀ next, Scheduler.step sampleChain w move ≠ .ok next := by
  obtain ⟨w, trace, one⟩ := Trace.of_runChecked (Scheduler.step sampleChain)
    (fun _ _ => True) Scheduler.Sample.world [Scheduler.Sample.authorizeBob]
    (fun w => w.walletCloneKeys Scheduler.Sample.alice = {Scheduler.Sample.bob})
    (by decide +kernel)
  have soon : 2000 < 2 ^ 53 := by decide
  obtain ⟨shownKeys, fetched, shows⟩ := fetchCloneKeys_shows Sample.texts soon
    (keysSound_run Scheduler.Sample.world_deployed trace) (Sample.answers one)
  obtain ⟨info, _, seen, _, rfl⟩ := List.forall₂_cons_left_iff.mp shows
  have clicked : onRevoke Sample.texts info =
      some (jsAscii "revokeCloneKey@" ++ hexString Scheduler.Sample.alice.val) := by
    rw [onRevoke, revokeCloneKey, seen.mainAddress, addressToHex,
      Sample.texts.newFromBech32_toBech32]
    rfl
  exact ⟨w, info, _, trace, seen, clicked, shown_keys_unmanaged Scheduler.Sample.world_deployed
    trace (Sample.answers one) soon fetched (.head _) (.nil w) rfl (.inl clicked)⟩

end Listed

end XCron.Frontend
