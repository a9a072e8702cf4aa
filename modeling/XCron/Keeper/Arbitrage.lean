import XCron.HftVault.Inventory
import XCron.Keeper.Swarm
import XCron.Platform.Arguments
import XCron.Platform.Bech32

/-!
# Arbitrage of the keeper

`xcron-keeper-rs/src/main.rs`, mode `ArbitrageHft`, and `bech32_to_hex` of `wallet.rs`: an
opportunity is looked up in a table of routes, and the call that goes to the vault names two
pools. A pool whose address cannot be read becomes the zero address.
-/

namespace XCron.Keeper

open Platform Outcome HftVault

/-! ## Addresses -/

/-- The library for Bech32. It decodes nothing whose checksum is wrong. -/
structure Bech32 where
  decode : Text → Option (List Nat)
  fromBase32 : List Nat → Option Bytes
  decode_unchecked : ∀ {text : Text}, ¬Bech32.Checked text → decode text = none

variable (bech32 : Bech32)

def bech32ToHex (bech32Addr : Text) : Text :=
  match bech32.decode bech32Addr with
  | some data =>
      let bytes := (bech32.fromBase32 data).getD []
      if bytes ≠ [] then hexEncode bytes else List.replicate 64 48
  | none => List.replicate 64 48

/-! ## Routes -/

structure Route where
  tokenMid : Text
  poolB : Text
  endpointB : Text

def xExchange : Text := ascii "erd1qqqqqqqqqqqqqpgqeel2kumf0r8ffyhth7pqdujjat9nx0862jpsg2pqaq"

def ashSwap : Text := ascii "erd1qqqqqqqqqqqqqpgqj5zftf3ef3gqm3gklfcqtzyqrnpwvvu978ssqd0sds"

def mexPool : Text := ascii "erd1qqqqqqqqqqqqqpgq72k29kegrs95xpewqpxs3v0uksq0u8l2jpsgv4x5q8"

def poolRegistry : List (Text × Route) :=
  [(xExchange, ⟨ascii "USDC-c76f1f", ashSwap, ascii "exchange"⟩),
    (ashSwap, ⟨ascii "USDC-c76f1f", xExchange, ascii "swapTokensFixedInput"⟩),
    (mexPool, ⟨ascii "MEX-455c57", mexPool, ascii "swapTokensFixedInput"⟩)]

def Route.arguments (route : Route) (targetDex : Text) : List Text :=
  [hexEncode (ascii "WEGLD-bd4d79"), ascii "6124fee993bc0000", bech32ToHex bech32 targetDex,
    hexEncode route.tokenMid, bech32ToHex bech32 route.poolB, ascii "01",
    ascii "616c0cce733e0000", hexEncode route.endpointB]

def arbitrageData (opp : ArbitrageOpportunity) : Option Text :=
  (poolRegistry.lookup opp.targetDex).map fun route =>
    ascii "executeFlashArbitrage" ++
      (route.arguments bech32 opp.targetDex).flatMap (argumentSeparator :: ·)

/-! ## The vault -/

/-- The arguments with which the endpoint of the vault runs. -/
def receivedArbitrage (data : Text) : Option FlashArbitrage := do
  let (function, arguments) ← parseCallData data
  if function = ascii "executeFlashArbitrage" then
    match arguments with
    | [tokenIn, amountIn, poolA, tokenMid, poolB, minMidAmount, minFinalAmount, endpointB] => do
        let poolA ← decodeBytes32 poolA
        let poolB ← decodeBytes32 poolB
        pure { tokenIn := tokenIn, amountIn := beValue amountIn, poolA := poolA
               tokenMid := tokenMid, poolB := poolB, minMidAmount := beValue minMidAmount
               minFinalAmount := beValue minFinalAmount, endpointB := endpointB }
    | _ => none
  else none

def zeroAddress : Address := .fill 0

/-- Nothing comes back from the zero address. -/
def Vacant (receiver : Address) (pool : Pool) : Prop :=
  receiver = zeroAddress → ∀ sent response, pool sent = some response → response.payments = []

def submit (chain : Chain) (w : HftVault.World) (move : HftVault.Step) : HftVault.World :=
  match HftVault.step chain w move with
  | .ok next => next
  | .error _ => w

def transactions (chain : Chain) (w : HftVault.World) (moves : List HftVault.Step) :
    HftVault.World :=
  moves.foldl (submit chain) w

/-- A transaction to the vault, with whether the keeper has sent it. -/
structure Submission where
  byKeeper : Bool
  move : HftVault.Step

/-- The calls that the keeper sends. -/
def KeeperMade : HftVault.Step → Prop
  | .executeFlashArbitrage _ request poolA poolB =>
      (∃ opp data, arbitrageData bech32 opp = some data ∧ receivedArbitrage data = some request) ∧
        Vacant request.poolA poolA ∧ Vacant request.poolB poolB
  | _ => False

/-! ## What the vault is asked for -/

variable {bech32}

theorem hexDecode_zeros : hexDecode (List.replicate 64 48) = some zeroAddress.val := by decide

theorem hexDecode_bech32ToHex (bech32 : Bech32) (bech32Addr : Text) :
    ∃ bytes, hexDecode (bech32ToHex bech32 bech32Addr) = some bytes := by
  unfold bech32ToHex
  split
  · dsimp only
    split
    · exact ⟨_, hexDecode_hexEncode _⟩
    · exact ⟨_, hexDecode_zeros⟩
  · exact ⟨_, hexDecode_zeros⟩

theorem hexDecode_unchecked {bech32Addr : Text} (wrong : ¬Bech32.Checked bech32Addr) :
    hexDecode (bech32ToHex bech32 bech32Addr) = some zeroAddress.val := by
  unfold bech32ToHex
  rw [bech32.decode_unchecked wrong]
  exact hexDecode_zeros

/-- No route has two pools that can be read. -/
theorem routes_unchecked : ∀ entry ∈ poolRegistry,
    ¬Bech32.Checked entry.1 ∨ ¬Bech32.Checked entry.2.poolB := by
  have ashSwap_unchecked : ¬Bech32.Checked ashSwap := by decide +kernel
  have mexPool_unchecked : ¬Bech32.Checked mexPool := by decide +kernel
  intro entry member
  simp only [poolRegistry, List.mem_cons, List.not_mem_nil, or_false] at member
  rcases member with rfl | rfl | rfl
  · exact .inr ashSwap_unchecked
  · exact .inl ashSwap_unchecked
  · exact .inl mexPool_unchecked

theorem route_arguments {route : Route} {targetDex : Text} {poolA poolB : Bytes}
    (readA : hexDecode (bech32ToHex bech32 targetDex) = some poolA)
    (readB : hexDecode (bech32ToHex bech32 route.poolB) = some poolB) :
    (route.arguments bech32 targetDex).mapM hexDecode =
      some [ascii "WEGLD-bd4d79", beBytes 8 (7 * 10 ^ 18), poolA, route.tokenMid, poolB, [1],
        beBytes 8 (702 * 10 ^ 16), route.endpointB] := by
  have amountIn : hexDecode (ascii "6124fee993bc0000") = some (beBytes 8 (7 * 10 ^ 18)) := by
    decide +kernel
  have minMidAmount : hexDecode (ascii "01") = some [1] := by decide +kernel
  have minFinalAmount : hexDecode (ascii "616c0cce733e0000") = some (beBytes 8 (702 * 10 ^ 16)) := by
    decide +kernel
  simp only [Route.arguments, List.mapM_cons, List.mapM_nil, hexDecode_hexEncode, readA, readB,
    amountIn, minMidAmount, minFinalAmount, Option.pure_def, Option.bind_eq_bind,
    Option.bind_some]

theorem separator_notMem {text : Text} {bytes : Bytes} (read : hexDecode text = some bytes) :
    argumentSeparator ∉ text :=
  fun inside => hexValue_of_mem read inside (by decide)

theorem received_data {route : Route} {targetDex : Text} {poolA poolB : Bytes}
    (readA : hexDecode (bech32ToHex bech32 targetDex) = some poolA)
    (readB : hexDecode (bech32ToHex bech32 route.poolB) = some poolB) :
    receivedArbitrage (ascii "executeFlashArbitrage" ++
        (route.arguments bech32 targetDex).flatMap (argumentSeparator :: ·)) = (do
      let poolA ← decodeBytes32 poolA
      let poolB ← decodeBytes32 poolB
      pure { tokenIn := ascii "WEGLD-bd4d79", amountIn := 7 * 10 ^ 18, poolA := poolA
             tokenMid := route.tokenMid, poolB := poolB, minMidAmount := 1
             minFinalAmount := 702 * 10 ^ 16, endpointB := route.endpointB }) := by
  have read := route_arguments readA readB
  have plain : ∀ argument ∈ route.arguments bech32 targetDex, argumentSeparator ∉ argument := by
    intro argument member
    obtain ⟨bytes, same⟩ := exists_of_mapM read member
    exact separator_notMem same
  have name : argumentSeparator ∉ ascii "executeFlashArbitrage" := by decide +kernel
  have amountIn : beValue (beBytes 8 (7 * 10 ^ 18)) = 7 * 10 ^ 18 := by decide +kernel
  have minFinalAmount : beValue (beBytes 8 (702 * 10 ^ 16)) = 702 * 10 ^ 16 := by decide +kernel
  simp only [receivedArbitrage, parseCallData_arguments name plain, read, Option.map_some,
    Option.bind_eq_bind, Option.bind_some, if_true, amountIn, minFinalAmount]
  rfl

/-- One of the pools that the keeper names is the zero address. -/
theorem pool_zero {opp : ArbitrageOpportunity} {data : Text} {request : FlashArbitrage}
    (asked : arbitrageData bech32 opp = some data) (read : receivedArbitrage data = some request) :
    request.poolA = zeroAddress ∨ request.poolB = zeroAddress := by
  obtain ⟨route, found, rfl⟩ := Option.map_eq_some_iff.mp asked
  obtain ⟨before, after, listed, _⟩ := List.lookup_eq_some_iff.mp found
  have member : (opp.targetDex, route) ∈ poolRegistry := by
    rw [listed]
    exact List.mem_append_right _ List.mem_cons_self
  obtain ⟨bytesA, readA⟩ := hexDecode_bech32ToHex bech32 opp.targetDex
  obtain ⟨bytesB, readB⟩ := hexDecode_bech32ToHex bech32 route.poolB
  rw [received_data readA readB] at read
  simp only [Option.bind_eq_bind, Option.bind_eq_some_iff, Option.pure_def,
    Option.some.injEq] at read
  obtain ⟨poolA, decodedA, poolB, decodedB, rfl⟩ := read
  rcases routes_unchecked _ member with wrong | wrong
  · obtain rfl := Option.some.inj (readA.symm.trans (hexDecode_unchecked wrong))
    exact .inl (Option.some.inj (decodedA.symm.trans (decodeBytes32_val zeroAddress)))
  · obtain rfl := Option.some.inj (readB.symm.trans (hexDecode_unchecked wrong))
    exact .inr (Option.some.inj (decodedB.symm.trans (decodeBytes32_val zeroAddress)))

/-! ## What the vault does -/

section Runs

variable {chain : Chain} {start w next final : HftVault.World} {request : FlashArbitrage}
  {poolA poolB : Pool}

theorem syncCall_vacant {pool : Pool} {sent : SyncCall} {payments : List EsdtPayment}
    (empty : ∀ sent response, pool sent = some response → response.payments = [])
    (called : w.syncCall pool sent = .ok (payments, next)) : payments = [] := by
  simp only [World.syncCall, bind_eq_ok] at called
  obtain ⟨holdings, _, answered⟩ := called
  cases response : pool sent with
  | none =>
      rw [response] at answered
      cases answered
  | some response' =>
      rw [response] at answered
      obtain ⟨rfl, _⟩ := Prod.mk.inj ((pure_eq_ok _ _).mp answered)
      exact empty sent response' response

theorem arbitrage_refused {call : CallContext} (vacantA : Vacant request.poolA poolA)
    (vacantB : Vacant request.poolB poolB)
    (zero : request.poolA = zeroAddress ∨ request.poolB = zeroAddress) :
    executeFlashArbitrage chain call request poolA poolB w ≠ .ok next := by
  intro executed
  simp only [executeFlashArbitrage, bind_eq_ok, require_eq_ok] at executed
  obtain ⟨_, _, _, _, _, _, ⟨midPayments, middle⟩, calledA, _, returned, _, _, _, _,
    ⟨finalPayments, _⟩, calledB, _, returned', _⟩ := executed
  rcases zero with zeroA | zeroB
  · exact returned (syncCall_vacant (vacantA zeroA) calledA)
  · exact returned' (syncCall_vacant (w := middle) (vacantB zeroB) calledB)

theorem submit_keeperMade {move : HftVault.Step} (made : KeeperMade bech32 move) :
    submit chain w move = w := by
  cases move with
  | executeFlashArbitrage call request poolA poolB =>
      obtain ⟨⟨opp, data, asked, read⟩, vacantA, vacantB⟩ := made
      unfold submit
      split
      next next stepped =>
        simp only [HftVault.step, bind_eq_ok] at stepped
        obtain ⟨_, _, executed⟩ := stepped
        exact absurd executed (arbitrage_refused vacantA vacantB (pool_zero asked read))
      next => rfl
  | _ => exact made.elim

/-- The keeper never trades: whatever opportunities it finds, whatever the pools answer and
whatever others send, the vault is as if none of its calls had been sent. -/
theorem keeper_never_trades {submissions : List Submission}
    (made : ∀ submission ∈ submissions, submission.byKeeper = true →
      KeeperMade bech32 submission.move) :
    transactions chain w (submissions.map Submission.move) =
      transactions chain w ((submissions.filter fun submission => !submission.byKeeper).map
        Submission.move) := by
  induction submissions generalizing w with
  | nil => rfl
  | cons submission submissions inductionHypothesis =>
      obtain ⟨here, others⟩ := List.forall_mem_cons.mp made
      have later := inductionHypothesis (w := submit chain w submission.move) others
      cases sender : submission.byKeeper with
      | true =>
          have kept : submit chain w submission.move = w := submit_keeperMade (here sender)
          rw [kept] at later
          rw [List.filter_cons_of_neg (by simp [sender]), ← later, transactions, List.map_cons,
            List.foldl_cons, kept, transactions]
      | false =>
          rw [List.filter_cons_of_pos (by simp [sender])]
          exact later

end Runs

namespace Sample

def library : Bech32 :=
  { decode := Platform.Bech32.decode
    fromBase32 := Platform.Bech32.regroup 0 0
    decode_unchecked := Platform.Bech32.decode_unchecked }

def bot : CallContext := HftVault.Sample.call

def funding : CallContext := { bot with esdtTransfers := [⟨ascii "WEGLD-bd4d79", 0, 9 * 10 ^ 18⟩] }

def opportunity : ArbitrageOpportunity := ⟨ascii "aa", 1000000000, xExchange, ascii "omni_swap"⟩

def xExchangeAddress : Address :=
  ⟨[0, 0, 0, 0, 0, 0, 0, 0, 5, 0, 206, 126, 171, 115, 105, 120, 206, 148, 146, 235, 191, 130, 6,
    242, 82, 234, 203, 51, 60, 250, 84, 131], rfl⟩

def request : FlashArbitrage :=
  { tokenIn := ascii "WEGLD-bd4d79", amountIn := 7 * 10 ^ 18, poolA := xExchangeAddress
    tokenMid := ascii "USDC-c76f1f", poolB := zeroAddress, minMidAmount := 1
    minFinalAmount := 702 * 10 ^ 16, endpointB := ascii "exchange" }

def poolA : Pool := fun _ => some ⟨[⟨ascii "USDC-c76f1f", 0, 120⟩], []⟩

def route : Route := ⟨ascii "USDC-c76f1f", ashSwap, ascii "exchange"⟩

theorem opportunity_asked : ∃ data, arbitrageData library opportunity = some data ∧
    receivedArbitrage data = some request := by
  have found : poolRegistry.lookup opportunity.targetDex = some route := List.lookup_cons_self
  have readA : hexDecode (bech32ToHex library opportunity.targetDex) =
      some xExchangeAddress.val := by
    decide +kernel
  have readB : hexDecode (bech32ToHex library route.poolB) = some zeroAddress.val := by
    decide +kernel
  refine ⟨_, Option.map_eq_some_iff.mpr ⟨route, found, rfl⟩, ?_⟩
  rw [received_data readA readB, decodeBytes32_val, decodeBytes32_val]
  rfl

end Sample

def Sample.submissions : List Submission :=
  [⟨false, .deposit funding⟩,
    ⟨true, .executeFlashArbitrage bot request poolA fun _ => none⟩,
    ⟨false, .executeFlashArbitrage { bot with caller := sampleChain.ownerAddress } request poolA
      fun _ => some ⟨[⟨ascii "WEGLD-bd4d79", 0, 8 * 10 ^ 18⟩], []⟩⟩]

theorem keeper_never_trades_sample :
    transactions sampleChain (init HftVault.Sample.bot) (Sample.submissions.map Submission.move) =
      transactions sampleChain (init HftVault.Sample.bot)
        ((Sample.submissions.filter fun submission => !submission.byKeeper).map
          Submission.move) := by
  refine @keeper_never_trades Sample.library _ _ _ ?_
  intro submission member sent
  simp only [Sample.submissions, List.mem_cons, List.not_mem_nil, or_false] at member
  rcases member with rfl | rfl | rfl
  · cases sent
  · obtain ⟨data, asked, read⟩ := Sample.opportunity_asked
    refine ⟨⟨Sample.opportunity, data, asked, read⟩, ?_, fun _ _ _ absent => by cases absent⟩
    intro zero
    exact absurd zero (by decide)
  · cases sent

end XCron.Keeper
