import XCron.Frontend.CloneKeys
import XCron.Registry.Records

/-!
# The keeper panel

`app/keeper/page.tsx` asks the registry for the record of the connected wallet and reads it as
if it began with the stake. A record begins with the keeper's address: the first word of the
address is taken for the length of the stake.
-/

namespace XCron.Frontend

open Platform
open Platform.JsString
open XCron.Registry (paidSince)

/-! ## The page -/

structure KeeperStats where
  isRegistered : Bool
  isActive : Bool
  stake : Nat
  totalExecs : Nat
  successfulExecs : Nat
  failedExecs : Nat
  pendingRewards : Nat
  deriving DecidableEq

def readCounter (data : Bytes) (offset : Nat) : Nat :=
  ((readBigUInt64BE data offset).map numberOfBigInt).getD 0

/-- The record, read off its bytes; nothing where they do not reach beyond the stake. -/
def parseKeeperInfo (data : Bytes) : Option KeeperStats := do
  let offset := 0
  let stakeLen ← readUInt32BE data offset
  let offset := offset + 4
  if offset + stakeLen ≤ data.length then
    let stake := beValue (subarray data offset (offset + stakeLen))
    let offset := offset + stakeLen
    let isActive := decide (25 ≤ data.length ∧ data[data.length - 25]? = some 1)
    let offset := offset + 1
    let totalExecs := readCounter data offset
    let offset := offset + 8
    let successfulExecs := readCounter data offset
    let offset := offset + 8
    let failedExecs := readCounter data offset
    pure ⟨true, isActive, stake, totalExecs, successfulExecs, failedExecs, 0⟩
  else none

/-- What the index of transactions answers. -/
structure Index where
  /-- The values of the registrations of the wallet, one at most is asked for. -/
  registrations : Option (List Nat)
  executions : Option (List JsString)
  results : List (JsString × Nat)

/-- A wallet that has registered, for all that is known of it. -/
def Index.registered (index : Index) : Option KeeperStats :=
  match index.registrations with
  | some (value :: _) => some ⟨true, false, value, 0, 0, 0, 0⟩
  | _ => none

def Index.withExecutions (index : Index) (wallet : JsString) (stats : KeeperStats) : KeeperStats :=
  match index.executions with
  | none | some [] => stats
  | some statuses =>
      let successful := statuses.countP fun status => status = jsAscii "success"
      let failed := statuses.countP fun status => status = jsAscii "fail"
      { stats with
        totalExecs := successful + failed
        successfulExecs := successful
        failedExecs := failed
        pendingRewards :=
          ((index.results.filter fun result => result.1 = wallet).map (·.2)).sum }

/-- `loadData`, as far as the connected wallet is concerned. -/
def loadKeeper (index : Index) (wallet : JsString) (infoRes : List Bytes) : KeeperStats :=
  match (infoRes.head?.bind parseKeeperInfo).or index.registered with
  | some stats => index.withExecutions wallet stats
  | none => ⟨false, false, 0, 0, 0, 0, 0⟩

/-! ## The registry -/

def encodeKeeperInfo (info : KeeperInfo) : Bytes :=
  info.addr.val ++ (encodeBigUint info.stake ++ (encodeU64 info.registeredAt ++
    (encodeU64 (.ofNat info.totalExecutions) ++ (encodeU64 (.ofNat info.successfulExecs) ++
      (encodeU64 (.ofNat info.failedExecs) ++ (encodeBigUint info.slashedAmount ++
        (encodeBool info.active ++ encodeU64 (.ofNat info.consecutiveFailures))))))))

/-- The view fails for an address without a record. -/
def getKeeperInfo (keeper : Address) (w : Registry.World) : List Bytes :=
  match w.keepers.get? keeper with
  | none => []
  | some info => [encodeKeeperInfo info]

def firstWord (keeper : Address) : Nat := beValue (keeper.val.take 4)

/-! ## Reading a record -/

variable {info : KeeperInfo}

theorem length_encodeBigUint (value : Nat) :
    (encodeBigUint value).length = 4 + (natBytes value).length := by
  rw [encodeBigUint, encodeBuffer, List.length_append, length_encodeLength]

theorem length_encodeKeeperInfo (info : KeeperInfo) :
    (encodeKeeperInfo info).length =
      81 + (natBytes info.stake).length + (natBytes info.slashedAmount).length := by
  simp only [encodeKeeperInfo, List.length_append, length_encodeBigUint, length_encodeU64,
    info.addr.length_eq, encodeBool, List.length_singleton]
  omega

theorem readUInt32BE_record (info : KeeperInfo) :
    readUInt32BE (encodeKeeperInfo info) 0 = some (firstWord info.addr) := by
  have long := length_encodeKeeperInfo info
  have front : (encodeKeeperInfo info).take 4 = info.addr.val.take 4 := by
    rw [encodeKeeperInfo, List.take_append_of_le_length (by rw [info.addr.length_eq]; decide)]
  rw [readUInt32BE, if_pos (by omega), List.drop_zero, front, firstWord]

/-- A record is read exactly if it is as long as the first word of the address says. -/
theorem parseKeeperInfo_isSome_iff :
    (parseKeeperInfo (encodeKeeperInfo info)).isSome = true ↔
      4 + firstWord info.addr ≤ (encodeKeeperInfo info).length := by
  unfold parseKeeperInfo
  simp only [readUInt32BE_record, Option.bind_eq_bind, Option.bind_some, Nat.zero_add]
  split
  next reaches => exact iff_of_true rfl reaches
  next beyond => exact iff_of_false (by decide) beyond

theorem parseKeeperInfo_zero (zero : firstWord info.addr = 0) :
    ∃ shown, parseKeeperInfo (encodeKeeperInfo info) = some shown ∧ shown.stake = 0 := by
  have long := length_encodeKeeperInfo info
  unfold parseKeeperInfo
  simp only [readUInt32BE_record, zero, Option.bind_eq_bind, Option.bind_some, Nat.zero_add,
    Nat.add_zero]
  rw [if_pos (by omega)]
  refine ⟨_, rfl, ?_⟩
  rw [subarray, Nat.sub_self, List.take_zero]
  rfl

/-! ## What is shown -/

theorem Index.withExecutions_isActive (index : Index) (wallet : JsString) (stats : KeeperStats) :
    (index.withExecutions wallet stats).isActive = stats.isActive := by
  unfold withExecutions
  split <;> rfl

theorem Index.withExecutions_stake (index : Index) (wallet : JsString) (stats : KeeperStats) :
    (index.withExecutions wallet stats).stake = stats.stake := by
  unfold withExecutions
  split <;> rfl

/-- Without a record nobody is active. -/
theorem loadKeeper_unknown (index : Index) (wallet : JsString) :
    (loadKeeper index wallet []).isActive = false := by
  unfold loadKeeper
  cases registered : index.registered with
  | none => rfl
  | some stats =>
      refine (index.withExecutions_isActive wallet stats).trans ?_
      unfold Index.registered at registered
      split at registered
      · obtain rfl := Option.some.inj registered
        rfl
      · cases registered

/-! ## Runs -/

section Runs

variable {chain : Chain} {start w next : Registry.World} {move : Registry.Step}
  {steps : List Registry.Step} {allowed : Registry.World → Registry.Step → Prop}
  {keeper : Address}

/-- Every record names the keeper that it is kept under. -/
def Addressed (w : Registry.World) : Prop :=
  ∀ keeper info, w.keepers.get? keeper = some info → info.addr = keeper

theorem Addressed.set (addressed : Addressed w) {written : Address} {info : KeeperInfo}
    (same : next.keepers = w.keepers.set written info) (named : info.addr = written) :
    Addressed next := by
  intro keeper stored found
  rw [same] at found
  rcases Cells.of_get?_set found with ⟨rfl, rfl⟩ | ⟨_, found⟩
  · exact named
  · exact addressed keeper stored found

theorem Addressed.rewrite (addressed : Addressed w) {written : Address} {info info' : KeeperInfo}
    (found : w.keepers.get? written = some info)
    (same : next.keepers = w.keepers.set written info') (kept : info'.addr = info.addr) :
    Addressed next :=
  addressed.set same (kept.trans (addressed written info found))

theorem Addressed.step (addressed : Addressed w) (stepped : Registry.step chain w move = .ok next) :
    Addressed next := by
  cases Registry.step_effect stepped with
  | registerKeeper => exact addressed.set rfl rfl
  | addStake found => exact addressed.rewrite found rfl rfl
  | requestUnstake _ found => exact addressed.rewrite found rfl rfl
  | withdrawStake =>
      intro keeper stored found
      rw [Registry.World.withdrawn_keepers] at found
      exact addressed keeper stored (Cells.get?_of_clear found)
  | slashKeeper found =>
      exact addressed.rewrite found (Registry.World.punished_keepers ..) rfl
  | recordSuccess found => exact addressed.rewrite found rfl rfl
  | recordFailure found =>
      exact addressed.rewrite found (Registry.World.punished_keepers ..) rfl
  | _ => exact addressed

theorem addressed_run (deployed : Registry.Deployed start)
    (trace : Trace (Registry.step chain) allowed start steps w) : Addressed w := by
  refine trace.preserves Addressed (fun _ _ _ _ addressed stepped => addressed.step stepped) ?_
  obtain ⟨_, _, _, _, rfl⟩ := deployed.eq_deployed
  intro keeper info found
  simp [Registry.deployed] at found

theorem recorded_run (deployed : Registry.Deployed start)
    (trace : Trace (Registry.step chain) allowed start steps w)
    (found : w.keepers.get? keeper = some info) :
    info.stake + info.slashedAmount = paidSince keeper steps := by
  have recorded : ∀ info, w.keepers.get? keeper = some info →
      Registry.Recorded keeper ([] ++ steps) info := by
    refine trace.history (fun past w => ∀ info, w.keepers.get? keeper = some info →
      Registry.Recorded keeper past info) ?_ ?_
    · intro _ _ _ _ recorded stepped _ found
      exact (Registry.follows_step stepped found).recorded recorded
    · obtain ⟨_, _, _, _, rfl⟩ := deployed.eq_deployed
      intro info found
      simp [Registry.deployed] at found
  exact (recorded info found).stake

theorem length_natBytes_le {value : Nat} (small : value < 2 ^ 256) :
    (natBytes value).length ≤ 32 := by
  by_contra long
  have large := le_of_length_natBytes (Nat.lt_of_not_le long)
  exact absurd small (Nat.not_lt.mpr (Nat.le_trans (by decide) large))

/-- The panel shows nothing of what the registry keeps: a keeper whose address does not begin
with zeros is shown as if it had no record, and never active, and one whose address does has no
stake. -/
theorem keeper_misshown (deployed : Registry.Deployed start)
    (trace : Trace (Registry.step chain) allowed start steps w)
    (found : w.keepers.get? keeper = some info) (paid : paidSince keeper steps < 2 ^ 256)
    (index : Index) (wallet : JsString) :
    (142 ≤ firstWord keeper →
        loadKeeper index wallet (getKeeperInfo keeper w) = loadKeeper index wallet [] ∧
          (loadKeeper index wallet (getKeeperInfo keeper w)).isActive = false) ∧
      (firstWord keeper = 0 →
        (loadKeeper index wallet (getKeeperInfo keeper w)).stake = 0) := by
  have balance := recorded_run deployed trace found
  obtain rfl : info.addr = keeper := addressed_run deployed trace _ _ found
  have view : getKeeperInfo info.addr w = [encodeKeeperInfo info] := by
    rw [getKeeperInfo, found]
  constructor
  · intro large
    have stake : (natBytes info.stake).length ≤ 32 := length_natBytes_le (by omega)
    have slashed : (natBytes info.slashedAmount).length ≤ 32 := length_natBytes_le (by omega)
    have unread : parseKeeperInfo (encodeKeeperInfo info) = none := by
      rw [← Option.not_isSome_iff_eq_none, parseKeeperInfo_isSome_iff, length_encodeKeeperInfo]
      omega
    have same : loadKeeper index wallet (getKeeperInfo info.addr w) =
        loadKeeper index wallet [] := by
      rw [view, loadKeeper, loadKeeper, List.head?_cons, Option.bind_some, unread, List.head?_nil,
        Option.bind_none]
    exact ⟨same, same ▸ loadKeeper_unknown index wallet⟩
  · intro zero
    obtain ⟨shown, read, nothing⟩ := parseKeeperInfo_zero zero
    rw [view, loadKeeper, List.head?_cons, Option.bind_some, read, Option.some_or]
    exact (index.withExecutions_stake wallet shown).trans nothing

end Runs

namespace Sample

def keeperRun : List Registry.Step :=
  [.registerKeeper (Registry.Sample.call Registry.Sample.alice 1000 10),
    .addStake (Registry.Sample.call Registry.Sample.alice 500 11),
    .recordExecution (Registry.Sample.owner 12) Registry.Sample.alice true]

def index : Index := ⟨some [1000], none, []⟩

end Sample

theorem keeper_misshown_sample :
    ∃ w info, Trace (Registry.step sampleChain) (fun _ _ => True) Registry.Sample.registry
        Sample.keeperRun w ∧
      w.keepers.get? Registry.Sample.alice = some info ∧ (info.active = true ∧ info.stake = 1500) ∧
      (142 ≤ firstWord Registry.Sample.alice →
        loadKeeper Sample.index Sample.aliceText (getKeeperInfo Registry.Sample.alice w) =
            loadKeeper Sample.index Sample.aliceText [] ∧
          (loadKeeper Sample.index Sample.aliceText
            (getKeeperInfo Registry.Sample.alice w)).isActive = false) ∧
      (firstWord Registry.Sample.alice = 0 →
        (loadKeeper Sample.index Sample.aliceText
          (getKeeperInfo Registry.Sample.alice w)).stake = 0) := by
  obtain ⟨w, trace, kept⟩ := Trace.of_runChecked (Registry.step sampleChain) (fun _ _ => True)
    Registry.Sample.registry Sample.keeperRun
    (fun w => ∃ info ∈ w.keepers.get? Registry.Sample.alice,
      info.active = true ∧ info.stake = 1500) (by decide +kernel)
  obtain ⟨info, found, stored⟩ := kept
  exact ⟨w, info, trace, found, stored, keeper_misshown Registry.Sample.registry_deployed trace
    found (by decide +kernel) Sample.index Sample.aliceText⟩

end XCron.Frontend
