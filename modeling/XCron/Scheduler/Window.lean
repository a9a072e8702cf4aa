import XCron.Scheduler.Whitelists

/-!
# The exclusive window

The keeper guide promises an assigned keeper the first thirty seconds of a ripe task,
and every keeper the time after them. `perform_round_robin_check` draws the keeper
anew from the seed of each block, measures the wait in block times that it always reads
as seconds, and takes a task without a time trigger to become ripe in the block at
hand. The results below say for which blocks the promise is kept all the same.
-/

namespace XCron.Scheduler

open Platform

variable {chain : Chain} {w : World}

/-! ## Times -/

def windowMs : Nat := 30000

def triggerTime : Trigger → Option UInt64
  | .timeOnce targetTime => some targetTime
  | .timeRecurring startTime _ _ => some startTime
  | _ => none

/-- When a task becomes ripe, in milliseconds: a time trigger says so itself, the
condition of any other trigger is met at some moment. -/
def ripeAt (met : Nat) (trigger : Trigger) : Nat :=
  match triggerTime trigger with
  | some time => time.toNat
  | none => met

def blockTimeMs (block : CallContext) : Nat := (getTimestampMs block).toNat

def InWindow (ripe : Nat) (block : CallContext) : Prop :=
  ripe ≤ blockTimeMs block ∧ blockTimeMs block < ripe + windowMs

def AfterWindow (ripe : Nat) (block : CallContext) : Prop := ripe + windowMs ≤ blockTimeMs block

/-- The time of the block counts seconds. -/
def Seconds (block : CallContext) : Prop := block.blockTimestamp.toNat ≤ 100000000000

/-- The time of a block, read as seconds, in milliseconds. -/
def scaledTime (block : CallContext) : Nat := block.blockTimestamp.toNat * 1000

theorem blockTimeMs_eq (block : CallContext) :
    (Seconds block ∧ blockTimeMs block = scaledTime block) ∨
      (¬Seconds block ∧ blockTimeMs block = block.blockTimestamp.toNat) := by
  have below := block.blockTimestamp.toNat_lt
  have threshold : (block.blockTimestamp > 100000000000) ↔ ¬Seconds block := by
    rw [GT.gt, UInt64.lt_iff_toNat_lt, Seconds, Nat.not_le]
    rfl
  unfold blockTimeMs getTimestampMs scaledTime
  by_cases seconds : Seconds block
  · have fits : block.blockTimestamp.toNat ≤ 100000000000 := seconds
    rw [if_neg (mt threshold.mp (not_not_intro seconds)), UInt64.toNat_mul]
    refine .inl ⟨seconds, Nat.mod_eq_of_lt ?_⟩
    rw [show UInt64.toNat 1000 = 1000 from rfl]
    omega
  · rw [if_pos (threshold.mpr seconds)]
    exact .inr ⟨seconds, rfl⟩

/-! ## The check -/

def Passes (chain : Chain) (w : World) (payload : Task) (hash : TaskHash) (block : CallContext)
    (keeper : Address) : Prop :=
  performRoundRobinCheck chain block payload hash keeper w = .ok ()

/-- The residue of the digest of hash, ripe time and seed that picks the slot. -/
def drawnSlot (chain : Chain) (payload : Task) (hash : TaskHash) (keeperCount : Nat)
    (block : CallContext) : Nat :=
  beValue ((chain.sha256 (hash.val ++ encodeU64 (ripeTimeMs block payload.trigger) ++
    block.blockRandomSeed)).val.take 8) % keeperCount

/-- The grace period of the check has passed, in machine arithmetic. -/
def Elapsed (trigger : Trigger) (block : CallContext) : Prop :=
  ripeTimeMs block trigger + Constants.roundRobinGraceSeconds * 1000 ≤ block.blockTimestamp * 1000

theorem grace_toNat : (Constants.roundRobinGraceSeconds * 1000).toNat = windowMs := rfl

theorem elapsed_time_iff {trigger : Trigger} {time : UInt64} (timed : triggerTime trigger = some time)
    (block : CallContext) :
    Elapsed trigger block ↔ (time.toNat + windowMs) % 2 ^ 64 ≤ scaledTime block % 2 ^ 64 := by
  have ripe : ripeTimeMs block trigger = time := by
    cases trigger <;> simp_all [triggerTime, ripeTimeMs]
  rw [Elapsed, ripe, UInt64.le_iff_toNat_le, UInt64.toNat_add, grace_toNat, UInt64.toNat_mul]
  rfl

theorem elapsed_other_iff {trigger : Trigger} (untimed : triggerTime trigger = none)
    (block : CallContext) :
    Elapsed trigger block ↔ 2 ^ 64 ≤ scaledTime block % 2 ^ 64 + windowMs := by
  have ripe : ripeTimeMs block trigger = block.blockTimestamp * 1000 := by
    cases trigger <;> simp_all [triggerTime, ripeTimeMs]
  rw [Elapsed, ripe, UInt64.le_iff_toNat_le, UInt64.toNat_add, grace_toNat, UInt64.toNat_mul]
  change (scaledTime block % 2 ^ 64 + windowMs) % 2 ^ 64 ≤ scaledTime block % 2 ^ 64 ↔ _
  have below : scaledTime block % 2 ^ 64 < 2 ^ 64 := Nat.mod_lt _ (by decide)
  unfold windowMs
  omega

section Keepers

variable {payload : Task} {hash : TaskHash} {keepers : List Address}
  (slots : w.config.keeperList = keepers.map some) (many : 1 < keepers.length)

include slots many

theorem passes_iff (block : CallContext) (keeper : Address) :
    Passes chain w payload hash block keeper ↔
      keepers[drawnSlot chain payload hash keepers.length block]? = some keeper ∨
        Elapsed payload.trigger block := by
  have length : w.config.keeperList.length = keepers.length := by rw [slots, List.length_map]
  have drawn : drawnSlot chain payload hash keepers.length block < keepers.length :=
    Nat.mod_lt _ (Nat.zero_lt_of_lt many)
  have index : roundRobinIndex chain block payload hash keepers.length =
      drawnSlot chain payload hash keepers.length block + 1 := rfl
  unfold Passes performRoundRobinCheck
  rw [length, if_pos many, index, vecGet_of_full slots drawn, List.getElem?_eq_getElem drawn,
    Option.some.injEq]
  simp only [Bind.bind, Except.bind, Outcome.require_eq_ok, List.get_eq_getElem, Elapsed]
  rw [eq_comm, Decidable.or_iff_not_imp_left]

end Keepers

/-! ## The promise -/

/-- In the blocks of the window at most one whitelisted keeper passes, the same one in
all of them; in later blocks every whitelisted keeper does. -/
structure ExclusiveWindow (chain : Chain) (w : World) (payload : Task) (hash : TaskHash)
    (met : Nat) (blocks : List CallContext) : Prop where
  exclusive : ∃ fixed, ∀ block ∈ blocks, InWindow (ripeAt met payload.trigger) block →
    ∀ keeper ∈ w.config.whitelistedKeepers, Passes chain w payload hash block keeper →
      keeper = fixed
  opened : ∀ block ∈ blocks, AfterWindow (ripeAt met payload.trigger) block →
    ∀ keeper ∈ w.config.whitelistedKeepers, Passes chain w payload hash block keeper

/-- All blocks of the window draw the same slot. -/
def SameDraw (chain : Chain) (w : World) (payload : Task) (hash : TaskHash) (met : Nat)
    (blocks : List CallContext) : Prop :=
  ∀ block ∈ blocks, ∀ other ∈ blocks, InWindow (ripeAt met payload.trigger) block →
    InWindow (ripeAt met payload.trigger) other →
    drawnSlot chain payload hash w.config.keeperList.length block =
      drawnSlot chain payload hash w.config.keeperList.length other

/-- With a time trigger, the window has no block that counts milliseconds; with any
other trigger, no block comes after the window. What else can be are block times that
overflow when they are read as seconds. -/
def WellTimed (met : Nat) (trigger : Trigger) (blocks : List CallContext) : Prop :=
  match triggerTime trigger with
  | some time =>
      (∀ block ∈ blocks, InWindow time.toNat block → Seconds block ∨
        (2 ^ 64 ≤ scaledTime block ∧
          scaledTime block % 2 ^ 64 < (time.toNat + windowMs) % 2 ^ 64)) ∧
      ∀ block ∈ blocks, AfterWindow time.toNat block → 2 ^ 64 ≤ scaledTime block →
        time.toNat + windowMs ≤ scaledTime block % 2 ^ 64
  | none =>
      (∀ block ∈ blocks, InWindow met block → scaledTime block % 2 ^ 64 + windowMs < 2 ^ 64) ∧
      ∀ block ∈ blocks, AfterWindow met block → 2 ^ 64 ≤ scaledTime block % 2 ^ 64 + windowMs

theorem exists_undrawn {keepers : List Address} (distinct : keepers.Nodup)
    (many : 1 < keepers.length) (drawn : Nat) :
    ∃ keeper ∈ keepers, keepers[drawn]? ≠ some keeper := by
  match keepers, distinct, many with
  | first :: second :: rest, distinct, _ =>
      have different : first ≠ second := by
        rintro rfl
        simp at distinct
      by_cases isFirst : (first :: second :: rest)[drawn]? = some first
      · refine ⟨second, by simp, ?_⟩
        rw [isFirst]
        simpa using different
      · exact ⟨first, by simp, isFirst⟩

section Promise

variable {payload : Task} {hash : TaskHash} {met : Nat} {blocks : List CallContext}

/-- The window is exclusive exactly if the wait is not over in it and its blocks agree
on the slot. -/
theorem exclusive_iff (mirrors : w.config.Mirrors) (many : 1 < w.config.keeperList.length) :
    (∃ fixed, ∀ block ∈ blocks, InWindow (ripeAt met payload.trigger) block →
        ∀ keeper ∈ w.config.whitelistedKeepers, Passes chain w payload hash block keeper →
          keeper = fixed) ↔
      (∀ block ∈ blocks, InWindow (ripeAt met payload.trigger) block →
        ¬Elapsed payload.trigger block) ∧ SameDraw chain w payload hash met blocks := by
  obtain ⟨keepers, slots, distinct, listed⟩ := mirrors
  have length : w.config.keeperList.length = keepers.length := by rw [slots, List.length_map]
  rw [length] at many
  have drawn : ∀ block, drawnSlot chain payload hash keepers.length block < keepers.length :=
    fun block => Nat.mod_lt _ (Nat.zero_lt_of_lt many)
  have passes : ∀ block keeper, Passes chain w payload hash block keeper ↔ _ :=
    passes_iff slots many
  simp only [SameDraw, length, ← listed, List.mem_toFinset, passes]
  constructor
  · rintro ⟨fixed, only⟩
    have isFixed : ∀ block ∈ blocks, InWindow (ripeAt met payload.trigger) block →
        keepers[drawnSlot chain payload hash keepers.length block]? = some fixed := by
      intro block member inside
      have entry := List.getElem?_eq_getElem (drawn block)
      rw [entry, only block member inside _ (List.getElem_mem _) (.inl entry)]
    refine ⟨?_, ?_⟩
    · intro block member inside elapsed
      obtain ⟨keeper, listed, undrawn⟩ := exists_undrawn distinct many
        (drawnSlot chain payload hash keepers.length block)
      refine undrawn ?_
      rw [only block member inside keeper listed (.inr elapsed)]
      exact isFixed block member inside
    · intro block member other member' inside inside'
      refine (List.getElem?_inj (drawn block) distinct).mp ?_
      rw [isFixed block member inside, isFixed other member' inside']
  · rintro ⟨waiting, same⟩
    by_cases nonempty : ∃ block ∈ blocks, InWindow (ripeAt met payload.trigger) block
    · obtain ⟨first, member, inside⟩ := nonempty
      have entry := List.getElem?_eq_getElem (drawn first)
      refine ⟨keepers.get ⟨_, drawn first⟩, fun block member' inside' keeper _ passed => ?_⟩
      rcases passed with drawn' | elapsed
      · rw [same block member' first member inside' inside, entry] at drawn'
        exact (Option.some.inj drawn').symm
      · exact absurd elapsed (waiting block member' inside')
    · refine ⟨Bytes32.zero, fun block member inside => ?_⟩
      exact absurd ⟨block, member, inside⟩ nonempty

theorem opened_iff (mirrors : w.config.Mirrors) (many : 1 < w.config.keeperList.length) :
    (∀ block ∈ blocks, AfterWindow (ripeAt met payload.trigger) block →
        ∀ keeper ∈ w.config.whitelistedKeepers, Passes chain w payload hash block keeper) ↔
      ∀ block ∈ blocks, AfterWindow (ripeAt met payload.trigger) block →
        Elapsed payload.trigger block := by
  obtain ⟨keepers, slots, distinct, listed⟩ := mirrors
  have length : w.config.keeperList.length = keepers.length := by rw [slots, List.length_map]
  rw [length] at many
  constructor
  · intro everyone block member after
    obtain ⟨keeper, present, undrawn⟩ := exists_undrawn distinct many
      (drawnSlot chain payload hash keepers.length block)
    rw [← List.mem_toFinset, listed] at present
    rcases (passes_iff slots many block keeper).mp (everyone block member after keeper present) with
      drawn | elapsed
    · exact absurd drawn undrawn
    · exact elapsed
  · intro elapsed block member after keeper _
    exact (passes_iff slots many block keeper).mpr (.inr (elapsed block member after))

end Promise

section Arithmetic

variable {trigger : Trigger} {block : CallContext} {time : UInt64}

/-- In the window of a time trigger the wait is over for a block in milliseconds, unless
its time overflows when it is read as seconds. -/
theorem waiting_iff (timed : triggerTime trigger = some time) (inside : InWindow time.toNat block) :
    ¬Elapsed trigger block ↔ Seconds block ∨ (2 ^ 64 ≤ scaledTime block ∧
      scaledTime block % 2 ^ 64 < (time.toNat + windowMs) % 2 ^ 64) := by
  rw [elapsed_time_iff timed, Nat.not_le]
  obtain ⟨lower, upper⟩ := inside
  rcases Nat.lt_or_ge (scaledTime block) (2 ^ 64) with fits | overflows
  · rw [Nat.mod_eq_of_lt fits]
    have early : (time.toNat + windowMs) % 2 ^ 64 = time.toNat + windowMs := by
      apply Nat.mod_eq_of_lt
      rcases blockTimeMs_eq block with ⟨seconds, same⟩ | ⟨_, same⟩ <;>
        simp only [same, scaledTime, windowMs, Seconds] at * <;> omega
    rw [early]
    rcases blockTimeMs_eq block with ⟨seconds, same⟩ | ⟨millis, same⟩
    · simp only [seconds, true_or, iff_true]
      omega
    · have late : 100000000000 < block.blockTimestamp.toNat := Nat.lt_of_not_le millis
      simp only [millis, scaledTime, windowMs, false_or] at *
      omega
  · have millis : ¬Seconds block := by
      intro seconds
      simp only [Seconds, scaledTime] at seconds overflows
      omega
    simp only [millis, overflows, false_or, true_and]

theorem elapsed_after_iff (timed : triggerTime trigger = some time)
    (after : AfterWindow time.toNat block) :
    Elapsed trigger block ↔
      (2 ^ 64 ≤ scaledTime block → time.toNat + windowMs ≤ scaledTime block % 2 ^ 64) := by
  have below := block.blockTimestamp.toNat_lt
  unfold AfterWindow at after
  rw [elapsed_time_iff timed]
  have early : (time.toNat + windowMs) % 2 ^ 64 = time.toNat + windowMs := by
    apply Nat.mod_eq_of_lt
    rcases blockTimeMs_eq block with ⟨seconds, same⟩ | ⟨_, same⟩ <;>
      simp only [same, scaledTime, Seconds] at * <;> omega
  rw [early]
  rcases Nat.lt_or_ge (scaledTime block) (2 ^ 64) with fits | overflows
  · rw [Nat.mod_eq_of_lt fits]
    have scaled : blockTimeMs block ≤ scaledTime block := by
      rcases blockTimeMs_eq block with ⟨_, same⟩ | ⟨_, same⟩ <;>
        simp only [same, scaledTime] <;> omega
    refine iff_of_true (Nat.le_trans after scaled) ?_
    intro overflows
    omega
  · simp only [overflows, true_implies]

end Arithmetic

/-- For every list of more than one keeper and every sequence of blocks, the window is
exclusive and then opens exactly if all its blocks draw the same slot and the block
times suit the trigger. -/
theorem exclusiveWindow_iff (payload : Task) (hash : TaskHash) (met : Nat)
    (blocks : List CallContext) (mirrors : w.config.Mirrors)
    (many : 1 < w.config.keeperList.length) :
    ExclusiveWindow chain w payload hash met blocks ↔
      SameDraw chain w payload hash met blocks ∧ WellTimed met payload.trigger blocks := by
  have promise : ExclusiveWindow chain w payload hash met blocks ↔ _ ∧ _ :=
    ⟨fun window => ⟨window.exclusive, window.opened⟩, fun both => ⟨both.1, both.2⟩⟩
  rw [promise, exclusive_iff mirrors many, opened_iff mirrors many, and_right_comm, and_comm]
  refine and_congr_right fun _ => ?_
  unfold WellTimed ripeAt
  split
  next time timed =>
    exact and_congr
      (forall_congr' fun block => forall_congr' fun _ => forall_congr' (waiting_iff timed))
      (forall_congr' fun block => forall_congr' fun _ => forall_congr' (elapsed_after_iff timed))
  next untimed =>
    simp only [elapsed_other_iff untimed, Nat.not_le]

namespace Sample

def ripeTask : Task := task bob (.timeOnce 1000000) false

def block (time : UInt64) (byte : UInt8) : CallContext :=
  { call keeper 0 time with blockRandomSeed := List.replicate 48 byte }

def agreeingBlocks : List CallContext := [block 1000 1, block 1006 2, block 1030 0]

def disagreeingBlocks : List CallContext := [block 1000 0, block 1006 1]

def shared (w : World) : Prop :=
  w.config.keeperList = [some keeper, some alice] ∧ w.config.whitelistedKeepers = {keeper, alice}

instance (w : World) : Decidable (shared w) := inferInstanceAs (Decidable (_ ∧ _))

theorem shared.mirrors {w : World} (holds : shared w) : w.config.Mirrors :=
  ⟨[keeper, alice], holds.1, by decide, by rw [holds.2]; decide⟩

end Sample

theorem exclusiveWindow_iff_sample :
    ∃ w, Trace (step sampleChain) (fun _ _ => True) Sample.world
        [Sample.admitKeeper, Sample.admitAlice] w ∧
      (ExclusiveWindow sampleChain w Sample.ripeTask (taskHash sampleChain Sample.ripeTask) 0
          Sample.agreeingBlocks ↔
        SameDraw sampleChain w Sample.ripeTask (taskHash sampleChain Sample.ripeTask) 0
          Sample.agreeingBlocks ∧ WellTimed 0 Sample.ripeTask.trigger Sample.agreeingBlocks) := by
  obtain ⟨w, trace, shared⟩ := Trace.of_runChecked (step sampleChain) (fun _ _ => True) Sample.world
    [Sample.admitKeeper, Sample.admitAlice] Sample.shared (by decide +kernel)
  refine ⟨w, trace, exclusiveWindow_iff _ _ _ _ shared.mirrors ?_⟩
  rw [shared.1]
  decide

/-- Two blocks of one window let different keepers through. -/
theorem window_shared :
    ∃ w, Trace (step sampleChain) (fun _ _ => True) Sample.world
        [Sample.admitKeeper, Sample.admitAlice] w ∧ w.config.Mirrors ∧
      w.config.keeperList = [some Sample.keeper, some Sample.alice] ∧
      Sample.disagreeingBlocks.Pairwise (fun earlier later =>
        earlier.blockTimestamp ≤ later.blockTimestamp) ∧
      ¬ExclusiveWindow sampleChain w Sample.ripeTask (taskHash sampleChain Sample.ripeTask) 0
        Sample.disagreeingBlocks := by
  obtain ⟨w, trace, shared, passes⟩ := Trace.of_runChecked (step sampleChain) (fun _ _ => True)
    Sample.world [Sample.admitKeeper, Sample.admitAlice]
    (fun w => Sample.shared w ∧
      performRoundRobinCheck sampleChain (Sample.block 1000 0) Sample.ripeTask
        (taskHash sampleChain Sample.ripeTask) Sample.alice w = .ok () ∧
      performRoundRobinCheck sampleChain (Sample.block 1006 1) Sample.ripeTask
        (taskHash sampleChain Sample.ripeTask) Sample.keeper w = .ok ()) (by decide +kernel)
  refine ⟨w, trace, shared.mirrors, shared.1, by decide, fun window => ?_⟩
  obtain ⟨fixed, only⟩ := window.exclusive
  have inside : ∀ block ∈ Sample.disagreeingBlocks, InWindow 1000000 block := by
    unfold InWindow
    decide
  have alice := only (Sample.block 1000 0) (by simp [Sample.disagreeingBlocks])
    (inside _ (by simp [Sample.disagreeingBlocks])) Sample.alice (by simp [shared.2]) passes.1
  have keeper := only (Sample.block 1006 1) (by simp [Sample.disagreeingBlocks])
    (inside _ (by simp [Sample.disagreeingBlocks])) Sample.keeper (by simp [shared.2]) passes.2
  exact absurd (alice.trans keeper.symm) (by decide)

end XCron.Scheduler
