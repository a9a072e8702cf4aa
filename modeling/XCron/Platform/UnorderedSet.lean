import Mathlib.Data.Finset.Basic
import Mathlib.Data.List.Nodup
import Mathlib.Data.List.Perm.Basic

/-!
# Sets that are stored as lists

The framework keeps a set as a list without repetitions. A new item is appended, and
the last item takes the place of one that is removed.
-/

namespace Platform

variable {Alpha : Type} [DecidableEq Alpha]

def swapOut (item : Alpha) (items : List Alpha) : List Alpha :=
  match items.getLast? with
  | some last => if item ∈ items then (items.set (items.idxOf item) last).dropLast else items
  | none => items

theorem swapOut_perm (item : Alpha) (items : List Alpha) :
    (swapOut item items).Perm (items.erase item) := by
  unfold swapOut
  by_cases present : item ∈ items
  · obtain ⟨before, after, rfl, absent⟩ := List.eq_append_cons_of_mem present
    have position : (before ++ item :: after).idxOf item = before.length := by
      simp [List.idxOf_append, absent]
    have rest : (before ++ item :: after).erase item = before ++ after := by
      simp [List.erase_append_right _ absent]
    rw [position, rest]
    rcases after.eq_nil_or_concat with rfl | ⟨middle, last, rfl⟩
    · simp
    · rw [List.concat_eq_append] at present ⊢
      have final : (before ++ item :: (middle ++ [last])).getLast? = some last := by
        rw [List.getLast?_append, List.getLast?_cons, List.getLast?_concat]
        rfl
      have replaced : ((before ++ item :: (middle ++ [last])).set before.length last).dropLast =
          before ++ last :: middle := by
        rw [List.set_append_right _ _ (Nat.le_refl _), Nat.sub_self, List.set_cons_zero,
          ← List.cons_append, ← List.append_assoc, List.dropLast_concat]
      rw [final]
      dsimp only
      rw [if_pos present, replaced]
      exact (List.perm_append_singleton last middle).symm.append_left before
  · rw [List.erase_of_not_mem present]
    split
    · rw [if_neg present]
    · exact .refl _

structure UnorderedSet (Alpha : Type) where
  items : List Alpha
  nodup : items.Nodup

namespace UnorderedSet

def empty : UnorderedSet Alpha := ⟨[], .nil⟩

/-- `insert`: an item that is there already is not added again. -/
def insert (item : Alpha) (set : UnorderedSet Alpha) : UnorderedSet Alpha :=
  if absent : item ∈ set.items then set
  else
    { items := set.items ++ [item]
      nodup := by
        rw [List.nodup_append]
        refine ⟨set.nodup, List.nodup_singleton item, ?_⟩
        intro other member own single same
        rw [List.mem_singleton.mp single] at same
        exact absent (same ▸ member) }

def swapRemove (item : Alpha) (set : UnorderedSet Alpha) : UnorderedSet Alpha :=
  { items := swapOut item set.items
    nodup := (swapOut_perm item set.items).nodup_iff.mpr (set.nodup.erase item) }

/-! ### The set that a list stands for -/

def members (set : UnorderedSet Alpha) : Finset Alpha :=
  ⟨set.items, Multiset.coe_nodup.mpr set.nodup⟩

omit [DecidableEq Alpha] in
theorem members_eq_of_perm {set reordered : UnorderedSet Alpha}
    (permuted : reordered.items.Perm set.items) : reordered.members = set.members :=
  Finset.val_inj.mp (Multiset.coe_eq_coe.mpr permuted)

theorem members_insert (item : Alpha) (set : UnorderedSet Alpha) :
    (set.insert item).members = Insert.insert item set.members := by
  ext other
  unfold UnorderedSet.insert
  split
  next present =>
    have own : item ∈ set.members := present
    rw [Finset.insert_eq_of_mem own]
  next absent =>
    rw [Finset.mem_insert, or_comm]
    change other ∈ set.items ++ [item] ↔ other ∈ set.items ∨ other = item
    rw [List.mem_append, List.mem_singleton]

theorem members_swapRemove (item : Alpha) (set : UnorderedSet Alpha) :
    (set.swapRemove item).members = set.members.erase item := by
  ext other
  rw [Finset.mem_erase]
  change other ∈ swapOut item set.items ↔ other ≠ item ∧ other ∈ set.items
  rw [(swapOut_perm item set.items).mem_iff, set.nodup.mem_erase_iff]

end UnorderedSet

end Platform
