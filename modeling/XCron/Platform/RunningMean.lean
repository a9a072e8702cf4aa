import Mathlib.Algebra.BigOperators.Group.List.Basic
import Mathlib.Algebra.Order.Field.Basic
import Mathlib.Algebra.Order.Field.Rat
import Mathlib.Data.List.Induction
import Mathlib.Tactic.FieldSimp
import Mathlib.Tactic.Linarith
import Mathlib.Tactic.Ring

/-!
# Running means in whole numbers

A mean that is kept up to date by one division an item drops a remainder each time. The
remainders are what it falls short of the sum by.
-/

namespace Platform

def mean (items : List Nat) : ℚ := (items.sum : ℚ) / items.length

/-- A floored mean of `count` items, and the sum of the remainders dropped on the way. -/
structure RunningMean where
  count : Nat
  value : Nat
  dropped : Nat
  deriving DecidableEq

namespace RunningMean

def add (current : RunningMean) (item : Nat) : RunningMean :=
  let weighted := current.value * current.count + item
  { count := current.count + 1
    value := weighted / (current.count + 1)
    dropped := current.dropped + weighted % (current.count + 1) }

def of (items : List Nat) : RunningMean := items.foldl add ⟨0, 0, 0⟩

theorem of_concat (items : List Nat) (item : Nat) : of (items ++ [item]) = (of items).add item := by
  rw [of, List.foldl_append]
  rfl

theorem count_of (items : List Nat) : (of items).count = items.length := by
  induction items using List.reverseRecOn with
  | nil => rfl
  | append_singleton items item inductionHypothesis =>
      rw [of_concat, List.length_append, ← inductionHypothesis]
      rfl

/-- What the mean accounts for and what was dropped are the sum. -/
theorem sum_eq (items : List Nat) :
    items.sum = (of items).value * items.length + (of items).dropped := by
  induction items using List.reverseRecOn with
  | nil => rfl
  | append_singleton items item inductionHypothesis =>
      have divided := Nat.div_add_mod ((of items).value * items.length + item) (items.length + 1)
      rw [of_concat, List.sum_append, List.sum_singleton, inductionHypothesis, List.length_append,
        List.length_singleton]
      simp only [add, count_of]
      rw [Nat.mul_comm (_ / _)]
      omega

theorem dropped_concat (items : List Nat) (item : Nat) :
    (of (items ++ [item])).dropped =
      (of items).dropped + ((of items).value * items.length + item) % (items.length + 1) := by
  rw [of_concat, ← count_of]
  rfl

theorem of_climbing (item count : Nat) :
    of (item :: List.replicate count (item + 1)) = ⟨count + 1, item, count⟩ := by
  induction count with
  | zero => simp [of, add, Nat.mod_one]
  | succ count inductionHypothesis =>
      have weighted : item * (count + 1) + (item + 1) = 1 + (count + 2) * item := by ring
      have lost : 1 % (count + 2) = 1 := Nat.mod_eq_of_lt (by omega)
      have whole : 1 / (count + 2) = 0 := Nat.div_eq_of_lt (by omega)
      rw [List.replicate_succ', ← List.cons_append, of_concat, inductionHypothesis]
      simp only [add, weighted, Nat.add_assoc, Nat.reduceAdd,
        Nat.add_mul_mod_self_left, lost, Nat.add_mul_div_left _ _ (Nat.succ_pos (count + 1)), whole,
        Nat.zero_add]

theorem dropped_le (items : List Nat) :
    2 * (of items).dropped ≤ items.length * (items.length - 1) := by
  induction items using List.reverseRecOn with
  | nil => exact Nat.le_refl 0
  | append_singleton items item inductionHypothesis =>
      have last : ((of items).value * items.length + item) % (items.length + 1) ≤ items.length :=
        Nat.le_of_lt_succ (Nat.mod_lt _ (Nat.succ_pos _))
      have square : items.length * (items.length - 1) + 2 * items.length =
          (items.length + 1) * items.length := by
        cases items.length with
        | zero => rfl
        | succ size =>
            rw [Nat.add_sub_cancel]
            ring
      rw [of_concat, List.length_append, List.length_singleton, Nat.add_sub_cancel, ← square]
      simp only [add, count_of]
      omega

/-- The mean is less than one away from the exact one as long as less was dropped than
there are items. -/
theorem close_iff {items : List Nat} (nonempty : items ≠ []) :
    |((of items).value : ℚ) - mean items| < 1 ↔ (of items).dropped < items.length := by
  have positive : (0 : ℚ) < items.length := by
    exact_mod_cast List.length_pos_iff.mpr nonempty
  have behind : ((of items).value : ℚ) - mean items = -((of items).dropped / items.length) := by
    rw [mean, sum_eq items]
    push_cast
    field_simp
    ring
  rw [behind, abs_neg, abs_of_nonneg (div_nonneg (Nat.cast_nonneg _) positive.le),
    div_lt_one positive]
  exact Nat.cast_lt

end RunningMean

end Platform
