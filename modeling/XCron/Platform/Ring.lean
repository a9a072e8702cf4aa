import Mathlib.Data.List.Basic
import Mathlib.Logic.Function.Basic

/-!
# Rings of cells

A fixed number of cells written round robin keeps the latest items. What is read is
found by walking back from the cell that is written next.
-/

namespace Platform

variable {Item : Type}

/-- The cell that is `back` places behind the one to be written next. -/
def ringCell (capacity next back : Nat) : Nat := (next + capacity - back) % capacity

/-- Walking back from the next cell, the ring holds the items, newest first. -/
structure RingHolds (capacity : Nat) (cell : Nat → Option Item) (next : Nat)
    (recent : List Item) : Prop where
  inside : next < capacity
  holds : ∀ back, back < capacity → cell (ringCell capacity next (back + 1)) = recent[back]?

namespace RingHolds

variable {capacity next : Nat} {cell : Nat → Option Item} {recent : List Item}

theorem empty (inside : next < capacity) (clear : ∀ position, cell position = none) :
    RingHolds capacity cell next [] :=
  ⟨inside, fun _ _ => (clear _).trans List.getElem?_nil.symm⟩

theorem agree (ring : RingHolds capacity cell next recent) {other : Nat → Option Item}
    (same : ∀ position, position < capacity → other position = cell position) :
    RingHolds capacity other next recent := by
  have inside := ring.inside
  refine ⟨inside, ?_⟩
  intro back within
  have position : ringCell capacity next (back + 1) < capacity := Nat.mod_lt _ (by omega)
  rw [same _ position]
  exact ring.holds back within

theorem ringCell_next (inside : next < capacity) {back : Nat} (within : back < capacity) :
    ringCell capacity ((next + 1) % capacity) (back + 1) = ringCell capacity next back := by
  unfold ringCell
  by_cases last : next + 1 = capacity
  · rw [last, Nat.mod_self]
    have wraps : next + capacity - back = 0 + capacity - (back + 1) + capacity := by omega
    rw [wraps, Nat.add_mod_right]
  · have small : next + 1 < capacity := by omega
    rw [Nat.mod_eq_of_lt small]
    congr 1
    omega

theorem ringCell_ne (inside : next < capacity) {back : Nat} (positive : 0 < back)
    (within : back < capacity) : ringCell capacity next back ≠ next := by
  unfold ringCell
  by_cases low : next < back
  · rw [Nat.mod_eq_of_lt (by omega)]
    omega
  · have wraps : next + capacity - back = next - back + capacity := by omega
    rw [wraps, Nat.add_mod_right, Nat.mod_eq_of_lt (by omega)]
    omega

/-- Writing the next cell adds an item and forgets the oldest one. -/
theorem write (ring : RingHolds capacity cell next recent) (item : Item) :
    RingHolds capacity (Function.update cell next (some item)) ((next + 1) % capacity)
      (item :: recent) := by
  have inside := ring.inside
  refine ⟨Nat.mod_lt _ (by omega), ?_⟩
  intro back within
  rw [ringCell_next inside within]
  cases back with
  | zero =>
      have here : ringCell capacity next 0 = next := by
        rw [ringCell, Nat.sub_zero, Nat.add_mod_right, Nat.mod_eq_of_lt inside]
      rw [here, Function.update_self]
      rfl
  | succ back =>
      rw [Function.update_of_ne (ringCell_ne inside (Nat.succ_pos back) within),
        ring.holds back (by omega)]
      rfl

end RingHolds

end Platform
