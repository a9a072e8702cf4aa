import Mathlib.Data.List.Induction
import Mathlib.Data.List.Sort
import Mathlib.Data.Multiset.Sort

/-!
# Insertion sort and the middle of a list

An insertion sort that works by exchanging neighbours in place, the median of a multiset,
and where the middle of the sorted list lies when most of its items lie between two bounds.
-/

namespace Platform

variable {Alpha : Type} [LinearOrder Alpha]

/-! ## Insertion sort -/

def sink : Nat → List Alpha → List Alpha
  | 0, items => items
  | position + 1, items =>
      match items[position]?, items[position + 1]? with
      | some previous, some current =>
          if current < previous then
            sink position ((items.set position current).set (position + 1) previous)
          else items
      | _, _ => items

def insertionSort (items : List Alpha) : List Alpha :=
  (List.range' 1 (items.length - 1)).foldl (fun items position => sink position items) items

@[simp]
theorem length_sink (position : Nat) (items : List Alpha) :
    (sink position items).length = items.length := by
  fun_induction sink position items with
  | case1 items => rfl
  | case2 position items previous current _ _ smaller inductionHypothesis =>
      rw [inductionHypothesis, List.length_set, List.length_set]
  | case3 => rfl
  | case4 => rfl

theorem ascending_concat {items : List Alpha} {last : Alpha} (sorted : items.Pairwise (· ≤ ·))
    (below : ∀ item ∈ items, item ≤ last) : (items ++ [last]).Pairwise (· ≤ ·) := by
  refine List.pairwise_append.mpr ⟨sorted, List.pairwise_singleton _ _, ?_⟩
  intro item member other single
  rw [List.mem_singleton.mp single]
  exact below item member

theorem sink_sorted (item : Alpha) (before after : List Alpha) (sorted : before.Pairwise (· ≤ ·)) :
    ∃ placed, sink before.length (before ++ item :: after) = placed ++ after ∧
      placed.Perm (before ++ [item]) ∧ placed.Pairwise (· ≤ ·) := by
  induction before using List.reverseRecOn generalizing after with
  | nil => exact ⟨[item], rfl, .refl _, List.pairwise_singleton _ _⟩
  | append_singleton before last inductionHypothesis =>
      obtain ⟨sorted', _, below⟩ := List.pairwise_append.mp sorted
      have previous : (before ++ [last] ++ item :: after)[before.length]? = some last := by
        simp
      have current : (before ++ [last] ++ item :: after)[before.length + 1]? = some item := by
        simp
      rw [List.length_append, List.length_singleton, sink, previous, current]
      dsimp only
      by_cases smaller : item < last
      · have exchanged : ((before ++ [last] ++ item :: after).set before.length item).set
            (before.length + 1) last = before ++ item :: last :: after := by
          simp
        rw [if_pos smaller, exchanged]
        obtain ⟨placed, sunk, permuted, ascending⟩ := inductionHypothesis (last :: after) sorted'
        refine ⟨placed ++ [last], by rw [sunk]; simp, ?_, ?_⟩
        · have moved : (placed ++ [last]).Perm (before ++ [item] ++ [last]) := permuted.append_right _
          refine moved.trans ?_
          simp only [List.append_assoc]
          exact (List.Perm.swap _ _ _).append_left before
        · apply ascending_concat ascending
          intro other member
          rcases List.mem_append.mp (permuted.mem_iff.mp member) with earlier | own
          · exact below other earlier _ (List.mem_singleton_self _)
          · rw [List.mem_singleton.mp own]
            exact smaller.le
      · rw [if_neg smaller]
        refine ⟨before ++ [last] ++ [item], by simp, .refl _, ascending_concat sorted ?_⟩
        intro other member
        rcases List.mem_append.mp member with earlier | own
        · exact (below other earlier last (List.mem_singleton_self _)).trans (not_lt.mp smaller)
        · rw [List.mem_singleton.mp own]
          exact not_lt.mp smaller

theorem foldl_sink (front rest : List Alpha) (sorted : front.Pairwise (· ≤ ·)) :
    ((List.range' front.length rest.length).foldl (fun items position => sink position items)
        (front ++ rest)).Pairwise (· ≤ ·) ∧
      ((List.range' front.length rest.length).foldl (fun items position => sink position items)
        (front ++ rest)).Perm (front ++ rest) := by
  induction rest generalizing front with
  | nil =>
      simp only [List.length_nil, List.range'_zero, List.foldl_nil, List.append_nil]
      exact ⟨sorted, .refl _⟩
  | cons item rest inductionHypothesis =>
      obtain ⟨placed, sunk, permuted, ascending⟩ := sink_sorted item front rest sorted
      have length : placed.length = front.length + 1 := by
        simpa using permuted.length_eq
      have later := inductionHypothesis placed ascending
      rw [length] at later
      rw [List.length_cons, List.range'_succ, List.foldl_cons, sunk]
      refine ⟨later.1, later.2.trans ?_⟩
      simpa using permuted.append_right rest

theorem insertionSort_sorted (items : List Alpha) :
    (insertionSort items).Pairwise (· ≤ ·) := by
  cases items with
  | nil => exact .nil
  | cons first rest => exact (foldl_sink [first] rest (List.pairwise_singleton _ _)).1

theorem insertionSort_perm (items : List Alpha) : (insertionSort items).Perm items := by
  cases items with
  | nil => exact .refl _
  | cons first rest => exact (foldl_sink [first] rest (List.pairwise_singleton _ _)).2

/-- Whatever order they come in, the items end up as their multiset in ascending order. -/
theorem insertionSort_eq_sort (items : List Alpha) :
    insertionSort items = (items : Multiset Alpha).sort := by
  have permuted : (insertionSort items).Perm (items : Multiset Alpha).sort := by
    rw [← Multiset.coe_eq_coe, Multiset.sort_eq]
    exact Multiset.coe_eq_coe.mpr (insertionSort_perm items)
  exact permuted.eq_of_pairwise' (insertionSort_sorted items) (Multiset.pairwise_sort _ _)

/-! ## The median -/

/-- The item in the middle of the ascending order, or the floor of the mean of the two that
share the middle if the number of items is even. The median of no items is zero. -/
def median (items : Multiset Nat) : Nat :=
  let sorted := items.sort
  let mid := items.card / 2
  if items.card % 2 = 1 then sorted.getD mid 0
  else (sorted.getD (mid - 1) 0 + sorted.getD mid 0) / 2

@[simp]
theorem median_zero : median 0 = 0 := by
  simp [median]

/-! ## The middle -/

variable {items : List Alpha} {bound item : Alpha} {position : Nat}

theorem le_of_mem_take (sorted : items.Pairwise (· ≤ ·)) (found : items[position]? = some item) :
    ∀ other ∈ items.take (position + 1), other ≤ item := by
  intro other member
  rw [List.take_add_one, found] at member
  rcases List.mem_append.mp member with earlier | own
  · obtain ⟨index, within, rfl⟩ := List.mem_take_iff_getElem.mp earlier
    obtain ⟨within', rfl⟩ := List.getElem?_eq_some_iff.mp found
    have before : index < position := (Nat.lt_min.mp within).1
    exact List.pairwise_iff_getElem.mp sorted _ _ _ within' before
  · simp only [Option.toList_some, List.mem_singleton] at own
    exact own.le

theorem le_of_mem_drop (sorted : items.Pairwise (· ≤ ·)) (found : items[position]? = some item) :
    ∀ other ∈ items.drop position, item ≤ other := by
  intro other member
  obtain ⟨within, rfl⟩ := List.getElem?_eq_some_iff.mp found
  obtain ⟨index, within', rfl⟩ := List.mem_drop_iff_getElem.mp member
  rcases Nat.eq_zero_or_pos index with rfl | later
  · exact le_rfl
  · have after : position < position + index := Nat.lt_add_of_pos_right later
    exact List.pairwise_iff_getElem.mp sorted _ _ within _ after

theorem bound_le_of_countP (sorted : items.Pairwise (· ≤ ·)) (found : items[position]? = some item)
    (holds : Alpha → Bool) (above : ∀ other, holds other = true → bound ≤ other)
    (many : items.length < items.countP holds + (position + 1)) : bound ≤ item := by
  by_contra below
  have none : (items.take (position + 1)).countP holds = 0 := by
    rw [List.countP_eq_zero]
    intro other member reaches
    exact below ((above other reaches).trans (le_of_mem_take sorted found other member))
  have split : items.countP holds = (items.take (position + 1)).countP holds +
      (items.drop (position + 1)).countP holds := by
    rw [← List.countP_append, List.take_append_drop]
  have few := (items.drop (position + 1)).countP_le_length (p := holds)
  have within := (List.getElem?_eq_some_iff.mp found).1
  rw [List.length_drop] at few
  omega

theorem le_bound_of_countP (sorted : items.Pairwise (· ≤ ·)) (found : items[position]? = some item)
    (holds : Alpha → Bool) (below : ∀ other, holds other = true → other ≤ bound)
    (many : position < items.countP holds) : item ≤ bound := by
  by_contra above
  have none : (items.drop position).countP holds = 0 := by
    rw [List.countP_eq_zero]
    intro other member reaches
    exact above ((le_of_mem_drop sorted found other member).trans (below other reaches))
  have split : items.countP holds = (items.take position).countP holds +
      (items.drop position).countP holds := by
    rw [← List.countP_append, List.take_append_drop]
  have few := (items.take position).countP_le_length (p := holds)
  rw [List.length_take] at few
  omega

end Platform
