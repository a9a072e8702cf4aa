import Mathlib.Data.Finset.Card
import Mathlib.Data.List.Nodup

/-!
# Rolling sets

A set that forgets in three phases. New items go into the current generation; once that
has grown over a limit, the generations move on and the oldest one is dropped. What such
a set knows is a window of the items it has let in, newest first.
-/

namespace Platform

variable {Item : Type} [DecidableEq Item]

structure RollingSet (Item : Type) where
  current : Finset Item
  previous : Finset Item
  oldest : Finset Item

namespace RollingSet

def empty : RollingSet Item := ⟨∅, ∅, ∅⟩

def contains (item : Item) (s : RollingSet Item) : Bool :=
  item ∈ s.current || item ∈ s.previous || item ∈ s.oldest

def insert (limit : Nat) (item : Item) (s : RollingSet Item) : RollingSet Item :=
  let current := Insert.insert item s.current
  if limit < current.card then ⟨∅, current, s.previous⟩ else { s with current := current }

def reach (limit count : Nat) : Nat := count % (limit + 1) + 2 * (limit + 1)

/-- The set knows the latest of the items that it has let in, no two of them alike. -/
structure Holds (limit : Nat) (recent : List Item) (s : RollingSet Item) : Prop where
  current : s.current = (recent.take (recent.length % (limit + 1))).toFinset
  previous : s.previous =
    ((recent.drop (recent.length % (limit + 1))).take (limit + 1)).toFinset
  oldest : s.oldest =
    ((recent.drop (recent.length % (limit + 1) + (limit + 1))).take (limit + 1)).toFinset
  distinct : (recent.take (reach limit recent.length)).Nodup

variable {limit : Nat} {recent : List Item} {s : RollingSet Item} {item : Item}

theorem holds_empty (limit : Nat) : Holds limit [] (empty : RollingSet Item) := by
  constructor <;> simp [empty]

theorem Holds.contains_iff (holds : Holds limit recent s) :
    s.contains item = true ↔ item ∈ recent.take (reach limit recent.length) := by
  have parts : recent.take (reach limit recent.length) =
      recent.take (recent.length % (limit + 1)) ++
        ((recent.drop (recent.length % (limit + 1))).take (limit + 1) ++
          (recent.drop (recent.length % (limit + 1) + (limit + 1))).take (limit + 1)) := by
    rw [reach, Nat.two_mul, List.take_add, List.take_add, List.drop_drop]
  rw [parts, contains, holds.current, holds.previous, holds.oldest]
  simp only [Bool.or_eq_true, decide_eq_true_eq, List.mem_toFinset, List.mem_append, or_assoc]

theorem Holds.card_current (holds : Holds limit recent s) :
    s.current.card = recent.length % (limit + 1) := by
  have short : recent.length % (limit + 1) ≤ recent.length := Nat.mod_le _ _
  have sub : (recent.take (recent.length % (limit + 1))).Sublist
      (recent.take (reach limit recent.length)) := by
    apply List.take_sublist_take_left
    exact Nat.le_add_right _ _
  rw [holds.current, List.toFinset_card_of_nodup (holds.distinct.sublist sub), List.length_take]
  omega

theorem Holds.insert (holds : Holds limit recent s) (fresh : s.contains item = false) :
    Holds limit (item :: recent) (s.insert limit item) := by
  have unknown : item ∉ recent.take (reach limit recent.length) := by
    rw [← holds.contains_iff, fresh]
    exact Bool.false_ne_true
  have new : item ∉ s.current := by
    intro member
    simp [contains, member] at fresh
  have card : (Insert.insert item s.current).card = recent.length % (limit + 1) + 1 := by
    rw [Finset.card_insert_of_notMem new, holds.card_current]
  have phase : recent.length % (limit + 1) < limit + 1 := Nat.mod_lt _ (Nat.succ_pos _)
  unfold RollingSet.insert
  dsimp only
  rw [card]
  by_cases full : recent.length % (limit + 1) = limit
  · have turned : (item :: recent).length % (limit + 1) = 0 := by
      rw [List.length_cons, Nat.add_mod, full]
      simp
    rw [if_pos (by omega)]
    constructor
    · simp only [turned, List.take_zero, List.toFinset_nil]
    · simp only [turned, List.drop_zero, List.take_succ_cons, List.toFinset_cons, holds.current, full]
    · simp only [turned, Nat.zero_add, List.drop_succ_cons, holds.previous, full]
    · simp only [reach, turned, Nat.zero_add, Nat.mul_succ]
      rw [List.take_succ_cons, List.nodup_cons]
      have sub : (recent.take (2 * limit + 1)).Sublist
          (recent.take (reach limit recent.length)) := by
        apply List.take_sublist_take_left
        rw [reach, full]
        omega
      exact ⟨fun member => unknown (sub.subset member), holds.distinct.sublist sub⟩
  · have grown : (item :: recent).length % (limit + 1) = recent.length % (limit + 1) + 1 := by
      rw [List.length_cons, Nat.add_mod]
      have small : recent.length % (limit + 1) + 1 < limit + 1 := by omega
      by_cases single : limit = 0
      · omega
      · rw [Nat.mod_eq_of_lt (show 1 < limit + 1 by omega), Nat.mod_eq_of_lt small]
    rw [if_neg (by omega)]
    constructor
    · simp only [grown, List.take_succ_cons, List.toFinset_cons, holds.current]
    · simp only [grown, List.drop_succ_cons, holds.previous]
    · simp only [grown, Nat.add_right_comm _ 1, List.drop_succ_cons, holds.oldest]
    · simp only [reach, grown]
      rw [Nat.add_right_comm, List.take_succ_cons, List.nodup_cons]
      exact ⟨unknown, holds.distinct⟩

/-- However many items there have been, the three generations stay small. -/
theorem Holds.card_le (holds : Holds limit recent s) :
    s.current.card + s.previous.card + s.oldest.card ≤ 3 * limit + 2 := by
  have phase : recent.length % (limit + 1) < limit + 1 := Nat.mod_lt _ (Nat.succ_pos _)
  have previous : s.previous.card ≤ limit + 1 := by
    rw [holds.previous]
    exact (List.toFinset_card_le _).trans (List.length_take_le _ _)
  have oldest : s.oldest.card ≤ limit + 1 := by
    rw [holds.oldest]
    exact (List.toFinset_card_le _).trans (List.length_take_le _ _)
  rw [holds.card_current]
  omega

/-! ## What is let in -/

section LetIn

variable {Item : Type} {limit : Nat} {recent : List Item} {item : Item}

/-- The items let in, newest first: each one was unknown when it came. -/
inductive LetIn (limit : Nat) : List Item → Prop where
  | nil : LetIn limit []
  | cons {item : Item} {recent : List Item}
      (fresh : item ∉ recent.take (reach limit recent.length)) (rest : LetIn limit recent) :
      LetIn limit (item :: recent)

theorem within_reach_iff (limit gap before : Nat) :
    gap < reach limit (gap + 1 + before) ↔
      (gap + 1 + before) / (limit + 1) < before / (limit + 1) + 3 := by
  have split := Nat.div_add_mod (gap + 1 + before) (limit + 1)
  have earlier := Nat.div_add_mod before (limit + 1)
  have phase : before % (limit + 1) < limit + 1 := Nat.mod_lt _ (Nat.succ_pos _)
  rw [reach]
  generalize count_eq : gap + 1 + before = count at *
  constructor
  · intro near
    by_contra far
    have generations : (limit + 1) * (before / (limit + 1) + 3) ≤
        (limit + 1) * (count / (limit + 1)) := Nat.mul_le_mul_left _ (Nat.le_of_not_lt far)
    rw [Nat.mul_add] at generations
    omega
  · intro near
    have generations : (limit + 1) * (count / (limit + 1)) ≤
        (limit + 1) * (before / (limit + 1) + 2) := Nat.mul_le_mul_left _ (by omega)
    rw [Nat.mul_add] at generations
    omega

theorem mem_take_reach_iff {recent : List Item} :
    item ∈ recent.take (reach limit recent.length) ↔
      ∃ gap before, recent = gap ++ item :: before ∧
        recent.length / (limit + 1) < before.length / (limit + 1) + 3 := by
  have count (gap before : List Item) :
      (gap ++ item :: before).length = gap.length + 1 + before.length := by
    rw [List.length_append, List.length_cons]
    omega
  constructor
  · intro member
    obtain ⟨gap, later, window⟩ := List.append_of_mem member
    have front : gap.length < reach limit recent.length := by
      have short := List.length_take_le (reach limit recent.length) recent
      rw [window, count] at short
      omega
    have whole : recent = gap ++ item :: (later ++ recent.drop (reach limit recent.length)) := by
      rw [← List.cons_append, ← List.append_assoc, ← window, List.take_append_drop]
    refine ⟨gap, later ++ recent.drop (reach limit recent.length), whole, ?_⟩
    generalize later ++ recent.drop (reach limit recent.length) = before at whole
    subst whole
    rw [count] at front ⊢
    exact (within_reach_iff limit _ _).mp front
  · rintro ⟨gap, before, rfl, near⟩
    rw [count] at near ⊢
    have front := (within_reach_iff limit _ _).mpr near
    rw [List.take_append, List.take_of_length_le (Nat.le_of_lt front)]
    apply List.mem_append_right
    obtain ⟨rest, rest_eq⟩ : ∃ rest, reach limit (gap.length + 1 + before.length) - gap.length =
        rest + 1 := ⟨reach limit (gap.length + 1 + before.length) - gap.length - 1, by omega⟩
    rw [rest_eq, List.take_succ_cons]
    exact List.mem_cons_self

variable [BEq Item] [LawfulBEq Item]

theorem LetIn.generations (letIn : LetIn limit recent) {gap before : List Item}
    (at_item : recent = gap ++ item :: before) (absent : item ∉ gap) :
    3 * (recent.count item - 1) ≤ before.length / (limit + 1) := by
  induction letIn generalizing gap before with
  | nil => simp at at_item
  | @cons newest recent fresh rest inductionHypothesis =>
      cases gap with
      | cons other gap =>
          rw [List.cons_append, List.cons.injEq] at at_item
          have different : newest ≠ item := by
            intro same
            apply absent
            rw [← same, at_item.1]
            exact List.mem_cons_self
          rw [List.count_cons_of_ne different]
          exact inductionHypothesis at_item.2 fun member => absent (List.mem_cons_of_mem _ member)
      | nil =>
          rw [List.nil_append, List.cons.injEq] at at_item
          obtain ⟨rfl, rfl⟩ := at_item
          rw [List.count_cons_self, Nat.add_sub_cancel]
          by_cases again : newest ∈ recent
          · obtain ⟨gap, before, recent_eq, notBefore⟩ :=
              List.eq_append_cons_of_mem again
            have earlier := inductionHypothesis recent_eq notBefore
            have far : ¬recent.length / (limit + 1) < before.length / (limit + 1) + 3 :=
              fun near => fresh (mem_take_reach_iff.mpr ⟨gap, before, recent_eq, near⟩)
            omega
          · rw [List.count_eq_zero_of_not_mem again]
            exact Nat.zero_le _

theorem LetIn.count_le (letIn : LetIn limit recent) (item : Item) :
    recent.count item ≤ recent.length / (3 * (limit + 1)) + 1 := by
  by_cases member : item ∈ recent
  · obtain ⟨gap, before, recent_eq, absent⟩ := List.eq_append_cons_of_mem member
    have spent := letIn.generations recent_eq absent
    have shorter : before.length ≤ recent.length := by
      rw [recent_eq, List.length_append, List.length_cons]
      omega
    have generations : before.length / (limit + 1) ≤ recent.length / (limit + 1) :=
      Nat.div_le_div_right shorter
    rw [Nat.mul_comm, ← Nat.div_div_eq_div_mul]
    omega
  · rw [List.count_eq_zero_of_not_mem member]
    exact Nat.zero_le _

end LetIn

end RollingSet

end Platform
