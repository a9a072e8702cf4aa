import Mathlib.Data.List.Nodup

/-!
# Votes

Several sources are asked for a value and some of them may be faulty. A value with more
votes than there are faulty sources among the voters is the vote of an honest one.
-/

namespace Platform

variable {Source Value : Type}

/-- What the sources answered, in the order in which they were asked. -/
abbrev Votes (Source Value : Type) := List (Source × Value)

namespace Votes

variable {votes : Votes Source Value} {honest : Source → Prop}

def sources (votes : Votes Source Value) : List Source := votes.map Prod.fst

def values (votes : Votes Source Value) : List Value := votes.map Prod.snd

theorem count_le_faulty [DecidableEq Value] [DecidablePred honest] {value : Value}
    (alone : ∀ source, (source, value) ∈ votes → ¬honest source) :
    votes.values.count value ≤ votes.sources.countP fun source => ¬honest source := by
  rw [values, sources, List.count, List.countP_map, List.countP_map]
  apply List.countP_mono_left
  intro vote member chosen
  obtain ⟨source, given⟩ := vote
  obtain rfl := eq_of_beq chosen
  exact decide_eq_true (alone source member)

theorem exists_honest [DecidableEq Value] [DecidablePred honest] {value : Value}
    (outnumbered : (votes.sources.countP fun source => ¬honest source) <
      votes.values.count value) :
    ∃ source, (source, value) ∈ votes ∧ honest source := by
  by_contra none
  have alone : ∀ source, (source, value) ∈ votes → ¬honest source := by
    intro source member honesty
    exact none ⟨source, member, honesty⟩
  exact Nat.not_le.mpr outnumbered (count_le_faulty alone)

theorem faulty_le_one [DecidablePred honest] (distinct : votes.sources.Nodup)
    (single : ∀ first ∈ votes.sources, ∀ second ∈ votes.sources,
      ¬honest first → ¬honest second → first = second) :
    (votes.sources.countP fun source => ¬honest source) ≤ 1 := by
  rw [List.countP_eq_length_filter]
  have faulty := distinct.filter fun source => decide ¬honest source
  match shape : votes.sources.filter fun source => decide ¬honest source with
  | [] => exact Nat.zero_le 1
  | [_] => exact Nat.le_refl 1
  | first :: second :: rest =>
      rw [shape] at faulty
      have chosen : ∀ source ∈ [first, second], source ∈ votes.sources ∧ ¬honest source := by
        intro source member
        have kept : source ∈ votes.sources.filter fun source => decide ¬honest source := by
          rw [shape]
          rcases List.mem_cons.mp member with rfl | later
          · exact .head _
          · exact .tail _ (List.mem_singleton.mp later ▸ .head _)
        simpa using List.mem_filter.mp kept
      obtain ⟨member, lies⟩ := chosen first (.head _)
      obtain ⟨member', lies'⟩ := chosen second (.tail _ (.head _))
      have same := single first member second member' lies lies'
      exact absurd (same ▸ List.mem_cons_self) (List.nodup_cons.mp faulty).1

/-- Two equal votes, at most one source being faulty. -/
theorem agreed_honest [DecidableEq Value] [DecidablePred honest] {value : Value}
    (distinct : votes.sources.Nodup)
    (single : ∀ first ∈ votes.sources, ∀ second ∈ votes.sources,
      ¬honest first → ¬honest second → first = second)
    (agreed : 2 ≤ votes.values.count value) : ∃ source, (source, value) ∈ votes ∧ honest source :=
  exists_honest (Nat.lt_of_le_of_lt (faulty_le_one distinct single) agreed)

end Votes

end Platform
