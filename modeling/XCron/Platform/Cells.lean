import Mathlib.Data.List.AList
import Mathlib.Algebra.BigOperators.Group.List.Basic
import Mathlib.Algebra.Order.BigOperators.Group.List
import Mathlib.Algebra.GroupWithZero.Nat

/-!
# Keyed storage cells

A family of storage cells indexed by a key, all but finitely many of them
empty. Totals over the occupied cells are what solvency statements sum; the
lemmas say how writing or clearing one cell moves a total.
-/

namespace Platform

variable {Key Value : Type}

structure Cells (Key Value : Type) where
  table : AList fun _ : Key => Value

namespace Cells

def empty : Cells Key Value := ⟨∅⟩

/-- The sum of a measure over the occupied cells. -/
def total (measure : Value → Nat) (cells : Cells Key Value) : Nat :=
  (cells.table.entries.map fun entry => measure entry.2).sum

/-- The same for a measure that depends on the key as well. -/
def weigh (measure : Key → Value → Nat) (cells : Cells Key Value) : Nat :=
  (cells.table.entries.map fun entry => measure entry.1 entry.2).sum

def values (cells : Cells Key Value) : List Value := cells.table.entries.map Sigma.snd

theorem sum_filter {Item : Type} (keeps : Item → Bool) (measure : Item → Nat) (items : List Item) :
    ((items.filter keeps).map measure).sum =
      (items.map fun item => if keeps item then measure item else 0).sum := by
  induction items with
  | nil => rfl
  | cons item items inductionHypothesis =>
      by_cases kept : keeps item = true
      · simp [kept, inductionHypothesis]
      · simp [kept, inductionHypothesis]

theorem length_filter {Item : Type} (keeps : Item → Bool) (items : List Item) :
    (items.filter keeps).length = (items.map fun item => if keeps item then 1 else 0).sum := by
  rw [← sum_filter]
  simp

theorem sum_filter_values (keeps : Value → Bool) (measure : Value → Nat)
    (cells : Cells Key Value) :
    ((cells.values.filter keeps).map measure).sum =
      cells.total fun value => if keeps value then measure value else 0 := by
  rw [sum_filter, values, List.map_map]
  rfl

variable [DecidableEq Key]

def get? (cells : Cells Key Value) (key : Key) : Option Value := cells.table.lookup key

def set (cells : Cells Key Value) (key : Key) (value : Value) : Cells Key Value :=
  ⟨cells.table.insert key value⟩

def clear (cells : Cells Key Value) (key : Key) : Cells Key Value := ⟨cells.table.erase key⟩

@[simp]
theorem get?_empty (key : Key) : (empty : Cells Key Value).get? key = none := AList.lookup_empty key

@[simp]
theorem get?_set_self (cells : Cells Key Value) (key : Key) (value : Value) :
    (cells.set key value).get? key = some value := AList.lookup_insert cells.table

@[simp]
theorem get?_set_ne (cells : Cells Key Value) {key other : Key} (value : Value)
    (different : other ≠ key) : (cells.set key value).get? other = cells.get? other :=
  AList.lookup_insert_ne different

theorem get?_set (cells : Cells Key Value) (key other : Key) (value : Value) :
    (cells.set key value).get? other = if other = key then some value else cells.get? other := by
  by_cases same : other = key
  · subst same
    simp
  · simp [same]

theorem of_get?_set {cells : Cells Key Value} {key other : Key} {value stored : Value}
    (found : (cells.set key value).get? other = some stored) :
    other = key ∧ value = stored ∨ other ≠ key ∧ cells.get? other = some stored := by
  rw [get?_set] at found
  split at found
  next same => exact .inl ⟨same, Option.some.inj found⟩
  next different => exact .inr ⟨different, found⟩

@[simp]
theorem get?_clear_self (cells : Cells Key Value) (key : Key) : (cells.clear key).get? key = none :=
  AList.lookup_erase key cells.table

@[simp]
theorem get?_clear_ne (cells : Cells Key Value) {key other : Key} (different : other ≠ key) :
    (cells.clear key).get? other = cells.get? other :=
  AList.lookup_erase_ne different

theorem get?_clear (cells : Cells Key Value) (key other : Key) :
    (cells.clear key).get? other = if other = key then none else cells.get? other := by
  by_cases same : other = key
  · subst same
    simp
  · simp [same]

theorem get?_set_ne_none {cells : Cells Key Value} {key other : Key} {old : Value} (value : Value)
    (found : cells.get? other = some old) : (cells.set key value).get? other ≠ none := by
  rw [get?_set]
  split <;> simp [found]

theorem get?_set_of_free {cells : Cells Key Value} {key other : Key} {value old : Value}
    (free : cells.get? key = none) (found : cells.get? other = some old) :
    (cells.set key value).get? other = some old := by
  rw [get?_set_ne, found]
  rintro rfl
  simp [free] at found

theorem eq_of_get?_clear {cells : Cells Key Value} {key other : Key} {value : Value}
    (found : cells.get? other = some value) (gone : (cells.clear key).get? other = none) :
    key = other := by
  by_contra different
  rw [get?_clear_ne _ (Ne.symm different), found] at gone
  simp at gone

theorem of_get?_clear {cells : Cells Key Value} {key other : Key} {value : Value}
    (found : (cells.clear key).get? other = some value) :
    other ≠ key ∧ cells.get? other = some value := by
  rw [get?_clear] at found
  split at found
  next => cases found
  next different => exact ⟨different, found⟩

theorem get?_of_clear {cells : Cells Key Value} {key other : Key} {value : Value}
    (found : (cells.clear key).get? other = some value) : cells.get? other = some value :=
  (of_get?_clear found).2

/-- A cell that holds a number and reads as zero when empty. -/
def amount (cells : Cells Key Nat) (key : Key) : Nat := (cells.get? key).getD 0

@[simp]
theorem amount_empty (key : Key) : (empty : Cells Key Nat).amount key = 0 := by
  simp [amount]

theorem amount_set (cells : Cells Key Nat) (key other : Key) (value : Nat) :
    (cells.set key value).amount other = if other = key then value else cells.amount other := by
  unfold amount
  rw [get?_set]
  split <;> rfl

theorem amount_clear (cells : Cells Key Nat) (key other : Key) :
    (cells.clear key).amount other = if other = key then 0 else cells.amount other := by
  unfold amount
  rw [get?_clear]
  split <;> rfl

theorem sum_kerase (measure : Key → Value → Nat) {key : Key} {value : Value} :
    ∀ {entries : List (Sigma fun _ : Key => Value)}, entries.NodupKeys →
      entries.dlookup key = some value →
      ((entries.kerase key).map fun entry => measure entry.1 entry.2).sum + measure key value =
        (entries.map fun entry => measure entry.1 entry.2).sum
  | [], _, found => by simp at found
  | ⟨head, content⟩ :: rest, distinct, found => by
      by_cases same : key = head
      · subst same
        rw [List.dlookup_cons_eq, Option.some.injEq] at found
        subst found
        have erased : List.kerase key (⟨key, content⟩ :: rest : List (Sigma fun _ : Key => Value)) =
            rest := List.kerase_cons_eq rfl
        rw [erased, List.map_cons, List.sum_cons, Nat.add_comm]
      · rw [List.dlookup_cons_ne rest ⟨head, content⟩ same] at found
        have tail := sum_kerase measure (List.nodupKeys_of_nodupKeys_cons distinct) found
        rw [List.kerase_cons_ne same]
        simp only [List.map_cons, List.sum_cons]
        omega

theorem weigh_set (measure : Key → Value → Nat) (cells : Cells Key Value) (key : Key)
    (value : Value) :
    (cells.set key value).weigh measure = measure key value + (cells.clear key).weigh measure := by
  unfold weigh set clear
  simp only [AList.entries_insert, List.map_cons, List.sum_cons]
  rfl

theorem weigh_clear (measure : Key → Value → Nat) {cells : Cells Key Value} {key : Key}
    {value : Value} (found : cells.get? key = some value) :
    (cells.clear key).weigh measure + measure key value = cells.weigh measure :=
  sum_kerase measure cells.table.nodupKeys found

theorem weigh_clear_of_none (measure : Key → Value → Nat) {cells : Cells Key Value} {key : Key}
    (free : cells.get? key = none) : (cells.clear key).weigh measure = cells.weigh measure := by
  have absent : key ∉ cells.table := AList.lookup_eq_none.mp free
  have erased : cells.table.entries.kerase key = cells.table.entries :=
    List.kerase_of_notMem_keys absent
  change ((cells.table.entries.kerase key).map fun entry => measure entry.1 entry.2).sum = _
  rw [erased]
  rfl

theorem weigh_clear_of_zero (measure : Key → Value → Nat) {cells : Cells Key Value} {key : Key}
    (nothing : ∀ value, cells.get? key = some value → measure key value = 0) :
    (cells.clear key).weigh measure = cells.weigh measure := by
  cases found : cells.get? key with
  | none => exact weigh_clear_of_none measure found
  | some value =>
      have cleared := weigh_clear measure found
      rwa [nothing value found, Nat.add_zero] at cleared

theorem weigh_clear_congr {measure changed : Key → Value → Nat} (cells : Cells Key Value)
    (key : Key) (agree : ∀ other, other ≠ key → changed other = measure other) :
    (cells.clear key).weigh changed = (cells.clear key).weigh measure := by
  unfold weigh
  congr 1
  apply List.map_congr_left
  intro entry inside
  have different : entry.1 ≠ key := by
    intro same
    have present : entry.1 ∈ (cells.clear key).table := List.mem_keys_of_mem inside
    exact (AList.mem_erase.mp present).1 same
  rw [agree _ different]

theorem total_clear (measure : Value → Nat) {cells : Cells Key Value} {key : Key} {value : Value}
    (found : cells.get? key = some value) :
    (cells.clear key).total measure + measure value = cells.total measure :=
  weigh_clear (fun _ => measure) found

theorem total_set_of_none (measure : Value → Nat) {cells : Cells Key Value} {key : Key}
    (value : Value) (free : cells.get? key = none) :
    (cells.set key value).total measure = measure value + cells.total measure := by
  have absent : key ∉ cells.table := AList.lookup_eq_none.mp free
  unfold total set
  rw [AList.entries_insert_of_notMem absent, List.map_cons, List.sum_cons]

theorem total_set_of_some (measure : Value → Nat) {cells : Cells Key Value} {key : Key}
    {old : Value} (value : Value) (found : cells.get? key = some old) :
    (cells.set key value).total measure + measure old = measure value + cells.total measure := by
  have erased := sum_kerase (fun _ => measure) cells.table.nodupKeys found
  unfold total set
  simp only [AList.entries_insert, List.map_cons, List.sum_cons]
  omega

theorem measure_le_total (measure : Value → Nat) {cells : Cells Key Value} {key : Key}
    {value : Value} (found : cells.get? key = some value) : measure value ≤ cells.total measure := by
  have := total_clear measure found
  omega

theorem total_eq_zero_iff (measure : Value → Nat) (cells : Cells Key Value) :
    cells.total measure = 0 ↔ ∀ key value, cells.get? key = some value → measure value = 0 := by
  constructor
  · intro zero key value found
    have := measure_le_total measure found
    omega
  · intro nothing
    apply List.sum_eq_zero
    intro amount membership
    rcases List.mem_map.mp membership with ⟨⟨key, value⟩, inside, rfl⟩
    exact nothing key value (List.mem_dlookup cells.table.nodupKeys inside)

theorem total_clear_of_none (measure : Value → Nat) {cells : Cells Key Value} {key : Key}
    (free : cells.get? key = none) : (cells.clear key).total measure = cells.total measure :=
  weigh_clear_of_none (fun _ => measure) free

theorem total_set_amount (cells : Cells Key Nat) (key : Key) (value : Nat) :
    (cells.set key value).total id + cells.amount key = value + cells.total id := by
  unfold amount
  cases content : cells.get? key with
  | none => exact total_set_of_none id value content
  | some old => exact total_set_of_some id value content

theorem total_clear_amount (cells : Cells Key Nat) (key : Key) :
    (cells.clear key).total id + cells.amount key = cells.total id := by
  unfold amount
  cases content : cells.get? key with
  | none => exact total_clear_of_none id content
  | some old => exact total_clear id content

theorem amount_le_total (cells : Cells Key Nat) (key : Key) :
    cells.amount key ≤ cells.total id := by
  have := total_clear_amount cells key
  omega

end Cells

end Platform
