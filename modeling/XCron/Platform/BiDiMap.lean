import XCron.Platform.Cells

/-!
# Two-way maps

The framework keeps a map between identifiers and values in both directions. It refuses,
without a fault, a pair of which either half is there already.
-/

namespace Platform

variable {Id Value : Type} [DecidableEq Id] [DecidableEq Value]

/-- `BiDiMapper`: two maps that are the inverse of one another. -/
structure BiDiMap (Id Value : Type) [DecidableEq Id] [DecidableEq Value] where
  values : Cells Id Value
  ids : Cells Value Id
  inverse : ∀ id value, values.get? id = some value ↔ ids.get? value = some id

namespace BiDiMap

def empty : BiDiMap Id Value := ⟨.empty, .empty, fun _ _ => by simp⟩

def getValue (map : BiDiMap Id Value) (id : Id) : Option Value := map.values.get? id

def getId (map : BiDiMap Id Value) (value : Value) : Option Id := map.ids.get? value

theorem inverse_insert (map : BiDiMap Id Value) {id : Id} {value : Value}
    (freeId : map.getValue id = none) (freeValue : map.getId value = none) (other : Id)
    (content : Value) :
    (map.values.set id value).get? other = some content ↔
      (map.ids.set value id).get? content = some other := by
  rw [Cells.get?_set, Cells.get?_set]
  by_cases sameId : other = id
  · subst sameId
    by_cases sameValue : content = value
    · simp [sameValue]
    · have absent : map.ids.get? content ≠ some other := by
        intro found
        cases freeId.symm.trans ((map.inverse other content).mpr found)
      simp [sameValue, Ne.symm sameValue, absent]
  · by_cases sameValue : content = value
    · subst sameValue
      have absent : map.values.get? other ≠ some content := by
        intro found
        cases freeValue.symm.trans ((map.inverse other content).mp found)
      simp [sameId, Ne.symm sameId, absent]
    · rw [if_neg sameId, if_neg sameValue]
      exact map.inverse other content

/-- `insert`: it does nothing if the identifier or the value is present. -/
def insert (map : BiDiMap Id Value) (id : Id) (value : Value) : BiDiMap Id Value :=
  if free : map.getValue id = none ∧ map.getId value = none then
    { values := map.values.set id value
      ids := map.ids.set value id
      inverse := map.inverse_insert free.1 free.2 }
  else map

theorem insert_of_present {map : BiDiMap Id Value} {id : Id} (value : Value)
    (present : map.getValue id ≠ none) : map.insert id value = map :=
  dif_neg fun free => present free.1

theorem getValue_insert_of_free {map : BiDiMap Id Value} {id : Id} {value : Value} (other : Id)
    (freeId : map.getValue id = none) (freeValue : map.getId value = none) :
    (map.insert id value).getValue other = if other = id then some value else map.getValue other := by
  unfold insert
  rw [dif_pos ⟨freeId, freeValue⟩]
  exact Cells.get?_set _ _ _ _

theorem getValue_of_insert {map : BiDiMap Id Value} {id other : Id} (value : Value)
    (different : other ≠ id) : (map.insert id value).getValue other = map.getValue other := by
  unfold insert
  split
  next free => exact Cells.get?_set_ne _ _ different
  next _ => rfl

end BiDiMap

end Platform
