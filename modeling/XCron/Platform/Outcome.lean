import Mathlib.Tactic.Basic

/-!
# Outcomes of contract calls

A call either produces a result or stops with a fault, and a fault undoes
everything the call did. The inversion lemmas take a successful call apart
into its checks without unfolding any contract code.
-/

namespace Platform

/-- Why a call stopped. -/
inductive Fault where
  /-- `require!` and `sc_panic!`, with the contract's own message. -/
  | signal (message : String)
  | decode
  | egldShortage
  | esdtShortage
  | rejected
  deriving DecidableEq

abbrev Outcome := Except Fault

def require (condition : Prop) [Decidable condition] (message : String) : Outcome Unit :=
  if condition then .ok () else .error (.signal message)

def ensure (condition : Prop) [Decidable condition] : Outcome Unit :=
  if condition then .ok () else .error .rejected

/-- `get()` on a cell that must not be empty. -/
def load {Alpha : Type} : Option Alpha → Outcome Alpha
  | some value => .ok value
  | none => .error .decode

namespace Outcome

variable {Alpha Beta : Type}

@[simp]
theorem bind_eq_ok (first : Outcome Alpha) (next : Alpha → Outcome Beta) (result : Beta) :
    (first >>= next) = .ok result ↔
      ∃ value, first = .ok value ∧ next value = .ok result := by
  cases first <;> simp [Bind.bind, Except.bind]

@[simp]
theorem pure_eq_ok (value result : Alpha) :
    (pure value : Outcome Alpha) = .ok result ↔ value = result := by
  simp [pure, Except.pure]

@[simp]
theorem map_eq_ok (first : Outcome Alpha) (transform : Alpha → Beta) (result : Beta) :
    (transform <$> first) = .ok result ↔ ∃ value, first = .ok value ∧ transform value = result := by
  cases first <;> simp [Functor.map, Except.map]

@[simp]
theorem require_eq_ok (condition : Prop) [Decidable condition] (message : String) (u : Unit) :
    require condition message = .ok u ↔ condition := by
  unfold require
  split <;> simp_all

@[simp]
theorem ensure_eq_ok (condition : Prop) [Decidable condition] (u : Unit) :
    ensure condition = .ok u ↔ condition := by
  unfold ensure
  split <;> simp_all

@[simp]
theorem load_eq_ok (cell : Option Alpha) (value : Alpha) :
    load cell = .ok value ↔ cell = some value := by
  cases cell <;> simp [load]

/-- The call does not stop for lack of EGLD. -/
def Funded (outcome : Outcome Alpha) : Prop := outcome ≠ .error .egldShortage

@[simp]
theorem funded_ok (value : Alpha) : Funded (.ok value : Outcome Alpha) := by
  simp [Funded]

@[simp]
theorem funded_pure (value : Alpha) : Funded (pure value : Outcome Alpha) := funded_ok value

@[simp]
theorem funded_signal (message : String) : Funded (.error (.signal message) : Outcome Alpha) := by
  simp [Funded]

@[simp]
theorem funded_rejected : Funded (.error .rejected : Outcome Alpha) := by
  simp [Funded]

@[simp]
theorem funded_bind (first : Outcome Alpha) (next : Alpha → Outcome Beta) :
    Funded (first >>= next) ↔ Funded first ∧ ∀ value, first = .ok value → Funded (next value) := by
  cases first <;> simp [Funded, Bind.bind, Except.bind]

@[simp]
theorem funded_map (first : Outcome Alpha) (transform : Alpha → Beta) :
    Funded (transform <$> first) ↔ Funded first := by
  cases first <;> simp [Funded, Functor.map, Except.map]

@[simp]
theorem funded_require (condition : Prop) [Decidable condition] (message : String) :
    Funded (require condition message) := by
  unfold require
  split <;> simp

@[simp]
theorem funded_ensure (condition : Prop) [Decidable condition] : Funded (ensure condition) := by
  unfold ensure
  split <;> simp

@[simp]
theorem funded_load (cell : Option Alpha) : Funded (load cell) := by
  cases cell <;> simp [load, Funded]

end Outcome

def bigUintDiv (dividend divisor : Nat) : Outcome Nat := do
  require (divisor ≠ 0) "division by 0"
  pure (dividend / divisor)

theorem bigUintDiv_eq_ok {dividend divisor quotient : Nat} :
    bigUintDiv dividend divisor = .ok quotient ↔ divisor ≠ 0 ∧ dividend / divisor = quotient := by
  simp only [bigUintDiv, Outcome.bind_eq_ok, Outcome.require_eq_ok, Outcome.pure_eq_ok,
    exists_const]

end Platform
