import Mathlib.Algebra.GroupWithZero.Nat
import XCron.Platform.Outcome

/-!
# Traces of a step function

A trace lists the steps that succeeded, in order: a step that faults is rolled
back whole and leaves nothing behind. The steps of a trace may be required to
meet a condition on the state they start from. The rules below turn a fact
about one step into a fact about every trace.
-/

namespace Platform

variable {State Step : Type}

/-- The steps of `steps` succeed one after the other, each meeting `allowed`. -/
inductive Trace (step : State → Step → Outcome State) (allowed : State → Step → Prop) :
    State → List Step → State → Prop where
  | nil (state : State) : Trace step allowed state [] state
  | cons {state middle final : State} {move : Step} {rest : List Step} :
      allowed state move → step state move = .ok middle →
      Trace step allowed middle rest final → Trace step allowed state (move :: rest) final

def runChecked (step : State → Step → Outcome State) (allowed : State → Step → Prop)
    [∀ state move, Decidable (allowed state move)] : State → List Step → Outcome State
  | state, [] => .ok state
  | state, move :: rest => do
      ensure (allowed state move)
      let next ← step state move
      runChecked step allowed next rest

/-- A run ended well, in a state with the property. -/
def endsIn (property : State → Prop) [DecidablePred property] : Outcome State → Bool
  | .ok final => decide (property final)
  | .error _ => false

theorem endsIn_iff {property : State → Prop} [DecidablePred property] {outcome : Outcome State} :
    endsIn property outcome = true ↔ ∃ final, outcome = .ok final ∧ property final := by
  cases outcome with
  | ok final => simp [endsIn]
  | error fault => simp [endsIn]

/-- The property holds in every state that a run of the steps passes through, the
first and the last one included. -/
def Throughout (step : State → Step → Outcome State) (property : State → Prop) :
    State → List Step → Prop
  | state, [] => property state
  | state, move :: rest =>
      property state ∧ ∀ next, step state move = .ok next → Throughout step property next rest

theorem Throughout.mono {step : State → Step → Outcome State} {property weaker : State → Prop}
    (implied : ∀ state, property state → weaker state) {steps : List Step} {state : State}
    (holds : Throughout step property state steps) : Throughout step weaker state steps := by
  induction steps generalizing state with
  | nil => exact implied state holds
  | cons move rest inductionHypothesis =>
      obtain ⟨here, onwards⟩ := holds
      refine ⟨implied state here, ?_⟩
      intro next stepped
      exact inductionHypothesis (onwards next stepped)

/-- The sum of a measure over the steps of a run, each in the state it starts from. -/
def sumAlong (step : State → Step → Outcome State) (measure : State → Step → Nat) :
    State → List Step → Nat
  | _, [] => 0
  | state, move :: rest =>
      match step state move with
      | .ok next => measure state move + sumAlong step measure next rest
      | .error _ => 0

def outputsAlong {Output : Type} (step : State → Step → Outcome State)
    (output : Step → State → List Output) : State → List Step → List Output
  | _, [] => []
  | state, move :: rest =>
      match step state move with
      | .ok next => output move next ++ outputsAlong step output next rest
      | .error _ => []

/-- The steps since the latest marked one, that one included; all of them if none
is marked. -/
def sinceLatest (marks : Step → Bool) (steps : List Step) : List Step :=
  steps.foldl (fun recent move => if marks move then [move] else recent ++ [move]) []

theorem sinceLatest_concat (marks : Step → Bool) (steps : List Step) (move : Step) :
    sinceLatest marks (steps ++ [move]) =
      if marks move then [move] else sinceLatest marks steps ++ [move] := by
  simp only [sinceLatest, List.foldl_append, List.foldl_cons, List.foldl_nil]

theorem sinceLatest_append {marks : Step → Bool} {later : List Step}
    (unmarked : ∀ move ∈ later, marks move = false) (steps : List Step) :
    sinceLatest marks (steps ++ later) = sinceLatest marks steps ++ later := by
  induction later generalizing steps with
  | nil => simp
  | cons move rest inductionHypothesis =>
      have first : sinceLatest marks (steps ++ [move]) = sinceLatest marks steps ++ [move] := by
        rw [sinceLatest_concat, unmarked move (.head _)]
        rfl
      have onwards := inductionHypothesis (fun other member => unmarked other (.tail _ member))
        (steps ++ [move])
      rw [first] at onwards
      simpa using onwards

namespace Trace

variable {step : State → Step → Outcome State} {allowed : State → Step → Prop}

/-- What every allowed step keeps, every trace keeps. -/
theorem preserves (Invariant : State → Prop)
    (kept : ∀ state move next, allowed state move → Invariant state →
      step state move = .ok next → Invariant next)
    {state final : State} {steps : List Step} (trace : Trace step allowed state steps final)
    (holds : Invariant state) : Invariant final := by
  induction trace with
  | nil => exact holds
  | cons permitted stepped _ inductionHypothesis =>
      exact inductionHypothesis (kept _ _ _ permitted holds stepped)

theorem weaken {wider : State → Step → Prop}
    (implied : ∀ state move, allowed state move → wider state move)
    {state final : State} {steps : List Step} (trace : Trace step allowed state steps final) :
    Trace step wider state steps final := by
  induction trace with
  | nil => exact .nil _
  | cons permitted stepped _ inductionHypothesis =>
      exact .cons (implied _ _ permitted) stepped inductionHypothesis

/-- A condition on the steps alone holds of every step of a trace. -/
theorem all_allowed {condition : Step → Prop} {state final : State} {steps : List Step}
    (trace : Trace step (fun _ move => condition move) state steps final) :
    ∀ move ∈ steps, condition move := by
  induction trace with
  | nil => simp
  | cons permitted _ _ inductionHypothesis =>
      intro move member
      rcases List.mem_cons.mp member with rfl | later
      · exact permitted
      · exact inductionHypothesis move later

/-- What the steps taken so far say about a state, every further allowed step keeping it
true of the longer history, holds after every trace. -/
theorem history_allowed (Invariant : List Step → State → Prop)
    (kept : ∀ past state move next, allowed state move → Invariant past state →
      step state move = .ok next → Invariant (past ++ [move]) next)
    {state final : State} {steps past : List Step} (trace : Trace step allowed state steps final)
    (holds : Invariant past state) : Invariant (past ++ steps) final := by
  induction trace generalizing past with
  | nil => simpa using holds
  | @cons state middle final move rest permitted stepped _ inductionHypothesis =>
      have later := inductionHypothesis (kept _ _ _ _ permitted holds stepped)
      simpa using later

/-- The same where every step keeps it, allowed or not. -/
theorem history (Invariant : List Step → State → Prop)
    (kept : ∀ past state move next, Invariant past state → step state move = .ok next →
      Invariant (past ++ [move]) next)
    {state final : State} {steps past : List Step} (trace : Trace step allowed state steps final)
    (holds : Invariant past state) : Invariant (past ++ steps) final :=
  trace.history_allowed Invariant (fun _ _ _ _ _ holds stepped => kept _ _ _ _ holds stepped) holds

theorem split {wider : State → Step → Prop} {state middle final : State} {past rest : List Step}
    (trace : Trace step allowed state (past ++ rest) final)
    (reached : Trace step wider state past middle) :
    Trace step allowed state past middle ∧ Trace step allowed middle rest final := by
  induction reached with
  | nil state => exact ⟨.nil state, trace⟩
  | cons _ stepped _ inductionHypothesis =>
      cases trace with
      | cons permitted other tail =>
          obtain rfl := Except.ok.inj (stepped.symm.trans other)
          obtain ⟨earlier, later⟩ := inductionHypothesis tail
          exact ⟨.cons permitted stepped earlier, later⟩

/-- Every step of a trace was allowed in the state that the steps before it lead to. -/
theorem at_step {wider : State → Step → Prop} {state before final : State} {past rest : List Step}
    {move : Step} (trace : Trace step allowed state (past ++ move :: rest) final)
    (reached : Trace step wider state past before) :
    Trace step allowed state past before ∧ allowed before move := by
  obtain ⟨earlier, later⟩ := trace.split reached
  cases later with
  | cons permitted _ _ => exact ⟨earlier, permitted⟩

/-- The runs of fair steps are those in which every step was fair in the state it
started from. -/
theorem fair_iff {fair : State → Step → Prop} {state final : State} {steps : List Step}
    (trace : Trace step allowed state steps final) :
    Trace step fair state steps final ↔
      ∀ past move rest before after, steps = past ++ move :: rest →
        Trace step allowed state past before → step before move = .ok after → fair before move := by
  induction trace with
  | nil state => simp [Trace.nil]
  | @cons state middle final move rest permitted stepped tail inductionHypothesis =>
      constructor
      · intro fairTrace past move' rest' before after parts reached stepped'
        rw [parts] at fairTrace
        exact (fairTrace.at_step reached).2
      · intro everywhere
        refine .cons (everywhere [] move rest state middle rfl (.nil state) stepped) stepped
          (inductionHypothesis.mpr ?_)
        intro past move' rest' before after parts reached
        exact everywhere (move :: past) move' rest' before after (by rw [parts]; rfl)
          (.cons permitted stepped reached)

/-- A quantity that every step moves by its measure has moved by their sum. -/
theorem sumAlong_eq (Invariant : State → Prop) (quantity : State → Nat)
    (measure : State → Step → Nat)
    (kept : ∀ state move next, allowed state move → Invariant state →
      step state move = .ok next → Invariant next)
    (moves : ∀ state move next, allowed state move → Invariant state →
      step state move = .ok next → quantity next = quantity state + measure state move)
    {state final : State} {steps : List Step} (trace : Trace step allowed state steps final)
    (holds : Invariant state) :
    quantity final = quantity state + sumAlong step measure state steps := by
  induction trace with
  | nil => rfl
  | @cons state middle final move rest permitted stepped _ inductionHypothesis =>
      have later := inductionHypothesis (kept _ _ _ permitted holds stepped)
      have first := moves _ _ _ permitted holds stepped
      simp only [sumAlong, stepped]
      omega

theorem outputs {Output : Type} (output : Step → State → List Output)
    (Invariant : List Output → State → Prop)
    (kept : ∀ past state move next, Invariant past state → step state move = .ok next →
      Invariant (past ++ output move next) next)
    {state final : State} {steps : List Step} {past : List Output}
    (trace : Trace step allowed state steps final) (holds : Invariant past state) :
    Invariant (past ++ outputsAlong step output state steps) final := by
  induction trace generalizing past with
  | nil => simpa [outputsAlong] using holds
  | @cons state middle final move rest _ stepped _ inductionHypothesis =>
      have later := inductionHypothesis (kept _ _ _ _ holds stepped)
      simpa [outputsAlong, stepped] using later

section Metered

variable (Invariant : State → Prop) (measure : State → Nat) (input : Step → Nat)
  (kept : ∀ state move next, Invariant state → step state move = .ok next → Invariant next)
  (raised : ∀ state move next, Invariant state → step state move = .ok next →
    measure state + input move ≤ measure next)

include kept raised

/-- A measure that no step raises by less than its input never falls behind the
inputs. -/
theorem input_le_measure {state final : State} {steps : List Step}
    (trace : Trace step allowed state steps final) (holds : Invariant state) :
    measure state + (steps.map input).sum ≤ measure final := by
  induction trace with
  | nil => simp
  | cons _ stepped _ inductionHypothesis =>
      have first := raised _ _ _ holds stepped
      have later := inductionHypothesis (kept _ _ _ holds stepped)
      simp only [List.map_cons, List.sum_cons]
      omega

/-- If exactly the fair steps raise the measure by no more than their input, then
exactly the runs of fair steps do. -/
theorem measure_le_input_iff (fair : State → Step → Prop)
    (conserved : ∀ state move next, Invariant state → step state move = .ok next →
      (measure next ≤ measure state + input move ↔ fair state move))
    {state final : State} {steps : List Step} (trace : Trace step allowed state steps final)
    (holds : Invariant state) :
    measure final ≤ measure state + (steps.map input).sum ↔ Trace step fair state steps final := by
  induction trace with
  | nil state => simp [Trace.nil]
  | @cons state middle final move rest _ stepped tail inductionHypothesis =>
      have holds' := kept _ _ _ holds stepped
      have first := raised _ _ _ holds stepped
      have remaining := tail.input_le_measure Invariant measure input kept raised holds'
      simp only [List.map_cons, List.sum_cons]
      constructor
      · intro within
        have spared : measure middle ≤ measure state + input move := by omega
        refine .cons ((conserved _ _ _ holds stepped).mp spared) stepped
          ((inductionHypothesis holds').mp ?_)
        omega
      · intro fairTrace
        cases fairTrace with
        | cons fairStep stepped' fairTail =>
            obtain rfl := Except.ok.inj (stepped.symm.trans stepped')
            have within := (conserved _ _ _ holds stepped).mpr fairStep
            have later := (inductionHypothesis holds').mpr fairTail
            omega

end Metered

/-- If a bad state is never left again, and entered exactly by the steps that are
not fair, then the runs of fair steps are exactly those that end well. -/
theorem avoids_iff (Invariant : State → Prop) {bad : State → Prop} {fair : State → Step → Prop}
    (kept : ∀ state move next, Invariant state → step state move = .ok next → Invariant next)
    (persists : ∀ state move next, Invariant state → bad state → step state move = .ok next →
      bad next)
    (enters : ∀ state move next, Invariant state → ¬bad state → step state move = .ok next →
      (¬bad next ↔ fair state move))
    {state final : State} {steps : List Step} (trace : Trace step allowed state steps final)
    (holds : Invariant state) (clean : ¬bad state) :
    ¬bad final ↔ Trace step fair state steps final := by
  induction trace with
  | nil state => simp [Trace.nil, clean]
  | @cons state middle final move rest _ stepped tail inductionHypothesis =>
      have holds' := kept _ _ _ holds stepped
      have entered := enters _ _ _ holds clean stepped
      by_cases spoiled : bad middle
      · have spoiled' : Invariant final ∧ bad final := by
          refine tail.preserves (fun state => Invariant state ∧ bad state) ?_
            ⟨holds', spoiled⟩
          rintro _ _ _ _ ⟨holds, spoiled⟩ stepped
          exact ⟨kept _ _ _ holds stepped, persists _ _ _ holds spoiled stepped⟩
        refine iff_of_false (not_not_intro spoiled'.2) ?_
        intro fairTrace
        cases fairTrace with
        | cons fairStep _ _ => exact entered.mpr fairStep spoiled
      · rw [inductionHypothesis holds' spoiled]
        constructor
        · intro fairTail
          exact .cons (entered.mp spoiled) stepped fairTail
        · intro fairTrace
          cases fairTrace with
          | cons _ stepped' fairTail =>
              obtain rfl := Except.ok.inj (stepped.symm.trans stepped')
              exact fairTail

/-- If exactly the fair steps keep a good state good, then the runs of fair steps
are exactly those that pass through good states only. -/
theorem throughout_iff (Invariant : State → Prop) {good : State → Prop}
    {fair : State → Step → Prop}
    (kept : ∀ state move next, Invariant state → step state move = .ok next → Invariant next)
    (keeps : ∀ state move next, Invariant state → good state → step state move = .ok next →
      (good next ↔ fair state move))
    {state final : State} {steps : List Step} (trace : Trace step allowed state steps final)
    (holds : Invariant state) (start : good state) :
    Throughout step good state steps ↔ Trace step fair state steps final := by
  induction trace with
  | nil state => simp [Throughout, Trace.nil, start]
  | @cons state middle final move rest _ stepped tail inductionHypothesis =>
      have holds' := kept _ _ _ holds stepped
      have kept' := keeps _ _ _ holds start stepped
      constructor
      · rintro ⟨_, onwards⟩
        have later := onwards middle stepped
        have good' : good middle := by
          cases rest with
          | nil => exact later
          | cons _ _ => exact later.1
        exact .cons (kept'.mp good') stepped ((inductionHypothesis holds' good').mp later)
      · intro fairTrace
        cases fairTrace with
        | cons fairStep stepped' fairTail =>
            obtain rfl := Except.ok.inj (stepped.symm.trans stepped')
            have good' := kept'.mpr fairStep
            refine ⟨start, ?_⟩
            intro next stepped''
            obtain rfl := Except.ok.inj (stepped.symm.trans stepped'')
            exact (inductionHypothesis holds' good').mpr fairTail

theorem concat {state middle final : State} {steps : List Step} {move : Step}
    (trace : Trace step allowed state steps middle) (permitted : allowed middle move)
    (stepped : step middle move = .ok final) : Trace step allowed state (steps ++ [move]) final := by
  induction trace with
  | nil => exact .cons permitted stepped (.nil _)
  | cons first firstStepped _ inductionHypothesis =>
      exact .cons first firstStepped (inductionHypothesis permitted stepped)

theorem last {state final : State} {steps : List Step} {move : Step}
    (trace : Trace step allowed state (steps ++ [move]) final) :
    ∃ middle, Trace step allowed state steps middle ∧ allowed middle move ∧
      step middle move = .ok final := by
  induction steps generalizing state with
  | nil =>
      cases trace with
      | cons permitted stepped rest =>
          cases rest
          exact ⟨state, .nil state, permitted, stepped⟩
  | cons first rest inductionHypothesis =>
      cases trace with
      | cons permitted stepped later =>
          obtain ⟨middle, before, last⟩ := inductionHypothesis later
          exact ⟨middle, .cons permitted stepped before, last⟩

/-- A property of the final state of a run, checked by running it. -/
theorem of_runChecked (step : State → Step → Outcome State) (allowed : State → Step → Prop)
    [∀ state move, Decidable (allowed state move)] (state : State) (steps : List Step)
    (property : State → Prop) [DecidablePred property]
    (checked : endsIn property (runChecked step allowed state steps) = true) :
    ∃ final, Trace step allowed state steps final ∧ property final := by
  induction steps generalizing state with
  | nil => exact ⟨state, .nil state, of_decide_eq_true checked⟩
  | cons move rest inductionHypothesis =>
      by_cases permitted : allowed state move
      · cases stepped : step state move with
        | error fault =>
            simp [runChecked, ensure, permitted, stepped, Bind.bind, Except.bind, endsIn] at checked
        | ok next =>
            simp only [runChecked, ensure, permitted, if_true, stepped, Bind.bind,
              Except.bind] at checked
            rcases inductionHypothesis next checked with ⟨final, trace, holds⟩
            exact ⟨final, .cons permitted stepped trace, holds⟩
      · simp [runChecked, ensure, permitted, Bind.bind, Except.bind, endsIn] at checked

end Trace

end Platform
