import XCron.Platform.Trace

/-!
# Runs of several components

A system whose steps each belong to one of its components. Seen by one of them, a run is a
run of its own: the steps of the others leave it as it is.
-/

namespace Platform

variable {State Step Part Move : Type} {step : State → Step → Outcome State}
  {allowed : State → Step → Prop}

/-- What a component sees of a system. -/
structure Component (step : State → Step → Outcome State) (partStep : Part → Move → Outcome Part)
    where
  part : State → Part
  own : Step → Option Move
  acts : ∀ {state next : State} {taken : Step} {move : Move}, own taken = some move →
    step state taken = .ok next → partStep (part state) move = .ok (part next)
  rests : ∀ {state next : State} {taken : Step}, own taken = none → step state taken = .ok next →
    part next = part state

namespace Component

variable {partStep : Part → Move → Outcome Part} (component : Component step partStep)

def moves (steps : List Step) : List Move := steps.filterMap component.own

theorem trace {state final : State} {steps : List Step}
    (trace : Trace step allowed state steps final) :
    Trace partStep (fun _ _ => True) (component.part state) (component.moves steps)
      (component.part final) := by
  induction trace with
  | nil state => exact .nil _
  | @cons state middle final taken rest _ stepped _ inductionHypothesis =>
      unfold moves
      cases owned : component.own taken with
      | some move =>
          rw [List.filterMap_cons_some owned]
          exact .cons trivial (component.acts owned stepped) inductionHypothesis
      | none =>
          rw [List.filterMap_cons_none owned, ← component.rests owned stepped]
          exact inductionHypothesis

end Component

/-- The state in which a step of a run was taken. -/
theorem Trace.at_middle {state final : State} {past rest : List Step} {taken : Step}
    (trace : Trace step allowed state (past ++ taken :: rest) final) :
    ∃ before after, Trace step allowed state past before ∧ allowed before taken ∧
      step before taken = .ok after ∧ Trace step allowed after rest final := by
  induction past generalizing state with
  | nil =>
      cases trace with
      | cons permitted stepped later => exact ⟨_, _, .nil state, permitted, stepped, later⟩
  | cons first past inductionHypothesis =>
      cases trace with
      | cons permitted stepped later =>
          obtain ⟨before, after, reached, taken, moved, onwards⟩ := inductionHypothesis later
          exact ⟨before, after, .cons permitted stepped reached, taken, moved, onwards⟩

end Platform
