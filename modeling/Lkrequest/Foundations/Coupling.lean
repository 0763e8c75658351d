import Lkrequest.Foundations.Runs

namespace Foundations

universe u v

/-!
# Two machines side by side

Two components that were each given a machine of its own often meet: what one of
them does is also a step of the other, and some steps of one have to wait for the
other.  A coupling says which steps are taken together and which are allowed
alone; it remembers who belongs to whom.

Whatever is proved of all runs of one component holds in the coupling, because a
run of the coupling is a run of each of the two.
-/

/-- A step of the first machine alone, of the second alone, or of both at once. -/
inductive Joint (First Second : Type u)
  | first (label : First)
  | second (label : Second)
  | both (one : First) (other : Second)

namespace Joint

variable {First Second : Type u}

def onFirst : Joint First Second -> Option First
  | .first label => some label
  | .second _ => none
  | .both one _ => some one

def onSecond : Joint First Second -> Option Second
  | .first _ => none
  | .second label => some label
  | .both _ other => some other

end Joint

/-- The states of the two components, and who belongs to whom. -/
structure Coupled (First Second Link : Type v) where
  first : First
  second : Second
  link : Link

structure Coupling (State Other Link : Type v) (Label OtherLabel : Type u) where
  one : Machine State Label
  other : Machine Other OtherLabel
  allows : Coupled State Other Link -> Joint Label OtherLabel -> Bool
  relink : Coupled State Other Link -> Joint Label OtherLabel -> Link

namespace Coupling

variable {State Other Link : Type v} {Label OtherLabel : Type u}
variable (coupling : Coupling State Other Link Label OtherLabel)

def step (state : Coupled State Other Link) (label : Joint Label OtherLabel) : Option (Coupled State Other Link) :=
  if coupling.allows state label then
    match label with
    | .first label' => do
        let first <- coupling.one.step state.first label'
        some ⟨first, state.second, coupling.relink state label⟩
    | .second label' => do
        let second <- coupling.other.step state.second label'
        some ⟨state.first, second, coupling.relink state label⟩
    | .both label' other => do
        let first <- coupling.one.step state.first label'
        let second <- coupling.other.step state.second other
        some ⟨first, second, coupling.relink state label⟩
  else none

def machine : Machine (Coupled State Other Link) (Joint Label OtherLabel) := ⟨coupling.step⟩

/-- What a step is made of. -/
inductive Steps (state : Coupled State Other Link) : Joint Label OtherLabel -> Coupled State Other Link -> Prop
  | first {label : Label} {first : State} (allowed : coupling.allows state (.first label) = true)
      (stepped : coupling.one.step state.first label = some first) :
      Steps state (.first label) ⟨first, state.second, coupling.relink state (.first label)⟩
  | second {label : OtherLabel} {second : Other} (allowed : coupling.allows state (.second label) = true)
      (stepped : coupling.other.step state.second label = some second) :
      Steps state (.second label) ⟨state.first, second, coupling.relink state (.second label)⟩
  | both {label : Label} {other : OtherLabel} {first : State} {second : Other}
      (allowed : coupling.allows state (.both label other) = true)
      (stepped : coupling.one.step state.first label = some first)
      (too : coupling.other.step state.second other = some second) :
      Steps state (.both label other) ⟨first, second, coupling.relink state (.both label other)⟩

theorem step_eq_some {state next : Coupled State Other Link} {label : Joint Label OtherLabel} :
    coupling.step state label = some next <-> coupling.Steps state label next := by
  constructor
  · intro stepped
    unfold step at stepped
    split at stepped
    · rename_i allowed
      cases label with
      | first label =>
          rcases Option.bind_eq_some_iff.mp stepped with ⟨first, moved, same⟩
          cases same
          exact .first allowed moved
      | second label =>
          rcases Option.bind_eq_some_iff.mp stepped with ⟨second, moved, same⟩
          cases same
          exact .second allowed moved
      | both label other =>
          rcases Option.bind_eq_some_iff.mp stepped with ⟨first, moved, rest⟩
          rcases Option.bind_eq_some_iff.mp rest with ⟨second, too, same⟩
          cases same
          exact .both allowed moved too
    · cases stepped
  · intro steps
    unfold step
    cases steps with
    | first allowed moved =>
        rw [if_pos allowed]
        dsimp only
        rw [moved]
        rfl
    | second allowed moved =>
        rw [if_pos allowed]
        dsimp only
        rw [moved]
        rfl
    | both allowed moved too =>
        rw [if_pos allowed]
        dsimp only
        rw [moved, too]
        rfl

section Projections

variable {coupling} {state final : Coupled State Other Link} {labels : List (Joint Label OtherLabel)}

/-- A run is a run of the first component. -/
theorem run_first (ran : coupling.machine.run state labels = some final) :
    coupling.one.run state.first (labels.filterMap Joint.onFirst) = some final.first := by
  induction labels generalizing state with
  | nil => exact congrArg (Option.map Coupled.first) ran
  | cons label rest ih =>
      rcases (coupling.machine.run_cons).mp ran with ⟨next, stepped, remaining⟩
      have later := ih remaining
      cases (coupling.step_eq_some).mp stepped with
      | first allowed moved => exact (coupling.one.run_cons).mpr ⟨_, moved, later⟩
      | second allowed moved => exact later
      | both allowed moved too => exact (coupling.one.run_cons).mpr ⟨_, moved, later⟩

/-- And of the second one. -/
theorem run_second (ran : coupling.machine.run state labels = some final) :
    coupling.other.run state.second (labels.filterMap Joint.onSecond) = some final.second := by
  induction labels generalizing state with
  | nil => exact congrArg (Option.map Coupled.second) ran
  | cons label rest ih =>
      rcases (coupling.machine.run_cons).mp ran with ⟨next, stepped, remaining⟩
      have later := ih remaining
      cases (coupling.step_eq_some).mp stepped with
      | first allowed moved => exact later
      | second allowed moved => exact (coupling.other.run_cons).mpr ⟨_, moved, later⟩
      | both allowed moved too => exact (coupling.other.run_cons).mpr ⟨_, too, later⟩

end Projections

end Coupling
end Foundations
