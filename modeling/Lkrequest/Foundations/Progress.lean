import Lkrequest.Foundations.Runs

namespace Foundations

universe u v

/-!
# Steps that come to an end

Some labels of a machine are what its parties do of their own accord, the others
what their surroundings do to them.  When each step of the parties makes a
measure smaller, the parties come to rest, in whatever order they go on, and
what holds of a state in which none of them can go on is reached.
-/

section Progress

variable {State : Type u} {Label : Type v}

/-- The steps of the parties keep the invariant and make the measure smaller. -/
structure Settling (machine : Machine State Label) (own : Label -> Prop) (Inv : State -> Prop)
    (measure : State -> Nat) : Prop where
  keeps : forall {state label next}, Inv state -> own label -> machine.step state label = some next -> Inv next
  decreases : forall {state label next}, Inv state -> own label -> machine.step state label = some next ->
    measure next < measure state

/-- A measure of two layers: work that is done once, and turns that are taken
anew after each piece of work, never more than the bound. -/
theorem layered_lt {bound work turns work' turns' : Nat} (low : turns' <= bound)
    (less : work' < work ∨ (work' = work ∧ turns' < turns)) :
    (bound + 1) * work' + turns' < (bound + 1) * work + turns := by
  rcases less with fewer | ⟨same, fewer⟩
  · calc (bound + 1) * work' + turns'
        < (bound + 1) * work' + (bound + 1) := by omega
      _ = (bound + 1) * (work' + 1) := (Nat.mul_succ (bound + 1) work').symm
      _ <= (bound + 1) * work := Nat.mul_le_mul_left (bound + 1) fewer
      _ <= (bound + 1) * work + turns := Nat.le_add_right _ _
  · rw [same]
    exact Nat.add_lt_add_left fewer _

/-- No party can go on. -/
def AtRest (machine : Machine State Label) (own : Label -> Prop) (state : State) : Prop :=
  forall label, own label -> machine.step state label = none

namespace Settling

variable {machine : Machine State Label} {own : Label -> Prop} {Inv : State -> Prop}
variable {measure : State -> Nat} {state final : State} {labels : List Label}

/-- However the parties go on, they are done after as many steps as the measure allows. -/
theorem length_le (settling : Settling machine own Inv measure) (holds : Inv state)
    (all : ∀ label ∈ labels, own label) (ran : machine.run state labels = some final) :
    labels.length + measure final <= measure state := by
  induction labels generalizing state with
  | nil =>
      cases Option.some.inj ran
      exact Nat.le_of_eq (Nat.zero_add _)
  | cons label rest ih =>
      rw [List.forall_mem_cons] at all
      rcases (machine.run_cons).mp ran with ⟨next, stepped, remaining⟩
      have less := settling.decreases holds all.1 stepped
      have later := ih (settling.keeps holds all.1 stepped) all.2 remaining
      rw [List.length_cons]
      omega

/-- If each step of a kind makes a second measure smaller and no step makes it
bigger, it says how many steps of the kind there are. -/
theorem countP_le (settling : Settling machine own Inv measure) {kind : Label -> Bool} {left : State -> Nat}
    (spends : forall {state label next}, Inv state -> own label -> machine.step state label = some next ->
      left next + (if kind label then 1 else 0) <= left state)
    (holds : Inv state) (all : ∀ label ∈ labels, own label) (ran : machine.run state labels = some final) :
    labels.countP kind + left final <= left state := by
  induction labels generalizing state with
  | nil =>
      cases Option.some.inj ran
      exact Nat.le_of_eq (Nat.zero_add _)
  | cons label rest ih =>
      rw [List.forall_mem_cons] at all
      rcases (machine.run_cons).mp ran with ⟨next, stepped, remaining⟩
      have spent := spends holds all.1 stepped
      have later := ih (settling.keeps holds all.1 stepped) all.2 remaining
      rw [List.countP_cons]
      omega

theorem run_keeps (settling : Settling machine own Inv measure) (holds : Inv state)
    (all : ∀ label ∈ labels, own label) (ran : machine.run state labels = some final) : Inv final := by
  induction labels generalizing state with
  | nil => exact Option.some.inj ran ▸ holds
  | cons label rest ih =>
      rw [List.forall_mem_cons] at all
      rcases (machine.run_cons).mp ran with ⟨next, stepped, remaining⟩
      exact ih (settling.keeps holds all.1 stepped) all.2 remaining

/-- What each step of the parties keeps, once it holds, holds from then on. -/
theorem run_keeps_fact (settling : Settling machine own Inv measure) {Fact : State -> Prop}
    (keeps : forall {state label next}, Inv state -> own label -> machine.step state label = some next ->
      Fact state -> Fact next)
    (holds : Inv state) (fact : Fact state) (all : ∀ label ∈ labels, own label)
    (ran : machine.run state labels = some final) : Fact final := by
  have both : Settling machine own (fun state => Inv state ∧ Fact state) measure := by
    refine ⟨?_, ?_⟩
    · rintro state label next ⟨holds, fact⟩ mine stepped
      exact ⟨settling.keeps holds mine stepped, keeps holds mine stepped fact⟩
    · rintro state label next ⟨holds, _⟩ mine stepped
      exact settling.decreases holds mine stepped
  exact (both.run_keeps ⟨holds, fact⟩ all ran).2

/-- From every state the parties can go on until none of them can. -/
theorem reaches_rest (settling : Settling machine own Inv measure) (holds : Inv state) :
    ∃ labels final, (∀ label ∈ labels, own label) ∧ machine.run state labels = some final ∧
      AtRest machine own final := by
  generalize bound : measure state = steps
  induction steps using Nat.strongRecOn generalizing state with
  | ind steps ih =>
      by_cases rests : AtRest machine own state
      · exact ⟨[], state, fun _ among => absurd among List.not_mem_nil, rfl, rests⟩
      · rcases Classical.not_forall.mp rests with ⟨label, goesOn⟩
        rcases Classical.not_imp.mp goesOn with ⟨mine, enabled⟩
        rcases Option.ne_none_iff_exists'.mp enabled with ⟨next, stepped⟩
        have less := settling.decreases holds mine stepped
        rcases ih (measure next) (bound ▸ less) (settling.keeps holds mine stepped) rfl with
          ⟨labels, final, all, ran, rests⟩
        exact ⟨label :: labels, final, List.forall_mem_cons.mpr ⟨mine, all⟩,
          (machine.run_cons).mpr ⟨next, stepped, ran⟩, rests⟩

end Settling

end Progress
end Foundations
