import Mathlib.Logic.Relation

namespace Foundations

universe u v w

/-!
# Runs of a labelled machine

A machine is a partial step function: a label that is not enabled in a state
has no successor.  Everything concurrent is described this way, with one label
for each atomic action of each party, so that a list of labels is one
interleaving and a quantifier over lists is a quantifier over interleavings.

The rules below are the only inductions over runs that the developments on top
of this module need: an invariant of every step is an invariant of every run
(possibly only of runs whose steps meet a side condition), a fact that became
true became true at some step, and a relation matched step by step is matched
run by run.
-/

/-- A labelled machine with a deterministic, partial step. -/
structure Machine (State : Type u) (Label : Type v) where
  step : State -> Label -> Option State

namespace Machine

variable {State : Type u} {Label : Type v} (machine : Machine State Label)

/-- Perform the labels from left to right. -/
def run : State -> List Label -> Option State
  | state, [] => some state
  | state, label :: rest => (machine.step state label).bind (fun next => run next rest)

@[simp] theorem run_nil (state : State) : machine.run state [] = some state := rfl

theorem run_cons {state final : State} {label : Label} {rest : List Label} :
    machine.run state (label :: rest) = some final <->
      ∃ next, machine.step state label = some next ∧ machine.run next rest = some final := by
  simp only [run, Option.bind_eq_some_iff]

theorem run_append {state final : State} {first second : List Label} :
    machine.run state (first ++ second) = some final <->
      ∃ middle, machine.run state first = some middle ∧ machine.run middle second = some final := by
  induction first generalizing state with
  | nil => simp
  | cons label rest ih =>
      rw [List.cons_append, run_cons]
      constructor
      · rintro ⟨next, stepped, remaining⟩
        rcases ih.mp remaining with ⟨middle, early, late⟩
        exact ⟨middle, (run_cons machine).mpr ⟨next, stepped, early⟩, late⟩
      · rintro ⟨middle, early, late⟩
        rcases (run_cons machine).mp early with ⟨next, stepped, remaining⟩
        exact ⟨next, stepped, ih.mpr ⟨middle, remaining, late⟩⟩

theorem run_snoc {state middle final : State} {labels : List Label} {label : Label}
    (ran : machine.run state labels = some middle) (stepped : machine.step middle label = some final) :
    machine.run state (labels ++ [label]) = some final :=
  (run_append machine).mpr ⟨middle, ran, (run_cons machine).mpr ⟨final, stepped, rfl⟩⟩

theorem run_append_cons {state final : State} {first second : List Label} {label : Label} :
    machine.run state (first ++ label :: second) = some final <->
      ∃ middle next, machine.run state first = some middle ∧ machine.step middle label = some next ∧
        machine.run next second = some final := by
  rw [run_append]
  constructor
  · rintro ⟨middle, early, late⟩
    rcases (run_cons machine).mp late with ⟨next, stepped, remaining⟩
    exact ⟨middle, next, early, stepped, remaining⟩
  · rintro ⟨middle, next, early, stepped, remaining⟩
    exact ⟨middle, early, (run_cons machine).mpr ⟨next, stepped, remaining⟩⟩

/-- A run goes through the step of each of its labels. -/
theorem run_of_mem {state final : State} {labels : List Label} {label : Label} (among : label ∈ labels)
    (ran : machine.run state labels = some final) :
    ∃ early late middle next, labels = early ++ label :: late ∧ machine.run state early = some middle ∧
      machine.step middle label = some next ∧ machine.run next late = some final := by
  rcases List.append_of_mem among with ⟨early, late, split⟩
  rw [split] at ran
  rcases (run_append_cons machine).mp ran with ⟨middle, next, before, stepped, after⟩
  exact ⟨early, late, middle, next, split, before, stepped, after⟩

theorem step_of_run_snoc {state middle final : State} {labels : List Label} {label : Label}
    (ran : machine.run state labels = some middle)
    (ranOn : machine.run state (labels ++ [label]) = some final) : machine.step middle label = some final := by
  rcases (run_append_cons machine).mp ranOn with ⟨same, next, before, stepped, ended⟩
  cases ran.symm.trans before
  cases Option.some.inj ended
  exact stepped

/-! ## Invariants -/

/-- What every step preserves, every run preserves. -/
theorem run_invariant (Inv : State -> Prop)
    (keeps : forall state label next, Inv state -> machine.step state label = some next -> Inv next)
    {state final : State} {labels : List Label} (holds : Inv state)
    (ran : machine.run state labels = some final) : Inv final := by
  induction labels generalizing state with
  | nil => exact Option.some.inj ran ▸ holds
  | cons label rest ih =>
      rcases (run_cons machine).mp ran with ⟨next, stepped, remaining⟩
      exact ih (keeps state label next holds stepped) remaining

/-- Every step of the run meets the side condition in the state it is taken in. -/
def Along (ok : State -> Label -> Prop) : State -> List Label -> Prop
  | _, [] => True
  | state, label :: rest =>
      ok state label ∧ forall next, machine.step state label = some next -> Along ok next rest

instance decidableAlong (ok : State -> Label -> Prop) [forall state label, Decidable (ok state label)] :
    forall (state : State) (labels : List Label), Decidable (machine.Along ok state labels)
  | _, [] => isTrue trivial
  | state, label :: rest =>
      have : forall next, Decidable (machine.Along ok next rest) :=
        fun next => decidableAlong ok next rest
      inferInstanceAs
        (Decidable (ok state label ∧ ∀ next ∈ machine.step state label, machine.Along ok next rest))

theorem along_append (ok : State -> Label -> Prop) {state : State} {first second : List Label} :
    machine.Along ok state (first ++ second) <->
      machine.Along ok state first ∧
        forall middle, machine.run state first = some middle -> machine.Along ok middle second := by
  induction first generalizing state with
  | nil => simp [Along]
  | cons label rest ih =>
      simp only [List.cons_append, Along, run, Option.bind_eq_some_iff]
      constructor
      · rintro ⟨here, onward⟩
        refine ⟨⟨here, fun next stepped => (ih.mp (onward next stepped)).1⟩, ?_⟩
        rintro middle ⟨next, stepped, ran⟩
        exact (ih.mp (onward next stepped)).2 middle ran
      · rintro ⟨⟨here, early⟩, late⟩
        refine ⟨here, fun next stepped => ih.mpr ⟨early next stepped, ?_⟩⟩
        intro middle ran
        exact late middle ⟨next, stepped, ran⟩

theorem along_snoc {ok : State -> Label -> Prop} {start state : State} {labels : List Label} {label : Label}
    (along : machine.Along ok start labels) (ran : machine.run start labels = some state)
    (meets : ok state label) : machine.Along ok start (labels ++ [label]) := by
  refine (machine.along_append ok).mpr ⟨along, fun middle reached => ?_⟩
  cases ran.symm.trans reached
  exact ⟨meets, fun _ _ => trivial⟩

/-- An invariant of the steps that meet a condition is one of the runs all of
whose steps meet it. -/
theorem run_invariant_along (ok : State -> Label -> Prop) (Inv : State -> Prop) {start : State}
    (keeps : forall labels state label next, machine.Along ok start labels ->
      machine.run start labels = some state -> Inv state -> ok state label ->
        machine.step state label = some next -> Inv next)
    {final : State} {labels : List Label} (holds : Inv start)
    (along : machine.Along ok start labels) (ran : machine.run start labels = some final) :
    Inv final := by
  have general : forall (rest early : List Label) (state : State), machine.Along ok start early ->
      machine.run start early = some state -> Inv state -> machine.Along ok state rest ->
        machine.run state rest = some final -> Inv final := by
    intro rest
    induction rest with
    | nil =>
        intro early state _ _ inv _ ended
        exact Option.some.inj ended ▸ inv
    | cons label rest ih =>
        intro early state met before inv meets remaining
        rcases (run_cons machine).mp remaining with ⟨next, stepped, ended⟩
        exact ih (early ++ [label]) next (machine.along_snoc met before meets.1)
          (machine.run_snoc before stepped) (keeps early state label next met before inv meets.1 stepped)
          (meets.2 next stepped) ended
  exact general labels [] start trivial rfl holds along ran

theorem along_of_forall {ok : State -> Label -> Prop} (always : forall state label, ok state label)
    (state : State) (labels : List Label) : machine.Along ok state labels := by
  induction labels generalizing state with
  | nil => trivial
  | cons label rest ih => exact ⟨always state label, fun next _ => ih next⟩

/-- An invariant whose step lemma uses that its state was reached, and with it
every invariant that was proved before. -/
theorem run_invariant_reached (Inv : State -> Prop) {start : State}
    (keeps : forall labels state label next, machine.run start labels = some state -> Inv state ->
      machine.step state label = some next -> Inv next)
    {final : State} {labels : List Label} (holds : Inv start)
    (ran : machine.run start labels = some final) : Inv final :=
  machine.run_invariant_along (fun _ _ => True) Inv
    (fun early state label next _ before inv _ stepped => keeps early state label next before inv stepped)
    holds (machine.along_of_forall (fun _ _ => trivial) start labels) ran

/-- A reflexive and transitive relation that contains every step contains
every run. -/
theorem run_related (Rel : State -> State -> Prop) (refl : forall state, Rel state state)
    (trans : forall {first second third}, Rel first second -> Rel second third -> Rel first third)
    (steps : forall state label next, machine.step state label = some next -> Rel state next)
    {state final : State} {labels : List Label}
    (ran : machine.run state labels = some final) : Rel state final :=
  machine.run_invariant (Rel state) (fun middle label next reached stepped =>
    trans reached (steps middle label next stepped)) (refl state) ran

/-- The exact side condition of a property of states: an invariant that implies
the property is kept by the steps that meet the condition, and the property
fails right after any other step.  Then the property holds all along a run if
and only if all steps of the run meet the condition. -/
theorem along_iff_holds (ok : State -> Label -> Prop) (Inv Holds : State -> Prop) {start final : State}
    (implies : forall state, Inv state -> Holds state)
    (keeps : forall state label next, Inv state -> ok state label ->
      machine.step state label = some next -> Inv next)
    (breaks : forall state label next, Inv state -> ¬ ok state label ->
      machine.step state label = some next -> ¬ Holds next)
    (holds : Inv start) {labels : List Label} (ran : machine.run start labels = some final) :
    machine.Along ok start labels <->
      forall early late middle, labels = early ++ late -> machine.run start early = some middle ->
        Holds middle := by
  constructor
  · intro along early late middle split ranEarly
    rw [split, along_append] at along
    exact implies middle (machine.run_invariant_along ok Inv
      (fun _ state label next _ _ inv meets stepped => keeps state label next inv meets stepped)
      holds along.1 ranEarly)
  · intro always
    induction labels generalizing start with
    | nil => trivial
    | cons label rest ih =>
        rcases (run_cons machine).mp ran with ⟨next, stepped, remaining⟩
        have here : ok start label := by
          refine Classical.byContradiction (fun fails => ?_)
          apply breaks start label next holds fails stepped
          exact always [label] rest next rfl ((run_cons machine).mpr ⟨next, stepped, rfl⟩)
        refine ⟨here, fun other stepped' => ?_⟩
        cases stepped.symm.trans stepped'
        apply ih (keeps start label next holds here stepped) remaining
        intro early late middle split ranEarly
        apply always (label :: early) late middle (by rw [split]; rfl)
        exact (run_cons machine).mpr ⟨next, stepped, ranEarly⟩

/-! ## The step at which something became true -/

/-- A fact that fails at the start of a run and holds at its end was
established by one of its steps. -/
theorem run_turning_point (Fact : State -> Prop) {state final : State} {labels : List Label}
    (before : ¬ Fact state) (after : Fact final) (ran : machine.run state labels = some final) :
    ∃ early label late middle next, labels = early ++ label :: late ∧
      machine.run state early = some middle ∧ machine.step middle label = some next ∧
      ¬ Fact middle ∧ Fact next ∧ machine.run next late = some final := by
  induction labels generalizing state with
  | nil => exact absurd (Option.some.inj ran ▸ after) before
  | cons label rest ih =>
      rcases (run_cons machine).mp ran with ⟨next, stepped, remaining⟩
      by_cases established : Fact next
      · exact ⟨[], label, rest, state, next, rfl, rfl, stepped, before, established, remaining⟩
      · rcases ih established remaining with
          ⟨early, turn, late, middle, turned, split, ran', stepped', rest'⟩
        exact ⟨label :: early, turn, late, middle, turned, by rw [split]; rfl,
          (run_cons machine).mpr ⟨next, stepped, ran'⟩, stepped', rest'⟩

/-! ## Two machines side by side -/

/-- Two machines whose steps look the same, for each of these labels, have runs
that look the same. -/
theorem run_alike {Other : Type u} {View : Type w} (other : Machine Other Label) (view : State -> View)
    (otherView : Other -> View) {labels : List Label}
    (alike : ∀ label ∈ labels, forall state second, view state = otherView second ->
      (machine.step state label).map view = (other.step second label).map otherView)
    {state : State} {second : Other} (start : view state = otherView second) :
    (machine.run state labels).map view = (other.run second labels).map otherView := by
  induction labels generalizing state second with
  | nil => exact congrArg some start
  | cons label rest ih =>
      have stepped := alike label List.mem_cons_self state second start
      have later := fun after among => alike after (List.mem_cons_of_mem label among)
      change ((machine.step state label).bind _).map view = ((other.step second label).bind _).map otherView
      cases moved : machine.step state label with
      | none =>
          rw [moved] at stepped
          rw [Option.map_eq_none_iff.mp stepped.symm]
          rfl
      | some next =>
          rw [moved] at stepped
          rcases Option.map_eq_some_iff.mp stepped.symm with ⟨next', moved', same⟩
          rw [moved']
          exact ih later same.symm

/-! ## Refinement of an abstract step relation -/

/-- A machine refines an abstract system when every step is matched by some
number of abstract steps.  Then so is every run. -/
theorem run_refines {Abstract : Type w} (Rel : State -> Abstract -> Prop)
    (moves : Abstract -> Abstract -> Prop)
    (simulates : forall state label next view, Rel state view ->
      machine.step state label = some next ->
        ∃ view', Relation.ReflTransGen moves view view' ∧ Rel next view')
    {state final : State} {labels : List Label} {view : Abstract} (related : Rel state view)
    (ran : machine.run state labels = some final) :
    ∃ view', Relation.ReflTransGen moves view view' ∧ Rel final view' := by
  induction labels generalizing state view with
  | nil => exact ⟨view, Relation.ReflTransGen.refl, Option.some.inj ran ▸ related⟩
  | cons label rest ih =>
      rcases (run_cons machine).mp ran with ⟨next, stepped, remaining⟩
      rcases simulates state label next view related stepped with ⟨middle, moved, related'⟩
      rcases ih related' remaining with ⟨view', moved', related''⟩
      exact ⟨view', moved.trans moved', related''⟩

/-- Steps one after the other are a run. -/
theorem run_of_steps {state final : State}
    (steps : Relation.ReflTransGen (fun before after => ∃ label, machine.step before label = some after)
      state final) : ∃ labels, machine.run state labels = some final := by
  induction steps with
  | refl => exact ⟨[], rfl⟩
  | tail _ step ih =>
      rcases ih with ⟨labels, ran⟩
      rcases step with ⟨label, stepped⟩
      exact ⟨labels ++ [label], machine.run_snoc ran stepped⟩

/-- Where each step shows as a step of another machine, a run shows as a run of it. -/
theorem run_simulated {Other : Type u} {Seen : Type w} (other : Machine Other Seen) (view : State -> Other)
    (steps : forall state label next, machine.step state label = some next ->
      ∃ seen, other.step (view state) seen = some (view next))
    {state final : State} {labels : List Label} (ran : machine.run state labels = some final) :
    ∃ seen, other.run (view state) seen = some (view final) := by
  have simulated := machine.run_refines (fun state viewed => view state = viewed)
    (fun before after => ∃ seen, other.step before seen = some after) ?_ rfl ran
  · rcases simulated with ⟨viewed, moved, rfl⟩
    exact other.run_of_steps moved
  · rintro state label next viewed rfl stepped
    exact ⟨view next, .single (steps state label next stepped), rfl⟩

end Machine
end Foundations
