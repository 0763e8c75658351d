import Mathlib.Logic.Basic

namespace Foundations

universe u

/-!
# Programs that may raise and keep their state

An operation over a state may raise an exception and keeps what it had done
before.  `after` is the state it leaves in either case, and `Within` says that
this state is related to the one it began in.  When the relation is reflexive
and transitive, a program is within it when its parts are.
-/

variable {Error State First Second : Type u}

/-- The state an operation leaves, whether it raised or not. -/
def after (op : EStateM Error State First) (state : State) : State :=
  match op.run state with
  | .ok _ next | .error _ next => next

/-- In every state, what the operation leaves is related to it. -/
def Within (Rel : State -> State -> Prop) (op : EStateM Error State First) : Prop :=
  forall state, Rel state (after op state)

/-- A program goes on with its second half where the first one returned. -/
theorem run_bind {first : EStateM Error State First} {second : First -> EStateM Error State Second}
    {state middle : State} {value : First} (ran : first.run state = .ok value middle) :
    (first >>= second).run state = (second value).run middle := by
  rw [EStateM.run_bind, ran]

/-- A program that returned went through its first half. -/
theorem run_bind_ok {first : EStateM Error State First} {second : First -> EStateM Error State Second}
    {state final : State} {result : Second} (ran : (first >>= second).run state = .ok result final) :
    ∃ value middle, first.run state = .ok value middle ∧ (second value).run middle = .ok result final := by
  rw [EStateM.run_bind] at ran
  cases ranFirst : first.run state with
  | ok value middle =>
      rw [ranFirst] at ran
      exact ⟨value, middle, rfl, ran⟩
  | error error middle =>
      rw [ranFirst] at ran
      exact (nomatch ran)

variable {Rel : State -> State -> Prop}

theorem within_bind
    {first : EStateM Error State First} {second : First -> EStateM Error State Second}
    (withinFirst : Within Rel first) (withinSecond : forall value, Within Rel (second value))
    (trans : forall {first second third}, Rel first second -> Rel second third -> Rel first third) :
    Within Rel (first >>= second) := by
  intro state
  have early := withinFirst state
  unfold after at early ⊢
  rw [EStateM.run_bind]
  cases ran : first.run state with
  | ok value middle =>
      rw [ran] at early
      exact trans early (withinSecond value middle)
  | error error middle =>
      rw [ran] at early
      exact early

theorem within_modify {change : State -> State} (related : forall state, Rel state (change state)) :
    Within Rel (modify change : EStateM Error State PUnit) := related

/-- An operation that reads the state and may raise. -/
theorem within_read (refl : forall state, Rel state state) {op : EStateM Error State First}
    (read : forall state, after op state = state) : Within Rel op := by
  intro state
  rw [read state]
  exact refl state

/-! ## Stages -/

section Stages

variable {Failure Call : Type u}

/-- Stages that each fail or make their calls; a failure ends the run, and the
calls made before it stay made. -/
def runStages : List (Except Failure (List Call)) -> List Call × Except Failure Unit
  | [] => ([], .ok ())
  | stage :: rest =>
      match stage with
      | .ok calls => (calls ++ (runStages rest).1, (runStages rest).2)
      | .error failure => ([], .error failure)

@[simp] theorem runStages_nil :
    runStages ([] : List (Except Failure (List Call))) = ([], .ok ()) := rfl

@[simp] theorem runStages_ok (calls : List Call) (rest : List (Except Failure (List Call))) :
    runStages (.ok calls :: rest) = (calls ++ (runStages rest).1, (runStages rest).2) := rfl

@[simp] theorem runStages_error (failure : Failure) (rest : List (Except Failure (List Call))) :
    runStages (.error failure :: rest) = ([], .error failure) := rfl

/-- A run ends with the failure of its first stage, or succeeds there and ends so later. -/
theorem runStages_cons_error_iff {stage : Except Failure (List Call)}
    {rest : List (Except Failure (List Call))} {failure : Failure} :
    (runStages (stage :: rest)).2 = .error failure <->
      stage = .error failure ∨ stage.isOk = true ∧ (runStages rest).2 = .error failure := by
  cases stage with
  | ok calls =>
      have succeeded : (Except.ok calls : Except Failure (List Call)).isOk = true := rfl
      rw [runStages_ok, iff_false_intro (fun failed : Except.ok calls = .error failure => nomatch failed),
        false_or, and_iff_right succeeded]
  | error raised =>
      have stopped : (Except.error raised : Except Failure (List Call)).isOk ≠ true := nofun
      rw [runStages_error, iff_false_intro (fun both : _ ∧ _ => stopped both.1), or_false]
      exact ⟨fun same => congrArg _ (Except.error.inj same), fun same => congrArg _ (Except.error.inj same)⟩

/-- A run whose first part succeeds goes on with the second. -/
theorem runStages_append_ok {first second : List (Except Failure (List Call))}
    (succeeded : (runStages first).2 = .ok ()) :
    runStages (first ++ second) =
      ((runStages first).1 ++ (runStages second).1, (runStages second).2) := by
  induction first with
  | nil => rfl
  | cons stage rest runs =>
      cases stage with
      | error failure => exact (nomatch succeeded)
      | ok calls =>
          rw [List.cons_append, runStages_ok, runStages_ok, runs succeeded, List.append_assoc]

/-- A run whose first part fails ends there. -/
theorem runStages_append_error {first second : List (Except Failure (List Call))} {failure : Failure}
    (failed : (runStages first).2 = .error failure) :
    runStages (first ++ second) = runStages first := by
  induction first with
  | nil => exact (nomatch failed)
  | cons stage rest runs =>
      cases stage with
      | error raised => rw [List.cons_append, runStages_error, runStages_error]
      | ok calls => rw [List.cons_append, runStages_ok, runStages_ok, runs failed]

/-- A run succeeds if every stage does. -/
theorem runStages_succeeds {stages : List (Except Failure (List Call))}
    (succeed : ∀ stage ∈ stages, stage.isOk = true) : (runStages stages).2 = .ok () := by
  induction stages with
  | nil => rfl
  | cons stage rest runs =>
      rcases List.forall_mem_cons.mp succeed with ⟨first, others⟩
      cases stage with
      | error failure => exact (nomatch first)
      | ok calls => exact runs others

/-- A run in which some stage fails fails. -/
theorem runStages_fails {stages : List (Except Failure (List Call))}
    (fail : ¬ ∀ stage ∈ stages, stage.isOk = true) : ∃ failure, (runStages stages).2 = .error failure := by
  induction stages with
  | nil => exact absurd (fun _ among => absurd among List.not_mem_nil) fail
  | cons stage rest runs =>
      cases stage with
      | error failure => exact ⟨failure, rfl⟩
      | ok calls =>
          apply runs
          intro others
          exact fail (List.forall_mem_cons.mpr ⟨rfl, others⟩)

end Stages

end Foundations
