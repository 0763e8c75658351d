import Lkrequest.WebSocket.Lifecycle

namespace Lkrequest
namespace WebSocket

open Foundations

/-!
# What an operation has done

The entries of an operation are a function of its stage: it found the slot empty
and has returned, or it got a handle, made its one call on that connection and
went on with what the call brought.
-/

section Operations

variable {Error : Type}

/-! ## The entries of one operation -/

/-- An operation with a handle has made its call. -/
def begun (body : Body Error) (index : Nat) (conn : ConnId) : List (Entry Error) :=
  [.opened index (some conn), .called index conn body.call]

/-- The entries of an operation at every stage. -/
inductive Story (body : Body Error) (index : Nat) : Stage -> List (Entry Error) -> Prop
  | opening : Story body index .opening []
  | reading : Story body index .reading []
  | calling (conn : ConnId) : Story body index (.calling conn) (begun body index conn)
  | releasing (conn : ConnId) (outcome : Outcome Error) (result : Result)
      (after : body.after outcome = some (true, result)) :
      Story body index (.releasing conn result) (begun body index conn ++ [.answered index outcome])
  | taking (conn : ConnId) (outcome : Outcome Error) (result : Result)
      (after : body.after outcome = some (true, result)) :
      Story body index (.taking conn result) (begun body index conn ++ [.answered index outcome])
  | dropping (conn : ConnId) (outcome : Outcome Error) (result : Result)
      (after : body.after outcome = some (true, result)) (handle released : Option ConnId) :
      Story body index (.dropping conn handle result)
        (begun body index conn ++ [.answered index outcome, .released index released])
  | kept (conn : ConnId) (outcome : Outcome Error) (result : Result)
      (after : body.after outcome = some (false, result)) :
      Story body index (.leaving conn result) (begun body index conn ++ [.answered index outcome])
  | released (conn : ConnId) (outcome : Outcome Error) (result : Result)
      (after : body.after outcome = some (true, result)) (released : Option ConnId) :
      Story body index (.leaving conn result)
        (begun body index conn ++ [.answered index outcome, .released index released])
  | refused : Story body index (.returned body.absent)
      [.opened index none, .returned index body.absent]
  | keptReturned (conn : ConnId) (outcome : Outcome Error) (result : Result)
      (after : body.after outcome = some (false, result)) :
      Story body index (.returned result)
        (begun body index conn ++ [.answered index outcome, .returned index result])
  | releasedReturned (conn : ConnId) (outcome : Outcome Error) (result : Result)
      (after : body.after outcome = some (true, result)) (released : Option ConnId) :
      Story body index (.returned result)
        (begun body index conn ++
          [.answered index outcome, .released index released, .returned index result])
  | cancelledOpening : Story body index .cancelled []
  | cancelledCalling (conn : ConnId) : Story body index .cancelled (begun body index conn)

variable {bodies : Operation -> Body Error} {api : Api} {body : Body Error}
variable {state next : State Error} {event : Event Error} {index : Nat} {before stage : Stage}
variable {slot : Option ConnId} {locked : Option Nat} {strong : ConnId -> Nat}
variable {entries log : List (Entry Error)} {conn : ConnId}

theorem slice_freeing (index : Nat) (strong : ConnId -> Nat) (own : ConnId) :
    slice Entry.by_ index (freeing strong own : List (Entry Error)) = [] := by
  apply slice_foreign
  intro entry among
  rw [isFreed_of_mem_freeing among]
  exact nofun

/-- What is logged in a change is done by its operation. -/
theorem Change.by_own
    (change : Change api body state index event before stage slot locked strong entries) :
    ∀ entry ∈ entries, entry.by_ = none ∨ entry.by_ = some index := by
  have frees : forall {own : ConnId} {entry : Entry Error}, entry ∈ freeing state.strong own ->
      entry.by_ = none ∨ entry.by_ = some index := by
    intro own entry among
    rw [isFreed_of_mem_freeing among]
    exact Or.inl rfl
  cases change with
  | dropSome own old result => exact fun entry => frees
  | cancelCalling own async => exact fun entry => frees
  | leave own result =>
      intro entry among
      rcases List.mem_append.mp among with freed | returned
      · exact frees freed
      · rw [List.mem_singleton.mp returned]
        exact Or.inr rfl
  | _ => simp [Entry.by_]

theorem Story.change (story : Story body index before log)
    (change : Change api body state index event before stage slot locked strong entries) :
    Story body index stage (log ++ slice Entry.by_ index entries) := by
  cases change with
  | lockGet free =>
      cases story
      exact .reading
  | lockRelease own result free =>
      cases story with
      | releasing _ outcome _ after => simpa [slice] using Story.taking own outcome result after
  | readNone empty =>
      cases story
      rw [slice_own (by simp [Entry.by_])]
      exact .refused
  | readSome own' there =>
      cases story
      rw [slice_own (by simp [Entry.by_])]
      exact .calling own'
  | keep conn outcome result after =>
      cases story
      rw [slice_own (by simp [Entry.by_])]
      exact .kept conn outcome result after
  | release conn outcome result after =>
      cases story
      rw [slice_own (by simp [Entry.by_])]
      exact .releasing conn outcome result after
  | take conn result =>
      cases story with
      | taking _ outcome _ after =>
          rw [slice_own (by simp [Entry.by_]), List.append_assoc]
          exact .dropping conn outcome result after _ _
  | dropNone conn result =>
      cases story with
      | dropping _ outcome _ after _ released =>
          simpa [slice] using Story.released conn outcome result after released
  | dropSome conn old result =>
      cases story with
      | dropping _ outcome _ after _ released =>
          rw [slice_freeing, List.append_nil]
          exact .released conn outcome result after released
  | leave conn result =>
      have last : slice Entry.by_ index (freeing state.strong conn ++ [.returned index result] : List (Entry Error)) =
          [.returned index result] := by
        rw [slice_append, slice_freeing, slice_own (by simp [Entry.by_])]
        rfl
      rw [last]
      cases story with
      | kept _ outcome _ after =>
          rw [List.append_assoc]
          exact .keptReturned conn outcome result after
      | released _ outcome _ after released =>
          rw [List.append_assoc]
          exact .releasedReturned conn outcome result after released
  | cancelOpening async =>
      cases story
      exact .cancelledOpening
  | cancelCalling conn async =>
      cases story
      rw [slice_freeing, List.append_nil]
      exact .cancelledCalling conn

/-- Every operation has done what its stage says, and nobody else has done anything. -/
abbrev ToldBy (bodies : Operation -> Body Error) (state : State Error) : Prop :=
  Told Entry.by_ (fun index running entries => Story (bodies running.operation) index running.stage entries)
    state.operations state.log

theorem told_step (told : ToldBy bodies state) (steps : Steps bodies api state event next) :
    ToldBy bodies next := by
  cases steps with
  | start operation => exact told.start .opening
  | change index running event stage slot locked strong entries found change =>
      exact told.change found change.by_own (fun story => story.change change)

/-! ## Reachable states -/

/-- What holds in every state that a run can reach. -/
structure Sound (bodies : Operation -> Body Error) (conn : ConnId) (state : State Error) : Prop where
  counted : Counted state
  locked : Locked state
  freed : Freed conn state
  released : ReleasedOnce state
  sees : Foundations.Each (SeesSlot conn) state.log
  told : ToldBy bodies state

theorem sound_initial (conn : ConnId) : Sound bodies conn (State.initial conn) where
  counted := by
    intro other
    change Function.update (fun _ => 0) conn 1 other = (if some conn = some other then 1 else 0) + 0
    by_cases same : other = conn
    · subst same
      rw [Function.update_self, if_pos rfl]
    · rw [Function.update_of_ne same, if_neg (fun other => same (Option.some.inj other).symm)]
  locked := held_nil
  freed := by
    refine ⟨?_, ?_, ?_⟩
    · intro other foreign
      change Function.update (fun _ => 0) conn 1 other = 0
      exact Function.update_of_ne foreign _ _
    · change 0 = if Function.update (fun _ => 0) conn 1 conn = 0 then 1 else 0
      rw [Function.update_self]
      rfl
    · exact fun _ among => absurd among List.not_mem_nil
  released := rfl
  sees := each_nil
  told := told_nil

theorem Sound.step (sound : Sound bodies conn state)
    (stepped : state.step bodies api event = some next) : Sound bodies conn next := by
  have steps := step_steps stepped
  exact ⟨counted_step sound.counted steps, locked_step sound.locked steps,
    freed_step sound.freed sound.counted steps, releasedOnce_step sound.released steps,
    seesSlot_step sound.sees sound.released sound.freed sound.counted steps, told_step sound.told steps⟩

theorem sound_run {toPyErr : Error -> PyErr} {events : List (Event Error)}
    (ran : (connection toPyErr api).run (.initial conn) events = some state) :
    Sound (api.body toPyErr) conn state :=
  (connection toPyErr api).run_invariant (Sound (api.body toPyErr) conn)
    (fun _ _ _ sound stepped => sound.step stepped) (sound_initial conn) ran

end Operations

end WebSocket
end Lkrequest
