import Lkrequest.Foundations.Ledger
import Lkrequest.Foundations.Precedence
import Lkrequest.WebSocket.Connection

namespace Lkrequest
namespace WebSocket

open Foundations

/-!
# Steps of a connection

What a step does is said once: it starts an operation, or it moves one of them
to its next stage and changes the slot, the lock, the strong counts and the log
in the way of that stage.  The invariants are read off from there.
-/

section Steps

variable {Error : Type}

/-! ## Handles -/

/-- Cloning an `Arc`. -/
def cloned (strong : ConnId -> Nat) (conn : ConnId) : ConnId -> Nat :=
  Function.update strong conn (strong conn + 1)

/-- Dropping an `Arc`. -/
def dropped (strong : ConnId -> Nat) (conn : ConnId) : ConnId -> Nat :=
  Function.update strong conn (strong conn - 1)

/-- The connection is freed with its last handle. -/
def freeing (strong : ConnId -> Nat) (conn : ConnId) : List (Entry Error) :=
  if strong conn - 1 = 0 then [.freed conn] else []

theorem dropHandle_eq (state : State Error) (conn : ConnId) :
    state.dropHandle conn =
      { state with strong := dropped state.strong conn, log := state.log ++ freeing state.strong conn } := by
  have last : dropped state.strong conn conn = state.strong conn - 1 := Function.update_self _ _ _
  unfold State.dropHandle freeing
  change (if dropped state.strong conn conn = 0 then _ else _) = _
  rw [last]
  by_cases none : state.strong conn - 1 = 0
  · rw [if_pos none, if_pos none]
    rfl
  · rw [if_neg none, if_neg none, List.append_nil]
    rfl

/-! ## What a step does -/

/-- What an event does to the slot, the lock, the strong counts and the log, and
from which stage to which it leads its operation. -/
inductive Change (api : Api) (body : Body Error) (state : State Error) (index : Nat) :
    Event Error -> Stage -> Stage -> Option ConnId -> Option Nat -> (ConnId -> Nat) ->
      List (Entry Error) -> Prop
  | lockGet (free : state.locked = none) :
      Change api body state index (.lock index) .opening .reading state.slot (some index) state.strong []
  | lockRelease (conn : ConnId) (result : Result) (free : state.locked = none) :
      Change api body state index (.lock index) (.releasing conn result) (.taking conn result)
        state.slot (some index) state.strong []
  | readNone (empty : state.slot = none) :
      Change api body state index (.go index) .reading (.returned body.absent) state.slot none state.strong
        [.opened index none, .returned index body.absent]
  | readSome (conn : ConnId) (there : state.slot = some conn) :
      Change api body state index (.go index) .reading (.calling conn) state.slot none
        (cloned state.strong conn) [.opened index (some conn), .called index conn body.call]
  | keep (conn : ConnId) (outcome : Outcome Error) (result : Result)
      (after : body.after outcome = some (false, result)) :
      Change api body state index (.answer index outcome) (.calling conn) (.leaving conn result)
        state.slot state.locked state.strong [.answered index outcome]
  | release (conn : ConnId) (outcome : Outcome Error) (result : Result)
      (after : body.after outcome = some (true, result)) :
      Change api body state index (.answer index outcome) (.calling conn) (.releasing conn result)
        state.slot state.locked state.strong [.answered index outcome]
  | take (conn : ConnId) (result : Result) :
      Change api body state index (.go index) (.taking conn result) (.dropping conn state.slot result)
        none none state.strong [.released index state.slot]
  | dropNone (conn : ConnId) (result : Result) :
      Change api body state index (.go index) (.dropping conn none result) (.leaving conn result)
        state.slot state.locked state.strong []
  | dropSome (conn old : ConnId) (result : Result) :
      Change api body state index (.go index) (.dropping conn (some old) result) (.leaving conn result)
        state.slot state.locked (dropped state.strong old) (freeing state.strong old)
  | leave (conn : ConnId) (result : Result) :
      Change api body state index (.go index) (.leaving conn result) (.returned result) state.slot
        state.locked (dropped state.strong conn) (freeing state.strong conn ++ [.returned index result])
  | cancelOpening (async : api = .async) :
      Change api body state index (.cancel index) .opening .cancelled state.slot state.locked
        state.strong []
  | cancelCalling (conn : ConnId) (async : api = .async) :
      Change api body state index (.cancel index) (.calling conn) .cancelled state.slot state.locked
        (dropped state.strong conn) (freeing state.strong conn)

/-- What an event does. -/
inductive Steps (bodies : Operation -> Body Error) (api : Api) (state : State Error) :
    Event Error -> State Error -> Prop
  | start (operation : Operation) :
      Steps bodies api state (.start operation)
        { state with operations := state.operations ++ [⟨operation, .opening⟩] }
  | change (index : Nat) (running : Running) (event : Event Error) (stage : Stage)
      (slot : Option ConnId) (locked : Option Nat) (strong : ConnId -> Nat) (entries : List (Entry Error))
      (found : state.operations[index]? = some running)
      (change : Change api (bodies running.operation) state index event running.stage stage
        slot locked strong entries) :
      Steps bodies api state event
        ⟨slot, locked, strong, state.operations.set index { running with stage := stage },
          state.log ++ entries⟩

variable {bodies : Operation -> Body Error} {api : Api} {state next : State Error}

theorem Steps.of_change {index : Nat} {running : Running} {event : Event Error} {before stage : Stage}
    {slot : Option ConnId} {locked : Option Nat} {strong : ConnId -> Nat} {entries : List (Entry Error)}
    (found : state.operations[index]? = some running) (stands : running.stage = before)
    (change : Change api (bodies running.operation) state index event before stage slot locked
      strong entries)
    (same : next = ⟨slot, locked, strong, state.operations.set index { running with stage := stage },
      state.log ++ entries⟩) : Steps bodies api state event next := by
  rw [← stands] at change
  rw [same]
  exact .change index running event stage slot locked strong entries found change

theorem go_steps {index : Nat} {running : Running} (found : state.operations[index]? = some running)
    (went : state.go bodies index running = some next) : Steps bodies api state (.go index) next := by
  unfold State.go at went
  cases stands : running.stage with
  | reading =>
      rw [stands] at went
      cases went
      cases there : state.slot with
      | none =>
          apply Steps.of_change found stands (.readNone there)
          simp [State.read, State.setStage, State.record, there]
      | some conn =>
          apply Steps.of_change found stands (.readSome conn there)
          simp [State.read, State.setStage, State.record, cloned, there]
  | taking conn result =>
      rw [stands] at went
      cases went
      exact .of_change found stands (.take conn result) rfl
  | dropping conn released result =>
      rw [stands] at went
      cases went
      cases released with
      | none =>
          apply Steps.of_change found stands (.dropNone conn result)
          simp [State.dropReleased, State.setStage]
      | some old =>
          apply Steps.of_change found stands (.dropSome conn old result)
          simp [State.dropReleased, State.setStage, dropHandle_eq]
  | leaving conn result =>
      rw [stands] at went
      cases went
      apply Steps.of_change found stands (.leave conn result)
      simp [State.setStage, State.record, dropHandle_eq, List.append_assoc]
  | _ =>
      rw [stands] at went
      exact (nomatch went)

theorem lock_steps {index : Nat} {running : Running} (found : state.operations[index]? = some running)
    (locks : state.lock index running = some next) : Steps bodies api state (.lock index) next := by
  unfold State.lock at locks
  by_cases free : state.locked = none
  · rw [if_pos free] at locks
    cases stands : running.stage with
    | opening =>
        rw [stands] at locks
        cases locks
        apply Steps.of_change found stands (.lockGet free)
        simp [State.setStage]
    | releasing conn result =>
        rw [stands] at locks
        cases locks
        apply Steps.of_change found stands (.lockRelease conn result free)
        simp [State.setStage]
    | _ =>
        rw [stands] at locks
        exact (nomatch locks)
  · rw [if_neg free] at locks
    exact (nomatch locks)

theorem answer_steps {index : Nat} {running : Running} {outcome : Outcome Error}
    (found : state.operations[index]? = some running)
    (answered : state.answer bodies index running outcome = some next) :
    Steps bodies api state (.answer index outcome) next := by
  unfold State.answer at answered
  cases stands : running.stage with
  | calling conn =>
      rw [stands] at answered
      rcases Option.map_eq_some_iff.mp answered with ⟨⟨releases, result⟩, after, rfl⟩
      cases releases with
      | false => exact .of_change found stands (.keep conn outcome result after) rfl
      | true => exact .of_change found stands (.release conn outcome result after) rfl
  | _ =>
      rw [stands] at answered
      exact (nomatch answered)

theorem cancel_steps {index : Nat} {running : Running} (found : state.operations[index]? = some running)
    (cancels : state.cancel api index running = some next) :
    Steps bodies api state (.cancel index) next := by
  unfold State.cancel at cancels
  cases api with
  | blocking => exact (nomatch cancels)
  | async =>
      cases stands : running.stage with
      | opening =>
          rw [stands] at cancels
          cases cancels
          apply Steps.of_change found stands (.cancelOpening rfl)
          simp [State.setStage]
      | calling conn =>
          rw [stands] at cancels
          cases cancels
          apply Steps.of_change found stands (.cancelCalling conn rfl)
          simp [State.setStage, dropHandle_eq]
      | _ =>
          rw [stands] at cancels
          exact (nomatch cancels)

theorem step_steps {event : Event Error} (stepped : state.step bodies api event = some next) :
    Steps bodies api state event next := by
  cases event with
  | start operation =>
      cases stepped
      exact .start operation
  | lock index =>
      rcases Option.bind_eq_some_iff.mp stepped with ⟨running, found, locks⟩
      exact lock_steps found locks
  | go index =>
      rcases Option.bind_eq_some_iff.mp stepped with ⟨running, found, went⟩
      exact go_steps found went
  | answer index outcome =>
      rcases Option.bind_eq_some_iff.mp stepped with ⟨running, found, answered⟩
      exact answer_steps found answered
  | cancel index =>
      rcases Option.bind_eq_some_iff.mp stepped with ⟨running, found, cancels⟩
      exact cancel_steps found cancels

end Steps

end WebSocket
end Lkrequest
