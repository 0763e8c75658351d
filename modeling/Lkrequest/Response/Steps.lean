import Lkrequest.Response.Serving

namespace Lkrequest
namespace Response

open Foundations

/-!
# Steps of a streaming response

A step starts an operation, or moves one of them to its next stage.  What it
gets of the stream is what `serve` gives, so that the log is what the operations
get one after the other.
-/

section Steps

variable {Error : Type}

/-- The method takes the stream out of the slot. -/
def Method.isTake : Method -> Bool
  | .borrows _ _ => false
  | .takes _ _ => true

/-- The stage after the mutex. -/
def settled (toPyErr : Error -> PyErr) (method : Method) (api : Api) (served : Served Error) : Stage Error :=
  match api with
  | .async => .returned (method.result toPyErr served)
  | .blocking => .converting served

/-! ## What a step does -/

/-- What an event does to the slot and the mutex, from which stage to which it
leads its operation, and what the operation got if it leaves the mutex. -/
inductive Change (toPyErr : Error -> PyErr) (method : Method) (api : Api) (state : State Error) (index : Nat) :
    Event -> Stage Error -> Stage Error -> Option (Source Error) -> Option Nat -> Option (Served Error) -> Prop
  | refuse (free : state.locked = none) (empty : state.slot = none) :
      Change toPyErr method api state index (.acquire index) .waiting
        (settled toPyErr method api .refused) state.slot none (some .refused)
  | borrow (free : state.locked = none) (stream : Source Error) (there : state.slot = some stream)
      (borrows : method.isTake = false) :
      Change toPyErr method api state index (.acquire index) .waiting .borrowing state.slot (some index) none
  | take (free : state.locked = none) (stream : Source Error) (there : state.slot = some stream)
      (takes : method.isTake = true) :
      Change toPyErr method api state index (.acquire index) .waiting (.reading stream) none (some index) none
  | chunk (stream : Source Error) (there : state.slot = some stream) (served : Served Error)
      (left : Option (Source Error)) (serves : serve false (some stream) = (served, left)) :
      Change toPyErr method api state index (.finish index) .borrowing (settled toPyErr method api served)
        left none (some served)
  | bytes (stream : Source Error) (served : Served Error)
      (serves : serve true (some stream) = (served, none)) :
      Change toPyErr method api state index (.finish index) (.reading stream)
        (settled toPyErr method api served) state.slot none (some served)
  | convert (served : Served Error) :
      Change toPyErr method api state index (.convert index) (.converting served)
        (.returned (method.result toPyErr served)) state.slot state.locked none

/-- The entry of an operation that leaves the mutex. -/
def entryOf (index : Nat) (operation : Operation) (served : Option (Served Error)) : List (Entry Error) :=
  (served.map (fun served => ⟨index, operation, served⟩)).toList

/-- What an event does. -/
inductive Steps (toPyErr : Error -> PyErr) (methods : Operation -> Method) (api : Api) (state : State Error) :
    Event -> State Error -> Prop
  | start (operation : Operation) :
      Steps toPyErr methods api state (.start operation)
        { state with operations := state.operations ++ [⟨operation, .waiting⟩] }
  | change (index : Nat) (running : Running Error) (event : Event) (stage : Stage Error)
      (slot : Option (Source Error)) (locked : Option Nat) (served : Option (Served Error))
      (found : state.operations[index]? = some running)
      (change : Change toPyErr (methods running.operation) api state index event running.stage stage
        slot locked served) :
      Steps toPyErr methods api state event
        ⟨slot, locked, state.operations.set index { running with stage := stage },
          state.log ++ entryOf index running.operation served⟩

variable {toPyErr : Error -> PyErr} {methods : Operation -> Method} {api : Api}
variable {state next : State Error} {index : Nat} {running : Running Error}

theorem Steps.of_change {event : Event} {before stage : Stage Error} {slot : Option (Source Error)}
    {locked : Option Nat} {served : Option (Served Error)}
    (found : state.operations[index]? = some running) (stands : running.stage = before)
    (change : Change toPyErr (methods running.operation) api state index event before stage slot locked served)
    (same : next = ⟨slot, locked, state.operations.set index { running with stage := stage },
      state.log ++ entryOf index running.operation served⟩) :
    Steps toPyErr methods api state event next := by
  rw [← stands] at change
  rw [same]
  exact .change index running event stage slot locked served found change

/-- Leaving the mutex. -/
theorem settle_eq (slot : Option (Source Error)) (served : Served Error) :
    ({ state with slot := slot } : State Error).settle toPyErr methods api index running served =
      ⟨slot, none, state.operations.set index
        { running with stage := settled toPyErr (methods running.operation) api served },
        state.log ++ entryOf index running.operation (some served)⟩ := by
  cases api <;> rfl

theorem acquire_steps (found : state.operations[index]? = some running)
    (acquires : state.acquire toPyErr methods api index running = some next) :
    Steps toPyErr methods api state (.acquire index) next := by
  unfold State.acquire at acquires
  cases stands : running.stage with
  | waiting =>
      rw [stands] at acquires
      by_cases free : state.locked = none
      · rw [if_pos free] at acquires
        cases there : state.slot with
        | none =>
            rw [there] at acquires
            cases acquires
            exact .of_change found stands (.refuse free there) (settle_eq state.slot .refused)
        | some stream =>
            rw [there] at acquires
            cases kind : methods running.operation with
            | borrows absent ended =>
                rw [kind] at acquires
                cases acquires
                apply Steps.of_change found stands (.borrow free stream there (by rw [kind]; rfl))
                simp [State.setStage, entryOf, there]
            | takes absent convert =>
                rw [kind] at acquires
                cases acquires
                apply Steps.of_change found stands (.take free stream there (by rw [kind]; rfl))
                simp [State.setStage, entryOf]
      · rw [if_neg free] at acquires
        exact (nomatch acquires)
  | _ =>
      rw [stands] at acquires
      exact (nomatch acquires)

theorem finish_steps (found : state.operations[index]? = some running)
    (finishes : state.finish toPyErr methods api index running = some next) :
    Steps toPyErr methods api state (.finish index) next := by
  unfold State.finish at finishes
  cases stands : running.stage with
  | borrowing =>
      rw [stands] at finishes
      cases there : state.slot with
      | none =>
          rw [there] at finishes
          cases finishes
      | some stream =>
          rw [there] at finishes
          rcases stream with _ | ⟨error | chunk, rest⟩
          · cases finishes
            exact .of_change found stands (.chunk _ there .ended none rfl) (settle_eq none .ended)
          · cases finishes
            exact .of_change found stands (.chunk _ there (.failed error) (some rest) rfl)
              (settle_eq (some rest) (.failed error))
          · cases finishes
            exact .of_change found stands (.chunk _ there (.read chunk) (some rest) rfl)
              (settle_eq (some rest) (.read chunk))
  | reading stream =>
      rw [stands] at finishes
      dsimp only at finishes
      cases read : stream.bytes with
      | ok data =>
          rw [read] at finishes
          cases finishes
          exact .of_change found stands (.bytes stream (.read data) (serve_read read))
            (settle_eq state.slot (.read data))
      | error error =>
          rw [read] at finishes
          cases finishes
          exact .of_change found stands (.bytes stream (.failed error) (serve_failed read))
            (settle_eq state.slot (.failed error))
  | _ =>
      rw [stands] at finishes
      cases finishes

theorem convert_steps (found : state.operations[index]? = some running)
    (converts : state.convert toPyErr methods index running = some next) :
    Steps toPyErr methods api state (.convert index) next := by
  unfold State.convert at converts
  cases stands : running.stage with
  | converting served =>
      rw [stands] at converts
      cases converts
      apply Steps.of_change found stands (.convert served)
      simp [State.setStage, entryOf]
  | _ =>
      rw [stands] at converts
      exact (nomatch converts)

theorem step_steps {event : Event} (stepped : state.step toPyErr methods api event = some next) :
    Steps toPyErr methods api state event next := by
  cases event with
  | start operation =>
      cases stepped
      exact .start operation
  | acquire index =>
      rcases Option.bind_eq_some_iff.mp stepped with ⟨running, found, acquires⟩
      exact acquire_steps found acquires
  | finish index =>
      rcases Option.bind_eq_some_iff.mp stepped with ⟨running, found, finishes⟩
      exact finish_steps found finishes
  | convert index =>
      rcases Option.bind_eq_some_iff.mp stepped with ⟨running, found, converts⟩
      exact convert_steps found converts

end Steps

end Response
end Lkrequest
