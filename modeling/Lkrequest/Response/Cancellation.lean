import Lkrequest.Response.Consumption

namespace Lkrequest
namespace Response

open Foundations

/-!
# A streaming response whose operations are cancelled

An operation of `StreamingResponse` is a future, and Python may give it up at any
time.  The runtime drops it some time later, wherever it stands: the mutex is
left, and a stream that was taken out is dropped too.
-/

section Cancellation

variable {Error : Type}

/-! ## Futures that are dropped -/

/-- What has become of the future of an operation.  A cancelled one runs on
until it is dropped, and nobody gets its result. -/
inductive Fate
  | pending
  | delivered
  | cancelled
  | dropped
deriving DecidableEq

/-- A response, with the fate of each of its operations. -/
structure Cancellable (Error : Type) where
  response : State Error
  fates : List Fate

/-- What an operation does, and what Python and the runtime do with its future.
When a `chunk()` is dropped, upstream may have `pulled` the next piece. -/
inductive Signal
  | start (operation : Operation)
  | acquire (index : Nat)
  | finish (index : Nat)
  | deliver (index : Nat)
  | cancel (index : Nat)
  | drop (index : Nat) (pulled : Bool)
deriving DecidableEq

/-- Drop of the future: the guard of the mutex goes, and a stream in its hands. -/
def State.dropFuture (state : State Error) (running : Running Error) (pulled : Bool) : Option (State Error) :=
  match running.stage with
  | .waiting => some state
  | .borrowing =>
      some { state with
        locked := none
        slot := if pulled then state.slot.map (fun stream => stream.chunk.2) else state.slot }
  | .reading _ => some { state with locked := none }
  | _ => none

namespace Cancellable

def initial (body : Source Error) : Cancellable Error := ⟨.initial body, []⟩

variable (toPyErr : Error -> PyErr) (methods : Operation -> Method)

/-- A step of the future itself. -/
def poll (state : Cancellable Error) (index : Nat) (event : Event) : Option (Cancellable Error) :=
  if state.fates[index]? = some .dropped then none
  else (state.response.step toPyErr methods .async event).map (fun next => { state with response := next })

def step (state : Cancellable Error) : Signal -> Option (Cancellable Error)
  | .start operation =>
      (state.response.step toPyErr methods .async (.start operation)).map
        (fun next => ⟨next, state.fates ++ [.pending]⟩)
  | .acquire index => state.poll toPyErr methods index (.acquire index)
  | .finish index => state.poll toPyErr methods index (.finish index)
  | .deliver index =>
      match state.response.operations[index]?, state.fates[index]? with
      | some ⟨_, .returned _⟩, some .pending => some { state with fates := state.fates.set index .delivered }
      | _, _ => none
  | .cancel index =>
      if state.fates[index]? = some .pending then
        some { state with fates := state.fates.set index .cancelled }
      else none
  | .drop index pulled =>
      if state.fates[index]? = some .cancelled then do
        let running <- state.response.operations[index]?
        let next <- state.response.dropFuture running pulled
        some ⟨next, state.fates.set index .dropped⟩
      else none

end Cancellable

/-- A `StreamingResponse` whose operations may be cancelled. -/
def cancellable {Encoding : Type} (codecs : Codecs Encoding) (headers : HeaderList)
    (toPyErr : Error -> PyErr) : Machine (Cancellable Error) Signal :=
  ⟨fun state signal => state.step toPyErr (Api.async.method codecs headers) signal⟩

/-! ## What a signal does -/

/-- The operation of an event. -/
def Event.index? : Event -> Option Nat
  | .start _ => none
  | .acquire index => some index
  | .finish index => some index
  | .convert index => some index

/-- The event of the future itself. -/
def Signal.event? : Signal -> Option Event
  | .acquire index => some (.acquire index)
  | .finish index => some (.finish index)
  | _ => none

namespace Cancellable

/-- The operations with their fates. -/
def futures (state : Cancellable Error) : List (Running Error × Fate) :=
  state.response.operations.zip state.fates

end Cancellable

/-- What the drop of a future does to the slot and the mutex. -/
inductive Drops (state : State Error) (pulled : Bool) : Stage Error -> Option (Source Error) -> Option Nat -> Prop
  | waiting : Drops state pulled .waiting state.slot state.locked
  | borrowing :
      Drops state pulled .borrowing
        (if pulled then state.slot.map (fun stream => stream.chunk.2) else state.slot) none
  | reading (stream : Source Error) : Drops state pulled (.reading stream) state.slot none

/-- What a signal does. -/
inductive Moves (toPyErr : Error -> PyErr) (methods : Operation -> Method) (state : Cancellable Error) :
    Signal -> Cancellable Error -> Prop
  | start (operation : Operation) :
      Moves toPyErr methods state (.start operation)
        ⟨{ state.response with operations := state.response.operations ++ [⟨operation, .waiting⟩] },
          state.fates ++ [.pending]⟩
  | poll (index : Nat) (running : Running Error) (fate : Fate) (signal : Signal) (event : Event)
      (stage : Stage Error) (slot : Option (Source Error)) (locked : Option Nat) (served : Option (Served Error))
      (there : state.futures[index]? = some (running, fate)) (alive : fate ≠ .dropped)
      (does : signal.event? = some event)
      (change : Change toPyErr (methods running.operation) .async state.response index event running.stage
        stage slot locked served) :
      Moves toPyErr methods state signal
        ⟨⟨slot, locked, state.response.operations.set index { running with stage := stage },
          state.response.log ++ entryOf index running.operation served⟩, state.fates⟩
  | deliver (index : Nat) (operation : Operation) (result : Result)
      (there : state.futures[index]? = some (⟨operation, .returned result⟩, .pending)) :
      Moves toPyErr methods state (.deliver index) { state with fates := state.fates.set index .delivered }
  | cancel (index : Nat) (running : Running Error)
      (there : state.futures[index]? = some (running, .pending)) :
      Moves toPyErr methods state (.cancel index) { state with fates := state.fates.set index .cancelled }
  | drop (index : Nat) (running : Running Error) (pulled : Bool) (slot : Option (Source Error))
      (locked : Option Nat) (there : state.futures[index]? = some (running, .cancelled))
      (drops : Drops state.response pulled running.stage slot locked) :
      Moves toPyErr methods state (.drop index pulled)
        ⟨{ state.response with slot := slot, locked := locked }, state.fates.set index .dropped⟩

section Steps

variable {toPyErr : Error -> PyErr} {methods : Operation -> Method} {state next : Cancellable Error}
variable {index : Nat} {running : Running Error} {fate : Fate}

theorem futures_found : state.futures[index]? = some (running, fate) <->
    state.response.operations[index]? = some running ∧ state.fates[index]? = some fate :=
  List.getElem?_zip_eq_some

theorem Change.index?_eq {method : Method} {api : Api} {response : State Error} {event : Event}
    {before stage : Stage Error} {slot : Option (Source Error)} {locked : Option Nat}
    {served : Option (Served Error)}
    (change : Change toPyErr method api response index event before stage slot locked served) :
    event.index? = some index := by
  cases change <;> rfl

theorem dropFuture_drops {pulled : Bool} {after : State Error}
    (dropped : state.response.dropFuture running pulled = some after) :
    ∃ slot locked, Drops state.response pulled running.stage slot locked ∧
      after = { state.response with slot := slot, locked := locked } := by
  unfold State.dropFuture at dropped
  cases stands : running.stage with
  | waiting =>
      rw [stands] at dropped
      cases dropped
      exact ⟨_, _, .waiting, rfl⟩
  | borrowing =>
      rw [stands] at dropped
      cases dropped
      exact ⟨_, _, .borrowing, rfl⟩
  | reading stream =>
      rw [stands] at dropped
      cases dropped
      exact ⟨_, _, .reading stream, rfl⟩
  | _ =>
      rw [stands] at dropped
      cases dropped

/-- A future that is polled changes its own stage. -/
theorem poll_moves {signal : Signal} {event : Event} (fates : state.fates.length = state.response.operations.length)
    (own : event.index? = some index) (does : signal.event? = some event)
    (polled : state.poll toPyErr methods index event = some next) : Moves toPyErr methods state signal next := by
  unfold Cancellable.poll at polled
  split at polled
  case isTrue => cases polled
  case isFalse alive =>
    rcases Option.map_eq_some_iff.mp polled with ⟨after, stepped, rfl⟩
    cases step_steps stepped with
    | start operation => cases own
    | change at_ running event stage slot locked served found change =>
        cases Option.some.inj (change.index?_eq.symm.trans own)
        have inRange : index < state.fates.length := fates ▸ (List.getElem?_eq_some_iff.mp found).1
        have fate := List.getElem?_eq_getElem inRange
        refine .poll index running _ signal event stage slot locked served (futures_found.mpr ⟨found, fate⟩) ?_ does
          change
        intro dropped
        exact alive (fate.trans (congrArg some dropped))

theorem step_moves {signal : Signal} (fates : state.fates.length = state.response.operations.length)
    (stepped : state.step toPyErr methods signal = some next) : Moves toPyErr methods state signal next := by
  cases signal with
  | start operation =>
      cases stepped
      exact .start operation
  | acquire index => exact poll_moves fates rfl rfl stepped
  | finish index => exact poll_moves fates rfl rfl stepped
  | deliver index =>
      unfold Cancellable.step at stepped
      dsimp only at stepped
      split at stepped
      case h_1 operation result found fate =>
        cases stepped
        exact .deliver index operation result (futures_found.mpr ⟨found, fate⟩)
      case h_2 => cases stepped
  | cancel index =>
      unfold Cancellable.step at stepped
      dsimp only at stepped
      split at stepped
      case isTrue pending =>
        cases stepped
        have inRange : index < state.response.operations.length := fates ▸ (List.getElem?_eq_some_iff.mp pending).1
        exact .cancel index _ (futures_found.mpr ⟨List.getElem?_eq_getElem inRange, pending⟩)
      case isFalse => cases stepped
  | drop index pulled =>
      unfold Cancellable.step at stepped
      dsimp only at stepped
      split at stepped
      case isTrue cancelled =>
        rcases Option.bind_eq_some_iff.mp stepped with ⟨running, found, dropping⟩
        rcases Option.bind_eq_some_iff.mp dropping with ⟨after, dropped, same⟩
        rcases dropFuture_drops dropped with ⟨slot, locked, drops, rfl⟩
        cases same
        exact .drop index running pulled slot locked (futures_found.mpr ⟨found, cancelled⟩) drops
      case isFalse => cases stepped

end Steps

/-! ## What holds whatever is cancelled -/

/-- A future that is in the mutex. -/
def inMutex (future : Running Error × Fate) : Bool :=
  decide (future.2 ≠ .dropped) && future.1.stage.holds

/-- A future that has the mutex is in `borrowing` or in `reading`, with the slot as it left it. -/
def Placed (methods : Operation -> Method) (slot : Option (Source Error)) (running : Running Error) : Prop :=
  (running.stage = .borrowing -> (methods running.operation).isTake = false ∧ slot ≠ none) ∧
    forall stream, running.stage = .reading stream -> (methods running.operation).isTake = true ∧ slot = none

/-- What holds of the futures of a response in every state that a run can reach. -/
structure Intact (methods : Operation -> Method) (state : Cancellable Error) : Prop where
  fates : state.fates.length = state.response.operations.length
  locked : Held inMutex state.futures state.response.locked
  placed : forall (index : Nat) (running : Running Error) (fate : Fate),
    state.futures[index]? = some (running, fate) -> fate ≠ .dropped -> Placed methods state.response.slot running

section Invariants

variable {toPyErr : Error -> PyErr} {methods : Operation -> Method} {state next : Cancellable Error}
variable {signal : Signal} {index : Nat} {running : Running Error} {fate : Fate}

theorem zip_set {First Second : Type} (firsts : List First) (seconds : List Second) (index : Nat)
    (first : First) (second : Second) :
    (firsts.set index first).zip (seconds.set index second) = (firsts.zip seconds).set index (first, second) := by
  induction firsts generalizing seconds index with
  | nil => rfl
  | cons head rest ih =>
      cases seconds with
      | nil => cases index <;> rfl
      | cons other others =>
          cases index with
          | zero => rfl
          | succ earlier => exact congrArg ((head, other) :: ·) (ih others earlier)

theorem futures_start (fates : state.fates.length = state.response.operations.length)
    (running : Running Error) (fate : Fate) :
    (state.response.operations ++ [running]).zip (state.fates ++ [fate]) = state.futures ++ [(running, fate)] :=
  List.zip_append fates.symm

theorem futures_poll (there : state.futures[index]? = some (running, fate)) (new : Running Error) :
    (state.response.operations.set index new).zip state.fates = state.futures.set index (new, fate) := by
  have same : state.fates.set index fate = state.fates := by
    rcases List.getElem?_eq_some_iff.mp (futures_found.mp there).2 with ⟨inRange, rfl⟩
    exact List.set_getElem_self inRange
  unfold Cancellable.futures
  rw [← zip_set, same]

theorem futures_mark (there : state.futures[index]? = some (running, fate)) (new : Fate) :
    state.response.operations.zip (state.fates.set index new) = state.futures.set index (running, new) := by
  have same : state.response.operations.set index running = state.response.operations := by
    rcases List.getElem?_eq_some_iff.mp (futures_found.mp there).1 with ⟨inRange, rfl⟩
    exact List.set_getElem_self inRange
  unfold Cancellable.futures
  rw [← zip_set, same]

theorem intact_initial (body : Source Error) : Intact methods (Cancellable.initial body) where
  fates := rfl
  locked := held_nil
  placed := by
    intro index running fate there
    cases there

theorem Moves.fates (moves : Moves toPyErr methods state signal next)
    (fates : state.fates.length = state.response.operations.length) :
    next.fates.length = next.response.operations.length := by
  cases moves with
  | start operation =>
      dsimp only
      rw [List.length_append, List.length_append, fates]
      rfl
  | poll index running fate signal event stage slot locked served there alive does change =>
      dsimp only
      rw [List.length_set, fates]
  | deliver index operation result there => exact (List.length_set ..).trans fates
  | cancel index running there => exact (List.length_set ..).trans fates
  | drop index running pulled slot locked there drops => exact (List.length_set ..).trans fates

theorem Moves.locked (moves : Moves toPyErr methods state signal next) (intact : Intact methods state) :
    Held inMutex next.futures next.response.locked := by
  have held := intact.locked
  have marked : forall {new : Fate} {index running}, state.futures[index]? = some (running, .pending) ->
      new ≠ .dropped -> Held inMutex (state.futures.set index (running, new)) state.response.locked := by
    intro new index running there alive
    apply held.keep there
    unfold inMutex
    rw [decide_eq_true alive, decide_eq_true (show Fate.pending ≠ .dropped from nofun)]
  cases moves with
  | start operation =>
      unfold Cancellable.futures
      rw [futures_start intact.fates]
      exact held.start rfl
  | poll index running fate signal event stage slot locked served there alive does change =>
      unfold Cancellable.futures
      rw [futures_poll there]
      have inside : forall (each : Running Error), inMutex (each, fate) = each.stage.holds := by
        intro each
        unfold inMutex
        rw [decide_eq_true alive, Bool.true_and]
      rcases change.lock_cases with ⟨rfl, outside, stays⟩ | ⟨free, rfl, enters⟩ | ⟨rfl, within, leaves⟩
      · apply held.keep there
        rw [inside, inside]
        exact stays.trans outside.symm
      · rw [free] at held
        exact held.take there ((inside _).trans enters)
      · exact held.leave there ((inside _).trans within) ((inside _).trans leaves)
  | deliver index operation result there =>
      unfold Cancellable.futures
      rw [futures_mark there]
      exact marked there nofun
  | cancel index running there =>
      unfold Cancellable.futures
      rw [futures_mark there]
      exact marked there nofun
  | drop index running pulled slot locked there drops =>
      unfold Cancellable.futures
      rw [futures_mark there]
      have alive : inMutex (running, Fate.cancelled) = running.stage.holds := rfl
      generalize running.stage = before at drops alive
      cases drops with
      | waiting => exact held.keep there alive.symm
      | borrowing => exact held.leave there alive rfl
      | reading stream => exact held.leave there alive rfl

theorem placed_outside {slot : Option (Source Error)} (outside : running.stage.holds = false) :
    Placed methods slot running := by
  constructor
  · intro borrowing
    rw [borrowing] at outside
    cases outside
  · intro stream reading
    rw [reading] at outside
    cases outside

theorem Change.placed {event : Event} {stage : Stage Error} {slot : Option (Source Error)} {locked : Option Nat}
    {served : Option (Served Error)} {response : State Error} {before : Stage Error}
    (change : Change toPyErr (methods running.operation) .async response index event before stage slot locked
      served) : Placed methods slot { running with stage := stage } := by
  cases change with
  | borrow free stream there borrows =>
      refine ⟨fun _ => ⟨borrows, ?_⟩, fun _ reading => ?_⟩
      · rw [there]
        exact nofun
      · cases reading
  | take free stream there takes =>
      refine ⟨fun borrowing => ?_, fun _ _ => ⟨takes, rfl⟩⟩
      cases borrowing
  | refuse free empty => exact placed_outside rfl
  | chunk stream there served left serves => exact placed_outside rfl
  | bytes stream served serves => exact placed_outside rfl
  | convert served => exact placed_outside rfl

/-- Whoever changes the slot is alone in the mutex. -/
theorem Change.alone {event : Event} {before stage : Stage Error} {slot : Option (Source Error)}
    {locked : Option Nat} {served : Option (Served Error)} {response : State Error} {method : Method}
    (change : Change toPyErr method .async response index event before stage slot locked served) :
    slot = response.slot ∨ response.locked = none ∨ before.holds = true := by
  cases change with
  | refuse free empty => exact Or.inl rfl
  | borrow free stream there borrows => exact Or.inl rfl
  | take free stream there takes => exact Or.inr (Or.inl free)
  | chunk stream there served left serves => exact Or.inr (Or.inr rfl)
  | bytes stream served serves => exact Or.inl rfl
  | convert served => exact Or.inl rfl

/-- The slot of a future that has the mutex is not changed by others. -/
theorem Intact.placed_foreign (intact : Intact methods state) {slot : Option (Source Error)} {each : Nat}
    {other : Running Error} {before : Fate} (foreign : each ≠ index)
    (there : state.futures[index]? = some (running, fate)) (alive : fate ≠ .dropped)
    (present : state.futures[each]? = some (other, before)) (lives : before ≠ .dropped)
    (alone : slot = state.response.slot ∨ state.response.locked = none ∨ running.stage.holds = true) :
    Placed methods slot other := by
  cases inside : other.stage.holds with
  | false => exact placed_outside inside
  | true =>
      have holder : state.response.locked = some each := by
        refine (intact.locked each).mpr ⟨_, present, ?_⟩
        unfold inMutex
        rw [decide_eq_true lives, inside]
        rfl
      rcases alone with rfl | free | mine
      · exact intact.placed _ _ _ present lives
      · cases free.symm.trans holder
      · have me : state.response.locked = some index := by
          refine (intact.locked index).mpr ⟨_, there, ?_⟩
          unfold inMutex
          rw [decide_eq_true alive, mine]
          rfl
        exact absurd (Option.some.inj (holder.symm.trans me)) foreign

theorem Drops.alone {response : State Error} {before : Stage Error} {pulled : Bool}
    {slot : Option (Source Error)} {locked : Option Nat} (drops : Drops response pulled before slot locked) :
    slot = response.slot ∨ response.locked = none ∨ before.holds = true := by
  cases drops with
  | waiting => exact Or.inl rfl
  | borrowing => exact Or.inr (Or.inr rfl)
  | reading stream => exact Or.inl rfl

theorem Moves.placed (moves : Moves toPyErr methods state signal next) (intact : Intact methods state)
    {each : Nat} {other : Running Error} {now : Fate} (present : next.futures[each]? = some (other, now))
    (lives : now ≠ .dropped) : Placed methods next.response.slot other := by
  have marked : forall {new : Fate} {index running}, state.futures[index]? = some (running, .pending) ->
      (state.futures.set index (running, new))[each]? = some (other, now) ->
        Placed methods state.response.slot other := by
    intro new index running there present
    rcases changed_cases there present with ⟨rfl, same⟩ | ⟨_, before⟩
    · cases same
      exact intact.placed _ _ _ there nofun
    · exact intact.placed _ _ _ before lives
  cases moves with
  | start operation =>
      unfold Cancellable.futures at present
      rw [futures_start intact.fates] at present
      rcases started_cases present with before | ⟨_, same⟩
      · exact intact.placed _ _ _ before lives
      · cases same
        exact placed_outside rfl
  | poll index running fate signal event stage slot locked served there alive does change =>
      unfold Cancellable.futures at present
      rw [futures_poll there] at present
      rcases changed_cases there present with ⟨rfl, same⟩ | ⟨foreign, before⟩
      · cases same
        exact change.placed
      · exact intact.placed_foreign foreign there alive before lives change.alone
  | deliver index operation result there =>
      unfold Cancellable.futures at present
      rw [futures_mark there] at present
      exact marked there present
  | cancel index running there =>
      unfold Cancellable.futures at present
      rw [futures_mark there] at present
      exact marked there present
  | drop index running pulled slot locked there drops =>
      unfold Cancellable.futures at present
      rw [futures_mark there] at present
      rcases changed_cases there present with ⟨rfl, same⟩ | ⟨foreign, before⟩
      · cases same
        exact absurd rfl lives
      · exact intact.placed_foreign foreign there nofun before lives drops.alone

theorem Moves.intact (moves : Moves toPyErr methods state signal next) (intact : Intact methods state) :
    Intact methods next where
  fates := moves.fates intact.fates
  locked := moves.locked intact
  placed := fun _ _ _ there alive => moves.placed intact there alive

end Invariants

end Cancellation

end Response
end Lkrequest
