import Lkrequest.Foundations.Ledger
import Lkrequest.Foundations.Progress
import Lkrequest.Response.Cancellation

namespace Lkrequest
namespace Response

open Foundations

/-!
# A cancellation does not hold up the others

The mutex has a holder that goes on to read, or nobody, so that some operation
can go on as long as one is waited for.  An operation takes three steps at most.
-/

section Completion

variable {Error : Type}

/-! ## Steps that are left -/

/-- What an operation does of its own accord once upstream answers. -/
def Signal.isOwn : Signal -> Bool
  | .acquire _ => true
  | .finish _ => true
  | .deliver _ => true
  | _ => false

def Stage.stepsLeft : Stage Error -> Nat
  | .waiting => 2
  | .borrowing => 1
  | .reading _ => 1
  | _ => 0

def Fate.stepsLeft : Fate -> Nat
  | .pending => 1
  | _ => 0

def stepsLeft : Running Error × Fate -> Nat
  | (_, .dropped) => 0
  | (running, fate) => running.stage.stepsLeft + fate.stepsLeft

def Cancellable.stepsLeft (state : Cancellable Error) : Nat := (state.futures.map Response.stepsLeft).sum

variable {toPyErr : Error -> PyErr} {methods : Operation -> Method} {state next : Cancellable Error}
variable {signal : Signal} {index : Nat} {running : Running Error} {fate : Fate}

theorem stepsLeft_alive (alive : fate ≠ .dropped) :
    stepsLeft (running, fate) = running.stage.stepsLeft + fate.stepsLeft := by
  cases fate with
  | dropped => exact absurd rfl alive
  | _ => rfl

theorem stepsLeft_le (future : Running Error × Fate) : stepsLeft future <= 3 := by
  rcases future with ⟨running, fate⟩
  have stage : running.stage.stepsLeft <= 2 := by
    cases running.stage <;> exact Nat.le_of_ble_eq_true rfl
  have mark : fate.stepsLeft <= 1 := by
    cases fate <;> exact Nat.le_of_ble_eq_true rfl
  cases fate with
  | dropped => exact Nat.zero_le 3
  | _ => exact Nat.add_le_add stage mark

theorem Change.stepsLeft_lt {response : State Error} {event : Event} {before stage : Stage Error}
    {slot : Option (Source Error)} {locked : Option Nat} {got : Option (Served Error)} {method : Method}
    (does : signal.event? = some event)
    (change : Change toPyErr method .async response index event before stage slot locked got) :
    stage.stepsLeft < before.stepsLeft := by
  cases change with
  | refuse free empty => exact Nat.zero_lt_succ 1
  | borrow free stream there borrows => exact Nat.lt_succ_self 1
  | take free stream there takes => exact Nat.lt_succ_self 1
  | chunk stream there served left serves => exact Nat.zero_lt_succ 0
  | bytes stream served serves => exact Nat.zero_lt_succ 0
  | convert served => cases signal <;> cases does

theorem Moves.stepsLeft_lt (moves : Moves toPyErr methods state signal next) (own : signal.isOwn = true) :
    next.stepsLeft < state.stepsLeft := by
  cases moves with
  | start operation => cases own
  | poll index running fate signal event stage slot locked got there alive does change =>
      change (List.map stepsLeft (List.zip _ _)).sum < (state.futures.map stepsLeft).sum
      have total := sum_map_set stepsLeft there ({ running with stage := stage }, fate)
      have less := change.stepsLeft_lt does
      rw [stepsLeft_alive alive, stepsLeft_alive alive] at total
      rw [futures_poll there]
      dsimp only at total
      omega
  | deliver index operation result there =>
      change (List.map stepsLeft (List.zip _ _)).sum < (state.futures.map stepsLeft).sum
      have total := sum_map_set stepsLeft there (⟨operation, .returned result⟩, .delivered)
      change _ + 1 = _ + 0 at total
      rw [futures_mark there]
      omega
  | cancel index running there => cases own
  | drop index running pulled slot locked there drops => cases own

theorem stepsLeft_bound (state : Cancellable Error) : state.stepsLeft <= 3 * state.fates.length := by
  have each : forall futures : List (Running Error × Fate),
      (futures.map stepsLeft).sum <= 3 * futures.length := by
    intro futures
    induction futures with
    | nil => exact Nat.le_refl 0
    | cons future rest ih =>
        have here := stepsLeft_le future
        rw [List.map_cons, List.sum_cons, List.length_cons]
        omega
  have length : state.futures.length <= state.fates.length := by
    unfold Cancellable.futures
    rw [List.length_zip]
    exact Nat.min_le_right ..
  have bound := each state.futures
  unfold Cancellable.stepsLeft
  omega

/-- A step of one operation. -/
def Signal.isOf (index : Nat) : Signal -> Bool
  | .acquire other => other == index
  | .finish other => other == index
  | .deliver other => other == index
  | _ => false

def Cancellable.stepsLeftOf (index : Nat) (state : Cancellable Error) : Nat :=
  ((state.futures[index]?).map Response.stepsLeft).getD 0

theorem stepsLeftOf_le (index : Nat) (state : Cancellable Error) : state.stepsLeftOf index <= 3 := by
  unfold Cancellable.stepsLeftOf
  cases state.futures[index]? with
  | none => exact Nat.zero_le 3
  | some future => exact stepsLeft_le future

/-- A step of a future makes what is left of it smaller, and of no other. -/
theorem spends_of_set {futures : List (Running Error × Fate)} {index each : Nat}
    {future after : Running Error × Fate} (there : futures[index]? = some future)
    (less : stepsLeft after < stepsLeft future) {one : Bool} (own : one = true -> index = each) :
    (((futures.set index after)[each]?).map stepsLeft).getD 0 + (if one then 1 else 0) <=
      ((futures[each]?).map stepsLeft).getD 0 := by
  by_cases same : index = each
  · subst same
    rw [List.getElem?_set_self (List.getElem?_eq_some_iff.mp there).1, there]
    change stepsLeft after + _ <= stepsLeft future
    split <;> omega
  · rw [List.getElem?_set_ne same]
    cases one with
    | true => exact absurd (own rfl) same
    | false => exact Nat.le_refl _

theorem Moves.spends (moves : Moves toPyErr methods state signal next) (own : signal.isOwn = true) (each : Nat) :
    next.stepsLeftOf each + (if signal.isOf each then 1 else 0) <= state.stepsLeftOf each := by
  unfold Cancellable.stepsLeftOf
  cases moves with
  | start operation => cases own
  | poll index running fate signal event stage slot locked got there alive does change =>
      change (((List.zip _ _)[each]?).map stepsLeft).getD 0 + _ <= _
      rw [futures_poll there]
      refine spends_of_set there ?_ ?_
      · rw [stepsLeft_alive alive, stepsLeft_alive alive]
        exact Nat.add_lt_add_right (change.stepsLeft_lt does) _
      · intro mine
        have at_ := change.index?_eq
        cases signal with
        | acquire other =>
            cases does
            exact (Option.some.inj at_).symm.trans (beq_iff_eq.mp mine)
        | finish other =>
            cases does
            exact (Option.some.inj at_).symm.trans (beq_iff_eq.mp mine)
        | _ => cases does
  | deliver index operation result there =>
      change (((List.zip _ _)[each]?).map stepsLeft).getD 0 + _ <= _
      rw [futures_mark there]
      exact spends_of_set there (Nat.lt_succ_self _) (fun mine => beq_iff_eq.mp mine)
  | cancel index running there => cases own
  | drop index running pulled slot locked there drops => cases own

/-! ## Operations that cannot go on -/

/-- An async method converts nothing outside of the mutex. -/
def Async (state : Cancellable Error) : Prop :=
  ∀ running ∈ state.response.operations, forall served, running.stage ≠ .converting served

theorem Moves.async (moves : Moves toPyErr methods state signal next) (async : Async state) : Async next := by
  cases moves with
  | start operation =>
      intro each among served
      rcases List.mem_append.mp among with before | fresh
      · exact async each before served
      · cases List.mem_singleton.mp fresh
        exact nofun
  | poll index running fate signal event stage slot locked got there alive does change =>
      intro each among served
      rcases List.mem_or_eq_of_mem_set among with before | rfl
      · exact async each before served
      · generalize running.stage = before at change
        cases change with
        | convert served => cases signal <;> cases does
        | _ => exact nofun
  | deliver index operation result there => exact async
  | cancel index running there => exact async
  | drop index running pulled slot locked there drops => exact async

theorem Change.not_returned {response : State Error} {event : Event} {before stage : Stage Error}
    {slot : Option (Source Error)} {locked : Option Nat} {got : Option (Served Error)} {method : Method}
    (change : Change toPyErr method .async response index event before stage slot locked got) (result : Result) :
    before ≠ .returned result := by
  cases change <;> exact nofun

/-- What was delivered is a result. -/
def Delivers (state : Cancellable Error) : Prop :=
  forall (index : Nat) (running : Running Error), state.futures[index]? = some (running, .delivered) ->
    ∃ result, running.stage = .returned result

theorem Moves.delivers (moves : Moves toPyErr methods state signal next) (intact : Intact methods state)
    (delivers : Delivers state) : Delivers next := by
  intro each other present
  unfold Cancellable.futures at present
  cases moves with
  | start operation =>
      rw [futures_start intact.fates] at present
      rcases started_cases present with before | ⟨_, same⟩
      · exact delivers each other before
      · cases same
  | poll index running fate signal event stage slot locked got there alive does change =>
      rw [futures_poll there] at present
      rcases changed_cases there present with ⟨_, same⟩ | ⟨_, before⟩
      · cases same
        rcases delivers index running there with ⟨result, returned⟩
        exact absurd returned (change.not_returned result)
      · exact delivers each other before
  | deliver index operation result there =>
      rw [futures_mark there] at present
      rcases changed_cases there present with ⟨_, same⟩ | ⟨_, before⟩
      · cases same
        exact ⟨result, rfl⟩
      · exact delivers each other before
  | cancel index running there =>
      rw [futures_mark there] at present
      rcases changed_cases there present with ⟨_, same⟩ | ⟨_, before⟩
      · cases same
      · exact delivers each other before
  | drop index running pulled slot locked there drops =>
      rw [futures_mark there] at present
      rcases changed_cases there present with ⟨_, same⟩ | ⟨_, before⟩
      · cases same
      · exact delivers each other before

/-- What holds in every state that a run can reach. -/
structure Reached (methods : Operation -> Method) (state : Cancellable Error) : Prop where
  intact : Intact methods state
  async : Async state
  delivers : Delivers state

theorem reached_initial (body : Source Error) : Reached methods (Cancellable.initial body) where
  intact := intact_initial body
  async := fun _ among => absurd among List.not_mem_nil
  delivers := by
    intro index running there
    cases there

theorem Reached.step (reached : Reached methods state) (stepped : state.step toPyErr methods signal = some next) :
    Reached methods next := by
  have moves := step_moves reached.intact.fates stepped
  exact ⟨moves.intact reached.intact, moves.async reached.async, moves.delivers reached.intact reached.delivers⟩

theorem polled {event : Event} (there : state.futures[index]? = some (running, fate)) (alive : fate ≠ .dropped)
    (enabled : ∃ after, state.response.step toPyErr methods .async event = some after) :
    state.poll toPyErr methods index event ≠ none := by
  rcases enabled with ⟨after, stepped⟩
  unfold Cancellable.poll
  rw [if_neg, stepped]
  · exact nofun
  · intro dropped
    cases (futures_found.mp there).2.symm.trans dropped
    exact alive rfl

theorem acquire_enabled {response : State Error} (found : response.operations[index]? = some running)
    (waits : running.stage = .waiting) (free : response.locked = none) :
    ∃ after, response.step toPyErr methods .async (.acquire index) = some after := by
  change ∃ after, (response.operations[index]?).bind _ = some after
  rw [found]
  change ∃ after, response.acquire toPyErr methods .async index running = some after
  unfold State.acquire
  rw [waits]
  dsimp only
  rw [if_pos free]
  cases response.slot with
  | none => exact ⟨_, rfl⟩
  | some stream => cases methods running.operation <;> exact ⟨_, rfl⟩

theorem finish_enabled {response : State Error} (found : response.operations[index]? = some running)
    (inside : running.stage.holds = true) (placed : Placed methods response.slot running) :
    ∃ after, response.step toPyErr methods .async (.finish index) = some after := by
  change ∃ after, (response.operations[index]?).bind _ = some after
  rw [found]
  change ∃ after, response.finish toPyErr methods .async index running = some after
  unfold State.finish
  cases stands : running.stage with
  | borrowing =>
      rcases Option.ne_none_iff_exists'.mp (placed.1 stands).2 with ⟨stream, there⟩
      rw [there]
      rcases stream with _ | ⟨error | chunk, rest⟩ <;> exact ⟨_, rfl⟩
  | reading stream =>
      dsimp only
      cases stream.bytes <;> exact ⟨_, rfl⟩
  | _ =>
      rw [stands] at inside
      cases inside

variable {Encoding : Type} {codecs : Codecs Encoding} {headers : HeaderList}

/-- When no operation can go on, nobody has the mutex and nobody waits for a result. -/
theorem Reached.at_rest (reached : Reached (Api.async.method codecs headers) state)
    (rests : AtRest (cancellable codecs headers toPyErr) (fun signal => signal.isOwn = true) state) :
    state.response.locked = none ∧ ∀ fate ∈ state.fates, fate ≠ .pending := by
  have free : state.response.locked = none := by
    cases lock : state.response.locked with
    | none => rfl
    | some index =>
        rcases (reached.intact.locked index).mp lock with ⟨⟨running, fate⟩, there, inside⟩
        rcases Bool.and_eq_true_iff.mp inside with ⟨alive, holds⟩
        have lives : fate ≠ .dropped := of_decide_eq_true alive
        exact absurd (rests (.finish index) rfl) (polled there lives
          (finish_enabled (futures_found.mp there).1 holds (reached.intact.placed _ _ _ there lives)))
  refine ⟨free, ?_⟩
  rintro fate among rfl
  rcases List.mem_iff_getElem?.mp among with ⟨index, mark⟩
  have inRange : index < state.response.operations.length :=
    reached.intact.fates ▸ (List.getElem?_eq_some_iff.mp mark).1
  have found := List.getElem?_eq_getElem inRange
  generalize state.response.operations[index] = running at found
  have there := futures_found.mpr ⟨found, mark⟩
  have placed := reached.intact.placed _ _ _ there nofun
  cases stands : running.stage with
  | waiting => exact polled there nofun (acquire_enabled found stands free) (rests (.acquire index) rfl)
  | borrowing =>
      have holds : running.stage.holds = true := by rw [stands]; rfl
      exact polled there nofun (finish_enabled found holds placed) (rests (.finish index) rfl)
  | reading stream =>
      have holds : running.stage.holds = true := by rw [stands]; rfl
      exact polled there nofun (finish_enabled found holds placed) (rests (.finish index) rfl)
  | converting served => exact reached.async running (List.mem_of_getElem? found) served stands
  | returned result =>
      rcases running with ⟨operation, stage⟩
      cases stands
      have delivers : state.step toPyErr (Api.async.method codecs headers) (.deliver index) =
          some { state with fates := state.fates.set index .delivered } := by
        unfold Cancellable.step
        dsimp only
        rw [found, mark]
      cases (rests (.deliver index) rfl).symm.trans delivers

/-- Python has the results it waited for, or waits for them still. -/
def Awaits (start state : Cancellable Error) : Prop :=
  forall index : Nat, start.fates[index]? = some .pending ->
    state.fates[index]? = some .pending ∨ state.fates[index]? = some .delivered

/-- Of their own accord operations are not given up. -/
theorem Moves.awaits {start : Cancellable Error} (moves : Moves toPyErr methods state signal next)
    (own : signal.isOwn = true) (awaits : Awaits start state) : Awaits start next := by
  intro each waited
  have before := awaits each waited
  cases moves with
  | start operation => cases own
  | poll index running fate signal event stage slot locked got there alive does change => exact before
  | deliver index operation result there =>
      dsimp only
      by_cases same : index = each
      · subst same
        exact Or.inr (List.getElem?_set_self (List.getElem?_eq_some_iff.mp (futures_found.mp there).2).1)
      · rw [List.getElem?_set_ne same]
        exact before
  | cancel index running there => cases own
  | drop index running pulled slot locked there drops => cases own

theorem settling (codecs : Codecs Encoding) (headers : HeaderList) (toPyErr : Error -> PyErr)
    (start : Cancellable Error) : Settling (cancellable codecs headers toPyErr) (fun signal => signal.isOwn = true)
      (fun state => Reached (Api.async.method codecs headers) state ∧ Awaits start state)
      Cancellable.stepsLeft where
  keeps := by
    rintro state signal next ⟨reached, awaits⟩ own stepped
    exact ⟨reached.step stepped, (step_moves reached.intact.fates stepped).awaits own awaits⟩
  decreases := by
    rintro state signal next ⟨reached, _⟩ own stepped
    exact (step_moves reached.intact.fates stepped).stepsLeft_lt own

/-- The mutex is free, and Python has every result that it waited for. -/
structure Finished (start final : Cancellable Error) : Prop where
  free : final.response.locked = none
  delivered : forall index : Nat, start.fates[index]? = some .pending ->
    ∃ operation result, final.futures[index]? = some (⟨operation, .returned result⟩, .delivered)

theorem Reached.finished {start : Cancellable Error} (reached : Reached (Api.async.method codecs headers) state)
    (awaits : Awaits start state)
    (rests : AtRest (cancellable codecs headers toPyErr) (fun signal => signal.isOwn = true) state) :
    Finished start state := by
  rcases reached.at_rest rests with ⟨free, done⟩
  refine ⟨free, fun index waited => ?_⟩
  rcases awaits index waited with pending | delivered
  · exact absurd rfl (done _ (List.mem_of_getElem? pending))
  · have inRange : index < state.response.operations.length :=
      reached.intact.fates ▸ (List.getElem?_eq_some_iff.mp delivered).1
    have there := futures_found.mpr ⟨List.getElem?_eq_getElem inRange, delivered⟩
    generalize state.response.operations[index] = running at there
    rcases running with ⟨operation, stage⟩
    rcases reached.delivers index _ there with ⟨result, rfl⟩
    exact ⟨operation, result, there⟩

/-- Whatever was called, given up and dropped so far: the operations that Python
still waits for can go on, each takes three steps at most in whatever order they
go on, and when none can go on Python has all results. -/
theorem cancellation_holds_up_nobody (codecs : Codecs Encoding) (headers : HeaderList)
    (toPyErr : Error -> PyErr) (body : Source Error) (signals : List Signal) (state : Cancellable Error)
    (ran : (cancellable codecs headers toPyErr).run (.initial body) signals = some state) :
    (∃ own final, (∀ signal ∈ own, signal.isOwn = true) ∧
      (cancellable codecs headers toPyErr).run state own = some final ∧
      AtRest (cancellable codecs headers toPyErr) (fun signal => signal.isOwn = true) final) ∧
    forall own final, (∀ signal ∈ own, signal.isOwn = true) ->
      (cancellable codecs headers toPyErr).run state own = some final ->
        own.length <= 3 * state.fates.length ∧
          (forall index, own.countP (Signal.isOf index) <= 3) ∧
          (AtRest (cancellable codecs headers toPyErr) (fun signal => signal.isOwn = true) final ->
            Finished state final) := by
  have reached : Reached (Api.async.method codecs headers) state :=
    (cancellable codecs headers toPyErr).run_invariant _ (fun _ _ _ reached stepped => reached.step stepped)
      (reached_initial body) ran
  have settles := settling codecs headers toPyErr state
  have now : Awaits state state := fun _ waited => Or.inl waited
  refine ⟨settles.reaches_rest ⟨reached, now⟩, ?_⟩
  intro own final all ran
  have length := settles.length_le ⟨reached, now⟩ all ran
  have bound := stepsLeft_bound state
  have each : forall index, own.countP (Signal.isOf index) <= 3 := by
    intro index
    have count := settles.countP_le
      (fun holds mine stepped => (step_moves holds.1.intact.fates stepped).spends mine index) ⟨reached, now⟩ all ran
    have few := stepsLeftOf_le index state
    omega
  rcases settles.run_keeps ⟨reached, now⟩ all ran with ⟨reached, awaits⟩
  exact ⟨by omega, each, reached.finished awaits⟩

end Completion

/-- A `bytes()` has taken the stream when it is given up, and two operations wait. -/
def heldUp : List Signal :=
  [.start .bytes, .start .chunk, .start .next, .acquire 0, .cancel 0]

theorem waiting_operations_go_on :
    ∃ state, (cancellable exampleCodecs [] PyErr.runtimeError).run (.initial [.ok [72]]) heldUp = some state ∧
      state.response.locked = some 0 ∧
      ∃ own final, (∀ signal ∈ own, signal.isOwn = true) ∧
        (cancellable exampleCodecs [] PyErr.runtimeError).run state own = some final ∧
        AtRest (cancellable exampleCodecs [] PyErr.runtimeError) (fun signal => signal.isOwn = true) final := by
  have ran : ((cancellable exampleCodecs [] PyErr.runtimeError).run (.initial [.ok [72]]) heldUp).map
      (fun state => state.response.locked) = some (some 0) := by
    decide +kernel
  rcases Option.map_eq_some_iff.mp ran with ⟨state, ran, locked⟩
  exact ⟨state, ran, locked, (cancellation_holds_up_nobody exampleCodecs [] PyErr.runtimeError _ heldUp state ran).1⟩

end Response
end Lkrequest
