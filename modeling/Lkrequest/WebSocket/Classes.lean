import Lkrequest.WebSocket.Steps

namespace Lkrequest
namespace WebSocket

open Foundations

/-!
# The two classes of a connection

The methods of the two classes differ in the exception that ends an iteration and
in what `Ok(())` becomes in Python.  With both renamed they are the same machine.
Without the second they differ as soon as one upstream `send` or `close` succeeds.
-/

section Classes

variable {Error : Type}

namespace Stage

def mapResult (rename : Result -> Result) : Stage -> Stage
  | .opening => .opening
  | .reading => .reading
  | .calling conn => .calling conn
  | .releasing conn result => .releasing conn (rename result)
  | .taking conn result => .taking conn (rename result)
  | .dropping conn released result => .dropping conn released (rename result)
  | .leaving conn result => .leaving conn (rename result)
  | .returned result => .returned (rename result)
  | .cancelled => .cancelled

end Stage

def Running.mapResult (rename : Result -> Result) (running : Running) : Running :=
  { running with stage := running.stage.mapResult rename }

def Entry.mapResult (rename : Result -> Result) : Entry Error -> Entry Error
  | .returned index result => .returned index (rename result)
  | .opened index handle => .opened index handle
  | .called index conn call => .called index conn call
  | .answered index outcome => .answered index outcome
  | .released index handle => .released index handle
  | .freed conn => .freed conn

def Body.mapResult (rename : Result -> Result) (body : Body Error) : Body Error where
  absent := rename body.absent
  call := body.call
  after := fun outcome => (body.after outcome).map (fun after => (after.1, rename after.2))

namespace State

def mapResult (rename : Result -> Result) (state : State Error) : State Error :=
  { state with
    operations := state.operations.map (Running.mapResult rename)
    log := state.log.map (Entry.mapResult rename) }

variable {bodies : Operation -> Body Error} {api : Api} (rename : Result -> Result) (state : State Error)

theorem mapResult_setStage (index : Nat) (running : Running) (stage : Stage) :
    (state.setStage index running stage).mapResult rename =
      (state.mapResult rename).setStage index (running.mapResult rename) (stage.mapResult rename) := by
  unfold State.mapResult State.setStage
  rw [List.map_set]
  rfl

theorem mapResult_record (entries : List (Entry Error)) :
    (state.record entries).mapResult rename =
      (state.mapResult rename).record (entries.map (Entry.mapResult rename)) := by
  unfold State.mapResult State.record
  rw [List.map_append]

theorem mapResult_dropHandle (conn : ConnId) :
    (state.dropHandle conn).mapResult rename = (state.mapResult rename).dropHandle conn := by
  unfold State.dropHandle
  by_cases last : Function.update state.strong conn (state.strong conn - 1) conn = 0
  · rw [if_pos last, mapResult_record]
    exact (if_pos last).symm
  · rw [if_neg last]
    exact (if_neg last).symm

theorem mapResult_dropReleased (released : Option ConnId) :
    (state.dropReleased released).mapResult rename = (state.mapResult rename).dropReleased released := by
  cases released with
  | none => rfl
  | some conn => exact state.mapResult_dropHandle rename conn

theorem mapResult_go (index : Nat) (running : Running) :
    (state.go bodies index running).map (State.mapResult rename) =
      (state.mapResult rename).go (fun operation => (bodies operation).mapResult rename) index
        (running.mapResult rename) := by
  rcases running with ⟨operation, stage⟩
  cases stage with
  | reading =>
      change some ((state.read bodies index ⟨operation, .reading⟩).mapResult rename) =
        some ((state.mapResult rename).read _ index ⟨operation, .reading⟩)
      unfold State.read
      cases there : state.slot with
      | none =>
          rw [show (state.mapResult rename).slot = none from there]
          simp only [mapResult_record, mapResult_setStage]
          rfl
      | some conn =>
          rw [show (state.mapResult rename).slot = some conn from there]
          simp only [mapResult_record, mapResult_setStage]
          rfl
  | taking conn result =>
      change some _ = some _
      rw [mapResult_record, mapResult_setStage]
      rfl
  | dropping conn released result =>
      change some _ = some _
      rw [mapResult_setStage, mapResult_dropReleased]
      rfl
  | leaving conn result =>
      change some _ = some _
      rw [mapResult_record, mapResult_setStage, mapResult_dropHandle]
      rfl
  | _ => rfl

theorem mapResult_lock (index : Nat) (running : Running) :
    (state.lock index running).map (State.mapResult rename) =
      (state.mapResult rename).lock index (running.mapResult rename) := by
  rcases running with ⟨operation, stage⟩
  unfold State.lock
  by_cases free : state.locked = none
  · rw [if_pos free, if_pos (show (state.mapResult rename).locked = none from free)]
    cases stage with
    | opening => exact congrArg some (mapResult_setStage rename _ _ _ _)
    | releasing conn result => exact congrArg some (mapResult_setStage rename _ _ _ _)
    | _ => rfl
  · rw [if_neg free, if_neg (show ¬ (state.mapResult rename).locked = none from free)]
    rfl

theorem mapResult_answer (index : Nat) (running : Running) (outcome : Outcome Error) :
    (state.answer bodies index running outcome).map (State.mapResult rename) =
      (state.mapResult rename).answer (fun operation => (bodies operation).mapResult rename) index
        (running.mapResult rename) outcome := by
  rcases running with ⟨operation, stage⟩
  cases stage with
  | calling conn =>
      change Option.map _ (Option.map _ ((bodies operation).after outcome)) =
        Option.map _ (Option.map _ ((bodies operation).after outcome))
      cases (bodies operation).after outcome with
      | none => rfl
      | some after =>
          change some _ = some _
          rw [mapResult_record, mapResult_setStage]
          rcases after with ⟨releases, result⟩
          cases releases <;> rfl
  | _ => rfl

theorem mapResult_cancel (index : Nat) (running : Running) :
    (state.cancel api index running).map (State.mapResult rename) =
      (state.mapResult rename).cancel api index (running.mapResult rename) := by
  rcases running with ⟨operation, stage⟩
  cases api with
  | blocking => rfl
  | async =>
      cases stage with
      | opening => exact congrArg some (mapResult_setStage rename _ _ _ _)
      | calling conn =>
          change some _ = some _
          rw [mapResult_setStage, mapResult_dropHandle]
          rfl
      | _ => rfl

/-- Renaming results and taking a step can be exchanged. -/
theorem mapResult_step (event : Event Error) :
    (state.step bodies api event).map (State.mapResult rename) =
      (state.mapResult rename).step (fun operation => (bodies operation).mapResult rename) api event := by
  have lookup : forall index, (state.mapResult rename).operations[index]? =
      (state.operations[index]?).map (Running.mapResult rename) := fun index => List.getElem?_map ..
  cases event with
  | start operation =>
      change some _ = some _
      unfold State.mapResult
      rw [List.map_append]
      rfl
  | lock index =>
      change ((state.operations[index]?).bind _).map _ = ((state.mapResult rename).operations[index]?).bind _
      rw [lookup]
      cases state.operations[index]? with
      | none => rfl
      | some running => exact state.mapResult_lock rename index running
  | go index =>
      change ((state.operations[index]?).bind _).map _ = ((state.mapResult rename).operations[index]?).bind _
      rw [lookup]
      cases state.operations[index]? with
      | none => rfl
      | some running => exact state.mapResult_go rename index running
  | answer index outcome =>
      change ((state.operations[index]?).bind _).map _ = ((state.mapResult rename).operations[index]?).bind _
      rw [lookup]
      cases state.operations[index]? with
      | none => rfl
      | some running => exact state.mapResult_answer rename index running outcome
  | cancel index =>
      change ((state.operations[index]?).bind _).map _ = ((state.mapResult rename).operations[index]?).bind _
      rw [lookup]
      cases state.operations[index]? with
      | none => rfl
      | some running => exact state.mapResult_cancel rename index running

end State

/-! ## What the two classes have in common -/

/-- `()` under one name, in a future and as a return value. -/
def PyValue.plain : PyValue -> PyValue
  | .emptyTuple => .none
  | value => value

/-- A result up to the exception that ends an iteration and to what `()` becomes. -/
def plain (result : Result) : Result := comparable (result.map PyValue.plain)

variable (toPyErr : Error -> PyErr)

theorem bodies_plain (operation : Operation) :
    (PyWsConnection.body toPyErr operation).mapResult plain =
      (PyBlockingWsConnection.body toPyErr operation).mapResult plain := by
  have done : forall (releases : Bool) (outcome : Outcome Error),
      ((afterDone toPyErr PyWsConnection.done releases outcome).map (fun after => (after.1, plain after.2))) =
        (afterDone toPyErr PyBlockingWsConnection.done releases outcome).map
          (fun after => (after.1, plain after.2)) := by
    rintro releases (⟨error | ⟨⟩⟩ | message) <;> rfl
  have ended : forall outcome : Outcome Error,
      ((afterNext PyWsConnection.stop outcome).map (fun after => (after.1, plain after.2))) =
        (afterNext PyBlockingWsConnection.stop outcome).map (fun after => (after.1, plain after.2)) := by
    intro outcome
    rcases outcome with result | error | message
    · rfl
    · rfl
    · cases message <;> rfl
  cases operation with
  | sendText text => exact congrArg (Body.mk _ _) (funext (done false))
  | sendBinary data => exact congrArg (Body.mk _ _) (funext (done false))
  | recv => rfl
  | close code reason => exact congrArg (Body.mk _ _) (funext (done true))
  | next => exact congrArg (Body.mk _ _) (funext ended)

/-- An event that cancels nothing is the same for both classes. -/
theorem step_uncancelled {event : Event Error} (uncancelled : forall index, event ≠ .cancel index)
    (bodies : Operation -> Body Error) (state : State Error) :
    state.step bodies .async event = state.step bodies .blocking event := by
  cases event with
  | cancel index => exact absurd rfl (uncancelled index)
  | _ => rfl

/-- The same events do the same in both classes, up to the exception that ends an
iteration and to what `()` becomes. -/
theorem classes_agree (conn : ConnId) {events : List (Event Error)}
    (uncancelled : forall index, .cancel index ∉ events) :
    ((connection toPyErr .async).run (.initial conn) events).map (State.mapResult plain) =
      ((connection toPyErr .blocking).run (.initial conn) events).map (State.mapResult plain) := by
  refine (connection toPyErr .async).run_alike (connection toPyErr .blocking) _ _ ?_ rfl
  intro event among first second alike
  have bodies : (fun operation => (Api.async.body toPyErr operation).mapResult plain) =
      fun operation => (Api.blocking.body toPyErr operation).mapResult plain :=
    funext (bodies_plain toPyErr)
  change (first.step _ .async event).map _ = (second.step _ .blocking event).map _
  rw [State.mapResult_step, State.mapResult_step, alike, bodies, step_uncancelled]
  rintro index rfl
  exact uncancelled index among

/-! ## What is returned for an answer -/

/-- The exception that ends an iteration. -/
def Api.stop : Api -> PyErr
  | .async => PyWsConnection.stop
  | .blocking => PyBlockingWsConnection.stop

/-- What a `send` or a `close` returns. -/
def Api.done : Api -> PyValue
  | .async => PyWsConnection.done
  | .blocking => PyBlockingWsConnection.done

/-- What an operation returns for what its upstream call brought. -/
def Api.served (api : Api) : Operation -> Outcome Error -> Result
  | _, .done (.ok ()) => .ok api.done
  | _, .done (.error error) => .error (toPyErr error)
  | .next, .message (.ok (.close _ _)) => .error api.stop
  | .next, .message (.error _) => .error api.stop
  | _, .message (.ok msg) => .ok (.message (rustWsToPy msg))
  | _, .message (.error error) => .error (toPyErr error)

theorem after_served {api : Api} {operation : Operation} {outcome : Outcome Error} {releases : Bool}
    {result : Result} (after : (api.body toPyErr operation).after outcome = some (releases, result)) :
    result = api.served toPyErr operation outcome := by
  cases operation with
  | next =>
      rcases outcome with result | error | message
      · cases api <;> cases after
      · cases api <;> cases after <;> rfl
      · cases message <;> cases api <;> cases after <;> rfl
  | recv =>
      rcases outcome with result | error | message
      · cases api <;> cases after
      · cases api <;> cases after <;> rfl
      · cases message <;> cases api <;> cases after <;> rfl
  | _ => rcases outcome with ⟨error | ⟨⟩⟩ | ⟨error | message⟩ <;> cases api <;> cases after <;> rfl

/-! ## Where the classes differ -/

/-- An upstream `send` or `close` succeeds. -/
def Event.succeeds : Event Error -> Bool
  | .answer _ (.done (.ok ())) => true
  | _ => false

/-- A method whose `send` or `close` never succeeds. -/
def Body.unsuccessful (body : Body Error) : Body Error where
  absent := body.absent
  call := body.call
  after
    | .done (.ok ()) => none
    | outcome => body.after outcome

theorem step_unsuccessful {event : Event Error} (fails : event.succeeds = false)
    (bodies : Operation -> Body Error) (api : Api) (state : State Error) :
    state.step bodies api event = state.step (fun operation => (bodies operation).unsuccessful) api event := by
  cases event with
  | answer index outcome =>
      rcases outcome with ⟨error | ⟨⟩⟩ | message
      · rfl
      · exact Bool.noConfusion fails
      · rfl
  | _ => rfl

theorem bodies_comparable (operation : Operation) :
    (PyWsConnection.body toPyErr operation).unsuccessful.mapResult comparable =
      (PyBlockingWsConnection.body toPyErr operation).unsuccessful.mapResult comparable := by
  have after : forall outcome, ((PyWsConnection.body toPyErr operation).unsuccessful.mapResult comparable).after
      outcome = ((PyBlockingWsConnection.body toPyErr operation).unsuccessful.mapResult comparable).after
        outcome := by
    rintro (⟨error | ⟨⟩⟩ | ⟨error | message⟩)
    · cases operation <;> rfl
    · rfl
    · cases operation <;> rfl
    · cases operation <;> cases message <;> rfl
  cases operation <;> exact congrArg (Body.mk _ _) (funext after)

/-- Without a successful `send` or `close` the same events do the same in both
classes, up to the exception that ends an iteration. -/
theorem classes_agree_unsuccessful (conn : ConnId) {events : List (Event Error)}
    (uncancelled : forall index, .cancel index ∉ events) (fails : ∀ event ∈ events, event.succeeds = false) :
    ((connection toPyErr .async).run (.initial conn) events).map (State.mapResult comparable) =
      ((connection toPyErr .blocking).run (.initial conn) events).map (State.mapResult comparable) := by
  refine (connection toPyErr .async).run_alike (connection toPyErr .blocking) _ _ ?_ rfl
  intro event among first second alike
  have bodies : (fun operation => (Api.async.body toPyErr operation).unsuccessful.mapResult comparable) =
      fun operation => (Api.blocking.body toPyErr operation).unsuccessful.mapResult comparable :=
    funext (bodies_comparable toPyErr)
  change (first.step _ .async event).map _ = (second.step _ .blocking event).map _
  rw [step_unsuccessful (fails event among) _ .async, step_unsuccessful (fails event among) _ .blocking,
    State.mapResult_step, State.mapResult_step, alike, bodies, step_uncancelled]
  rintro index rfl
  exact uncancelled index among

/-- The result that an operation carries or has returned. -/
def Stage.result? : Stage -> Option Result
  | .releasing _ result => some result
  | .taking _ result => some result
  | .dropping _ _ result => some result
  | .leaving _ result => some result
  | .returned result => some result
  | _ => none

def State.resultOf (state : State Error) (index : Nat) : Option Result :=
  (state.operations[index]?).bind (fun running => running.stage.result?)

theorem State.resultOf_mapResult (state : State Error) (rename : Result -> Result) (index : Nat) :
    (state.mapResult rename).resultOf index = (state.resultOf index).map rename := by
  change ((state.operations.map (Running.mapResult rename))[index]?).bind _ = _
  rw [List.getElem?_map]
  unfold State.resultOf
  cases state.operations[index]? with
  | none => rfl
  | some running =>
      rcases running with ⟨operation, stage⟩
      cases stage <;> rfl

variable {api : Api} {state next : State Error} {index : Nat}

/-- An operation that has its result keeps it. -/
theorem resultOf_step {bodies : Operation -> Body Error} {event : Event Error} {result : Result}
    (there : state.resultOf index = some result) (steps : Steps bodies api state event next) :
    next.resultOf index = some result := by
  rcases Option.bind_eq_some_iff.mp there with ⟨running, found, carried⟩
  cases steps with
  | start operation =>
      unfold State.resultOf
      rw [List.getElem?_append_left (List.getElem?_eq_some_iff.mp found).1]
      exact there
  | change moved running' event stage slot locked strong entries found' change =>
      unfold State.resultOf
      by_cases own : moved = index
      · subst own
        rw [List.getElem?_set_self (List.getElem?_eq_some_iff.mp found).1]
        cases found.symm.trans found'
        rcases running with ⟨operation, before⟩
        cases change <;> first | exact carried | exact (nomatch carried)
      · rw [List.getElem?_set_ne own]
        exact there

/-- A call that succeeded gives its operation the value of the class. -/
theorem resultOf_succeeded (stepped : (connection toPyErr api).step state (.answer index (.done (.ok ()))) =
    some next) : next.resultOf index = some (.ok api.done) := by
  have steps : Steps (api.body toPyErr) api state (.answer index (.done (.ok ()))) next := step_steps stepped
  generalize same : (.answer index (.done (.ok ())) : Event Error) = event at steps
  cases steps with
  | start operation => exact (nomatch same)
  | change moved running event stage slot locked strong entries found change =>
      have there := (List.getElem?_eq_some_iff.mp found).1
      unfold State.resultOf
      generalize running.stage = before at change
      cases change with
      | keep conn outcome result after =>
          cases same
          rw [List.getElem?_set_self there, after_served toPyErr after]
          cases running.operation <;> rfl
      | release conn outcome result after =>
          cases same
          rw [List.getElem?_set_self there, after_served toPyErr after]
          cases running.operation <;> rfl
      | _ => exact (nomatch same)

/-- The result of a call that succeeded, in every later state. -/
theorem resultOf_run {start : State Error} {early late : List (Event Error)}
    (ran : (connection toPyErr api).run start (early ++ .answer index (.done (.ok ())) :: late) = some state) :
    state.resultOf index = some (.ok api.done) := by
  rcases ((connection toPyErr api).run_append_cons).mp ran with ⟨middle, next, _, stepped, ended⟩
  exact (connection toPyErr api).run_invariant (fun state => state.resultOf index = some (.ok api.done))
    (fun _ _ _ there stepped => resultOf_step there (step_steps stepped)) (resultOf_succeeded toPyErr stepped)
    ended

/-- The two classes give the same results in a run if and only if no upstream
`send` or `close` succeeds in it. -/
theorem results_agree_iff (conn : ConnId) {events : List (Event Error)}
    (uncancelled : forall index, .cancel index ∉ events)
    (ran : (connection toPyErr .async).run (.initial conn) events = some state) :
    ((connection toPyErr .async).run (.initial conn) events).map (State.mapResult comparable) =
        ((connection toPyErr .blocking).run (.initial conn) events).map (State.mapResult comparable) <->
      forall index, .answer index (.done (.ok ())) ∉ events := by
  constructor
  · intro alike index succeeds
    rcases List.append_of_mem succeeds with ⟨early, late, split⟩
    rw [ran] at alike
    rcases Option.map_eq_some_iff.mp alike.symm with ⟨other, ranOther, same⟩
    rw [split] at ran ranOther
    have results := congrArg (State.resultOf · index) same
    rw [State.resultOf_mapResult, State.resultOf_mapResult, resultOf_run toPyErr ran,
      resultOf_run toPyErr ranOther] at results
    exact (nomatch results)
  · intro fails
    refine classes_agree_unsuccessful toPyErr conn uncancelled ?_
    intro event among
    rcases event with _ | _ | _ | ⟨index, ⟨error | ⟨⟩⟩ | message⟩ | _
    case answer.done.ok => exact absurd among (fails index)
    all_goals rfl

end Classes

end WebSocket
end Lkrequest
