import Lkrequest.WebSocket.Contract

namespace Lkrequest
namespace WebSocket

open Foundations

/-!
# The close of the peer

An iteration step that gets the peer's Close releases the handle of the slot
before it ends.  A `recv()` that gets the same message returns it and leaves the
slot alone, so the operations after it go on as if nothing had happened.
-/

section PeerClose

variable {Error : Type} {toPyErr : Error -> PyErr} {api : Api} {conn : ConnId}
variable {state next : State Error} {event : Event Error} {index : Nat}

/-! ## What was observed -/

/-- An operation is over that got the peer's Close. -/
def Observed (log : List (Entry Error)) : Prop :=
  ∃ observer code reason result,
    .answered observer (.message (.ok (.close code reason))) ∈ log ∧ .returned observer result ∈ log

/-- A `recv()` that has returned the peer's Close. -/
def Running.recvClosed : Running -> Bool
  | ⟨.recv, .returned (.ok (.message (.close _ _)))⟩ => true
  | _ => false

def State.RecvClosed (state : State Error) : Prop :=
  ∃ running ∈ state.operations, running.recvClosed = true

/-- With this event an operation gets a handle. -/
def State.TakesHandle (state : State Error) : Event Error -> Prop
  | .go index => (∃ running ∈ state.operations[index]?, running.stage = .reading) ∧ state.slot ≠ none
  | _ => False

instance (state : State Error) (event : Event Error) : Decidable (state.TakesHandle event) :=
  match event with
  | .go index =>
      inferInstanceAs (Decidable
        ((∃ running ∈ state.operations[index]?, running.stage = .reading) ∧ state.slot ≠ none))
  | .start _ => inferInstanceAs (Decidable False)
  | .lock _ => inferInstanceAs (Decidable False)
  | .answer _ _ => inferInstanceAs (Decidable False)
  | .cancel _ => inferInstanceAs (Decidable False)

/-- After the peer's Close was observed, operations find the connection closed. -/
def CloseEnds (api : Api) (state : State Error) : Prop :=
  forall early late index handle running, state.log = early ++ .opened index handle :: late ->
    Observed early -> state.operations[index]? = some running ->
      handle = none ∧ running.stage = .returned (.error (api.refusal running.operation))

/-- No operation gets a handle after a `recv()` has returned the peer's Close. -/
def State.NoLateHandle (state : State Error) (event : Event Error) : Prop :=
  state.TakesHandle event -> ¬ state.RecvClosed

instance (state : State Error) (event : Event Error) : Decidable (state.NoLateHandle event) :=
  inferInstanceAs (Decidable (_ -> ¬ ∃ running ∈ state.operations, running.recvClosed = true))

/-- What an operation got from the slot is nothing, once the Close was observed. -/
def OpensNone (early : List (Entry Error)) (entry : Entry Error) : Prop :=
  forall index handle, entry = .opened index handle -> Observed early -> handle = none

/-! ## Who observes the close -/

/-- The call of an operation that got a Close was a `recv`, and only the
iteration releases for it. -/
theorem after_close {operation : Operation} {code : Option Nat} {reason : String} {releases : Bool}
    {result : Result}
    (after : (api.body toPyErr operation).after (.message (.ok (.close code reason))) =
      some (releases, result)) :
    releases = true ∨ operation = .recv ∧ result = .ok (.message (.close code reason)) := by
  cases api <;> cases operation <;> cases after <;> simp [rustWsToPy]

/-- A `recv()` that returned a Close got it from its call. -/
theorem close_of_after {outcome : Outcome Error} {code : Option Nat} {reason : String} {releases : Bool}
    (after : (api.body toPyErr .recv).after outcome =
      some (releases, .ok (.message (.close code reason)))) :
    outcome = .message (.ok (.close code reason)) := by
  have same : afterRecv toPyErr outcome = some (releases, .ok (.message (.close code reason))) := by
    cases api <;> exact after
  rcases outcome with result | error | message
  · exact (nomatch same)
  · exact (nomatch same)
  · cases message <;> cases same
    rfl

theorem Story.observes {body : Body Error} {stage : Stage} {entries : List (Entry Error)}
    (story : Story body index stage entries) {outcome : Outcome Error} {result : Result}
    (answered : .answered index outcome ∈ entries) (returned : .returned index result ∈ entries) :
    ∃ releases, body.after outcome = some (releases, result) ∧ stage = .returned result ∧
      (releases = true -> ∃ handle, .released index handle ∈ entries) := by
  cases story with
  | keptReturned own outcome' result' after =>
      have sameOutcome : outcome = outcome' := by simpa [begun] using answered
      have sameResult : result = result' := by simpa [begun] using returned
      rw [sameOutcome, sameResult]
      exact ⟨false, after, rfl, fun releases => Bool.noConfusion releases⟩
  | releasedReturned own outcome' result' after released =>
      have sameOutcome : outcome = outcome' := by simpa [begun] using answered
      have sameResult : result = result' := by simpa [begun] using returned
      rw [sameOutcome, sameResult]
      exact ⟨true, after, rfl, fun _ => ⟨released, by simp [begun]⟩⟩
  | _ => simp [begun] at answered returned

/-- An operation that returned anything but its refusal got it from its call. -/
theorem Story.answered_of_returned {body : Body Error} {result : Result} {entries : List (Entry Error)}
    (story : Story body index (.returned result) entries) (served : result ≠ body.absent) :
    ∃ outcome releases, body.after outcome = some (releases, result) ∧
      .answered index outcome ∈ entries ∧ .returned index result ∈ entries := by
  generalize same : Stage.returned result = stage at story
  cases story with
  | refused => exact absurd (Stage.returned.inj same) served
  | keptReturned own outcome result' after =>
      rw [← Stage.returned.inj same] at after ⊢
      exact ⟨outcome, false, after, by simp [begun]⟩
  | releasedReturned own outcome result' after released =>
      rw [← Stage.returned.inj same] at after ⊢
      exact ⟨outcome, true, after, by simp [begun]⟩
  | _ => cases same

theorem Running.recvClosed_iff (running : Running) : running.recvClosed = true <->
    ∃ code reason, running = ⟨.recv, .returned (.ok (.message (.close code reason)))⟩ := by
  constructor
  · intro closed
    unfold Running.recvClosed at closed
    split at closed
    · exact ⟨_, _, rfl⟩
    · exact Bool.noConfusion closed
  · rintro ⟨code, reason, rfl⟩
    rfl

/-- Whoever observed the Close is an iteration step, which has released, or a `recv()`. -/
theorem Sound.observed (sound : Sound (api.body toPyErr) conn state) (observed : Observed state.log) :
    state.slot = none ∨ state.RecvClosed := by
  rcases observed with ⟨observer, code, reason, result, answered, returned⟩
  have inRange := sound.told.known _ answered observer rfl
  have found := List.getElem?_eq_getElem inRange
  have story := sound.story found
  rcases story.observes (mem_slice.mpr ⟨answered, rfl⟩) (mem_slice.mpr ⟨returned, rfl⟩) with
    ⟨releases, after, stage, released⟩
  rcases after_close after with isTrue | ⟨operation, value⟩
  · rcases released isTrue with ⟨handle, among⟩
    exact Or.inl (sound.slot_of_released (mem_slice.mp among).1)
  · refine Or.inr ⟨state.operations[observer], List.getElem_mem inRange, ?_⟩
    generalize state.operations[observer] = running at operation stage
    rcases running with ⟨kind, stage'⟩
    cases operation
    cases stage.trans (congrArg Stage.returned value)
    rfl

theorem Sound.observed_of_recv (sound : Sound (api.body toPyErr) conn state) (recvClosed : state.RecvClosed) :
    Observed state.log := by
  rcases recvClosed with ⟨running, among, closed⟩
  rcases List.mem_iff_getElem?.mp among with ⟨observer, found⟩
  rcases running.recvClosed_iff.mp closed with ⟨code, reason, rfl⟩
  have served : (.ok (.message (.close code reason)) : Result) ≠ (api.body toPyErr .recv).absent := by
    rw [body_absent]
    exact nofun
  rcases (sound.story found).answered_of_returned served with ⟨outcome, releases, after, answered, returned⟩
  rw [close_of_after after] at answered
  exact ⟨observer, code, reason, _, (mem_slice.mp answered).1, (mem_slice.mp returned).1⟩

/-! ## The steps that take a handle -/

theorem opensNone_step {bodies : Operation -> Body Error} (opens : Foundations.Each OpensNone state.log)
    (quiet : state.TakesHandle event -> ¬ Observed state.log)
    (steps : Steps bodies api state event next) : Foundations.Each OpensNone next.log := by
  have unopened : forall {early : List (Entry Error)} {entry : Entry Error}, entry.quiet = true ->
      OpensNone early entry := by
    intro early entry quiet index handle same
    subst same
    exact (nomatch quiet)
  rcases steps.logs with ⟨entries, logged, logs⟩
  rw [logged]
  cases logs with
  | @opened index running later found stands silent =>
      rw [List.append_cons]
      apply Foundations.Each.snoc
      · apply opens.snoc
        intro each handle same observed
        by_contra taken
        have takes : state.TakesHandle (.go index) :=
          ⟨⟨running, found, stands⟩, fun none => taken ((Entry.opened.inj same).2.symm.trans none)⟩
        exact quiet takes observed
      · exact unopened silent
  | released index =>
      apply opens.snoc
      intro each handle same
      exact (nomatch same)
  | quiet silent => exact opens.append (fun entry among early => unopened (silent entry among))

/-- What `CloseEnds` is kept by. -/
structure Ends (toPyErr : Error -> PyErr) (api : Api) (conn : ConnId) (state : State Error) : Prop where
  sound : Sound (api.body toPyErr) conn state
  opens : Foundations.Each OpensNone state.log

theorem Ends.closeEnds (ends : Ends toPyErr api conn state) : CloseEnds api state := by
  intro early late index handle running split observed found
  have nothing := ends.opens early _ late split index handle rfl observed
  refine ⟨nothing, ?_⟩
  have opened : .opened index none ∈ state.log := by
    rw [split, ← nothing]
    exact List.mem_append_right _ List.mem_cons_self
  rw [← body_absent toPyErr]
  exact (ends.sound.refused found opened).1

theorem Ends.step (ends : Ends toPyErr api conn state) (fine : state.NoLateHandle event)
    (stepped : state.step (api.body toPyErr) api event = some next) : Ends toPyErr api conn next := by
  refine ⟨ends.sound.step stepped, opensNone_step ends.opens ?_ (step_steps stepped)⟩
  intro takes observed
  rcases ends.sound.observed observed with empty | recvClosed
  · cases event with
    | go index => exact takes.2 empty
    | _ => exact takes
  · exact fine takes recvClosed

/-- A handle that is got after a `recv()` returned the Close belongs to an
operation that goes on. -/
theorem Ends.breaks (ends : Ends toPyErr api conn state) (late : ¬ state.NoLateHandle event)
    (stepped : state.step (api.body toPyErr) api event = some next) : ¬ CloseEnds api next := by
  rcases Classical.not_imp.mp late with ⟨takes, recvClosed⟩
  rw [not_not] at recvClosed
  cases event with
  | go index => ?_
  | _ => exact absurd takes id
  rcases takes with ⟨⟨⟨operation, stage⟩, found, reading⟩, there⟩
  rcases Option.ne_none_iff_exists'.mp there with ⟨own, slot⟩
  cases reading
  rw [step_go found] at stepped
  have reads : next = state.read (api.body toPyErr) index ⟨operation, .reading⟩ :=
    (Option.some.inj stepped).symm
  unfold State.read at reads
  rw [slot] at reads
  intro closes
  have logged : next.log =
      state.log ++ .opened index (some own) :: [.called index own (api.body toPyErr operation).call] := by
    rw [reads]
    rfl
  have stands : next.operations[index]? = some ⟨operation, .calling own⟩ := by
    rw [reads]
    exact stands_after found rfl
  have nothing := closes state.log _ index (some own) _ logged
    (ends.sound.observed_of_recv recvClosed) stands
  exact (nomatch nothing.1)

/-! ## The contract -/

/-- In a run the peer's Close ends the connection, in every state that is
reached, if and only if no operation gets a handle after a `recv()` has returned
the Close. -/
theorem peer_close_ends_iff {events : List (Event Error)}
    (ran : (connection toPyErr api).run (.initial conn) events = some state) :
    (connection toPyErr api).Along State.NoLateHandle (.initial conn) events <->
      forall early late middle, events = early ++ late ->
        (connection toPyErr api).run (.initial conn) early = some middle -> CloseEnds api middle :=
  (connection toPyErr api).along_iff_holds State.NoLateHandle (Ends toPyErr api conn) (CloseEnds api)
    (fun _ ends => ends.closeEnds)
    (fun _ _ _ ends fine stepped => ends.step fine stepped)
    (fun _ _ _ ends fails stepped => ends.breaks fails stepped)
    ⟨sound_initial conn, Foundations.each_nil⟩ ran

end PeerClose

/-- The peer closes while a `recv()` waits, and then something is sent. -/
def sendAfterClose : List (Event String) :=
  [.start .recv, .lock 0, .go 0, .answer 0 (.message (.ok (.close (some 1000) "bye"))), .go 0,
    .start (.sendText "late"), .lock 1, .go 1, .answer 1 (.done (.ok ())), .go 1]

/-- The text is sent on the connection that the peer has closed. -/
theorem send_after_recv_close_goes_on :
    ∃ state, (connection PyErr.runtimeError .async).run (.initial 7) sendAfterClose = some state ∧
      state.operations = [⟨.recv, .returned (.ok (.message (.close (some 1000) "bye")))⟩,
        ⟨.sendText "late", .returned (.ok .emptyTuple)⟩] ∧
      ¬ CloseEnds .async state := by
  have ran : ((connection PyErr.runtimeError .async).run (.initial 7) sendAfterClose).map (fun state =>
      (state.operations, state.log)) =
        some ([⟨.recv, .returned (.ok (.message (.close (some 1000) "bye")))⟩,
          ⟨.sendText "late", .returned (.ok .emptyTuple)⟩],
          [.opened 0 (some 7), .called 0 7 .recv,
            .answered 0 (.message (.ok (.close (some 1000) "bye"))),
            .returned 0 (.ok (.message (.close (some 1000) "bye")))] ++
          .opened 1 (some 7) :: [.called 1 7 (.sendText "late"), .answered 1 (.done (.ok ())),
            .returned 1 (.ok .emptyTuple)]) := by
    decide +kernel
  rcases Option.map_eq_some_iff.mp ran with ⟨state, ran, facts⟩
  rcases Prod.mk.inj facts with ⟨operations, log⟩
  refine ⟨state, ran, operations, fun closes => ?_⟩
  have observed : Observed ([.opened 0 (some 7), .called 0 7 .recv,
      .answered 0 (.message (.ok (.close (some 1000) "bye"))),
      .returned 0 (.ok (.message (.close (some 1000) "bye")))] : List (Entry String)) :=
    ⟨0, some 1000, "bye", .ok (.message (.close (some 1000) "bye")), by simp, by simp⟩
  have found : state.operations[1]? = some ⟨.sendText "late", .returned (.ok .emptyTuple)⟩ := by
    rw [operations]
    rfl
  exact (nomatch (closes _ _ 1 (some 7) _ log observed found).1)

/-- The peer closes during an iteration, and a `recv()` comes after it. -/
def recvAfterIteration : List (Event String) :=
  [.start .next, .lock 0, .go 0, .answer 0 (.message (.ok (.close none ""))), .lock 0, .go 0, .go 0, .go 0,
    .start .recv, .lock 1, .go 1]

/-- The close of an iteration ends the connection in every state of this run. -/
theorem iteration_close_ends :
    ∃ state, (connection PyErr.runtimeError .blocking).run (.initial 7) recvAfterIteration = some state ∧
      state.operations = [⟨.next, .returned (.error PyBlockingWsConnection.stop)⟩,
        ⟨.recv, .returned (.error closed)⟩] ∧
      forall early late middle, recvAfterIteration = early ++ late ->
        (connection PyErr.runtimeError .blocking).run (.initial 7) early = some middle ->
          CloseEnds .blocking middle := by
  have ran : ((connection PyErr.runtimeError .blocking).run (.initial 7) recvAfterIteration).map
      State.operations =
        some [⟨.next, .returned (.error PyBlockingWsConnection.stop)⟩, ⟨.recv, .returned (.error closed)⟩] := by
    decide +kernel
  rcases Option.map_eq_some_iff.mp ran with ⟨state, ran, operations⟩
  refine ⟨state, ran, operations, (peer_close_ends_iff ran).mp ?_⟩
  decide +kernel

end WebSocket
end Lkrequest
