import Lkrequest.Bridge.Delivery
import Lkrequest.Foundations.Coupling
import Lkrequest.Foundations.Tasks
import Lkrequest.Session.Abandonment

namespace Lkrequest
namespace Session
namespace InFlight

open Foundations

/-!
# Requests in flight

`make_request` hands `closing.guard(execute_request(..))` to `future_into_py`, and
`send_streaming`, `ws_connect` and the others do the same with their work, so the
future that `Closing::guard` makes is the inner future of a tracked crossing.  It
is polled while the wrapper is, its result is what the wrapper returns, and it is
dropped with the wrapper.  When the work panics, unwinding drops both.

This module couples the two machines in that way, for any number of sessions,
requests, other crossings and drains.
-/

/-- The crossing of each guarded future. -/
abbrev World := Coupled Bridge.State (Guards PyObject) (List Bridge.CrossingId)

abbrev Event := Joint Bridge.Event (GuardEvent PyObject)

/-! ## The coupling -/

/-- The wrapper comes to its end, and the inner future with it. -/
def endsInner : Bridge.Action -> Bool
  | .complete _ | .panic | .abandon | .refuse => true
  | _ => false

/-- The actions that drop the wrapper unfinished.  A poll that panics counts as
none that was begun. -/
def dropsInner : Bridge.Action -> Bool
  | .abandon | .refuse | .panic => true
  | _ => false

/-- The wrapper around a guarded future is being polled. -/
def isPolled (world : World) (index : Nat) : Bool :=
  match world.link[index]? with
  | none => false
  | some id =>
      match world.first.crossings[id]? with
      | none => false
      | some crossing =>
          match crossing.stage with
          | .polling => true
          | _ => false

/-- The channel of a guarded future would answer. -/
def answers (guards : Guards PyObject) (index : Nat) : Bool :=
  match guards.guards[index]? with
  | none => false
  | some guard =>
      match guards.sessions[guard.session]? with
      | none => false
      | some shared => shared.channel.waitedFor

/-- The wrapper returns what the guarded future resolves with, in one step; and
nothing else makes the wrapper of a request end or its future move. -/
def allows (world : World) : Event -> Bool
  | .first (.act id action) => !(world.link.contains id && endsInner action)
  | .first _ => true
  | .second (.poll index _) => isPolled world index
  | .second (.pollWork index none) => isPolled world index
  | .second (.pollClosed index) => isPolled world index && !answers world.second index
  | .second (.pollWork _ (some _)) => false
  | .second (.closing _) => false
  | .second (.drop _) => false
  | .second _ => true
  | .both (.submit origin _) (.closing _) => decide (origin = .tracked)
  | .both (.act id (.complete result)) (.pollWork index answer) =>
      decide (world.link[index]? = some id ∧ answer = some result)
  | .both (.act id (.complete result)) (.pollClosed index) =>
      decide (world.link[index]? = some id ∧ result = .error closedInFlight) && answers world.second index
  | .both (.act id action) (.drop index) => decide (world.link[index]? = some id) && dropsInner action
  | .both _ _ => false

/-- The steps that are taken together. -/
inductive Meets (world : World) : Bridge.Event -> GuardEvent PyObject -> Prop
  | request (site : Bridge.Site) (session : SessionId) :
      Meets world (.submit .tracked site) (.closing session)
  | returned {id : Bridge.CrossingId} {index : Nat} (result : Except PyErr PyObject)
      (linked : world.link[index]? = some id) :
      Meets world (.act id (.complete result)) (.pollWork index (some result))
  | closed {id : Bridge.CrossingId} {index : Nat} (linked : world.link[index]? = some id)
      (answered : answers world.second index = true) :
      Meets world (.act id (.complete (.error closedInFlight))) (.pollClosed index)
  | dropped {id : Bridge.CrossingId} {index : Nat} {action : Bridge.Action}
      (linked : world.link[index]? = some id) (drops : dropsInner action = true) :
      Meets world (.act id action) (.drop index)

theorem Meets.notClosing {world : World} {id : Bridge.CrossingId} {action : Bridge.Action}
    {polled : GuardEvent PyObject} (meets : Meets world (.act id action) polled) (session : SessionId) :
    polled ≠ .closing session := by
  rintro rfl
  cases meets

theorem allows_both {world : World} {one : Bridge.Event} {other : GuardEvent PyObject}
    (allowed : allows world (.both one other) = true) : Meets world one other := by
  unfold allows at allowed
  split at allowed <;> rename_i same <;> cases same
  · cases of_decide_eq_true allowed
    exact .request _ _
  · have both := of_decide_eq_true allowed
    cases both.2
    exact .returned _ both.1
  · rcases (Bool.and_eq_true_iff).mp allowed with ⟨both, answered⟩
    have both := of_decide_eq_true both
    cases both.2
    exact .closed both.1 answered
  · rcases (Bool.and_eq_true_iff).mp allowed with ⟨linked, drops⟩
    exact .dropped (of_decide_eq_true linked) drops
  · cases allowed

theorem allows_first {world : World} {id : Bridge.CrossingId} {action : Bridge.Action}
    (allowed : allows world (.first (.act id action)) = true) (among : id ∈ world.link) :
    endsInner action = false := by
  have apart : (!(world.link.contains id && endsInner action)) = true := allowed
  rw [List.contains_iff_mem.mpr among] at apart
  cases ends : endsInner action with
  | true =>
      rw [ends] at apart
      cases apart
  | false => rfl

/-- `make_request` takes the next crossing for the future that it makes. -/
def relink (world : World) : Event -> List Bridge.CrossingId
  | .both (.submit _ _) (.closing _) => world.link ++ [world.first.crossings.length]
  | _ => world.link

def coupling : Coupling Bridge.State (Guards PyObject) (List Bridge.CrossingId) Bridge.Event (GuardEvent PyObject) where
  one := Bridge.machine
  other := guardMachine PyObject
  allows := allows
  relink := relink

def initial : World := ⟨.initial, .initial, []⟩

/-- What happens in one step. -/
inductive Happens (world : World) : Event -> World -> Prop
  | bridge {moved : Bridge.Event} {first : Bridge.State} (allowed : allows world (.first moved) = true)
      (stepped : Bridge.step world.first moved = some first) :
      Happens world (.first moved) ⟨first, world.second, world.link⟩
  | guards {polled : GuardEvent PyObject} {second : Guards PyObject} (allowed : allows world (.second polled) = true)
      (stepped : guardStep world.second polled = some second) :
      Happens world (.second polled) ⟨world.first, second, world.link⟩
  | request {site : Bridge.Site} {session : SessionId} {first : Bridge.State} {second : Guards PyObject}
      (stepped : Bridge.step world.first (.submit .tracked site) = some first)
      (too : guardStep world.second (.closing session) = some second) :
      Happens world (.both (.submit .tracked site) (.closing session))
        ⟨first, second, world.link ++ [world.first.crossings.length]⟩
  | together {id : Bridge.CrossingId} {action : Bridge.Action} {polled : GuardEvent PyObject}
      {first : Bridge.State} {second : Guards PyObject} (meets : Meets world (.act id action) polled)
      (stepped : Bridge.step world.first (.act id action) = some first)
      (too : guardStep world.second polled = some second) :
      Happens world (.both (.act id action) polled) ⟨first, second, world.link⟩

theorem step_happens {world next : World} {event : Event} (stepped : coupling.step world event = some next) :
    Happens world event next := by
  cases (coupling.step_eq_some).mp stepped with
  | first allowed moved => exact .bridge allowed moved
  | second allowed moved => exact .guards allowed moved
  | both allowed moved too =>
      cases allows_both allowed with
      | request site session => exact .request moved too
      | returned result linked => exact .together (.returned result linked) moved too
      | closed linked answered => exact .together (.closed linked answered) moved too
      | dropped linked drops => exact .together (.dropped linked drops) moved too

/-! ## Each request and its future -/

/-- What a future leaves for its crossing to deliver. -/
def outcome : GuardStage PyObject -> Option Bridge.Payload
  | .resolved _ result => some (.returned result)
  | _ => none

/-- A crossing and the guarded future inside it. -/
structure Paired (crossing : Bridge.Crossing) (guard : Guard PyObject) : Prop where
  origin : crossing.origin = .tracked
  alive : guard.stage.isLive = !crossing.stage.beyondPolling
  payload : crossing.payload = outcome guard.stage ∨
    (guard.stage = .dropped ∧ crossing.payload = some .rustPanic)

/-- While the future is alive its crossing has nothing to deliver. -/
theorem Paired.empty {crossing : Bridge.Crossing} {guard : Guard PyObject} (paired : Paired crossing guard)
    (live : guard.stage.isLive = true) : crossing.payload = none := by
  rcases paired.payload with same | ⟨dropped, _⟩
  · rw [same]
    cases stage : guard.stage <;> first | rfl | (rw [stage] at live; cases live)
  · rw [dropped] at live
    cases live

structure Linked (world : World) : Prop where
  length : world.link.length = world.second.guards.length
  nodup : world.link.Nodup
  paired : forall (index : Nat) id, world.link[index]? = some id ->
    ∃ crossing guard, world.first.crossings[id]? = some crossing ∧
      world.second.guards[index]? = some guard ∧ Paired crossing guard

theorem linked_initial : Linked initial where
  length := rfl
  nodup := List.nodup_nil
  paired := by
    intro index id absurd
    cases absurd

theorem outcome_live {stage : GuardStage PyObject} (live : stage.isLive = true) : outcome stage = none := by
  cases stage <;> first | rfl | cases live

section Linked

theorem beyond_of_gentle {count : Int} {submitted : Nat} {eventLoop : Bridge.EventLoop} {id : Bridge.CrossingId}
    {crossing : Bridge.Crossing} {action : Bridge.Action} {effect : Bridge.Effect}
    (acts : Bridge.Acts count submitted eventLoop id crossing action effect)
    (request : crossing.origin = .tracked) (gentle : endsInner action = false) :
    effect.crossing.stage.beyondPolling = crossing.stage.beyondPolling := by
  cases acts with
  | complete | panic | abandon | refuse | refuseProxied => cases gentle
  | drainIdle stage origin zero => cases origin.symm.trans request
  | drainTimeout stage origin => cases origin.symm.trans request
  | cancel pending => rfl
  | freeProxy stage live => rfl
  | buildProxy stage | enter stage | skip stage | commit stage | take stage
  | isClosedRaised error guard nested below stage | isClosed guard nested below stage
  | enqueueRaised error guard nested stage | enqueue guard nested payload stage held loopOpen
  | retNested guard inner nested below result stage | ret guard below result stage =>
      rw [stage]
      rfl

theorem payload_of_early {past : List Bridge.Event} {state : Bridge.State} {id : Bridge.CrossingId}
    {crossing : Bridge.Crossing} (ran : Bridge.machine.run .initial past = some state)
    (found : state.crossings[id]? = some crossing) (early : crossing.stage.beyondPolling = false) :
    crossing.payload = none := by
  have progress := Bridge.run_progress ran found
  unfold Bridge.Crossing.Progress at progress
  unfold Bridge.Stage.beyondPolling at early
  split at early
  · rename_i stage
    rw [stage] at progress
    exact progress.1
  · rename_i stage
    rw [stage] at progress
    exact progress.1
  · rename_i stage
    rw [stage] at progress
    exact progress.1
  · cases early

variable {state next : Bridge.State} {event : Bridge.Event} {past : List Bridge.Event}
variable {crossing : Bridge.Crossing} {guard : Guard PyObject} {id : Bridge.CrossingId}

/-- An event that does not end the wrapper leaves the crossing paired. -/
theorem Paired.bridgeStep (paired : Paired crossing guard) (ran : Bridge.machine.run .initial past = some state)
    (stepped : Bridge.step state event = some next) (found : state.crossings[id]? = some crossing)
    (gentle : forall action, event = .act id action -> endsInner action = false) :
    ∃ new, next.crossings[id]? = some new ∧ Paired new guard := by
  rcases Bridge.step_later ran stepped found with ⟨new, found', later⟩
  have same : new.stage.beyondPolling = crossing.stage.beyondPolling := by
    cases Bridge.step_becomes stepped found' with
    | submitted origin site loop under _ _ last =>
        exact absurd (List.getElem?_eq_some_iff.mp found).1 (last ▸ lt_irrefl _)
    | kept _ old =>
        cases found.symm.trans old
        rfl
    | acted _ action effect old event_eq acts _ =>
        cases found.symm.trans old
        exact beyond_of_gentle acts paired.origin (gentle action event_eq)
    | emptied _ _ _ _ _ _ old _ _ _ =>
        cases found.symm.trans old
        rfl
    | forwarded _ _ _ _ _ _ old _ stage _ =>
        cases found.symm.trans old
        rw [stage]
        rfl
    | ran _ loop callback rest _ old _ _ _ =>
        cases found.symm.trans old
        rfl
  refine ⟨new, found', later.origin.trans paired.origin, same ▸ paired.alive, ?_⟩
  cases early : crossing.stage.beyondPolling with
  | true => exact (later.beyond early).2 ▸ paired.payload
  | false =>
      have live : guard.stage.isLive = true := by rw [paired.alive, early]; rfl
      rw [payload_of_early (Bridge.run_step ran stepped) found' (same.trans early), outcome_live live]
      exact Or.inl rfl

/-- The events that resolve or drop the future at this index. -/
def ends (index : Nat) (guards : Guards PyObject) : GuardEvent PyObject -> Prop
  | .pollWork other (some _) => other = index
  | .pollClosed other => other = index ∧ answers guards index = true
  | .drop other => other = index
  | _ => False

theorem answers_eq {guards : Guards PyObject} {index : Nat} {shared : Shared}
    (found : guards.guards[index]? = some guard) (session : guards.sessions[guard.session]? = some shared) :
    answers guards index = shared.channel.waitedFor := by
  unfold answers
  rw [found]
  dsimp only
  rw [session]

/-- A future that is not ended stays as alive as it is. -/
theorem Paired.guardStep {guards after : Guards PyObject} {index : Nat} {polled : GuardEvent PyObject}
    (paired : Paired crossing guard) (stepped : guardStep guards polled = some after)
    (found : guards.guards[index]? = some guard) (gentle : ¬ ends index guards polled) :
    ∃ new, after.guards[index]? = some new ∧ Paired crossing new := by
  rcases Guards.guard_kept stepped found with ⟨new, found', _, same | moved⟩
  · exact ⟨new, found', paired.origin, same ▸ paired.alive, same ▸ paired.payload⟩
  · have both : guard.stage.isLive = true ∧ new.stage.isLive = true := by
      generalize new.stage = stage at moved
      cases moved with
      | poll order idle => exact ⟨idle.isLive, rfl⟩
      | workReady result remaining stage => exact absurd rfl gentle
      | workPending remaining stage => exact ⟨by rw [stage]; rfl, GuardStage.isLive_next remaining⟩
      | closedReady shared remaining session stage ready =>
          exact absurd ⟨rfl, (answers_eq found session).trans ready⟩ gentle
      | closedPending shared remaining session stage waiting =>
          exact ⟨by rw [stage]; rfl, GuardStage.isLive_next remaining⟩
      | drop idle => exact absurd rfl gentle
    refine ⟨new, found', paired.origin, ?_, ?_⟩
    · rw [both.2, ← both.1, paired.alive]
    · rw [paired.empty both.1, outcome_live both.2]
      exact Or.inl rfl

/-! ### Every step -/

variable {world : World}

theorem allows_second {polled : GuardEvent PyObject} (allowed : allows world (.second polled) = true) :
    (forall session, polled ≠ .closing session) ∧ forall index, ¬ ends index world.second polled := by
  cases polled with
  | closing session => cases allowed
  | drop index => cases allowed
  | pollWork index result =>
      cases result with
      | some result => cases allowed
      | none => exact ⟨fun _ => nofun, fun _ => id⟩
  | pollClosed index =>
      refine ⟨fun _ => nofun, ?_⟩
      rintro _ ⟨rfl, answered⟩
      rcases (Bool.and_eq_true_iff).mp allowed with ⟨_, silent⟩
      rw [answered] at silent
      cases silent
  | session | cloneHandle | dropHandle | ensureOpen | poll | close =>
      exact ⟨fun _ => nofun, fun _ => id⟩

/-- The wrapper of one request ends together with its future. -/
theorem Linked.ended (linked : Linked world) (ran : Bridge.machine.run .initial past = some world.first)
    {index : Nat} {action : Bridge.Action} {polled : GuardEvent PyObject} {first : Bridge.State}
    {second : Guards PyObject} (own : world.link[index]? = some id)
    (stepped : Bridge.step world.first (.act id action) = some first)
    (too : guardStep world.second polled = some second)
    (notClosing : forall session, polled ≠ .closing session)
    (only : forall other, ends other world.second polled -> other = index)
    (pair : forall crossing guard, world.first.crossings[id]? = some crossing ->
      world.second.guards[index]? = some guard -> Paired crossing guard ->
        ∃ crossing guard, first.crossings[id]? = some crossing ∧ second.guards[index]? = some guard ∧
          Paired crossing guard) : Linked ⟨first, second, world.link⟩ where
  length := linked.length.trans (Guards.length_kept too notClosing).symm
  nodup := linked.nodup
  paired := by
    intro other id' linkedTo
    rcases linked.paired other id' linkedTo with ⟨crossing, guard, found, foundGuard, paired⟩
    by_cases here : other = index
    · subst here
      cases own.symm.trans linkedTo
      exact pair crossing guard found foundGuard paired
    · have apart : id' ≠ id := by
        rintro rfl
        have inside := (List.getElem?_eq_some_iff.mp linkedTo).1
        exact here ((List.getElem?_inj inside linked.nodup).mp (linkedTo.trans own.symm))
      rcases paired.bridgeStep ran stepped found (fun _ same => absurd (by cases same; rfl) apart) with
        ⟨crossing', found', paired'⟩
      rcases paired'.guardStep too foundGuard (fun ended => here (only other ended)) with ⟨guard', foundGuard', paired''⟩
      exact ⟨crossing', guard', found', foundGuard', paired''⟩

/-- A new request is the next crossing, and its future the next guarded one. -/
theorem Linked.request (linked : Linked world) (ran : Bridge.machine.run .initial past = some world.first)
    {site : Bridge.Site} {session : SessionId} {first : Bridge.State} {second : Guards PyObject}
    (stepped : Bridge.step world.first (.submit .tracked site) = some first)
    (too : guardStep world.second (.closing session) = some second) :
    Linked ⟨first, second, world.link ++ [world.first.crossings.length]⟩ := by
  have guards := Guards.closing_guards too
  have crossings : ∃ loop under, first.crossings = world.first.crossings ++
      [.submitted .tracked loop under (some world.first.registered)] := by
    rcases Bridge.step_submit stepped with ⟨loop, under, _, ⟨_, rfl⟩ | ⟨untracked, _⟩⟩
    · exact ⟨loop, under, rfl⟩
    · exact absurd rfl untracked
  rcases crossings with ⟨loop, under, crossings⟩
  have below : ∀ id ∈ world.link, id < world.first.crossings.length := by
    intro id among
    rcases List.getElem?_of_mem among with ⟨index, linkedTo⟩
    rcases linked.paired index id linkedTo with ⟨_, _, found, _⟩
    exact (List.getElem?_eq_some_iff.mp found).1
  refine ⟨?_, ?_, ?_⟩
  · change (world.link ++ _).length = second.guards.length
    rw [guards, List.length_append, List.length_append, linked.length]
    rfl
  · refine List.nodup_append.mpr ⟨linked.nodup, List.nodup_singleton _, ?_⟩
    intro id among last new
    rw [List.mem_singleton.mp new]
    exact Nat.ne_of_lt (below id among)
  · intro index id linkedTo
    rcases started_cases linkedTo with old | ⟨rfl, rfl⟩
    · rcases linked.paired index id old with ⟨crossing, guard, found, foundGuard, paired⟩
      rcases paired.bridgeStep ran stepped found (fun _ => nofun) with ⟨crossing', found', paired'⟩
      refine ⟨crossing', guard, found', ?_, paired'⟩
      rw [guards, List.getElem?_append_left (List.getElem?_eq_some_iff.mp foundGuard).1]
      exact foundGuard
    · refine ⟨.submitted .tracked loop under (some world.first.registered), ⟨session, .captured⟩, ?_, ?_, rfl, rfl,
        Or.inl rfl⟩
      · rw [crossings, List.getElem?_concat_length]
      · rw [guards, linked.length, List.getElem?_concat_length]

/-- What a future and its guarded work do at once keeps them a pair. -/
theorem Linked.together (linked : Linked world) (ran : Bridge.machine.run .initial past = some world.first)
    {action : Bridge.Action} {polled : GuardEvent PyObject} {first : Bridge.State} {second : Guards PyObject}
    (meets : Meets world (.act id action) polled)
    (stepped : Bridge.step world.first (.act id action) = some first)
    (too : guardStep world.second polled = some second) : Linked ⟨first, second, world.link⟩ := by
  cases meets with
  | @returned id index result own =>
      refine linked.ended ran own stepped too (fun _ => nofun) (fun other ended => ended.symm) ?_
      intro crossing guard found foundGuard paired
      rcases Bridge.step_act stepped with ⟨_, effect, there, acts, rfl⟩
      cases found.symm.trans there
      cases guardStep_steps too with
      | workReady _ _ _ shared remaining held session stage =>
          cases acts with
          | complete _ polling origin =>
              exact ⟨_, _, Bridge.State.setCrossing_same world.first found _,
                List.getElem?_set_self (List.getElem?_eq_some_iff.mp held).1, paired.origin, rfl, Or.inl rfl⟩
  | @closed id index own answered =>
      refine linked.ended ran own stepped too (fun _ => nofun) (fun other ended => ended.1.symm) ?_
      intro crossing guard found foundGuard paired
      rcases Bridge.step_act stepped with ⟨_, effect, there, acts, rfl⟩
      cases found.symm.trans there
      cases guardStep_steps too with
      | closedReady _ _ shared remaining held session stage ready =>
          cases acts with
          | complete _ polling origin =>
              exact ⟨_, _, Bridge.State.setCrossing_same world.first found _,
                List.getElem?_set_self (List.getElem?_eq_some_iff.mp held).1, paired.origin, rfl, Or.inl rfl⟩
      | closedPending _ _ shared remaining held session stage waiting =>
          exact absurd ((answers_eq held session).symm.trans answered) waiting
  | @dropped id index action own drops =>
      refine linked.ended ran own stepped too (fun _ => nofun) (fun other ended => ended.symm) ?_
      intro crossing guard found foundGuard paired
      rcases Bridge.step_act stepped with ⟨_, effect, there, acts, rfl⟩
      cases found.symm.trans there
      cases guardStep_steps too with
      | drop _ _ shared held session idle =>
          cases foundGuard.symm.trans held
          have empty := paired.empty idle.isLive
          refine ⟨effect.crossing, _, Bridge.State.setCrossing_same world.first found _,
            List.getElem?_set_self (List.getElem?_eq_some_iff.mp held).1, ?_⟩
          cases acts with
          | abandon | refuse | refuseProxied => exact ⟨paired.origin, rfl, Or.inl empty⟩
          | panic => exact ⟨paired.origin, rfl, Or.inr ⟨rfl, rfl⟩⟩
          | _ => cases drops

theorem Linked.step (linked : Linked world) (ran : Bridge.machine.run .initial past = some world.first)
    {next : World} {event : Event} (happens : Happens world event next) : Linked next := by
  cases happens with
  | @bridge event first allowed stepped =>
      refine ⟨linked.length, linked.nodup, ?_⟩
      intro index id linkedTo
      rcases linked.paired index id linkedTo with ⟨crossing, guard, found, foundGuard, paired⟩
      have gentle : forall action, event = .act id action -> endsInner action = false := by
        rintro action rfl
        exact allows_first allowed (List.mem_of_getElem? linkedTo)
      rcases paired.bridgeStep ran stepped found gentle with ⟨crossing', found', paired'⟩
      exact ⟨crossing', guard, found', foundGuard, paired'⟩
  | @guards polled second allowed stepped =>
      rcases allows_second allowed with ⟨notClosing, gentle⟩
      refine ⟨linked.length.trans (Guards.length_kept stepped notClosing).symm, linked.nodup, ?_⟩
      intro index id linkedTo
      rcases linked.paired index id linkedTo with ⟨crossing, guard, found, foundGuard, paired⟩
      rcases paired.guardStep stepped foundGuard (gentle index) with ⟨guard', foundGuard', paired'⟩
      exact ⟨crossing, guard', found, foundGuard', paired'⟩
  | request stepped too => exact linked.request ran stepped too
  | together meets stepped too => exact linked.together ran meets stepped too

theorem run_linked {events : List Event} (ran : coupling.machine.run initial events = some world) : Linked world := by
  refine coupling.machine.run_invariant_reached Linked
    (fun early state event next before linked stepped => ?_) linked_initial ran
  exact linked.step (Coupling.run_first before) (step_happens stepped)

end Linked

/-! ## From the guard to the caller -/

theorem payload_of_done {past : List Bridge.Event} {state : Bridge.State} {id : Bridge.CrossingId}
    {crossing : Bridge.Crossing} (ran : Bridge.machine.run .initial past = some state)
    (found : state.crossings[id]? = some crossing) {payload : Bridge.Payload}
    (done : crossing.future = .done payload) : crossing.payload = some payload := by
  have logged := Bridge.run_logged ran
  have delivered := logged.done id crossing payload found done
  rcases logged.known crossing.loop _ (Bridge.EventLoop.mem_log_of_ran delivered) with ⟨same, there, _, held, _⟩
  cases found.symm.trans there
  exact held

/-- The future resolved with what its work returned at a poll, or because its
session is closed. -/
def Decided (events : List Event) (guards : Guards PyObject) (index : Nat) (guard : Guard PyObject)
    (result : Except PyErr PyObject) : Prop :=
  (guard.stage = .resolved .work result ∧ .pollWork index (some result) ∈ events.filterMap Joint.onSecond) ∨
    (guard.stage = .resolved .closed result ∧ result = .error closedInFlight ∧ guards.IsClosed guard.session)

/-- The session is closed before the first poll of its request. -/
def closedEarly : List Event :=
  [.second .session, .both (.submit .tracked (.running 0)) (.closing 0), .first (.act 0 .buildProxy),
    .first (.act 0 .enter), .second (.close 0), .second (.poll 0 .closedFirst),
    .both (.act 0 (.complete (.error closedInFlight))) (.pollClosed 0), .first (.act 0 .commit),
    .first (.act 0 .take), .first (.act 0 (.isClosed none)), .first (.act 0 (.enqueue none)), .first (.act 0 .ret),
    .first (.runCallback 0)]

end InFlight
end Session
end Lkrequest
